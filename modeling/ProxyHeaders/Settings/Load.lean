import ProxyHeaders.Data.Json
import ProxyHeaders.Files.Disk
import ProxyHeaders.Settings.Data
import ProxyHeaders.Text.Case
import ProxyHeaders.Text.Identifier

/-!
Settings from a file and from what a caller says. What the caller says goes before the file, and
the file before the defaults; keys that are no settings are kept together as custom ones.
-/
namespace ProxyHeaders.Settings

inductive Problem where
  | indentSize (value : Value)
  | noAllowedSpaces
  | placeholderBase (value : Value)
  | obfuscateMacro (value : Value)
  | noCombinedFileName

def Problem.message : Problem → String
  | .indentSize value => "Invalid indent_size: " ++ value.display
  | .noAllowedSpaces => "allowed_namespaces must not be empty"
  | .placeholderBase value => "Invalid placeholder_base: " ++ value.literal
  | .obfuscateMacro value => "Invalid obfuscate_macro: " ++ value.literal
  | .noCombinedFileName => "combined_file_name must not be empty"

inductive Refusal where
  | noFile (path : Files.Path)
  | wrongSuffix (path : Files.Path)
  | unreadable (path : Files.Path) (failure : Files.Failure)
  | malformed (path : Files.Path)
  | notRecord (path : Files.Path)
  | unsound (problems : List Problem)

def Refusal.message : Refusal → String
  | .noFile path => "Configuration file not found: " ++ path.display
  | .wrongSuffix path => "Configuration file must be JSON: " ++ path.display
  | .unreadable path failure =>
    "Failed to load configuration file " ++ path.display ++ ": " ++ failure.message
  | .malformed path => "Invalid JSON in configuration file " ++ path.display
  | .notRecord path => "Configuration file must contain a JSON object: " ++ path.display
  | .unsound problems => "; ".intercalate (problems.map Problem.message)

/-- What keeps settings from being loaded: a refusal, which the caller is told, or a fault in a
value that nothing here expects. -/
inductive Fault where
  | refused (refusal : Refusal)
  | notText
  /-- Lists and records of the file are nested too deeply. -/
  | tooDeep
  /-- A number of the file has too many digits. -/
  | tooLong
  /-- Custom settings that other keys should join are no record, list or text. -/
  | customNoCollection
  /-- Custom settings that other keys should join are a list or text with items that are no pairs. -/
  | customNoPairs
  /-- What should be a word is another kind of value. -/
  | noWord
  deriving Inhabited

/-- An item of a list as an entry: whatever holds exactly two things. -/
def pairOf (item : Value) : Except Fault (Key × Value) :=
  let parts : Option (List Value) := match item with
    | .list items => some items
    | .text written => some (written.toList.map fun c => .text c.toString)
    | .torn codes => some (codes.map fun code => .ofCodes [code])
    | .record entries => some (entries.map fun (key, _) => key.toValue)
    | _ => none
  match parts with
  | none => .error .customNoCollection
  | some [first, second] =>
    match first.key? with
    | some key => .ok (key, second)
    | none => .error .customNoCollection
  | some _ => .error .customNoPairs

def customEntries (custom : Value) : Except Fault Entries :=
  if !custom.isTrue then .ok []
  else match custom with
    | .record entries => .ok entries
    | .list items => do return Entries.overlay [] (← items.mapM pairOf)
    | .text _ | .torn _ => .error .customNoPairs
    | _ => .error .customNoCollection

def keys : List Key := (({} : Settings).toEntries).map (·.1)

/-- Moves entries that are no settings into the custom ones. -/
def gather (entries : Entries) : Except Fault Entries := do
  let (known, others) := entries.partition fun (key, _) => keys.contains key
  if others.isEmpty then return known
  else
    let custom ← customEntries ((known.lookup (.text "custom")).getD .none)
    return Value.put known "custom" (.record (custom.overlay others))

def isNumber : Value → Bool
  | .int _ | .bool _ => true
  | _ => false

def isWord (value : Value) : Except Fault Bool :=
  if !value.isTrue then .ok false
  else match value with
    | .text written => .ok (Text.isIdentifier written)
    | .torn _ => .ok false
    | _ => .error .noWord

def problems (entries : Entries) : Except Fault (List Problem) := do
  let value (key : Key) : Value := (entries.lookup key).getD .none
  let check (sound : Bool) (problem : Problem) : List Problem := if sound then [] else [problem]
  let indent := value "indent_size"
  let placeholder := value "placeholder_base"
  let obfuscate := value "obfuscate_macro"
  let placeholderSound ← isWord placeholder
  let obfuscateSound ← isWord obfuscate
  return check (isNumber indent && indent.asInt ≥ 0) (.indentSize indent) ++
    check (value "allowed_namespaces").isTrue .noAllowedSpaces ++
    check placeholderSound (.placeholderBase placeholder) ++
    check obfuscateSound (.obfuscateMacro obfuscate) ++
    check (value "combined_file_name").isTrue .noCombinedFileName

variable (levels : Nat)

def readFile (disk : Files.Disk) (path : Files.Path) : Except Fault Entries := do
  let refuse (refusal : Refusal) : Except Fault Entries := .error (.refused refusal)
  if !disk.isPresent path then refuse (.noFile path)
  else if Text.lower path.suffix != ".json" then refuse (.wrongSuffix path)
  else match disk.read path with
    | .error failure => refuse (.unreadable path failure)
    | .ok content =>
      match content.toText? with
      | none => .error .notText
      | some text =>
        match Data.Json.read levels text with
        | .ok (.record entries) => return entries
        | .ok _ => refuse (.notRecord path)
        | .error .malformed => refuse (.malformed path)
        | .error .tooDeep => .error .tooDeep
        | .error .tooLong => .error .tooLong

/-- The values that a caller states; none leaves a setting as it is. -/
def withoutNone (overrides : Entries) : Entries :=
  overrides.filter fun (_, value) => match value with
    | .none => false
    | _ => true

def layered (file overrides : Entries) : Entries :=
  ((({} : Settings).toEntries).overlay file).overlay (withoutNone overrides)

/-- The sound entries that a file and overrides give; an empty name is no file. -/
def loadEntries (disk : Files.Disk) (file : Option String) (overrides : Entries) :
    Except Fault Entries := do
  let fromFile ← match file with
    | none | some "" => pure []
    | some name => readFile levels disk (.ofText name)
  let entries ← gather (layered fromFile overrides)
  match ← problems entries with
  | [] => return entries
  | found => .error (.refused (.unsound found))

def load (disk : Files.Disk) (file : Option String) (overrides : Entries) :
    Except Fault Settings := do
  return ofEntries (← loadEntries levels disk file overrides)

end ProxyHeaders.Settings
