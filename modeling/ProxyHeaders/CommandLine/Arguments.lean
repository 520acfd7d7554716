import ProxyHeaders.Settings.Data
import ProxyHeaders.Text.Digit
import ProxyHeaders.Text.Lines

/-!
The arguments of the command line. Long switches may be shortened as long as one is meant, short
ones may be run together, and a value may follow a switch or be attached to it. What is no switch
is the input; behind `--` nothing is a switch.
-/
namespace ProxyHeaders.CommandLine

inductive Switch where
  | help
  | singleFile
  | output
  | imageName
  | noValidate
  | reflection
  | config
  | verbose
  | logFile
  | version
  deriving DecidableEq, Repr, Inhabited

namespace Switch

def all : List Switch :=
  [help, singleFile, output, imageName, noValidate, reflection, config, verbose, logFile, version]

def spellings : Switch → List String
  | help => ["-h", "--help"]
  | singleFile => ["--single-file", "-s"]
  | output => ["--output", "-o"]
  | imageName => ["--image-name"]
  | noValidate => ["--no-validate"]
  | reflection => ["--reflection", "-r"]
  | config => ["--config"]
  | verbose => ["--verbose", "-v"]
  | logFile => ["--log-file"]
  | version => ["--version"]

def takesValue : Switch → Bool
  | output | imageName | config | logFile => true
  | _ => false

def display (switch : Switch) : String := "/".intercalate switch.spellings

end Switch

def spelled : List (String × Switch) :=
  Switch.all.flatMap fun switch => switch.spellings.map fun spelling => (spelling, switch)

def switch? (spelling : String) : Option Switch := spelled.lookup spelling

structure Arguments where
  input : String := "./Files/Assembly-CSharp.dll"
  singleFile : Bool := false
  output : Option String := none
  imageName : Option String := none
  noValidate : Bool := false
  reflection : Bool := false
  config : Option String := none
  verbose : Bool := false
  logFile : Option String := none
  deriving DecidableEq, Repr, Inhabited

inductive Refusal where
  | ambiguous (text : String) (candidates : List String)
  | valueMissing (switch : Switch)
  | valueNeedless (switch : Switch) (text : String)
  | unknown (texts : List String)
  deriving DecidableEq, Repr

def Refusal.message : Refusal → String
  | .ambiguous text candidates =>
    "ambiguous option: " ++ text ++ " could match " ++ ", ".intercalate candidates
  | .valueMissing switch => "argument " ++ switch.display ++ ": expected one argument"
  | .valueNeedless switch text =>
    "argument " ++ switch.display ++ ": ignored explicit argument " ++ Text.quoted text
  | .unknown texts => "unrecognized arguments: " ++ " ".intercalate texts

inductive Stop where
  | help
  | version
  | refused (refusal : Refusal)
  deriving DecidableEq, Repr

/-- A text attached to a switch, behind an equals sign or directly behind a letter. -/
structure Attached where
  byEquals : Bool
  chars : List Char
  deriving DecidableEq, Repr, Inhabited

inductive Token where
  | plain (text : String)
  /-- Two dashes alone: the rest is plain. -/
  | dashes
  | switch (switch : Switch) (isShort : Bool) (attached : Option Attached)
  /-- What looks like a switch but is none. -/
  | unknown (text : String)
  deriving DecidableEq, Repr, Inhabited

def isShortSpelling (spelling : String) : Bool := !Text.startsWith spelling "--"

def isDecimal (c : Char) : Bool := (Text.digitValue? c).isSome

/-- A minus sign with digits, which may have a point in front of the last of them. One line break
may follow. -/
def isNegativeNumber (text : String) : Bool :=
  let chars := text.toList
  match if chars.getLast? == some '\n' then chars.dropLast else chars with
  | '-' :: rest =>
    match rest.dropWhile isDecimal with
    | [] => !rest.isEmpty
    | '.' :: fraction => !fraction.isEmpty && fraction.all isDecimal
    | _ => false
  | _ => false

/-- The switches that a text may be a shortened spelling of, with what is attached. -/
def candidates (text : String) : List (String × Token) :=
  match text.toList with
  | '-' :: '-' :: _ =>
    let (start, attached) := Text.cutAt '=' text
    (spelled.filter fun (spelling, _) => Text.startsWith spelling start).map
      fun (spelling, switch) =>
        (spelling, .switch switch (isShortSpelling spelling)
          (attached.map fun attached => ⟨true, attached.toList⟩))
  | '-' :: letter :: rest =>
    spelled.filterMap fun (spelling, switch) =>
      if spelling == String.ofList ['-', letter] then
        some (spelling, .switch switch true (some ⟨false, rest⟩))
      else if Text.startsWith spelling text then some (spelling, .switch switch true none)
      else none
  | _ => []

/-- What a text that is neither two dashes nor behind them stands for. -/
def classify (text : String) : Except Refusal Token :=
  if !Text.startsWith text "-" then .ok (.plain text)
  else match switch? text with
  | some switch => .ok (.switch switch (isShortSpelling text) none)
  | none =>
    let (start, attached) := Text.cutAt '=' text
    match switch? start, attached with
    | some switch, some attached =>
      .ok (.switch switch (isShortSpelling start) (some ⟨true, attached.toList⟩))
    | _, _ =>
      match candidates text with
      | [(_, token)] => .ok token
      | [] =>
        if text == "-" || isNegativeNumber text || text.toList.contains ' ' then .ok (.plain text)
        else .ok (.unknown text)
      | several => .error (.ambiguous text (several.map (·.1)))

def tokens : List String → Except Refusal (List Token)
  | [] => .ok []
  | "--" :: rest => .ok (.dashes :: rest.map .plain)
  | text :: rest => do return (← classify text) :: (← tokens rest)

/-- What one text of switches comes to: those without a value, then at most one with its value or
still without, then what is no switch. -/
structure Cluster where
  flags : List Switch := []
  valued : Option (Switch × Option String) := none
  extra : Option String := none
  deriving DecidableEq, Repr, Inhabited

def Cluster.alone (flags : List Switch) (switch : Switch) : Cluster :=
  if switch.takesValue then { flags, valued := some (switch, none) }
  else { flags := flags ++ [switch] }

/-- A switch with a text attached; further short switches may be in the text. -/
def clusterOf (flags : List Switch) (switch : Switch) (isShort byEquals : Bool) :
    List Char → Except Refusal Cluster
  | [] =>
    if switch.takesValue then .ok { flags, valued := some (switch, some "") }
    else .error (.valueNeedless switch "")
  | c :: rest =>
    let text := String.ofList (c :: rest)
    if switch.takesValue then .ok { flags, valued := some (switch, some text) }
    else if !isShort || byEquals || c == '-' then .error (.valueNeedless switch text)
    else
      let flags := flags ++ [switch]
      match switch? (String.ofList ['-', c]), rest with
      | none, _ => .ok { flags, extra := some ("-" ++ text) }
      | some next, [] => .ok (Cluster.alone flags next)
      | some next, '=' :: rest => clusterOf flags next true true rest
      | some next, rest => clusterOf flags next true false rest

structure Reading where
  arguments : Arguments := {}
  hasInput : Bool := false
  extras : List String := []
  deriving DecidableEq, Repr, Inhabited

namespace Reading

def flag (reading : Reading) : Switch → Except Stop Reading
  | .help => .error .help
  | .version => .error .version
  | .singleFile => .ok { reading with arguments.singleFile := true }
  | .noValidate => .ok { reading with arguments.noValidate := true }
  | .reflection => .ok { reading with arguments.reflection := true }
  | .verbose => .ok { reading with arguments.verbose := true }
  | _ => .ok reading

def value (reading : Reading) (text : String) : Switch → Reading
  | .output => { reading with arguments.output := some text }
  | .imageName => { reading with arguments.imageName := some text }
  | .config => { reading with arguments.config := some text }
  | .logFile => { reading with arguments.logFile := some text }
  | _ => reading

def input (reading : Reading) (text : String) : Reading :=
  { reading with arguments.input := text, hasInput := true }

def extra (reading : Reading) (text : String) : Reading :=
  { reading with extras := reading.extras ++ [text] }

/-- Takes in a cluster whose switch with a value, if it has one, has got it. -/
def cluster (reading : Reading) (cluster : Cluster) : Except Stop Reading := do
  let reading ← cluster.flags.foldlM flag reading
  let reading := match cluster.valued with
    | some (switch, some text) => reading.value text switch
    | _ => reading
  return match cluster.extra with
    | some text => reading.extra text
    | none => reading

def clusterOfToken (switch : Switch) (isShort : Bool) (attached : Option Attached) :
    Except Stop Cluster :=
  match attached with
  | none => .ok (Cluster.alone [] switch)
  | some attached =>
    (clusterOf [] switch isShort attached.byEquals attached.chars).mapError Stop.refused

def readFrom (reading : Reading) : List Token → Except Stop Reading
  | [] => .ok reading
  | .unknown text :: rest => readFrom (reading.extra text) rest
  | .dashes :: rest =>
    if reading.hasInput then readFrom (reading.extra "--") rest else readFrom reading rest
  | .plain text :: rest =>
    if reading.hasInput then readFrom (reading.extra text) rest
    else match rest with
    -- Two dashes behind the input belong to it.
    | .dashes :: rest => readFrom (reading.input text) rest
    | rest => readFrom (reading.input text) rest
  | .switch switch isShort attached :: rest =>
    match clusterOfToken switch isShort attached with
    | .error stop => .error stop
    | .ok cluster =>
      match cluster.valued, rest with
      | some (valued, none), .plain text :: rest =>
        match reading.cluster { cluster with valued := some (valued, some text) } with
        | .error stop => .error stop
        | .ok reading => readFrom reading rest
      | some (valued, none), _ => .error (.refused (.valueMissing valued))
      | _, rest =>
        match reading.cluster cluster with
        | .error stop => .error stop
        | .ok reading => readFrom reading rest

end Reading

def parse (texts : List String) : Except Stop Arguments := do
  let tokens ← (tokens texts).mapError Stop.refused
  let reading ← Reading.readFrom {} tokens
  if reading.extras.isEmpty then return reading.arguments
  else throw (.refused (.unknown reading.extras))

/-- A flag as a setting; one that is not given leaves the setting alone. -/
def flagValue (flag : Bool) : Value := if flag then .bool true else .none

namespace Arguments

def overrides (arguments : Arguments) : Entries :=
  [("single_file", flagValue arguments.singleFile), ("use_reflection", flagValue arguments.reflection),
    ("output_dir", .ofText? arguments.output), ("image_name", .ofText? arguments.imageName),
    ("validate_output", if arguments.noValidate then .bool false else .none)]

/-- The arguments under the names that they are stored by; a flag that is not stated is none where
it yields to the settings. -/
def toEntries (arguments : Arguments) : Entries :=
  [("input", .text arguments.input), ("single_file", flagValue arguments.singleFile),
    ("output", .ofText? arguments.output), ("image_name", .ofText? arguments.imageName),
    ("no_validate", .bool arguments.noValidate), ("reflection", flagValue arguments.reflection),
    ("config", .ofText? arguments.config), ("verbose", .bool arguments.verbose),
    ("log_file", .ofText? arguments.logFile)]

end Arguments

end ProxyHeaders.CommandLine
