import ProxyHeaders.Layout.Arrange

/-!
A header as the list of what is written to it below its preamble. Laying out the groups or one of
their types is following such a list, entry by entry, on a sheet that skips what it has declared or
defined before.
-/
namespace ProxyHeaders.Layout

open ProxyHeaders.Code ProxyHeaders.Mapping ProxyHeaders.Proxy ProxyHeaders.Template

inductive Entry where
  | comment (text : String)
  | blank
  | opens (space : String)
  | closes
  | declares (type : TypeDecl)
  | defines (type : TypeDecl)

namespace Entry

def declared? : Entry → Option TypeDecl
  | .declares type => some type
  | _ => none

def defined? : Entry → Option TypeDecl
  | .defines type => some type
  | _ => none

def write (job : Job) (buffer : Buffer) : Entry → Buffer
  | .comment text => buffer.comment text
  | .blank => buffer.blank
  | .opens space => (buffer.line (Sheet.opening space)).indent
  | .closes => buffer.dedent.line "\x7d"
  | .declares type => buffer.line (forwardDeclaration job.map type)
  | .defines type => (Proxy.define job type).appendTo type buffer

end Entry

def declaredTypes (entries : List Entry) : List TypeDecl := entries.filterMap Entry.declared?

def definedTypes (entries : List Entry) : List TypeDecl := entries.filterMap Entry.defined?

def completed (job : Job) (types : List TypeDecl) : Nat :=
  types.countP fun type => (Proxy.define job type).isComplete

/-! What the two layouts list -/

namespace Group

def declarations (group : Group) : List Entry :=
  match group.space with
  | none => .comment "Global namespace types" :: (group.types.map .declares ++ [.blank])
  | some space => .opens space :: (group.types.map .declares ++ [.closes, .blank])

def definitions (group : Group) : List Entry :=
  match group.space with
  | none => group.types.map .defines ++ [.blank]
  | some space => .opens space :: (group.types.map .defines ++ [.closes, .blank])

end Group

def combinedEntries (groups : List Group) : List Entry :=
  .comment "Forward declarations" ::
    (groups.flatMap Group.declarations ++ groups.flatMap Group.definitions)

def neighbourEntries (others : List TypeDecl) : List Entry :=
  if others.isEmpty then []
  else
    .comment "Forward declarations for other types in this namespace" ::
      (others.map .declares ++ [.blank])

def singleEntries (group : Group) (type : TypeDecl) : List Entry :=
  let neighbours := neighbourEntries (group.types.filter (·.fullName != type.fullName))
  match group.space with
  | none => neighbours ++ [.defines type]
  | some space => .opens space :: .blank :: (neighbours ++ [.defines type, .closes])

namespace Sheet

/-- One entry on a sheet, which skips what it has declared or defined before. -/
def follow (job : Job) (sheet : Sheet) : Entry → Sheet
  | .comment text => sheet.comment text
  | .blank => sheet.blank
  | .opens space =>
    let sheet := sheet.line (opening space)
    { sheet with buffer := sheet.buffer.indent }
  | .closes => { sheet with buffer := sheet.buffer.dedent.line "\x7d" }
  | .declares type => sheet.declare job type
  | .defines type => sheet.define job type

variable (job : Job)

theorem follow_declares (types : List TypeDecl) (sheet : Sheet) :
    (types.map Entry.declares).foldl (follow job) sheet = sheet.declareAll job types := by
  rw [List.foldl_map]
  rfl

theorem follow_defines (types : List TypeDecl) (sheet : Sheet) :
    (types.map Entry.defines).foldl (follow job) sheet = sheet.defineAll job types := by
  rw [List.foldl_map]
  rfl

theorem declareGroup_follows (sheet : Sheet) (group : Group) :
    sheet.declareGroup job group = group.declarations.foldl (follow job) sheet := by
  unfold declareGroup Group.declarations
  cases group.space with
  | none =>
    rw [List.foldl_cons, List.foldl_append, follow_declares]
    rfl
  | some space =>
    rw [List.foldl_cons, List.foldl_append, follow_declares]
    rfl

theorem defineGroup_follows (sheet : Sheet) (group : Group) :
    sheet.defineGroup job group = group.definitions.foldl (follow job) sheet := by
  unfold defineGroup Group.definitions
  cases group.space with
  | none =>
    rw [List.foldl_append, follow_defines]
    rfl
  | some space =>
    rw [List.foldl_cons, List.foldl_append, follow_defines]
    rfl

theorem foldl_follows {write : Sheet → Group → Sheet} {list : Group → List Entry}
    (step : ∀ sheet group, write sheet group = (list group).foldl (follow job) sheet)
    (groups : List Group) (sheet : Sheet) :
    groups.foldl write sheet = (groups.flatMap list).foldl (follow job) sheet := by
  induction groups generalizing sheet with
  | nil => rfl
  | cons group rest ih => rw [List.foldl_cons, List.flatMap_cons, List.foldl_append, step, ih]

theorem combined_follows (groups : List Group) (sheet : Sheet) :
    combined job groups sheet = (combinedEntries groups).foldl (follow job) sheet := by
  have declarations := foldl_follows job (declareGroup_follows job) groups
  have definitions := foldl_follows job (defineGroup_follows job) groups
  rw [combined, combinedEntries, List.foldl_cons, List.foldl_append, declarations, definitions]
  rfl

theorem declareOthers_follows (others : List TypeDecl) (sheet : Sheet) :
    sheet.declareOthers job others = (neighbourEntries others).foldl (follow job) sheet := by
  unfold declareOthers neighbourEntries
  by_cases alone : others.isEmpty
  · rw [if_pos alone, if_pos alone]
    rfl
  · rw [if_neg alone, if_neg alone, List.foldl_cons, List.foldl_append, follow_declares]
    rfl

theorem single_follows (group : Group) (type : TypeDecl) (sheet : Sheet) :
    single job group type sheet = (singleEntries group type).foldl (follow job) sheet := by
  simp only [single, singleEntries]
  cases group.space with
  | none =>
    rw [List.foldl_append, ← declareOthers_follows]
    rfl
  | some space =>
    rw [List.foldl_cons, List.foldl_cons, List.foldl_append, ← declareOthers_follows]
    rfl

end Sheet

end ProxyHeaders.Layout
