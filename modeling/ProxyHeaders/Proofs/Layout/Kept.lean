import ProxyHeaders.Proofs.Layout.Groups
import ProxyHeaders.Proofs.Layout.Transcript
import ProxyHeaders.Proofs.Proxy.Failure

/-!
What a sheet skips. A header declares each full name once and a run defines each full name once; the
entries that repeat one are left out, and a sheet is as if the others had been written one after the
other. Where no full name repeats nothing is left out.
-/
namespace ProxyHeaders.Layout

open ProxyHeaders.Code ProxyHeaders.Mapping ProxyHeaders.Proxy

/-- The entries that are written on a sheet with these names declared and defined. -/
def kept (declared defined : List String) : List Entry → List Entry
  | [] => []
  | entry :: rest =>
    match entry with
    | .declares type =>
      if declared.contains type.fullName then kept declared defined rest
      else .declares type :: kept (type.fullName :: declared) defined rest
    | .defines type =>
      if defined.contains type.fullName then kept declared defined rest
      else .defines type :: kept declared (type.fullName :: defined) rest
    | entry => entry :: kept declared defined rest

def warningsOf (job : Job) (type : TypeDecl) : List String :=
  ((Proxy.define job type).messages type).warnings

def withNames (defined : List String) (types : List TypeDecl) : List String :=
  (types.map (·.fullName)).reverse ++ defined

namespace Sheet

/-- What a sheet records of the types that it has come to define. -/
structure Records (job : Job) (sheet after : Sheet) (types : List TypeDecl) : Prop where
  defined : after.defined = withNames sheet.defined types
  errors : after.diagnostics.errors = sheet.diagnostics.errors
  warnings : after.diagnostics.warnings =
    sheet.diagnostics.warnings ++ types.flatMap (warningsOf job)
  bodies : after.bodies = sheet.bodies + completed job types

theorem Records.none {job : Job} (sheet : Sheet) : sheet.Records job sheet [] :=
  ⟨rfl, rfl, (List.append_nil _).symm, rfl⟩

theorem define_records {job : Job} {sheet : Sheet} {type : TypeDecl}
    (new : ¬ sheet.defined.contains type.fullName) :
    sheet.Records job (sheet.define job type) [type] := by
  simp only [Sheet.define, new, Bool.false_eq_true, if_false]
  constructor
  · rfl
  · simp only [Diagnostics.extend, messages_errors, List.append_nil]
  · simp only [Diagnostics.extend, List.flatMap_singleton, warningsOf]
  · simp [completed, List.countP_cons]

theorem Records.of_written {job : Job} {sheet next after : Sheet} {types : List TypeDecl}
    (records : next.Records job after types) (defined : next.defined = sheet.defined)
    (diagnostics : next.diagnostics = sheet.diagnostics) (bodies : next.bodies = sheet.bodies) :
    sheet.Records job after types := by
  constructor
  · rw [records.defined, defined]
  · rw [records.errors, diagnostics]
  · rw [records.warnings, diagnostics]
  · rw [records.bodies, bodies]

theorem Records.append {job : Job} {sheet middle after : Sheet} {first second : List TypeDecl}
    (before : sheet.Records job middle first) (behind : middle.Records job after second) :
    sheet.Records job after (first ++ second) := by
  constructor
  · rw [behind.defined, before.defined]
    simp [withNames]
  · rw [behind.errors, before.errors]
  · rw [behind.warnings, before.warnings, List.flatMap_append, List.append_assoc]
  · rw [behind.bodies, before.bodies, completed, completed, completed, List.countP_append,
      Nat.add_assoc]

/-- A sheet that has followed some entries is as if it had written those that are kept. -/
structure Followed (job : Job) (sheet after : Sheet) (written : List Entry) : Prop where
  buffer : after.buffer = written.foldl (Entry.write job) sheet.buffer
  records : sheet.Records job after (definedTypes written)

theorem follow_kept {job : Job} (entries : List Entry) (sheet : Sheet) :
    Followed job sheet (entries.foldl (follow job) sheet)
      (kept sheet.declared sheet.defined entries) := by
  induction entries generalizing sheet with
  | nil => exact ⟨rfl, .none sheet⟩
  | cons entry rest ih =>
    have later := ih (sheet.follow job entry)
    rw [List.foldl_cons]
    cases entry with
    | comment text => exact ⟨later.buffer, later.records.of_written rfl rfl rfl⟩
    | blank => exact ⟨later.buffer, later.records.of_written rfl rfl rfl⟩
    | opens space => exact ⟨later.buffer, later.records.of_written rfl rfl rfl⟩
    | closes => exact ⟨later.buffer, later.records.of_written rfl rfl rfl⟩
    | declares type =>
      by_cases known : sheet.declared.contains type.fullName
      · have skipped : sheet.follow job (.declares type) = sheet := by
          simp only [follow, declare, known, if_true]
        simp only [kept, known, if_true, skipped] at later ⊢
        exact later
      · simp only [follow, declare, kept, known, Bool.false_eq_true, if_false] at later ⊢
        exact ⟨later.buffer, later.records.of_written rfl rfl rfl⟩
    | defines type =>
      by_cases known : sheet.defined.contains type.fullName
      · have skipped : sheet.follow job (.defines type) = sheet := by
          simp only [follow, Sheet.define, known, if_true]
        simp only [kept, known, if_true, skipped] at later ⊢
        exact later
      · have step : sheet.Records job (sheet.define job type) [type] := define_records known
        simp only [follow, Sheet.define, kept, known, Bool.false_eq_true, if_false] at later step ⊢
        exact ⟨later.buffer, step.append later.records⟩

/-- The types that some entries declare or define are not yet on the sheet, and none repeats. -/
structure Fresh (sheet : Sheet) (entries : List Entry) : Prop where
  declaredOnce : ((declaredTypes entries).map (·.fullName)).Nodup
  definedOnce : ((definedTypes entries).map (·.fullName)).Nodup
  undeclared : ∀ type ∈ declaredTypes entries, type.fullName ∉ sheet.declared
  undefined : ∀ type ∈ definedTypes entries, type.fullName ∉ sheet.defined

theorem Fresh.kept {sheet : Sheet} {entries : List Entry} (fresh : sheet.Fresh entries) :
    Layout.kept sheet.declared sheet.defined entries = entries := by
  induction entries generalizing sheet with
  | nil => rfl
  | cons entry rest ih =>
    obtain ⟨declaredOnce, definedOnce, undeclared, undefined⟩ := fresh
    cases entry with
    | comment text => exact congrArg _ (ih ⟨declaredOnce, definedOnce, undeclared, undefined⟩)
    | blank => exact congrArg _ (ih ⟨declaredOnce, definedOnce, undeclared, undefined⟩)
    | opens space => exact congrArg _ (ih ⟨declaredOnce, definedOnce, undeclared, undefined⟩)
    | closes => exact congrArg _ (ih ⟨declaredOnce, definedOnce, undeclared, undefined⟩)
    | declares type =>
      obtain ⟨new, once, unseen⟩ := unseen_cons declaredOnce undeclared
      have later : Fresh { sheet with declared := type.fullName :: sheet.declared } rest :=
        ⟨once, definedOnce, unseen, undefined⟩
      have unknown : sheet.declared.contains type.fullName = false := by simpa using new
      simp only [Layout.kept, unknown, Bool.false_eq_true, if_false]
      exact congrArg _ (ih later)
    | defines type =>
      obtain ⟨new, once, unseen⟩ := unseen_cons definedOnce undefined
      have later : Fresh { sheet with defined := type.fullName :: sheet.defined } rest :=
        ⟨declaredOnce, once, undeclared, unseen⟩
      have unknown : sheet.defined.contains type.fullName = false := by simpa using new
      simp only [Layout.kept, unknown, Bool.false_eq_true, if_false]
      exact congrArg _ (ih later)

end Sheet

end ProxyHeaders.Layout
