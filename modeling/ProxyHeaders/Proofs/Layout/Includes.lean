import ProxyHeaders.Proofs.Layout.Inheritance
import ProxyHeaders.Proofs.Layout.UnitPaths
import ProxyHeaders.Proofs.Names.Identifiers

/-!
The include of a base, read as a compiler reads it: from the directory of the header that has it, the
normal form of the path that it makes there is the path of the base's own header, text for text.
-/
namespace ProxyHeaders.Layout

open ProxyHeaders.Files ProxyHeaders.Mapping ProxyHeaders.Names

/-! Paths as texts. -/

/-- What stands before the last slash of a path, with no slash at its end unless it has nothing
else. -/
def directoryName (path : String) : String :=
  let head := Text.dropEnd (· != '/') path.toList
  String.ofList (if head.all (· == '/') then head else Text.dropEnd (· == '/') head)

def joined (directory path : String) : String :=
  if Text.startsWith path "/" then path
  else if directory.isEmpty || Text.endsWith directory "/" then directory ++ path
  else directory ++ "/" ++ path

/-- Where one segment leads from others: a `..` stays in front of a relative path, behind nothing or
behind another. -/
def settle (absolute : Bool) (segments : List String) (segment : String) : List String :=
  if segment.isEmpty || segment == "." then segments
  else if segment != ".." || (!absolute && segments.isEmpty) ||
      segments.getLast? == some ".." then segments ++ [segment]
  else segments.dropLast

/-- A path without empty segments, `.` and the `..` that can be followed. -/
def normalForm (path : String) : String :=
  let anchor := Path.anchorOf path
  let parts := (Text.splitAtChar '/' path).foldl (settle !anchor.isEmpty) []
  Path.display ⟨anchor, parts⟩

example : normalForm "Game/AI/../Core//./Entity.hpp" = "Game/Core/Entity.hpp" := by decide
example : normalForm "../Core/../../Entity.hpp" = "../../Entity.hpp" := by decide

theorem settle_pathStep (absolute : Bool) : PathStep (settle absolute) := by
  constructor
  · exact fun segments => rfl
  · rintro segments segment ⟨some, notDot, notBack, -⟩
    simp [settle, some, notDot, notBack]
  · rintro segments segment ⟨-, -, notBack, -⟩
    simp [settle, notBack]

section Solid

variable {directory : String} (solid : "" ∉ Text.splitAtChar '/' directory)

include solid

theorem directoryName_behind {file : String} (unslashed : '/' ∉ file.toList) :
    directoryName (directory ++ "/" ++ file) = directory := by
  obtain ⟨some, -, ending⟩ := Text.separator_inside solid
  obtain ⟨front, last, chars⟩ :=
    (List.eq_nil_or_concat' directory.toList).resolve_left (by simpa using some)
  have solidLast : last ≠ '/' := by simpa [chars] using ending
  have gone : Text.dropEnd (· != '/') file.toList = [] := by
    rw [Text.dropEnd_eq_rdropWhile, List.rdropWhile_eq_nil_iff]
    intro c member
    have other : c ≠ '/' := fun slash => unslashed (slash ▸ member)
    simpa using other
  have head : Text.dropEnd (· != '/') (directory ++ "/" ++ file).toList =
      directory.toList ++ ['/'] := by
    have slash : "/".toList = ['/'] := rfl
    rw [String.toList_append, String.toList_append, Text.dropEnd_append, if_pos gone, slash,
      Text.dropEnd_eq_rdropWhile, List.rdropWhile_concat_neg _ _ _ (by decide)]
  have trimmed : Text.dropEnd (· == '/') (directory.toList ++ ['/']) = directory.toList := by
    rw [Text.dropEnd_eq_rdropWhile, List.rdropWhile_concat_pos _ _ _ (by decide), chars,
      List.rdropWhile_concat_neg _ _ _ (by simpa using solidLast)]
  have notAll : ¬ (directory.toList ++ ['/']).all (· == '/') := by simp [chars, solidLast]
  simp only [directoryName, head, notAll, trimmed]
  exact String.ofList_toList

theorem joined_relative {path : String} (relative : "" ∉ Text.splitAtChar '/' path) :
    joined directory path = directory ++ "/" ++ path := by
  obtain ⟨some, -, ending⟩ := Text.separator_inside solid
  obtain ⟨-, start, -⟩ := Text.separator_inside relative
  have slash : "/".toList = ['/'] := rfl
  have stays : ¬ Text.startsWith path "/" := (startsWith_char slash path).not.mpr start
  have unended : ¬ Text.endsWith directory "/" := by
    intro ends
    obtain ⟨front, chars⟩ := List.isSuffixOf_iff_suffix.mp ends
    exact ending (by simp [← chars, slash])
  simp [joined, stays, unended, some]

end Solid

/-! Headers of types whose namespaces are made of directory names. -/

def headerSegments (map : TypeMap) (type : TypeDecl) : List String :=
  Text.splitAtChar '.' type.groupKey ++ [fileName map type]

section Header

variable {map : TypeMap} (wordy : map.sanitizer.Wordy) {type : TypeDecl}
  (segmented : Segmented type.space)

include wordy segmented

theorem unitPath_segments :
    Text.splitAtChar '/' (unitPath map type) = headerSegments map type := by
  rw [unitPath_pieces wordy, directory_pieces segmented, headerSegments]

theorem headerSegments_valid : ∀ segment ∈ headerSegments map type, IsSegment segment := by
  rw [headerSegments, List.forall_mem_append, List.forall_mem_singleton]
  have ending := fileName_ends map type
  refine ⟨groupKey_segments segmented, ?_, ?_, ?_, fileName_unslashed wordy type⟩
  · intro empty
    simp [empty] at ending
  · intro dot
    simp [dot] at ending
  · intro back
    simp [back] at ending

theorem normalSegments_unitPath : normalSegments (unitPath map type) = headerSegments map type := by
  rw [normalSegments_walk, walk, unitPath_segments wordy segmented,
    enter_pathStep.segments (headerSegments_valid wordy segmented)]
  rfl

theorem unitPath_intercalate : unitPath map type = "/".intercalate (headerSegments map type) := by
  have some : headerSegments map type ≠ [] := by simp [headerSegments]
  apply splitAtChar_injective '/'
  rw [unitPath_segments wordy segmented, split_intercalate some]
  exact fun segment member => (headerSegments_valid wordy segmented segment member).2.2.2

theorem directoryName_unitPath :
    directoryName (unitPath map type) = directoryOf (stated type.space) := by
  rw [unitPath_behind]
  apply directoryName_behind _ (fileName_unslashed wordy type)
  rw [directory_pieces segmented]
  exact fun empty => (groupKey_segments segmented "" empty).1 rfl

end Header

theorem normalForm_solid {path : String} {segments : List String}
    (solid : "" ∉ Text.splitAtChar '/' path) (some : segments ≠ [])
    (reached : (Text.splitAtChar '/' path).foldl (settle false) [] = segments) :
    normalForm path = "/".intercalate segments := by
  have relative : ¬ (Path.ofText path).isAbsolute :=
    (isAbsolute_iff path).not.mpr (Text.separator_inside solid).2.1
  have anchor : Path.anchorOf path = "" := by simpa [Path.isAbsolute, Path.ofText] using relative
  have shown : Path.display ⟨"", segments⟩ = "/".intercalate segments := by
    simp [Path.display, some]
  rw [normalForm, anchor, ← shown, ← reached]
  rfl

/-- The way from the directory of one header to another header leads to the path of the other. -/
theorem normalForm_way {map : TypeMap} (wordy : map.sanitizer.Wordy) {one other : TypeDecl}
    (segmented : Segmented one.space) (otherSegmented : Segmented other.space) :
    normalForm (joined (directoryName (unitPath map one))
      (relativePath (headerSegments map one).dropLast (headerSegments map other))) =
      unitPath map other := by
  have target := headerSegments_valid wordy otherSegmented
  have directory := directory_pieces segmented
  have source := groupKey_segments segmented
  have directorySolid : "" ∉ Text.splitAtChar '/' (directoryOf (stated one.space)) := by
    rw [directory]
    exact fun empty => (source "" empty).1 rfl
  have fromDir : (headerSegments map one).dropLast = Text.splitAtChar '.' one.groupKey :=
    List.dropLast_concat
  rw [fromDir, directoryName_unitPath wordy segmented,
    unitPath_intercalate wordy otherSegmented]
  generalize Text.splitAtChar '.' one.groupKey = start at *
  have waySolid := relativePath_solid start target
  rw [joined_relative directorySolid waySolid]
  apply normalForm_solid
  · rw [split_behind, List.mem_append]
    exact not_or.mpr ⟨directorySolid, waySolid⟩
  · simp [headerSegments]
  · rw [split_behind, List.foldl_append, directory, (settle_pathStep false).segments source]
    exact (settle_pathStep false).relativePath source target

theorem baseInclude_way {map : TypeMap} (wordy : map.sanitizer.Wordy) {derived base : TypeDecl}
    (segmented : Segmented derived.space) (baseSegmented : Segmented base.space)
    (included : includedBase map derived = some base) :
    baseInclude map derived =
      some (relativePath (headerSegments map derived).dropLast (headerSegments map base)) := by
  rw [baseInclude_included, included, Option.map_some, normalSegments_unitPath wordy segmented,
    normalSegments_unitPath wordy baseSegmented]

/-- The base that a class inherits from another header is one that the run declares. Where the
namespaces of both are made of directory names, or there are none, the header of the class includes
the base, and from its directory the include leads to the path of the base's header, whatever the
sanitizer was asked before. -/
theorem base_include_resolves (given : TypeMap) (questions : List (Option String × NameCase))
    {derived : TypeDecl} (noEnum : ¬ derived.isEnum) (segmented : Segmented derived.space)
    {spelling source target : String} :
    let map := { given with sanitizer := Sanitizer.forHeaders.askAll questions }
    map.resolveBase derived = .generated spelling source target →
      ∃ base, map.declared? target = some base ∧ base.isClass ∧
        (Segmented base.space → ∃ path, baseInclude map derived = some path ∧
          normalForm (joined (directoryName (unitPath map derived)) path) = unitPath map base) := by
  intro map inherits
  have wordy : map.sanitizer.Wordy :=
    (Sanitizer.askAll_guarded Sanitizer.guarded_forHeaders questions).wordy
  obtain ⟨reference, base, -, declared, isClass, -, -, rfl⟩ := resolveBase_generated inherits
  rw [← fullName_of_declared? declared] at declared
  refine ⟨base, declared, isClass, ?_⟩
  intro baseSegmented
  have included : includedBase map derived = some base := by
    rw [includedBase, if_neg noEnum, inherits]
    exact declared
  exact ⟨_, baseInclude_way wordy segmented baseSegmented included,
    normalForm_way wordy segmented baseSegmented⟩

/-! A class in a namespace of two names, whose base is in none. -/

def entity : TypeDecl := { name := "Entity" }
def enemy : TypeDecl := { name := "Enemy", space := some "Game.AI", base := some entity.asRef }

def enemyMap : TypeMap := ({} : TypeMap).declareAll [enemy, entity]

theorem entity_included :
    ¬ enemy.isEnum ∧ Segmented enemy.space ∧
      enemyMap.resolveBase enemy = .generated "Entity" "Entity" "Entity" ∧
      Segmented entity.space ∧
      baseInclude enemyMap enemy = some "../../Global/Entity.hpp" ∧
      normalForm (joined (directoryName (unitPath enemyMap enemy)) "../../Global/Entity.hpp") =
        unitPath enemyMap entity := by
  have noEnum : ¬ enemy.isEnum := by decide
  have segmented : Segmented enemy.space := by decide
  have inherits : enemyMap.resolveBase enemy = .generated "Entity" "Entity" "Entity" := rfl
  have baseSegmented : Segmented entity.space := by decide
  have way : baseInclude enemyMap enemy = some "../../Global/Entity.hpp" := by decide +kernel
  obtain ⟨base, declared, -, leads⟩ := base_include_resolves enemyMap [] noEnum segmented inherits
  cases declared
  obtain ⟨path, included, reached⟩ := leads baseSegmented
  cases way.symm.trans included
  exact ⟨noEnum, segmented, inherits, baseSegmented, way, reached⟩

end ProxyHeaders.Layout
