import ProxyHeaders.Proofs.Files.Places
import ProxyHeaders.Proofs.Layout.Coverage
import ProxyHeaders.Proofs.Names.Words

/-!
Paths of separate headers. A namespace becomes a directory by turning its dots into slashes, so no
segment of a path leads back up; but a namespace that starts with a dot or a slash makes its path
absolute.
-/
namespace ProxyHeaders.Layout

open ProxyHeaders.Files ProxyHeaders.Mapping ProxyHeaders.Names ProxyHeaders.Proxy
  ProxyHeaders.Template

/-! Directories -/

theorem intercalate_splitOn_other (separator joint : Char) (chars : List Char) :
    [joint].intercalate (chars.splitOn separator) =
      chars.map fun c => if c = separator then joint else c := by
  induction chars with
  | nil => rfl
  | cons c rest ih =>
    have some : rest.splitOn separator ≠ [] := List.splitOn_ne_nil separator rest
    rw [List.splitOn_cons_eq_if_modifyHead, List.map_cons, ← ih]
    by_cases cut : c = separator
    · simp only [cut, beq_self_eq_true, if_true]
      rw [List.intercalate_cons_of_ne_nil some]
      rfl
    · have stays : (c == separator) = false := by simpa using cut
      obtain ⟨first, others, pieces⟩ := List.exists_cons_of_ne_nil some
      simp only [stays, cut, Bool.false_eq_true, if_false, pieces, List.modifyHead_cons]
      cases others with
      | nil => rfl
      | cons next last =>
        have more : next :: last ≠ [] := List.cons_ne_nil next last
        rw [List.intercalate_cons_of_ne_nil (l := c :: first) more,
          List.intercalate_cons_of_ne_nil (l := first) more]
        rfl

theorem directoryOf_written (space : String) :
    (directoryOf (some space)).toList = space.toList.map fun c => if c = '.' then '/' else c := by
  have separator : "/".toList = ['/'] := rfl
  rw [directoryOf, String.toList_intercalate, separator, Text.splitAtChar, List.map_map,
    ← intercalate_splitOn_other]
  simp [Function.comp_def]

theorem directoryOf_undotted (space : Option String) : '.' ∉ (directoryOf space).toList := by
  cases space with
  | none => decide
  | some space =>
    rw [directoryOf_written]
    intro member
    obtain ⟨c, -, written⟩ := List.mem_map.mp member
    by_cases dot : c = '.'
    · simp [dot] at written
    · exact dot ((if_neg dot).symm.trans written)

/-! Paths -/

theorem startsWith_char {start : String} {c : Char} (single : start.toList = [c]) (text : String) :
    Text.startsWith text start ↔ text.toList.head? = some c := by
  rw [Text.startsWith, single]
  cases text.toList with
  | nil => simp
  | cons first rest => simp [List.isPrefixOf_cons_cons, Eq.comm (a := c)]

theorem isAbsolute_iff (text : String) :
    (Path.ofText text).isAbsolute ↔ text.toList.head? = some '/' := by
  have slash : "/".toList = ['/'] := rfl
  rw [← startsWith_char slash]
  have doubled (two : Text.startsWith text "//") : Text.startsWith text "/" := by
    obtain ⟨rest, whole⟩ := List.isPrefixOf_iff_prefix.mp two
    rw [startsWith_char slash, ← whole]
    rfl
  simp only [Path.isAbsolute, Path.ofText, Path.anchorOf]
  by_cases double : (Text.startsWith text "//" && !Text.startsWith text "///") = true
  · rw [if_pos double]
    simp [doubled (Bool.and_eq_true_iff.mp double).1]
  · rw [if_neg double]
    by_cases single : Text.startsWith text "/" = true
    · simp [single]
    · simp [single]

def fileName (map : TypeMap) (type : TypeDecl) : String := map.structName type.name ++ headerSuffix

theorem fileName_ends (map : TypeMap) (type : TypeDecl) :
    (fileName map type).toList.getLast? = some 'p' := by
  simp [fileName, headerSuffix, List.getLast?_append]

theorem fileName_counts (map : TypeMap) (type : TypeDecl) :
    (!(fileName map type).isEmpty && fileName map type != ".") = true := by
  have ending := fileName_ends map type
  have some : fileName map type ≠ "" := by
    intro empty
    simp [empty] at ending
  have notDot : fileName map type ≠ "." := by
    intro dot
    simp [dot] at ending
  simp [some, notDot]

theorem unitPath_behind (map : TypeMap) (type : TypeDecl) :
    unitPath map type = directoryOf (stated type.space) ++ "/" ++ fileName map type := by
  simp only [unitPath, fileName, String.append_assoc]

section Wordy

variable {map : TypeMap} (wordy : map.sanitizer.Wordy) (type : TypeDecl)

include wordy

theorem fileName_unslashed : '/' ∉ (fileName map type).toList := by
  rw [fileName, String.toList_append, List.mem_append]
  rintro (inName | inSuffix)
  · have word := Sanitizer.identifier_word wordy (cleanName type.name) '/' inName
    exact absurd word (by decide)
  · exact absurd inSuffix (by decide)

theorem unitPath_pieces :
    Text.splitAtChar '/' (unitPath map type) =
      Text.splitAtChar '/' (directoryOf (stated type.space)) ++ [fileName map type] := by
  have apart : Text.splitAtChar '/' (fileName map type) = [fileName map type] := by
    rw [Text.splitAtChar, List.splitOn_eq_singleton (fileName_unslashed wordy type)]
    simp
  rw [unitPath_behind, split_behind, apart]

theorem unitPath_parts :
    (Path.ofText (unitPath map type)).parts =
      Path.partsOf (directoryOf (stated type.space)) ++ [fileName map type] := by
  simp only [Path.ofText, Path.partsOf, unitPath_pieces wordy, List.filter_append,
    List.filter_singleton, fileName_counts]
  rfl

theorem unitPath_descends : ".." ∉ (Path.ofText (unitPath map type)).parts := by
  rw [unitPath_parts wordy, List.mem_append, List.mem_singleton]
  rintro (inDirectory | isFile)
  · obtain ⟨piece, -⟩ := List.mem_filter.mp inDirectory
    exact directoryOf_undotted _ (Text.mem_splitAtChar piece '.' (by decide)).1
  · have ending := fileName_ends map type
    simp [← isFile] at ending

end Wordy

/-- A namespace that starts with a dot or a slash. -/
def leadsOut (type : TypeDecl) : Bool :=
  match stated type.space with
  | none => false
  | some space => Text.startsWith space "." || Text.startsWith space "/"

/-- The path of a header is absolute if and only if its namespace starts with a dot or a slash. -/
theorem unitPath_isAbsolute (map : TypeMap) (type : TypeDecl) :
    (Path.ofText (unitPath map type)).isAbsolute ↔ leadsOut type := by
  rw [isAbsolute_iff]
  cases space : stated type.space with
  | none => simp [unitPath, leadsOut, space, directoryOf, globalGroup]
  | some name =>
    have given : name ≠ "" := by simpa using (Option.filter_eq_some_iff.mp space).2
    obtain ⟨first, rest, chars⟩ := List.exists_cons_of_ne_nil (l := name.toList) (by simpa using given)
    have start : (unitPath map type).toList.head? = some (if first = '.' then '/' else first) := by
      simp [unitPath, space, directoryOf_written, chars]
    have dotted : ".".toList = ['.'] := rfl
    have slashed : "/".toList = ['/'] := rfl
    simp only [start, leadsOut, space, Bool.or_eq_true, startsWith_char dotted,
      startsWith_char slashed, chars, List.head?_cons, Option.some_inj]
    by_cases dot : first = '.'
    · simp [dot]
    · simp [dot]

/-! Types of different groups or names have different paths. -/

/-- A namespace of names between dots, each of them the name of a directory, or none. -/
def Segmented (space : Option String) : Prop :=
  ∀ text, stated space = some text →
    ∀ part ∈ Text.splitAtChar '.' text, part ≠ "" ∧ '/' ∉ part.toList

instance (space : Option String) : Decidable (Segmented space) :=
  decidable_of_iff
    (∀ text ∈ (stated space).toList, ∀ part ∈ Text.splitAtChar '.' text,
      part ≠ "" ∧ '/' ∉ part.toList)
    (by simp [Segmented])

theorem splitAtChar_injective (separator : Char) {first second : String}
    (same : Text.splitAtChar separator first = Text.splitAtChar separator second) :
    first = second := by
  have pieces : first.toList.splitOn separator = second.toList.splitOn separator :=
    List.map_injective_iff.mpr (fun _ _ => String.ofList_inj.mp) same
  have joined := congrArg [separator].intercalate pieces
  rw [List.intercalate_splitOn, List.intercalate_splitOn] at joined
  exact String.toList_inj.mp joined

section Segmented

variable {type : TypeDecl} (segmented : Segmented type.space)

include segmented

theorem groupKey_segments : ∀ part ∈ Text.splitAtChar '.' type.groupKey, IsSegment part := by
  unfold TypeDecl.groupKey
  cases space : stated type.space with
  | none =>
    have one : Text.splitAtChar '.' globalGroup = [globalGroup] := by decide
    rw [Option.getD_none, one, List.forall_mem_singleton]
    exact ⟨by decide, by decide, by decide, by decide⟩
  | some text =>
    rw [Option.getD_some]
    intro part member
    have undotted : '.' ∉ part.toList :=
      fun dotted => (Text.mem_splitAtChar member '.' dotted).2 rfl
    obtain ⟨some, unslashed⟩ := segmented text space part member
    refine ⟨some, ?_, ?_, unslashed⟩
    · rintro rfl
      exact undotted (by decide)
    · rintro rfl
      exact undotted (by decide)

theorem directory_pieces :
    Text.splitAtChar '/' (directoryOf (stated type.space)) = Text.splitAtChar '.' type.groupKey := by
  have valid := groupKey_segments segmented
  unfold TypeDecl.groupKey at valid ⊢
  cases space : stated type.space with
  | none => decide
  | some text =>
    rw [space, Option.getD_some] at valid
    have some : Text.splitAtChar '.' text ≠ [] := by simp [Text.splitAtChar]
    exact split_intercalate some fun part member => (valid part member).2.2.2

theorem directory_segments :
    Path.partsOf (directoryOf (stated type.space)) = Text.splitAtChar '.' type.groupKey := by
  rw [Path.partsOf, directory_pieces segmented, List.filter_eq_self]
  intro part member
  obtain ⟨some, notDot, -, -⟩ := groupKey_segments segmented part member
  simp [some, notDot]

/-- What starts with a dot has an empty part, and a part that starts with a slash has one. -/
theorem segmented_stays : ¬ leadsOut type := by
  intro out
  cases space : stated type.space with
  | none => simp [leadsOut, space] at out
  | some text =>
    have dotted : ".".toList = ['.'] := rfl
    have slashed : "/".toList = ['/'] := rfl
    simp only [leadsOut, space, Bool.or_eq_true, startsWith_char dotted, startsWith_char slashed,
      List.head?_eq_some_iff] at out
    rcases out with ⟨rest, chars⟩ | ⟨rest, chars⟩
    · have solid : "" ∉ Text.splitAtChar '.' text :=
        fun empty => (segmented text space "" empty).1 rfl
      exact (Text.separator_inside solid).2.1 (by simp [chars])
    · obtain ⟨first, others, pieces⟩ := List.exists_cons_of_ne_nil (List.splitOn_ne_nil '.' rest)
      have part : String.ofList ('/' :: first) ∈ Text.splitAtChar '.' text := by
        simp [Text.splitAtChar, chars, List.splitOn_cons_eq_if_modifyHead, pieces]
      exact (segmented text space _ part).2 (by simp)

end Segmented

/-- Under what a type is remembered while those that stay are chosen. -/
def laidUnder (map : TypeMap) (type : TypeDecl) : String × String :=
  (type.groupKey, map.structName type.name)

theorem laidUnder_of_file {map : TypeMap} {first second : TypeDecl}
    (key : first.groupKey = second.groupKey)
    (file : [fileName map first] = [fileName map second]) :
    laidUnder map first = laidUnder map second :=
  Prod.ext key (String.append_left_inj headerSuffix |>.mp (List.singleton_inj.mp file))

theorem unitPath_injective {map : TypeMap} (wordy : map.sanitizer.Wordy) {first second : TypeDecl}
    (firstSegmented : Segmented first.space) (secondSegmented : Segmented second.space)
    (same : (Path.ofText (unitPath map first)).parts = (Path.ofText (unitPath map second)).parts) :
    laidUnder map first = laidUnder map second := by
  rw [unitPath_parts wordy, unitPath_parts wordy, directory_segments firstSegmented,
    directory_segments secondSegmented] at same
  obtain ⟨directories, files⟩ := List.append_inj' same rfl
  exact laidUnder_of_file (splitAtChar_injective '.' directories) files

theorem survivorsFrom_laidUnder (map : TypeMap) (seen : List (String × String))
    (types : List TypeDecl) :
    ((survivorsFrom map seen types).map (laidUnder map)).Nodup ∧
      ∀ type ∈ survivorsFrom map seen types, laidUnder map type ∉ seen := by
  induction types generalizing seen with
  | nil => exact ⟨List.nodup_nil, fun _ member => by cases member⟩
  | cons type rest ih =>
    simp only [survivorsFrom]
    by_cases passed : (map.isReservedName type.cleanName ||
        seen.contains (type.groupKey, map.structName type.name)) = true
    · rw [if_pos passed]
      exact ih seen
    · rw [if_neg passed]
      obtain ⟨distinct, unseen⟩ := ih (laidUnder map type :: seen)
      rw [Bool.or_eq_true, not_or, List.contains_iff_mem] at passed
      constructor
      · rw [List.map_cons, List.nodup_cons]
        refine ⟨?_, distinct⟩
        intro repeated
        obtain ⟨other, member, same⟩ := List.mem_map.mp repeated
        exact unseen other member (same ▸ List.mem_cons_self)
      · intro other member
        rcases List.mem_cons.mp member with rfl | later
        · exact passed.2
        · exact fun inside => unseen other later (List.mem_cons_of_mem _ inside)

theorem groupOf_laidUnder {map : TypeMap} {types : List TypeDecl}
    (once : (types.map (laidUnder map)).Nodup) (key : String) :
    ((groupOf types key).types.map (laidUnder map)).Nodup := by
  have placed : ((groupOf types key).types.map (·.fullName)).Nodup :=
    basesFirst_once _
  rw [List.nodup_map_iff_inj_on placed.of_map]
  intro first inFirst second inSecond same
  exact List.inj_on_of_nodup_map once (mem_of_groupOf inFirst).1 (mem_of_groupOf inSecond).1 same

theorem writtenOrder_laidUnder (map : TypeMap) (types : List TypeDecl) :
    ((writtenOrder map types).map (laidUnder map)).Nodup := by
  have once : ((survivors map types).map (laidUnder map)).Nodup :=
    (survivorsFrom_laidUnder map [] types).1
  rw [writtenOrder, groups, List.flatMap_map, List.map_flatMap, List.nodup_flatMap]
  constructor
  · exact fun key _ => groupOf_laidUnder once key
  · refine (groupKeys_strict (survivors map types)).imp ?_
    -- What a type is remembered under states the key of its group.
    intro lower upper less entry inLower inUpper
    obtain ⟨first, firstMember, rfl⟩ := List.mem_map.mp inLower
    obtain ⟨second, secondMember, same⟩ := List.mem_map.mp inUpper
    have keys : second.groupKey = first.groupKey := congrArg Prod.fst same
    rw [(mem_of_groupOf firstMember).2, (mem_of_groupOf secondMember).2] at keys
    exact String.lt_irrefl lower (keys ▸ less)

theorem mem_of_writtenOrder {map : TypeMap} {types : List TypeDecl} {type : TypeDecl}
    (written : type ∈ writtenOrder map types) : type ∈ types := by
  obtain ⟨group, listed, member⟩ := List.mem_flatMap.mp written
  obtain ⟨key, -, rfl⟩ := List.mem_map.mp listed
  exact (survivors_sublist map types).subset (mem_of_groupOf member).1

/-- What tells types of different groups or names apart is different for all types written. -/
theorem writtenOrder_apart {map : TypeMap} {types : List TypeDecl} {α : Type} {place : TypeDecl → α}
    (tells : ∀ first ∈ types, ∀ second ∈ types, place first = place second →
      laidUnder map first = laidUnder map second) :
    ((writtenOrder map types).map place).Nodup := by
  have once := writtenOrder_laidUnder map types
  rw [List.nodup_map_iff_inj_on once.of_map]
  intro first inFirst second inSecond same
  have alike := tells first (mem_of_writtenOrder inFirst) second (mem_of_writtenOrder inSecond) same
  exact List.inj_on_of_nodup_map once inFirst inSecond alike

theorem resolve_unitPath {map : TypeMap} (wordy : map.sanitizer.Wordy) {type : TypeDecl}
    (segmented : Segmented type.space) (disk : Disk) (directory : Path) :
    disk.resolve (directory.join (unitPath map type)) =
      disk.resolve directory ++ (Path.ofText (unitPath map type)).parts :=
  Disk.resolve_join (mt (unitPath_isAbsolute map type).mp (segmented_stays segmented))
    (unitPath_descends wordy type) disk directory

/-- Of a run over types in namespaces of directory names, no two headers have one place. -/
theorem unitPlaces_distinct {map : TypeMap} (wordy : map.sanitizer.Wordy) {types : List TypeDecl}
    (segmented : ∀ type ∈ types, Segmented type.space) (disk : Disk) (directory : Path) :
    (((writtenOrder map types).map (unitPath map)).map fun path =>
      disk.resolve (directory.join path)).Nodup := by
  rw [List.map_map]
  apply writtenOrder_apart
  intro first inFirst second inSecond same
  rw [Function.comp_apply, Function.comp_apply, resolve_unitPath wordy (segmented first inFirst),
    resolve_unitPath wordy (segmented second inSecond)] at same
  exact unitPath_injective wordy (segmented first inFirst) (segmented second inSecond)
    (List.append_cancel_left same)

/-! The paths of a run's headers are those of its pages. -/

theorem jobFor_wordy (settings : Settings) (render : Renderer) (types : List TypeDecl) :
    (jobFor settings Sanitizer.forHeaders render types).map.sanitizer.Wordy := by
  simp only [jobFor, (TypeMap.declareAll_rest _ types).1]
  exact Sanitizer.wordy_forHeaders

theorem writePages_paths {job : Job} {pages : List Page} {before after : Arranged}
    (written : pages.foldlM (writePage job) before = .ok after) :
    after.headers.map (·.path) = before.headers.map (·.path) ++ pages.map (·.path) := by
  induction pages generalizing before with
  | nil => cases written; simp
  | cons page rest ih =>
    rw [List.foldlM_cons] at written
    cases opened : preamble job page.includes with
    | error failure => simp [writePage, opened, bind, Except.bind] at written
    | ok opening =>
      simp only [writePage, opened, bind, Except.bind, pure, Except.pure] at written
      rw [ih written]
      simp

theorem generateOn_paths {job : Job} {types : List TypeDecl} {generation : Generation}
    (generated : generateOn job types = .ok generation) :
    generation.headers.map (·.path) = (pages job types).map (·.path) := by
  cases arranging : arrange job types with
  | error failure => simp [generateOn, arranging, bind, Except.bind] at generated
  | ok arranged =>
    simp only [generateOn, arranging, bind, Except.bind, pure, Except.pure,
      Except.ok.injEq] at generated
    rw [arrange_writes] at arranging
    have paths := writePages_paths arranging
    rw [← generated, List.map_map]
    simpa [Function.comp_def] using paths

theorem split_paths {job : Job} (split : job.settings.singleFile = false) (types : List TypeDecl) :
    (pages job types).map (·.path) = (writtenOrder job.map types).map (unitPath job.map) := by
  rw [pages, split, writtenOrder, ← members_types]
  simp [singlePage, Function.comp_def]

end ProxyHeaders.Layout
