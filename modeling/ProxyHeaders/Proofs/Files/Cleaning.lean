import Mathlib.Data.List.Induction
import ProxyHeaders.Proofs.Files.Writing

/-!
What cleaning does to a disk: the headers below a directory and the artifacts at its top go, and
with them directories that hold no file. Every other file stays as it is.
-/
namespace ProxyHeaders.Files

open ProxyHeaders.Layout

namespace Disk

variable {disk after : Disk}

/-- A disk holds a tree if there is one entry at a place, each of them in a directory, and no place
is called like the way back. -/
structure IsTree (disk : Disk) : Prop where
  distinct : (disk.entries.map (·.1)).Nodup
  named : ∀ entry ∈ disk.entries, ".." ∉ entry.1
  inside : ∀ entry ∈ disk.entries, disk.find? entry.1.dropLast = some .directory

theorem deeper_of_file {place : Place} {content : Content} (found : disk.fileAt? place = some content) :
    place ≠ [] := by
  rintro rfl
  cases found

theorem entry_of_find? {place : Place} {entry : Entry} (deeper : place ≠ [])
    (found : disk.find? place = some entry) : (place, entry) ∈ disk.entries := by
  rw [find?_entries deeper] at found
  exact mem_of_lookup found

theorem IsTree.nothing_below (tree : disk.IsTree) {root : Place} (nothing : disk.find? root = none)
    (names : List String) : disk.find? (root ++ names) = none := by
  induction names using List.reverseRecOn with
  | nil => rwa [List.append_nil]
  | append_singleton names name ih =>
    rw [← List.append_assoc]
    cases found : disk.find? (root ++ names ++ [name]) with
    | none => rfl
    | some entry =>
      have inside := tree.inside _ (entry_of_find? (by simp) found)
      rw [List.dropLast_concat, ih] at inside
      cases inside

/-! Files that go -/

theorem unlink_ok {path : Path} (unlinked : disk.unlink path = .ok after) :
    after = disk.without [disk.resolve path] := by
  unfold unlink at unlinked
  cases located : disk.locate path with
  | error trouble => simp [located] at unlinked
  | ok place =>
    cases found : disk.find? place with
    | none => simp [located, found] at unlinked
    | some entry =>
      cases entry with
      | directory => simp [located, found] at unlinked
      | file content =>
        simp only [located, found, Except.ok.injEq] at unlinked
        rw [← unlinked, ← locate_resolves located, drop_without]

end Disk

theorem Action.unlinkAll_ends (paths : List Path) (disk : Disk) :
    Ends (fun _ => True) (fun _ after => after = disk.without (paths.map disk.resolve))
      (unlinkAll paths disk) := by
  induction paths generalizing disk with
  | nil => exact disk.without_nil.symm
  | cons path rest ih =>
    have begun : Ends (fun _ => True) (fun _ after => after = disk.without [disk.resolve path])
        (change (·.unlink path) disk) := .change trivial fun after => Disk.unlink_ok
    refine begun.bind ?_
    rintro _ middle rfl
    refine (ih _).imp (fun _ _ => trivial) ?_
    rintro _ after rfl
    exact disk.without_without _ _

namespace Disk

variable {disk after : Disk}

theorem dropIfEmpty_files {path : Path} (dropped : disk.dropIfEmpty path = .ok after) :
    after.here = disk.here ∧ ∀ place, after.fileAt? place = disk.fileAt? place := by
  unfold dropIfEmpty at dropped
  cases located : disk.locate path with
  | error trouble => simp [located] at dropped
  | ok root =>
    cases found : disk.find? root with
    | none => simp [located, found] at dropped
    | some entry =>
      cases entry with
      | file content => simp [located, found] at dropped
      | directory =>
        simp only [located, found, Except.ok.injEq] at dropped
        subst dropped
        split
        · exact ⟨rfl, fun _ => rfl⟩
        · refine ⟨rfl, fun place => ?_⟩
          rw [drop_without, fileAt?_without]
          by_cases same : place ∈ [root]
          · rw [if_pos same, List.mem_singleton.mp same, fileAt?, found]
          · rw [if_neg same]

end Disk

theorem Action.dropAllEmpty_ends (paths : List Path) (disk : Disk) :
    Ends (fun _ => True)
      (fun _ after => after.here = disk.here ∧ ∀ place, after.fileAt? place = disk.fileAt? place)
      (dropAllEmpty paths disk) := by
  induction paths generalizing disk with
  | nil => exact ⟨rfl, fun _ => rfl⟩
  | cons path rest ih =>
    have begun : Ends (fun _ => True)
        (fun _ after => after.here = disk.here ∧ ∀ place, after.fileAt? place = disk.fileAt? place)
        (change (·.dropIfEmpty path) disk) := .change trivial fun after => Disk.dropIfEmpty_files
    refine begun.bind ?_
    intro _ middle first
    refine (ih middle).imp (fun _ _ => trivial) ?_
    intro _ after later
    exact ⟨later.1.trans first.1, fun place => (later.2 place).trans (first.2 place)⟩

namespace Disk

variable {disk : Disk}

/-- What a run may have left at a place below a directory: a header, or an artifact at the top. -/
def isStale (root : Place) (artifacts : List String) (place : Place) : Bool :=
  (isBelow root place && Text.endsWith (place.getLastD "") headerSuffix) ||
    artifacts.any fun name => place == root ++ [name]

theorem isStale_inside {root : Place} {artifacts : List String} {place : Place}
    (stale : isStale root artifacts place) : root <+: place := by
  rcases Bool.or_eq_true_iff.mp stale with header | artifact
  · have below := (Bool.and_eq_true_iff.mp header).1
    exact List.isPrefixOf_iff_prefix.mp (Bool.and_eq_true_iff.mp below).1
  · obtain ⟨name, -, same⟩ := List.any_eq_true.mp artifact
    rw [eq_of_beq same]
    exact List.prefix_append root [name]

theorem isStale_artifact (root : Place) {artifacts : List String} {name : String}
    (listed : name ∈ artifacts) : isStale root artifacts (root ++ [name]) := by
  rw [isStale, Bool.or_eq_true, List.any_eq_true]
  exact .inr ⟨name, listed, beq_self_eq_true _⟩

def IsFileName (name : String) : Prop :=
  ¬ (Path.ofText name).isAbsolute ∧ (Path.ofText name).parts = [name] ∧ name ≠ ".."

instance (name : String) : Decidable (IsFileName name) :=
  inferInstanceAs (Decidable (¬ (Path.ofText name).isAbsolute ∧ (Path.ofText name).parts = [name] ∧
    name ≠ ".."))

theorem IsFileName.resolve {name : String} (valid : IsFileName name) (disk : Disk)
    (directory : Path) : disk.resolve (directory.join name) = disk.resolve directory ++ [name] := by
  obtain ⟨relative, parts, further⟩ := valid
  rw [resolve_join relative (by simpa [parts] using Ne.symm further), parts]

theorem walk_of_isDirectory {path : Path} (there : disk.isDirectory path) :
    disk.walk (disk.origin path) path.parts = .ok (disk.resolve path) ∧
      disk.find? (disk.resolve path) = some .directory := by
  obtain ⟨place, located, found⟩ := isDirectory_iff.mp there
  have resolved := locate_resolves located
  subst resolved
  refine ⟨?_, found⟩
  rcases List.eq_nil_or_concat' path.parts with parts | ⟨above, name, parts⟩
  · rw [locate_empty parts] at located
    rw [parts, ← Except.ok.inj located]
    rfl
  · rw [locate_last parts] at located
    rw [parts, walk_append]
    cases walked : disk.walk (disk.origin path) above with
    | error trouble => simp [walked, Except.map] at located
    | ok reached =>
      rw [walked] at located
      rw [← Except.ok.inj located] at found ⊢
      simp only [Except.bind, walk, advance] at found ⊢
      by_cases back : (name == "..") = true
      · simp [back]
      · simp only [back, Bool.false_eq_true, if_false] at found ⊢
        rw [found]

theorem isFile_iff {path : Path} :
    disk.isFile path ↔
      ∃ content place, disk.locate path = .ok place ∧ disk.find? place = some (.file content) := by
  simp only [← entryAt_eq_some, isFile, content?]
  cases disk.entryAt path with
  | none => simp
  | some entry => cases entry <;> simp

/-- The path on which a search comes to a place leads there. -/
theorem resolve_beneath {directory : Path} {place : Place}
    (inside : isBelow (disk.resolve directory) place) (further : ".." ∉ place) :
    disk.resolve (disk.beneath directory place) = place := by
  obtain ⟨names, -, rfl⟩ := isBelow_iff.mp inside
  rw [List.mem_append, not_or] at further
  rw [beneath, List.drop_left, resolve_advance, List.foldl_append, advance_all further.2]
  rfl

theorem IsFileName.join {name : String} (valid : IsFileName name) (disk : Disk)
    (directory : Path) :
    directory.join name = disk.beneath directory (disk.resolve directory ++ [name]) := by
  simp only [Path.join, valid.1, Bool.false_eq_true, if_false, valid.2.1, beneath, List.drop_left]

theorem isFile_join {directory : Path} (there : disk.isDirectory directory) {name : String}
    (valid : IsFileName name) :
    disk.isFile (directory.join name) ↔
      (disk.fileAt? (disk.resolve directory ++ [name])).isSome := by
  have located : disk.locate (directory.join name) = .ok (disk.resolve directory ++ [name]) := by
    have start : disk.origin ⟨directory.anchor, directory.parts ++ [name]⟩ = disk.origin directory :=
      rfl
    rw [valid.join disk, beneath, List.drop_left, locate_last rfl, start,
      (walk_of_isDirectory there).1, Except.map, advance_further valid.2.2]
  simp only [isFile_iff, located, Except.ok.injEq, exists_eq_left', ← fileAt?_eq_some,
    Option.isSome_iff_exists]

/-! Cleaning -/

/-- Afterwards there is no stale file at or below a directory, and every other file is as it was. -/
structure Cleaned (before : Disk) (root : Place) (artifacts : List String) (after : Disk) : Prop where
  here : after.here = before.here
  fileAt? : ∀ place, after.fileAt? place =
    if isStale root artifacts place then none else before.fileAt? place

/-- Where there is something to unlink: first the headers, then the artifacts. -/
def stalePlaces (disk : Disk) (root : Place) (artifacts : List String) : List Place :=
  disk.headersBelow root ++
    (artifacts.map fun name => root ++ [name]).filter fun place => (disk.fileAt? place).isSome

theorem mem_headersBelow (tree : disk.IsTree) {root place : Place} :
    place ∈ disk.headersBelow root ↔ (disk.fileAt? place).isSome ∧ isBelow root place ∧
      Text.endsWith (place.getLastD "") headerSuffix := by
  rw [headersBelow, List.mem_map, Option.isSome_iff_exists]
  constructor
  · rintro ⟨⟨place, entry⟩, member, rfl⟩
    obtain ⟨listed, stale⟩ := List.mem_filter.mp member
    simp only [Bool.and_eq_true, Bool.not_eq_true'] at stale
    obtain ⟨⟨inside, file⟩, suffixed⟩ := stale
    obtain ⟨names, further, rfl⟩ := isBelow_iff.mp inside
    cases entry with
    | directory => cases file
    | file content =>
      have found := (lookup_iff_mem tree.distinct).mpr listed
      rw [← find?_entries (by simp [further])] at found
      exact ⟨⟨content, fileAt?_eq_some.mpr found⟩, inside, suffixed⟩
  · rintro ⟨⟨content, found⟩, inside, suffixed⟩
    have listed := entry_of_find? (deeper_of_file found) (fileAt?_eq_some.mp found)
    refine ⟨_, List.mem_filter.mpr ⟨listed, ?_⟩, rfl⟩
    simp only [inside, suffixed, Entry.isDirectory, Bool.not_false, Bool.and_self]

/-- What is unlinked to clean a directory is what there is of stale files. -/
theorem mem_stalePlaces (tree : disk.IsTree) {root place : Place} {artifacts : List String} :
    place ∈ disk.stalePlaces root artifacts ↔
      (disk.fileAt? place).isSome ∧ isStale root artifacts place := by
  have artifact : (∃ name ∈ artifacts, root ++ [name] = place) ↔
      artifacts.any (fun name => place == root ++ [name]) = true := by
    simp only [List.any_eq_true, beq_iff_eq, @eq_comm Place place]
  rw [stalePlaces, List.mem_append, mem_headersBelow tree, List.mem_filter, List.mem_map, artifact,
    isStale, Bool.or_eq_true, Bool.and_eq_true]
  tauto

/-- The disk once what is stale is gone. -/
def freed (disk : Disk) (root : Place) (artifacts : List String) : Disk :=
  disk.without (disk.stalePlaces root artifacts)

theorem freed_fileAt? (tree : disk.IsTree) {root : Place} {artifacts : List String}
    (place : Place) :
    (disk.freed root artifacts).fileAt? place =
      if isStale root artifacts place then none else disk.fileAt? place := by
  rw [freed, fileAt?_without]
  cases found : disk.fileAt? place with
  | none => rw [ite_self, ite_self]
  | some content => simp only [mem_stalePlaces tree, found, Option.isSome_some, true_and]

theorem stale_inside (tree : disk.IsTree) {root place : Place} {artifacts : List String}
    (stale : place ∈ disk.stalePlaces root artifacts) : isBelow root place ∧ ".." ∉ place := by
  obtain ⟨there, listed⟩ := (mem_stalePlaces tree).mp stale
  obtain ⟨content, found⟩ := Option.isSome_iff_exists.mp there
  refine ⟨?_, tree.named _ (entry_of_find? (deeper_of_file found) (fileAt?_eq_some.mp found))⟩
  rcases Bool.or_eq_true_iff.mp listed with header | artifact
  · exact (Bool.and_eq_true_iff.mp header).1
  · obtain ⟨name, -, same⟩ := List.any_eq_true.mp artifact
    rw [eq_of_beq same]
    exact isBelow_append (by simp) root

theorem stale_paths {directory : Path} (there : disk.isDirectory directory)
    {artifacts : List String} (valid : ∀ name ∈ artifacts, IsFileName name) :
    (disk.headersBelow (disk.resolve directory)).map (disk.beneath directory) ++
        (artifacts.map directory.join).filter disk.isFile =
      (disk.stalePlaces (disk.resolve directory) artifacts).map (disk.beneath directory) := by
  have named : (artifacts.map directory.join).filter disk.isFile =
      ((artifacts.map fun name => disk.resolve directory ++ [name]).filter fun place =>
        (disk.fileAt? place).isSome).map (disk.beneath directory) := by
    rw [List.filter_map, List.filter_map, List.map_map]
    have same : ∀ name ∈ artifacts, (disk.isFile ∘ directory.join) name =
        ((fun place => (disk.fileAt? place).isSome) ∘ (disk.resolve directory ++ [·])) name :=
      fun name listed => Bool.eq_iff_iff.mpr (isFile_join there (valid name listed))
    rw [List.filter_congr same]
    exact List.map_congr_left fun name member =>
      (valid name (List.mem_of_mem_filter member)).join disk directory
  rw [stalePlaces, List.map_append, named]

end Disk

namespace Action

variable {disk : Disk} {directory : Path} {artifacts : List String}

/-- Cleaning a directory is unlinking what is stale and then looking at what is inside. -/
theorem removeGenerated_stages (there : disk.isDirectory directory)
    (valid : ∀ name ∈ artifacts, Disk.IsFileName name) :
    let stale := disk.stalePlaces (disk.resolve directory) artifacts
    removeGenerated directory artifacts disk =
      (do
        unlinkAll (stale.map (disk.beneath directory))
        let left ← get
        dropAllEmpty ((if left.isDirectory directory then
          left.directoriesBelow (disk.resolve directory) else []).map (left.beneath directory))
        return stale.length) disk := by
  have begun : (get : Action Disk) disk = .ok disk disk := rfl
  rw [removeGenerated, bind_ok begun]
  simp only [there, if_true, Disk.stale_paths there valid, List.length_map]

theorem removeGenerated_ends (tree : disk.IsTree) (there : disk.isDirectory directory)
    (valid : ∀ name ∈ artifacts, Disk.IsFileName name) :
    Ends (fun _ => True) (fun _ after => disk.Cleaned (disk.resolve directory) artifacts after)
      (removeGenerated directory artifacts disk) := by
  have unlinked : ((disk.stalePlaces (disk.resolve directory) artifacts).map
      (disk.beneath directory)).map disk.resolve =
        disk.stalePlaces (disk.resolve directory) artifacts := by
    rw [List.map_map, List.map_congr_left (g := id), List.map_id]
    exact fun place stale =>
      Disk.resolve_beneath (Disk.stale_inside tree stale).1 (Disk.stale_inside tree stale).2
  rw [removeGenerated_stages there valid]
  refine (unlinkAll_ends _ disk).bind ?_
  rintro _ middle rfl
  refine .get ((dropAllEmpty_ends _ _).bind ?_)
  rintro _ after ⟨here, same⟩
  refine ⟨here, fun place => ?_⟩
  rw [same, unlinked]
  exact Disk.freed_fileAt? tree place

theorem prepare_keeps {clean : Bool} {survivors : List Path}
    (kept : clean = false ∨ disk.isPresent directory = false ∨
      disk.isProtected directory survivors = true) :
    Ends disk.GainsDirectories
      (fun _ after => disk.GainsDirectories after ∧ after.isDirectory directory)
      (prepare directory clean survivors artifacts disk) := by
  have idle : (clean && disk.isPresent directory && !disk.isProtected directory survivors) = false := by
    rcases kept with no | absent | guarded
    · simp [no]
    · simp [absent]
    · simp [guarded]
  unfold prepare
  refine .get ?_
  simp only [idle, Bool.false_eq_true, if_false]
  exact makeDirectories_ends directory disk

theorem removeGenerated_file (tree : disk.IsTree)
    (valid : ∀ name ∈ artifacts, Disk.IsFileName name) {content : Content}
    (there : disk.entryAt directory = some (.file content)) :
    Ends (fun _ => True) (fun _ after => after = disk)
      (removeGenerated directory artifacts disk) := by
  have noDirectory : ¬ disk.isDirectory directory := by
    simp [Disk.isDirectory, there, Entry.isDirectory]
  obtain ⟨root, located, own⟩ := Disk.entryAt_eq_some.mp there
  have noFile : (artifacts.map directory.join).filter disk.isFile = [] := by
    rw [List.filter_eq_nil_iff]
    intro path member
    obtain ⟨name, listed, rfl⟩ := List.mem_map.mp member
    rw [Disk.isFile_iff]
    rintro ⟨content, below, inFile, found⟩
    -- A file below the root makes the root a directory.
    rw [Disk.locate_resolves inFile, (valid name listed).resolve, ← Disk.locate_resolves located]
      at found
    have inside := tree.inside _ (Disk.entry_of_find? (by simp) found)
    rw [List.dropLast_concat, own] at inside
    cases inside
  unfold removeGenerated
  refine .get ?_
  simp only [noDirectory, noFile, Bool.false_eq_true, if_false, List.map_nil, List.append_nil]
  have idle : Ends (fun _ => True) (fun _ after => after = disk) (unlinkAll [] disk) := rfl
  refine idle.bind ?_
  rintro _ _ rfl
  refine .get ?_
  simp only [noDirectory, Bool.false_eq_true, if_false]
  rfl

/-- A directory that a path leads to is cleaned if it is not protected. -/
theorem prepare_cleans {survivors : List Path} (tree : disk.IsTree)
    (valid : ∀ name ∈ artifacts, Disk.IsFileName name) (present : disk.isPresent directory = true)
    (unprotected : disk.isProtected directory survivors = false) :
    Ends (fun _ => True) (fun _ after => disk.Cleaned (disk.resolve directory) artifacts after)
      (prepare directory true survivors artifacts disk) := by
  unfold prepare
  refine .get ?_
  simp only [present, unprotected, Bool.not_false, Bool.and_self, if_true]
  obtain ⟨entry, there⟩ := Option.isSome_iff_exists.mp present
  cases entry with
  | directory =>
    have isDirectory : disk.isDirectory directory := by
      simp [Disk.isDirectory, there, Entry.isDirectory]
    refine (removeGenerated_ends tree isDirectory valid).bind ?_
    intro _ middle cleaned
    refine (makeDirectories_ends directory middle).imp (fun _ _ => trivial) ?_
    rintro _ after ⟨gains, -⟩
    exact ⟨gains.here.trans cleaned.here,
      fun place => (gains.fileAt? place).trans (cleaned.fileAt? place)⟩
  | file content =>
    refine (removeGenerated_file tree valid there).bind ?_
    intro _ middle same
    subst same
    refine (makeDirectories_ends directory middle).imp (fun _ _ => trivial) ?_
    rintro _ after ⟨gains, made⟩
    -- The file is still in the way of the directory.
    obtain ⟨place, located, own⟩ := Disk.entryAt_eq_some.mp there
    obtain ⟨same, again, found⟩ := Disk.isDirectory_iff.mp made
    rw [gains.keepsDirectories.locate located] at again
    cases again
    rw [gains.kept _ _ own] at found
    cases found

end Action

end ProxyHeaders.Files
