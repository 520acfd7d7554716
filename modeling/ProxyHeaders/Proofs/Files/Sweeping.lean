import Mathlib.Data.List.Nodup
import ProxyHeaders.Proofs.Files.Emptying

/-!
How far cleaning a directory gets. It takes each stale file and then, from the deepest on, each
directory without a file in it; it fails where a path names what is already gone, and what it has
taken until then is lost.
-/
namespace ProxyHeaders.Files

open ProxyHeaders.Layout

namespace Disk

variable {disk : Disk} {directory : Path} {root : Place} {artifacts : List String}

/-! What cleaning is about -/

/-- Of the artifacts that are there, each is listed once, and none is a header. -/
structure Once (disk : Disk) (root : Place) (artifacts : List String) : Prop where
  listed : (artifacts.filter fun name => (disk.fileAt? (root ++ [name])).isSome).Nodup
  apart : ∀ name ∈ artifacts, (disk.fileAt? (root ++ [name])).isSome →
    Text.endsWith name headerSuffix = false

/-- A place below a directory that no file but stale ones is below. -/
def Emptied (disk : Disk) (root : Place) (artifacts : List String) (place : Place) : Prop :=
  isBelow root place ∧
    ∀ names, (disk.fileAt? (place ++ names)).isSome → isStale root artifacts (place ++ names)

/-- No directory that goes, but possibly the last that is looked at, is on the way. -/
def Clear (disk : Disk) (directory : Path) (artifacts : List String) : Prop :=
  ∀ place ∈ (disk.directoriesBelow (disk.resolve directory)).dropLast,
    disk.Emptied (disk.resolve directory) artifacts place → place ∉ disk.way directory

/-- Afterwards there is no stale file, and no directory below the root without a file in it.
Everything else is as it was. -/
structure Swept (before : Disk) (root : Place) (artifacts : List String) (after : Disk) : Prop
    extends Cleaned before root artifacts after where
  directory : ∀ place, after.find? place = some .directory ↔
    before.find? place = some .directory ∧ ¬ before.Emptied root artifacts place

structure LosesOnly (before : Disk) (goes : Place → Prop) (after : Disk) : Prop where
  here : after.here = before.here
  find? : ∀ place, after.find? place = before.find? place ∨
    after.find? place = none ∧ goes place

theorem clear_of_forward (forward : ".." ∉ directory.parts) : disk.Clear directory artifacts := by
  intro place _ emptied entered
  have resolved : disk.resolve directory = disk.origin directory ++ directory.parts := by
    rw [resolve_advance, advance_all forward]
  obtain ⟨front, -, start, rfl⟩ := stops_inside forward entered
  have longer := emptied.1
  rw [resolved] at longer
  obtain ⟨names, further, same⟩ := isBelow_iff.mp longer
  rw [List.append_assoc, List.append_cancel_left_eq] at same
  have shorter := start.length_le
  rw [same, List.length_append] at shorter
  exact further (List.length_eq_zero_iff.mp (by omega))

def lostFiles (before after : Disk) : Nat :=
  (before.entries.filter fun (place, _) =>
    (before.fileAt? place).isSome && (after.fileAt? place).isNone).length

/-! Disks that have lost something -/

theorem losesOnly_without (disk : Disk) (gone : List Place) :
    disk.LosesOnly (· ∈ gone) (disk.without gone) where
  here := rfl
  find? place := by
    by_cases top : place = []
    · exact .inl (top ▸ rfl)
    · rw [find?_without top]
      by_cases lost : place ∈ gone
      · exact .inr ⟨if_pos lost, lost⟩
      · exact .inl (if_neg lost)

theorem LosesOnly.imp {after : Disk} {goes more : Place → Prop} (loses : disk.LosesOnly goes after)
    (wider : ∀ place, goes place → more place) : disk.LosesOnly more after where
  here := loses.here
  find? place := (loses.find? place).imp_right fun lost => ⟨lost.1, wider place lost.2⟩

theorem LosesOnly.trans {middle after : Disk} {goes more : Place → Prop}
    (one : disk.LosesOnly goes middle) (two : middle.LosesOnly more after) :
    disk.LosesOnly (fun place => goes place ∨ more place) after where
  here := two.here.trans one.here
  find? place := by
    rcases two.find? place with same | lost
    · rw [same]
      exact (one.find? place).imp_right fun lost => ⟨lost.1, .inl lost.2⟩
    · exact .inr ⟨lost.1, .inr lost.2⟩

theorem hasFileBelow_iff (tree : disk.IsTree) {place : Place} :
    disk.hasFileBelow place ↔ ∃ names, names ≠ [] ∧ (disk.fileAt? (place ++ names)).isSome := by
  rw [hasFileBelow, List.any_eq_true]
  constructor
  · rintro ⟨⟨other, entry⟩, listed, inside⟩
    rw [Bool.and_eq_true] at inside
    obtain ⟨names, further, rfl⟩ := isBelow_iff.mp inside.1
    cases entry with
    | directory => cases inside.2
    | file content =>
      refine ⟨names, further, Option.isSome_iff_exists.mpr ⟨content, ?_⟩⟩
      rw [fileAt?_eq_some, find?_entries (by simp [further])]
      exact (lookup_iff_mem tree.distinct).mpr listed
  · rintro ⟨names, further, file⟩
    obtain ⟨content, found, deeper⟩ := find?_of_fileAt? file
    exact ⟨_, entry_of_find? deeper found, by simp [isBelow_append further, Entry.isDirectory]⟩

theorem once_iff (tree : disk.IsTree) :
    disk.Once root artifacts ↔ (disk.stalePlaces root artifacts).Nodup := by
  have headers : (disk.headersBelow root).Nodup :=
    tree.distinct.sublist (List.filter_sublist.map _)
  have named : ((artifacts.map fun name => root ++ [name]).filter fun place =>
      (disk.fileAt? place).isSome).Nodup ↔
      (artifacts.filter fun name => (disk.fileAt? (root ++ [name])).isSome).Nodup := by
    rw [List.filter_map]
    exact List.nodup_map_iff fun first second same => by simpa using same
  have suffixed (name : String) : (root ++ [name]).getLastD "" = name := by simp
  rw [stalePlaces, List.nodup_append, named]
  constructor
  · rintro ⟨listed, apart⟩
    refine ⟨headers, listed, ?_⟩
    rintro place header _ member rfl
    obtain ⟨there, file⟩ := List.mem_filter.mp member
    obtain ⟨name, known, rfl⟩ := List.mem_map.mp there
    have ending := ((mem_headersBelow tree).mp header).2.2
    rw [suffixed, apart name known file] at ending
    cases ending
  · rintro ⟨-, listed, apart⟩
    refine ⟨listed, fun name known file => ?_⟩
    by_contra ending
    refine apart (root ++ [name]) ((mem_headersBelow tree).mpr ⟨file, ?_, ?_⟩) _
      (List.mem_filter.mpr ⟨List.mem_map_of_mem known, file⟩) rfl
    · exact isBelow_append (by simp) root
    · rw [suffixed]
      exact Bool.of_not_eq_false ending

/-! Once the stale files are gone -/

variable (tree : disk.IsTree)

include tree

theorem freed_losesOnly : disk.LosesOnly
    (fun place => (disk.fileAt? place).isSome ∧ isStale root artifacts place)
    (disk.freed root artifacts) :=
  (disk.losesOnly_without _).imp fun _ stale => (mem_stalePlaces tree).mp stale

theorem freed_keepsDirectories : disk.KeepsDirectories (disk.freed root artifacts) where
  here := rfl
  directory place found := by
    rcases (freed_losesOnly tree).find? place with same | ⟨-, file, -⟩
    · rw [same, found]
    · obtain ⟨content, stands, -⟩ := find?_of_fileAt? file
      rw [found] at stands
      cases stands

theorem freed_isDirectory (there : disk.isDirectory directory) :
    (disk.freed root artifacts).isDirectory directory := by
  obtain ⟨place, located, found⟩ := isDirectory_iff.mp there
  have keeps : disk.KeepsDirectories (disk.freed root artifacts) := freed_keepsDirectories tree
  exact isDirectory_iff.mpr ⟨place, keeps.locate located, keeps.directory place found⟩

theorem freed_isTree : (disk.freed root artifacts).IsTree where
  distinct := tree.distinct.sublist (List.filter_sublist.map _)
  named entry member := tree.named entry (List.mem_of_mem_filter member)
  inside entry member := (freed_keepsDirectories tree).directory _
    (tree.inside entry (List.mem_of_mem_filter member))

theorem freed_directoriesBelow (base : Place) :
    (disk.freed root artifacts).directoriesBelow base = disk.directoriesBelow base := by
  rw [directoriesBelow, directoriesBelow, freed, without, List.filter_filter]
  congr 2
  refine List.filter_congr fun entry listed => ?_
  obtain ⟨place, entry⟩ := entry
  cases entry with
  | file content => simp [Entry.isDirectory]
  | directory =>
    by_cases lost : place ∈ disk.stalePlaces root artifacts
    · obtain ⟨content, file, deeper⟩ := find?_of_fileAt? ((mem_stalePlaces tree).mp lost).1
      rw [find?_entries deeper, (lookup_iff_mem tree.distinct).mpr listed] at file
      cases file
    · simp [lost]

theorem mem_freed_hollow {places : List Place} {place : Place}
    (within : places ⊆ disk.directoriesBelow root) :
    place ∈ (disk.freed root artifacts).hollow places ↔
      place ∈ places ∧ disk.Emptied root artifacts place := by
  rw [mem_hollow]
  refine and_congr_right fun member => ?_
  obtain ⟨inside, found⟩ := (mem_directoriesBelow tree).mp (within member)
  rw [← Bool.not_eq_true, hasFileBelow_iff (freed_isTree tree), Emptied]
  simp only [freed_fileAt? tree, not_exists, not_and]
  constructor
  · intro none
    refine ⟨inside, fun names file => ?_⟩
    by_contra kept
    have further : names ≠ [] := by
      rintro rfl
      rw [List.append_nil, fileAt?, found] at file
      cases file
    exact none names further (by rw [if_neg kept]; exact file)
  · rintro ⟨-, stale⟩ names - file
    by_cases gone : isStale root artifacts (place ++ names) = true
    · simp [gone] at file
    · rw [if_neg gone] at file
      exact gone (stale names file)

theorem freed_without_fileAt? {lost : List Place}
    (directories : ∀ place ∈ lost, disk.find? place = some .directory) (place : Place) :
    ((disk.freed root artifacts).without lost).fileAt? place =
      if isStale root artifacts place then none else disk.fileAt? place := by
  rw [fileAt?_without, freed_fileAt? tree]
  by_cases gone : place ∈ lost
  · rw [if_pos gone, fileAt?, directories place gone, ite_self]
  · rw [if_neg gone]

theorem freed_directory {place : Place} :
    (disk.freed root artifacts).find? place = some .directory ↔
      disk.find? place = some .directory := by
  refine ⟨fun found => ?_, (freed_keepsDirectories tree).directory place⟩
  rcases (freed_losesOnly tree).find? place with same | lost
  · rw [← same, found]
  · rw [lost.1] at found
    cases found

theorem freed_swept : disk.Swept root artifacts
    ((disk.freed root artifacts).without
      ((disk.freed root artifacts).hollow (disk.directoriesBelow root))) where
  here := rfl
  fileAt? place := by
    refine freed_without_fileAt? tree (fun place gone => ?_) place
    exact ((mem_directoriesBelow tree).mp (mem_hollow.mp gone).1).2
  directory place := by
    by_cases top : place = []
    · subst top
      simp [find?_top, Emptied, isBelow]
    · have hollow : place ∈ (disk.freed root artifacts).hollow (disk.directoriesBelow root) ↔
          place ∈ disk.directoriesBelow root ∧ disk.Emptied root artifacts place :=
        mem_freed_hollow tree (List.Subset.refl _)
      rw [find?_without top]
      by_cases gone : place ∈ (disk.freed root artifacts).hollow (disk.directoriesBelow root)
      · rw [if_pos gone]
        simp [(hollow.mp gone).2]
      · rw [if_neg gone, freed_directory tree]
        exact ⟨fun found => ⟨found, fun emptied =>
          gone (hollow.mpr ⟨(mem_directoriesBelow tree).mpr ⟨emptied.1, found⟩, emptied⟩)⟩, And.left⟩

theorem length_stalePlaces (once : disk.Once root artifacts) {after : Disk}
    (cleaned : disk.Cleaned root artifacts after) :
    (disk.stalePlaces root artifacts).length = disk.lostFiles after := by
  have same : (disk.stalePlaces root artifacts).Perm
      ((disk.entries.filter fun (place, _) =>
        (disk.fileAt? place).isSome && (after.fileAt? place).isNone).map (·.1)) := by
    refine (List.perm_ext_iff_of_nodup ((once_iff tree).mp once)
      (tree.distinct.sublist (List.filter_sublist.map _))).mpr fun place => ?_
    rw [mem_stalePlaces tree, List.mem_map]
    constructor
    · rintro ⟨file, stale⟩
      obtain ⟨content, found, deeper⟩ := find?_of_fileAt? file
      exact ⟨_, List.mem_filter.mpr ⟨entry_of_find? deeper found, by
        simp [file, cleaned.fileAt?, stale]⟩, rfl⟩
    · rintro ⟨entry, member, rfl⟩
      have lost := (List.mem_filter.mp member).2
      rw [Bool.and_eq_true] at lost
      refine ⟨lost.1, ?_⟩
      by_contra kept
      rw [cleaned.fileAt?, if_neg kept] at lost
      exact absurd lost.1 (by simp [Option.isNone_iff_eq_none.mp lost.2])
  rw [same.length_eq, List.length_map, lostFiles]

end Disk

namespace Action

variable {disk : Disk} {directory : Path} {artifacts : List String}

theorem unlinkAll_stale (tree : disk.IsTree) (there : disk.isDirectory directory)
    (artifacts : List String) :
    let stale := disk.stalePlaces (disk.resolve directory) artifacts
    (disk.Once (disk.resolve directory) artifacts →
      unlinkAll (stale.map (disk.beneath directory)) disk =
        .ok () (disk.freed (disk.resolve directory) artifacts)) ∧
    (¬ disk.Once (disk.resolve directory) artifacts → ∃ path lost, lost ⊆ stale ∧
      unlinkAll (stale.map (disk.beneath directory)) disk =
        .error ⟨.missing, path⟩ (disk.without lost)) := by
  intro stale
  have run := @unlinkAll_beneath disk tree directory there stale []
    (fun place member => (Disk.stale_inside tree member).1)
    (fun place member => ((Disk.mem_stalePlaces tree).mp member).1) List.nodup_nil
  rwa [Disk.without_nil, List.nil_append, ← Disk.once_iff tree] at run

theorem dropAllEmpty_unlinked (tree : disk.IsTree) (there : disk.isDirectory directory)
    (artifacts : List String) :
    let bare := disk.freed (disk.resolve directory) artifacts
    let inside := disk.directoriesBelow (disk.resolve directory)
    (disk.Clear directory artifacts → dropAllEmpty (inside.map (disk.beneath directory)) bare =
      .ok () (bare.without (bare.hollow inside))) ∧
    (¬ disk.Clear directory artifacts → ∃ path lost, lost ⊆ bare.hollow inside ∧
      dropAllEmpty (inside.map (disk.beneath directory)) bare =
        .error ⟨.missing, path⟩ (bare.without lost)) := by
  intro bare inside
  have clear : disk.Clear directory artifacts ↔
      ∀ place ∈ bare.hollow ([] ++ inside.dropLast), place ∉ bare.way directory := by
    have hollow (place : Place) : place ∈ bare.hollow inside.dropLast ↔
        place ∈ inside.dropLast ∧ disk.Emptied (disk.resolve directory) artifacts place :=
      Disk.mem_freed_hollow tree (List.dropLast_subset inside)
    simp only [List.nil_append, hollow, and_imp]
    rfl
  by_cases none : inside = []
  · refine ⟨fun _ => ?_, fun unclear => absurd (clear.mpr ?_) unclear⟩
    · rw [none, Disk.hollow, List.filter_nil, Disk.without_nil]
      rfl
    · simp [none, Disk.hollow]
  · have listed : bare.directoriesBelow (bare.resolve directory) = [] ++ inside :=
      Disk.freed_directoriesBelow tree _
    have run := dropAllEmpty_beneath (Disk.freed_isTree tree) (Disk.freed_isDirectory tree there)
      none listed
    rw [← clear, Disk.hollow, List.filter_nil, Disk.without_nil, List.nil_append] at run
    exact run

theorem removeGenerated_unlinked (tree : disk.IsTree) (there : disk.isDirectory directory)
    (valid : ∀ name ∈ artifacts, Disk.IsFileName name)
    (once : disk.Once (disk.resolve directory) artifacts) :
    let stale := disk.stalePlaces (disk.resolve directory) artifacts
    let inside := disk.directoriesBelow (disk.resolve directory)
    removeGenerated directory artifacts disk =
      (do
        dropAllEmpty (inside.map (disk.beneath directory))
        return stale.length) (disk.freed (disk.resolve directory) artifacts) := by
  intro stale inside
  have again : (get : Action Disk) (disk.freed (disk.resolve directory) artifacts) =
    .ok (disk.freed _ artifacts) (disk.freed _ artifacts) := rfl
  rw [removeGenerated_stages there valid,
    bind_ok ((unlinkAll_stale tree there artifacts).1 once), bind_ok again,
    Disk.freed_isDirectory tree there, if_pos rfl, Disk.freed_directoriesBelow tree]
  rfl

/-- A directory is cleaned of just what is stale in it, if each file is listed once and no directory
that goes is on the way; otherwise cleaning fails on the way, before or after the files are gone. -/
theorem cleaning_settles (tree : disk.IsTree) (there : disk.isDirectory directory)
    (valid : ∀ name ∈ artifacts, Disk.IsFileName name) :
    (disk.Once (disk.resolve directory) artifacts → disk.Clear directory artifacts →
      ∃ after, removeGenerated directory artifacts disk = .ok (disk.lostFiles after) after ∧
        disk.Swept (disk.resolve directory) artifacts after) ∧
    (¬ disk.Once (disk.resolve directory) artifacts →
      ∃ path after, removeGenerated directory artifacts disk = .error ⟨.missing, path⟩ after ∧
        disk.LosesOnly (fun place => (disk.fileAt? place).isSome ∧
          Disk.isStale (disk.resolve directory) artifacts place) after) ∧
    (disk.Once (disk.resolve directory) artifacts → ¬ disk.Clear directory artifacts →
      ∃ path after, removeGenerated directory artifacts disk = .error ⟨.missing, path⟩ after ∧
        disk.Cleaned (disk.resolve directory) artifacts after ∧
        disk.LosesOnly (fun place =>
          (disk.fileAt? place).isSome ∧ Disk.isStale (disk.resolve directory) artifacts place ∨
          disk.find? place = some .directory ∧
            disk.Emptied (disk.resolve directory) artifacts place) after) := by
  obtain ⟨-, doubled⟩ := unlinkAll_stale tree there artifacts
  obtain ⟨dropped, blocked⟩ := dropAllEmpty_unlinked tree there artifacts
  refine ⟨fun once clear => ?_, fun twice => ?_, fun once unclear => ?_⟩
  · have swept : disk.Swept (disk.resolve directory) artifacts _ := Disk.freed_swept tree
    refine ⟨_, ?_, swept⟩
    rw [removeGenerated_unlinked tree there valid once, bind_ok (dropped clear),
      Disk.length_stalePlaces tree once swept.toCleaned]
    rfl
  · obtain ⟨path, lost, stale, failed⟩ := doubled twice
    refine ⟨path, disk.without lost, ?_, ?_⟩
    · rw [removeGenerated_stages there valid]
      exact bind_error failed
    · exact (disk.losesOnly_without lost).imp fun place gone =>
        (Disk.mem_stalePlaces tree).mp (stale gone)
  · obtain ⟨path, lost, hollow, failed⟩ := blocked unclear
    have emptied (place : Place) (gone : place ∈ lost) :
        disk.find? place = some .directory ∧
          disk.Emptied (disk.resolve directory) artifacts place := by
      have found := (Disk.mem_freed_hollow tree (List.Subset.refl _)).mp (hollow gone)
      exact ⟨((Disk.mem_directoriesBelow tree).mp found.1).2, found.2⟩
    let bare := disk.freed (disk.resolve directory) artifacts
    refine ⟨path, bare.without lost, ?_, ⟨rfl, ?_⟩, ?_⟩
    · rw [removeGenerated_unlinked tree there valid once]
      exact bind_error failed
    · exact Disk.freed_without_fileAt? tree fun place gone => (emptied place gone).1
    · exact (Disk.freed_losesOnly tree).trans ((bare.losesOnly_without lost).imp emptied)

def cellar : Disk :=
  { entries := [(["o"], .directory), (["o", "A.txt"], .file (.text "a")),
      (["o", "deep"], .directory), (["o", "deep", "B.hpp"], .file (.text "b"))] }

theorem cellar_isTree : cellar.IsTree := by
  refine ⟨by decide, by decide, ?_⟩
  simp only [cellar, List.forall_mem_cons]
  exact ⟨rfl, rfl, rfl, rfl, fun _ none => by cases none⟩

theorem cellar_settled :
    (∃ after, removeGenerated (.ofText "o") ["A.txt"] cellar = .ok (cellar.lostFiles after) after ∧
      cellar.Swept ["o"] ["A.txt"] after) ∧
    ∃ path after, removeGenerated (.ofText "o") ["A.txt", "A.txt"] cellar =
      .error ⟨.missing, path⟩ after := by
  constructor
  · refine (cleaning_settles cellar_isTree rfl (by decide)).1 ⟨by decide, ?_⟩
      (Disk.clear_of_forward (by decide))
    intro name listed _
    rw [List.mem_singleton.mp listed]
    decide
  · obtain ⟨path, after, failed, -⟩ :=
      (@cleaning_settles cellar (.ofText "o") ["A.txt", "A.txt"] cellar_isTree rfl (by decide)).2.1
        fun once => absurd once.listed (by decide)
    exact ⟨path, after, failed⟩

end Action

end ProxyHeaders.Files
