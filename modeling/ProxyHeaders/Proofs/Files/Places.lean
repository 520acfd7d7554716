import Mathlib.Data.List.Basic
import ProxyHeaders.Files.Output
import ProxyHeaders.Proofs.Entries

/-!
What stands at the places of a disk. A path that can be walked leads to the place that its segments
name, and a change to a disk is known by the places where something else stands afterwards.
-/
namespace ProxyHeaders.Files

def advance (place : Place) (name : String) : Place :=
  if name == ".." then place.dropLast else place ++ [name]

theorem advance_further {name : String} (further : name ≠ "..") (place : Place) :
    advance place name = place ++ [name] := if_neg (by simpa using further)

theorem advance_all {names : List String} (further : ".." ∉ names) (place : Place) :
    names.foldl advance place = place ++ names := by
  induction names generalizing place with
  | nil => simp
  | cons name rest ih =>
    rw [List.mem_cons, not_or] at further
    rw [List.foldl_cons, advance_further (Ne.symm further.1), ih further.2, List.append_assoc]
    rfl

/-- The places that a way enters by their names, from a place on. -/
def stops (place : Place) : List String → List Place
  | [] => []
  | name :: rest =>
    if name == ".." then stops place.dropLast rest
    else (place ++ [name]) :: stops (place ++ [name]) rest

theorem stops_inside {place stop : Place} {names : List String} (further : ".." ∉ names)
    (entered : stop ∈ stops place names) :
    ∃ front, front ≠ [] ∧ front <+: names ∧ stop = place ++ front := by
  induction names generalizing place with
  | nil => cases entered
  | cons name rest inner =>
    rw [List.mem_cons, not_or] at further
    rw [stops, if_neg (by simpa using Ne.symm further.1)] at entered
    rcases List.mem_cons.mp entered with rfl | later
    · exact ⟨[name], by simp, by simp, rfl⟩
    · obtain ⟨front, -, start, rfl⟩ := inner further.2 later
      exact ⟨name :: front, by simp, by simpa using start, by simp⟩

namespace Disk

variable {disk : Disk}

/-! Walking -/

theorem resolve_advance (disk : Disk) (path : Path) :
    disk.resolve path = path.parts.foldl advance (disk.origin path) := rfl

/-- Paths lead to the same places wherever they start from the same place. -/
theorem resolve_of_here {after : Disk} (same : after.here = disk.here) (path : Path) :
    after.resolve path = disk.resolve path := by
  rw [resolve_advance, resolve_advance, origin, origin, same]

theorem walk_resolves {place reached : Place} {names : List String}
    (walked : disk.walk place names = .ok reached) : reached = names.foldl advance place := by
  induction names generalizing place with
  | nil => exact (Except.ok.inj walked).symm
  | cons name rest ih =>
    rw [walk] at walked
    rw [List.foldl_cons, advance]
    by_cases back : (name == "..") = true
    · rw [if_pos back] at walked ⊢
      exact ih walked
    · rw [if_neg back] at walked ⊢
      cases found : disk.find? (place ++ [name]) with
      | none => simp [found] at walked
      | some entry =>
        cases entry with
        | file content => simp [found] at walked
        | directory =>
          simp only [found] at walked
          exact ih walked

theorem walk_append (place : Place) (first second : List String) :
    disk.walk place (first ++ second) =
      (disk.walk place first).bind fun reached => disk.walk reached second := by
  induction first generalizing place with
  | nil => rfl
  | cons name rest ih =>
    rw [List.cons_append, walk, walk]
    by_cases back : (name == "..") = true
    · rw [if_pos back, if_pos back, ih]
    · rw [if_neg back, if_neg back]
      cases disk.find? (place ++ [name]) with
      | none => rfl
      | some entry =>
        cases entry with
        | file content => rfl
        | directory => exact ih _

theorem locate_last {path : Path} {above : List String} {name : String}
    (parts : path.parts = above ++ [name]) :
    disk.locate path =
      (disk.walk (disk.origin path) above).map fun reached => advance reached name := by
  simp only [locate, parts, List.dropLast_concat, List.getLast?_concat]
  cases disk.walk (disk.origin path) above with
  | error trouble => rfl
  | ok reached =>
    simp only [bind, Except.bind, pure, Except.pure, Except.map, advance]

theorem locate_empty {path : Path} (parts : path.parts = []) :
    disk.locate path = .ok (disk.origin path) := by
  simp only [locate, parts]
  rfl

theorem locate_resolves {path : Path} {place : Place} (located : disk.locate path = .ok place) :
    place = disk.resolve path := by
  rw [resolve_advance]
  rcases List.eq_nil_or_concat' path.parts with parts | ⟨above, name, parts⟩
  · rw [locate_empty parts] at located
    rw [parts]
    exact (Except.ok.inj located).symm
  · rw [locate_last parts] at located
    cases walked : disk.walk (disk.origin path) above with
    | error trouble => simp [walked, Except.map] at located
    | ok reached =>
      rw [walked] at located
      rw [parts, List.foldl_concat, ← walk_resolves walked]
      exact (Except.ok.inj located).symm

/-- What a relative text without `..` names from a directory is below it. -/
theorem resolve_join {text : String} (relative : ¬ (Path.ofText text).isAbsolute)
    (further : ".." ∉ (Path.ofText text).parts) (disk : Disk) (directory : Path) :
    disk.resolve (directory.join text) = disk.resolve directory ++ (Path.ofText text).parts := by
  have joined : directory.join text =
      { directory with parts := directory.parts ++ (Path.ofText text).parts } := by
    simp only [Path.join, relative, if_false, Bool.false_eq_true]
  rw [joined, resolve_advance, List.foldl_append, advance_all further]
  rfl

/-! Places -/

def fileAt? (disk : Disk) (place : Place) : Option Content :=
  match disk.find? place with
  | some (.file content) => some content
  | _ => none

theorem fileAt?_eq_some {place : Place} {content : Content} :
    disk.fileAt? place = some content ↔ disk.find? place = some (.file content) := by
  unfold fileAt?
  cases disk.find? place with
  | none => simp
  | some entry => cases entry <;> simp

theorem find?_top (disk : Disk) : disk.find? [] = some .directory := rfl

theorem find?_entries {place : Place} (deeper : place ≠ []) :
    disk.find? place = disk.entries.lookup place := by
  rw [find?, if_neg (by simpa using deeper)]

theorem lookup_overwritten (entries : List (Place × Entry)) (place other : Place) (entry : Entry) :
    (entries.map fun (key, old) => (key, if key == place then entry else old)).lookup other =
      if other = place then (entries.lookup other).map fun _ => entry
      else entries.lookup other := by
  induction entries with
  | nil => simp
  | cons first rest ih =>
    obtain ⟨key, old⟩ := first
    simp only [List.map_cons, List.lookup_cons]
    by_cases here : other = key
    · subst here
      by_cases same : other = place
      · simp [same]
      · simp [same]
    · have elsewhere : (other == key) = false := by simpa using here
      simp only [elsewhere]
      exact ih

theorem find?_put {place : Place} (deeper : place ≠ []) (entry : Entry) (other : Place) :
    (disk.put place entry).find? other = if other = place then some entry else disk.find? other := by
  by_cases top : other = []
  · subst top
    rw [if_neg (Ne.symm deeper), find?_top, find?_top]
  · rw [find?_entries top, find?_entries top]
    by_cases known : (disk.entries.lookup place).isSome
    · simp only [put, known, if_true, lookup_overwritten]
      by_cases same : other = place
      · obtain ⟨old, found⟩ := Option.isSome_iff_exists.mp known
        simp [same, found]
      · rw [if_neg same, if_neg same]
    · simp only [put, known, Bool.false_eq_true, if_false, List.lookup_append, List.lookup_cons,
        List.lookup_nil]
      by_cases same : other = place
      · subst same
        have unknown : disk.entries.lookup other = none := by
          rwa [Option.not_isSome_iff_eq_none] at known
        simp [unknown]
      · have elsewhere : (other == place) = false := by simpa using same
        simp [same, elsewhere]

def without (disk : Disk) (gone : List Place) : Disk :=
  { disk with entries := disk.entries.filter fun entry => !gone.contains entry.1 }

theorem without_nil (disk : Disk) : disk.without [] = disk := by
  simp [without]

theorem without_without (disk : Disk) (gone more : List Place) :
    (disk.without gone).without more = disk.without (gone ++ more) := by
  simp only [without, List.filter_filter, Disk.mk.injEq, and_true]
  refine List.filter_congr fun entry _ => ?_
  simp only [List.contains_eq_mem, List.mem_append, Bool.decide_or, Bool.not_or, Bool.and_comm]

theorem drop_without (disk : Disk) (place : Place) : disk.drop place = disk.without [place] := by
  simp only [drop, without, Disk.mk.injEq, and_true]
  refine List.filter_congr fun entry _ => ?_
  rw [bne, List.contains_cons, List.contains_nil, Bool.or_false]

theorem find?_without {place : Place} (deeper : place ≠ []) (gone : List Place) :
    (disk.without gone).find? place = if place ∈ gone then none else disk.find? place := by
  rw [find?_entries deeper, find?_entries deeper, without,
    lookup_filter_key disk.entries (fun place => !gone.contains place)]
  by_cases member : place ∈ gone
  · simp [member]
  · simp [member]

theorem fileAt?_without (gone : List Place) (place : Place) :
    (disk.without gone).fileAt? place = if place ∈ gone then none else disk.fileAt? place := by
  by_cases top : place = []
  · subst top
    rw [fileAt?, fileAt?, find?_top, find?_top, ite_self]
  · rw [fileAt?, fileAt?, find?_without top]
    by_cases member : place ∈ gone
    · rw [if_pos member, if_pos member]
    · rw [if_neg member, if_neg member]

/-! Walking where something is gone -/

def way (disk : Disk) (path : Path) : List Place := stops (disk.origin path) path.parts

theorem directory_of_walk {place reached : Place} {names : List String}
    (walked : disk.walk place names = .ok reached) :
    ∀ stop ∈ stops place names, disk.find? stop = some .directory := by
  induction names generalizing place with
  | nil => simp [stops]
  | cons name rest inner =>
    rw [walk] at walked
    rw [stops]
    by_cases back : (name == "..") = true
    · rw [if_pos back] at walked ⊢
      exact inner walked
    · rw [if_neg back] at walked ⊢
      cases found : disk.find? (place ++ [name]) with
      | none => simp [found] at walked
      | some entry =>
        cases entry with
        | file content => simp [found] at walked
        | directory =>
          rw [found] at walked
          exact List.forall_mem_cons.mpr ⟨found, inner walked⟩

/-- A walk is stopped by the first place on it that is gone. -/
theorem walk_without {place reached : Place} {names : List String}
    (walked : disk.walk place names = .ok reached) (gone : List Place) :
    (disk.without gone).walk place names =
      if ∃ stop ∈ stops place names, stop ∈ gone then .error .missing else .ok reached := by
  induction names generalizing place with
  | nil => simpa [stops, walk] using walked
  | cons name rest inner =>
    have stands := directory_of_walk walked
    rw [walk] at walked ⊢
    by_cases back : (name == "..") = true
    · simp only [stops, back, if_true] at walked ⊢
      exact inner walked
    · simp only [stops, back, Bool.false_eq_true, if_false] at stands walked ⊢
      have found := stands _ List.mem_cons_self
      rw [found] at walked
      rw [find?_without (by simp), found]
      by_cases stopped : place ++ [name] ∈ gone
      · simp [stopped]
      · simpa [stopped] using inner walked

/-! Inside a directory -/

theorem isBelow_iff {root place : Place} :
    isBelow root place ↔ ∃ names, names ≠ [] ∧ place = root ++ names := by
  rw [isBelow, Bool.and_eq_true, List.isPrefixOf_iff_prefix, bne_iff_ne]
  constructor
  · rintro ⟨⟨names, rfl⟩, apart⟩
    exact ⟨names, by simpa using apart, rfl⟩
  · rintro ⟨names, further, rfl⟩
    exact ⟨List.prefix_append root names, by simpa using further⟩

theorem isBelow_append {names : List String} (further : names ≠ []) (root : Place) :
    isBelow root (root ++ names) := isBelow_iff.mpr ⟨names, further, rfl⟩

/-! Disks side by side -/

/-- Wherever there was a directory there still is one; paths start from the same place. -/
structure KeepsDirectories (before after : Disk) : Prop where
  here : after.here = before.here
  directory : ∀ place, before.find? place = some .directory → after.find? place = some .directory

section Keeps

variable {after : Disk} (keeps : disk.KeepsDirectories after)

include keeps

theorem KeepsDirectories.origin (path : Path) : after.origin path = disk.origin path := by
  simp only [Disk.origin, keeps.here]

theorem KeepsDirectories.walk {place reached : Place} {names : List String}
    (walked : disk.walk place names = .ok reached) : after.walk place names = .ok reached := by
  induction names generalizing place with
  | nil => exact walked
  | cons name rest ih =>
    rw [Disk.walk] at walked ⊢
    by_cases back : (name == "..") = true
    · rw [if_pos back] at walked ⊢
      exact ih walked
    · rw [if_neg back] at walked ⊢
      cases found : disk.find? (place ++ [name]) with
      | none => simp [found] at walked
      | some entry =>
        cases entry with
        | file content => simp [found] at walked
        | directory =>
          rw [found] at walked
          rw [keeps.directory _ found]
          exact ih walked

theorem KeepsDirectories.locate {path : Path} {place : Place}
    (located : disk.locate path = .ok place) : after.locate path = .ok place := by
  rcases List.eq_nil_or_concat' path.parts with parts | ⟨above, name, parts⟩
  · rw [locate_empty parts] at located ⊢
    rw [keeps.origin]
    exact located
  · rw [locate_last parts] at located ⊢
    cases walked : disk.walk (disk.origin path) above with
    | error trouble => simp [walked, Except.map] at located
    | ok reached =>
      rw [walked] at located
      rw [keeps.origin, keeps.walk walked]
      exact located

end Keeps

/-- What stands at a place stays there; only directories have come up. -/
structure GainsDirectories (before after : Disk) : Prop where
  here : after.here = before.here
  kept : ∀ place entry, before.find? place = some entry → after.find? place = some entry
  gained : ∀ place, before.find? place = none →
    after.find? place = none ∨ after.find? place = some .directory

namespace GainsDirectories

theorem refl (disk : Disk) : disk.GainsDirectories disk :=
  ⟨rfl, fun _ _ found => found, fun _ nothing => .inl nothing⟩

variable {before middle after : Disk}

theorem trans (one : before.GainsDirectories middle) (two : middle.GainsDirectories after) :
    before.GainsDirectories after := by
  refine ⟨two.here.trans one.here, ?_, ?_⟩
  · exact fun place entry found => two.kept place entry (one.kept place entry found)
  · intro place nothing
    rcases one.gained place nothing with still | made
    · exact two.gained place still
    · exact .inr (two.kept place .directory made)

theorem keepsDirectories (gains : before.GainsDirectories after) :
    before.KeepsDirectories after :=
  ⟨gains.here, fun place found => gains.kept place .directory found⟩

theorem fileAt? (gains : before.GainsDirectories after) (place : Place) :
    after.fileAt? place = before.fileAt? place := by
  unfold Disk.fileAt?
  cases found : before.find? place with
  | some entry => rw [gains.kept place entry found]
  | none =>
    rcases gains.gained place found with nothing | made
    · rw [nothing]
    · rw [made]

end GainsDirectories

end Disk

end ProxyHeaders.Files
