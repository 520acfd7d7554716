import ProxyHeaders.Proofs.Files.Cleaning

/-!
How files and directories go, one after the other. In a tree, what is in a directory is found on the
way from there; a file is unlinked once, and a directory goes in its turn if no file is below it, as
the directories inside it have had their turns. What a path leads through may be gone by then.
-/
namespace ProxyHeaders.Files

namespace Disk

variable {disk : Disk} {directory : Path}

/-! Trees -/

theorem IsTree.directory_above (tree : disk.IsTree) {root : Place} {names : List String}
    (further : names ≠ []) (found : (disk.find? (root ++ names)).isSome) :
    disk.find? root = some .directory := by
  cases names with
  | nil => exact absurd rfl further
  | cons name rest =>
    cases next : disk.find? (root ++ [name]) with
    | none =>
      have nothing := tree.nothing_below next rest
      rw [List.append_assoc, List.singleton_append] at nothing
      simp [nothing] at found
    | some entry =>
      have inside := tree.inside _ (entry_of_find? (by simp) next)
      rwa [List.dropLast_concat] at inside

theorem IsTree.further (tree : disk.IsTree) {place : Place} (deeper : place ≠ [])
    (found : (disk.find? place).isSome) : ".." ∉ place := by
  obtain ⟨entry, found⟩ := Option.isSome_iff_exists.mp found
  exact tree.named _ (entry_of_find? deeper found)

theorem IsTree.walk_inside (tree : disk.IsTree) {root : Place} {names : List String} {last : String}
    (found : (disk.find? (root ++ names ++ [last])).isSome) :
    disk.walk root names = .ok (root ++ names) := by
  induction names generalizing root with
  | nil => rw [walk, List.append_nil]
  | cons name rest inner =>
    have whole : root ++ name :: rest ++ [last] = root ++ [name] ++ rest ++ [last] := by simp
    rw [whole] at found
    have further : ".." ∉ root ++ [name] ++ rest ++ [last] := tree.further (by simp) found
    have stands : disk.find? (root ++ [name]) = some .directory := by
      rw [List.append_assoc (root ++ [name])] at found
      exact tree.directory_above (by simp) found
    have back : (name == "..") = false := by
      rw [beq_eq_false_iff_ne]
      rintro rfl
      exact further (by simp)
    rw [walk, back]
    simp only [Bool.false_eq_true, if_false, stands]
    rw [inner found, List.append_assoc, List.singleton_append]

/-- What is inside a directory is found from there as long as what is above it is, and the way to
the directory. -/
theorem locate_beneath (tree : disk.IsTree) (there : disk.isDirectory directory) {place : Place}
    (inside : isBelow (disk.resolve directory) place) (found : (disk.find? place).isSome)
    {gone : List Place} (above : ∀ other ∈ gone, ¬ isBelow other place) :
    (disk.without gone).locate (disk.beneath directory place) =
      if ∃ stop ∈ disk.way directory, stop ∈ gone then .error .missing else .ok place := by
  obtain ⟨names, further, rfl⟩ := isBelow_iff.mp inside
  obtain ⟨front, last, rfl⟩ := List.eq_nil_or_concat' names |>.resolve_left further
  rw [← List.append_assoc] at found above ⊢
  have forward := tree.further (by simp) found
  have parts : (disk.beneath directory (disk.resolve directory ++ front ++ [last])).parts =
      directory.parts ++ front ++ [last] := by
    rw [beneath, List.append_assoc, List.drop_left, List.append_assoc]
  have start : (disk.without gone).origin
    (disk.beneath directory (disk.resolve directory ++ front ++ [last])) = disk.origin directory := rfl
  have down : (disk.without gone).walk (disk.resolve directory) front =
      .ok (disk.resolve directory ++ front) := by
    rw [walk_without (tree.walk_inside found), if_neg]
    rintro ⟨stop, entered, lost⟩
    obtain ⟨names, -, ⟨rest, rfl⟩, rfl⟩ := stops_inside (by simp_all) entered
    refine above _ lost ?_
    rw [← List.append_assoc, List.append_assoc]
    exact isBelow_append (by simp) _
  rw [locate_last parts, start, walk_append, walk_without (walk_of_isDirectory there).1, way]
  split
  · rfl
  · have name : last ≠ ".." := by
      rintro rfl
      exact forward (by simp)
    simp only [Except.bind, down, Except.map, advance_further name]

/-! Files that go -/

theorem find?_of_fileAt? {place : Place} (file : (disk.fileAt? place).isSome) :
    ∃ content, disk.find? place = some (.file content) ∧ place ≠ [] := by
  obtain ⟨content, found⟩ := Option.isSome_iff_exists.mp file
  exact ⟨content, fileAt?_eq_some.mp found, deeper_of_file found⟩

theorem IsTree.not_below_file (tree : disk.IsTree) {place other : Place}
    (file : (disk.fileAt? other).isSome) (found : (disk.find? place).isSome) :
    ¬ isBelow other place := by
  intro below
  obtain ⟨names, further, rfl⟩ := isBelow_iff.mp below
  obtain ⟨content, stands, -⟩ := find?_of_fileAt? file
  rw [tree.directory_above further found] at stands
  cases stands

theorem file_off_way (there : disk.isDirectory directory) {gone : List Place}
    (files : ∀ place ∈ gone, (disk.fileAt? place).isSome) :
    ¬ ∃ stop ∈ disk.way directory, stop ∈ gone := by
  rintro ⟨stop, entered, lost⟩
  obtain ⟨content, stands, -⟩ := find?_of_fileAt? (files stop lost)
  rw [directory_of_walk (walk_of_isDirectory there).1 stop entered] at stands
  cases stands

theorem unlink_beneath (tree : disk.IsTree) (there : disk.isDirectory directory) {place : Place}
    (inside : isBelow (disk.resolve directory) place) (file : (disk.fileAt? place).isSome)
    {gone : List Place} (files : ∀ place ∈ gone, (disk.fileAt? place).isSome) :
    (disk.without gone).unlink (disk.beneath directory place) =
      if place ∈ gone then .error ⟨.missing, disk.beneath directory place⟩
      else .ok (disk.without (gone ++ [place])) := by
  obtain ⟨content, found, deeper⟩ := find?_of_fileAt? file
  have present : (disk.find? place).isSome := by rw [found]; rfl
  rw [unlink, locate_beneath tree there inside present fun other lost =>
    tree.not_below_file (files other lost) present, if_neg (file_off_way there files)]
  simp only [find?_without deeper, found]
  by_cases lost : place ∈ gone
  · simp only [if_pos lost]
  · simp only [if_neg lost, drop_without, without_without]

end Disk

open Disk in
/-- Files are unlinked up to the first that is listed again. -/
theorem Action.unlinkAll_beneath {disk : Disk} (tree : disk.IsTree) {directory : Path}
    (there : disk.isDirectory directory) {places gone : List Place}
    (inside : ∀ place ∈ places, isBelow (disk.resolve directory) place)
    (files : ∀ place ∈ gone ++ places, (disk.fileAt? place).isSome) (fresh : gone.Nodup) :
    ((gone ++ places).Nodup → unlinkAll (places.map (disk.beneath directory)) (disk.without gone) =
      .ok () (disk.without (gone ++ places))) ∧
    (¬ (gone ++ places).Nodup → ∃ path lost, lost ⊆ gone ++ places ∧
      unlinkAll (places.map (disk.beneath directory)) (disk.without gone) =
        .error ⟨.missing, path⟩ (disk.without lost)) := by
  -- By the places still to come: `gone` are those the run has already taken from the disk.
  induction places generalizing gone with
  | nil =>
    rw [List.append_nil]
    exact ⟨fun _ => rfl, fun twice => absurd fresh twice⟩
  | cons place rest inner =>
    have known : ∀ other ∈ gone, (disk.fileAt? other).isSome := fun other lost =>
      files other (List.mem_append_left _ lost)
    have step := unlink_beneath tree there (inside place List.mem_cons_self)
      (files place (by simp)) known
    rw [List.map_cons, unlinkAll]
    by_cases again : place ∈ gone
    · rw [if_pos again] at step
      have failed : change (·.unlink (disk.beneath directory place)) (disk.without gone) =
        .error ⟨.missing, disk.beneath directory place⟩ (disk.without gone) := by rw [change, step]
      refine ⟨fun once => ?_, fun _ => ⟨_, gone, by simp, bind_error failed⟩⟩
      -- A place that comes again has no file any more, which is the only way to fail.
      exact absurd rfl ((List.nodup_append.mp once).2.2 place again place List.mem_cons_self)
    · rw [if_neg again] at step
      have done : change (·.unlink (disk.beneath directory place)) (disk.without gone) =
        .ok () (disk.without (gone ++ [place])) := by rw [change, step]
      have further : (gone ++ [place]).Nodup := by
        rw [List.nodup_append]
        refine ⟨fresh, by simp, ?_⟩
        rintro other lost _ same rfl
        exact again (List.mem_singleton.mp same ▸ lost)
      have later := @inner (gone ++ [place])
        (fun other member => inside other (List.mem_cons_of_mem _ member))
        (by simpa using files) further
      rw [List.append_assoc, List.singleton_append] at later
      rwa [bind_ok done]

/-! Directories that go -/

namespace Disk

variable {disk : Disk} {directory : Path} {root : Place}

def hasFileBelow (disk : Disk) (place : Place) : Bool :=
  disk.entries.any fun (other, entry) => isBelow place other && !entry.isDirectory

theorem isBelow_trans {place middle deepest : Place} (one : isBelow place middle)
    (two : isBelow middle deepest) : isBelow place deepest := by
  obtain ⟨front, further, rfl⟩ := isBelow_iff.mp one
  obtain ⟨back, -, rfl⟩ := isBelow_iff.mp two
  rw [List.append_assoc]
  exact isBelow_append (by simp [further]) place

theorem isBelow_longer {place other : Place} (below : isBelow place other) :
    place.length < other.length := by
  obtain ⟨names, further, rfl⟩ := isBelow_iff.mp below
  rw [List.length_append]
  exact Nat.lt_add_of_pos_right (List.length_pos_iff.mpr further)

theorem mem_directoriesBelow (tree : disk.IsTree) {place : Place} :
    place ∈ disk.directoriesBelow root ↔
      isBelow root place ∧ disk.find? place = some .directory := by
  rw [directoriesBelow, List.mem_mergeSort, List.mem_map]
  constructor
  · rintro ⟨⟨place, entry⟩, member, rfl⟩
    obtain ⟨listed, inside⟩ := List.mem_filter.mp member
    rw [Bool.and_eq_true] at inside
    obtain ⟨names, further, rfl⟩ := isBelow_iff.mp inside.1
    cases entry with
    | file content => cases inside.2
    | directory =>
      rw [find?_entries (by simp [further])]
      exact ⟨inside.1, (lookup_iff_mem tree.distinct).mpr listed⟩
  · rintro ⟨inside, found⟩
    obtain ⟨names, further, rfl⟩ := isBelow_iff.mp inside
    have listed := entry_of_find? (by simp [further]) found
    exact ⟨_, List.mem_filter.mpr ⟨listed, by simp [inside, Entry.isDirectory]⟩, rfl⟩

theorem directoriesBelow_nodup (tree : disk.IsTree) : (disk.directoriesBelow root).Nodup := by
  rw [directoriesBelow, (List.mergeSort_perm _ _).nodup_iff]
  exact tree.distinct.sublist (List.filter_sublist.map _)

theorem directoriesBelow_deepest_first (disk : Disk) (root : Place) :
    (disk.directoriesBelow root).Pairwise fun place later => later.length ≤ place.length := by
  rw [directoriesBelow]
  refine (List.pairwise_mergeSort ?_ ?_ _).imp of_decide_eq_true
  · intro first second third
    simp only [decide_eq_true_eq]
    exact fun shorter further => Nat.le_trans further shorter
  · intro first second
    simp only [Bool.or_eq_true, decide_eq_true_eq]
    exact Nat.le_total _ _

def hollow (disk : Disk) (places : List Place) : List Place :=
  places.filter fun place => !disk.hasFileBelow place

theorem mem_hollow {places : List Place} {place : Place} :
    place ∈ disk.hollow places ↔ place ∈ places ∧ disk.hasFileBelow place = false := by
  rw [hollow, List.mem_filter, Bool.not_eq_true']

theorem hollow_append (disk : Disk) (first second : List Place) :
    disk.hollow (first ++ second) = disk.hollow first ++ disk.hollow second := List.filter_append ..

section Turn

variable (tree : disk.IsTree) {place : Place} {processed left : List Place}
  (listed : disk.directoriesBelow root = processed ++ place :: left)

include listed

theorem not_below_processed {other : Place} (earlier : other ∈ processed) :
    ¬ isBelow other place := by
  intro below
  have deepest := disk.directoriesBelow_deepest_first root
  rw [listed, List.pairwise_append] at deepest
  have longer := deepest.2.2 other earlier place List.mem_cons_self
  exact absurd (isBelow_longer below) (by omega)

include tree

theorem not_processed : place ∉ processed := by
  intro earlier
  have once : (disk.directoriesBelow root).Nodup := directoriesBelow_nodup tree
  rw [listed, List.nodup_append] at once
  exact once.2.2 place earlier place List.mem_cons_self rfl

theorem processed_of_below {other : Place} (below : isBelow place other)
    (found : disk.find? other = some .directory) : other ∈ processed := by
  have deepest := disk.directoriesBelow_deepest_first root
  have inside := (mem_directoriesBelow tree).mp (listed ▸ List.mem_append_right _ List.mem_cons_self)
  have known := (mem_directoriesBelow tree).mpr ⟨isBelow_trans inside.1 below, found⟩
  rw [listed] at deepest known
  refine (List.mem_append.mp known).resolve_right fun later => ?_
  rw [List.pairwise_append] at deepest
  have longer := isBelow_longer below
  rcases List.mem_cons.mp later with rfl | later
  · omega
  · have shorter := (List.pairwise_cons.mp deepest.2.1).1 other later
    omega

/-- A directory is empty in its turn if no file was below it: its own directories, which are deeper,
have had their turns. -/
theorem empty_iff :
    ((disk.without (disk.hollow processed)).entries.any fun (other, _) => isBelow place other) =
      disk.hasFileBelow place := by
  rw [Bool.eq_iff_iff, hasFileBelow, List.any_eq_true, List.any_eq_true]
  constructor
  · rintro ⟨⟨other, entry⟩, kept, below⟩
    obtain ⟨known, stays⟩ := List.mem_filter.mp kept
    cases entry with
    | file content => exact ⟨_, known, by simp [below, Entry.isDirectory]⟩
    | directory =>
      obtain ⟨names, further, rfl⟩ := isBelow_iff.mp below
      have found := (lookup_iff_mem tree.distinct).mpr known
      rw [← find?_entries (by simp [further])] at found
      -- It has had its turn, and has stayed for a file below it.
      have earlier := processed_of_below tree listed below found
      have full : disk.hasFileBelow (place ++ names) = true := by
        by_contra none
        simp only [List.contains_eq_mem, mem_hollow, earlier, true_and] at stays
        simp [none] at stays
      obtain ⟨⟨deepest, file⟩, member, inside⟩ := List.any_eq_true.mp full
      rw [Bool.and_eq_true] at inside
      exact ⟨_, member, by simp [isBelow_trans below inside.1, inside.2]⟩
  · rintro ⟨⟨other, entry⟩, known, inside⟩
    rw [Bool.and_eq_true] at inside
    refine ⟨_, List.mem_filter.mpr ⟨known, ?_⟩, inside.1⟩
    cases entry with
    | directory => cases inside.2
    | file content =>
      simp only [List.contains_eq_mem, Bool.not_eq_true', decide_eq_false_iff_not, mem_hollow,
        not_and]
      intro earlier
      have directory := ((mem_directoriesBelow tree).mp
        (listed ▸ List.mem_append_left (place :: left) earlier)).2
      obtain ⟨names, further, rfl⟩ := isBelow_iff.mp inside.1
      rw [find?_entries (by simp [further]), (lookup_iff_mem tree.distinct).mpr known] at directory
      cases directory

end Turn

theorem dropIfEmpty_beneath (tree : disk.IsTree) (there : disk.isDirectory directory)
    {place : Place} {processed left : List Place}
    (listed : disk.directoriesBelow (disk.resolve directory) = processed ++ place :: left) :
    (disk.without (disk.hollow processed)).dropIfEmpty (disk.beneath directory place) =
      if ∃ stop ∈ disk.way directory, stop ∈ disk.hollow processed
      then .error ⟨.missing, disk.beneath directory place⟩
      else .ok (disk.without (disk.hollow (processed ++ [place]))) := by
  have found : isBelow (disk.resolve directory) place ∧ disk.find? place = some .directory :=
    (mem_directoriesBelow tree).mp (by simp [listed])
  have deeper : place ≠ [] := by
    rintro rfl
    exact absurd (isBelow_longer found.1) (by simp)
  have stays : place ∉ disk.hollow processed := fun gone =>
    not_processed tree listed (mem_hollow.mp gone).1
  rw [dropIfEmpty, locate_beneath tree there found.1 (by rw [found.2]; rfl) fun other gone =>
    not_below_processed listed (mem_hollow.mp gone).1]
  by_cases blocked : ∃ stop ∈ disk.way directory, stop ∈ disk.hollow processed
  · simp only [if_pos blocked]
  · simp only [if_neg blocked, find?_without deeper, if_neg stays, found.2, empty_iff tree listed,
      drop_without, without_without, hollow_append]
    cases full : disk.hasFileBelow place with
    | true => simp [hollow, full]
    | false => simp [hollow, full]

end Disk

open Disk in
/-- Directories are looked at up to one behind a directory that was on the way and has gone. -/
theorem Action.dropAllEmpty_beneath {disk : Disk} (tree : disk.IsTree) {directory : Path}
    (there : disk.isDirectory directory) {processed left : List Place} (some : left ≠ [])
    (listed : disk.directoriesBelow (disk.resolve directory) = processed ++ left) :
    ((∀ place ∈ disk.hollow (processed ++ left.dropLast), place ∉ disk.way directory) →
      dropAllEmpty (left.map (disk.beneath directory)) (disk.without (disk.hollow processed)) =
        .ok () (disk.without (disk.hollow (processed ++ left)))) ∧
    (¬ (∀ place ∈ disk.hollow (processed ++ left.dropLast), place ∉ disk.way directory) →
      ∃ path lost, lost ⊆ disk.hollow (processed ++ left) ∧
        dropAllEmpty (left.map (disk.beneath directory)) (disk.without (disk.hollow processed)) =
          .error ⟨.missing, path⟩ (disk.without lost)) := by
  -- The directories processed so far have lost the hollow ones among them. The next is opened
  -- through the way to `directory`, which one of those may have stood on.
  induction left generalizing processed with
  | nil => exact absurd rfl some
  | cons place rest inner =>
    have step := dropIfEmpty_beneath tree there listed
    rw [List.map_cons, dropAllEmpty]
    by_cases blocked : ∃ stop ∈ disk.way directory, stop ∈ disk.hollow processed
    · rw [if_pos blocked] at step
      have failed : change (·.dropIfEmpty (disk.beneath directory place))
          (disk.without (disk.hollow processed)) =
        .error ⟨.missing, disk.beneath directory place⟩ (disk.without (disk.hollow processed)) := by
        rw [change, step]
      obtain ⟨stop, entered, gone⟩ := blocked
      refine ⟨fun clear => ?_, fun _ => ⟨_, disk.hollow processed, ?_, bind_error failed⟩⟩
      · exact absurd entered (clear stop (by rw [hollow_append]; exact List.mem_append_left _ gone))
      · rw [hollow_append]
        exact List.subset_append_left _ _
    · rw [if_neg blocked] at step
      have done : change (·.dropIfEmpty (disk.beneath directory place))
          (disk.without (disk.hollow processed)) =
        .ok () (disk.without (disk.hollow (processed ++ [place]))) := by rw [change, step]
      rw [bind_ok done]
      by_cases last : rest = []
      · -- Nothing is opened behind the last directory: it may stand on the way itself.
        subst last
        refine ⟨fun _ => rfl, fun unclear => absurd ?_ unclear⟩
        intro other gone entered
        rw [List.dropLast_singleton, List.append_nil] at gone
        exact blocked ⟨other, entered, gone⟩
      · have later := @inner (processed ++ [place]) last (by rw [listed]; simp)
        rw [List.dropLast_cons_of_ne_nil last]
        rwa [List.append_assoc, List.append_assoc, List.singleton_append, List.singleton_append]
          at later

end ProxyHeaders.Files
