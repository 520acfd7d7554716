import ProxyHeaders.Proofs.Files.Writing

/-!
The way to a file. Writing a text makes the directories that are missing on its way, and then the
file; at every other place there stands what stood there before. What goes wrong is told by the
system, unless the path holds a null character.
-/
namespace ProxyHeaders.Files

namespace Disk

/-- A place that a path leads to or through. -/
def OnWay (disk : Disk) (path : Path) (place : Place) : Prop :=
  ∃ names, names <+: path.parts ∧ place = disk.resolve { path with parts := names }

/-- Directories have come up on the way of a path, and nothing else has changed. -/
structure MakesWay (before : Disk) (path : Path) (after : Disk) : Prop where
  here : after.here = before.here
  found : ∀ place, after.find? place = before.find? place ∨
    before.find? place = none ∧ after.find? place = some .directory ∧ before.OnWay path place

namespace MakesWay

variable {before middle after : Disk} {path : Path}

theorem refl (disk : Disk) (path : Path) : disk.MakesWay path disk :=
  ⟨rfl, fun _ => .inl rfl⟩

theorem trans (one : before.MakesWay path middle) (two : middle.MakesWay path after) :
    before.MakesWay path after := by
  refine ⟨two.here.trans one.here, fun place => ?_⟩
  obtain same | ⟨nothing, made, names, short, leads⟩ := two.found place
  · rw [same]
    exact one.found place
  · obtain unchanged | ⟨_, already, _⟩ := one.found place
    · refine .inr ⟨unchanged ▸ nothing, made, names, short, ?_⟩
      rw [leads, resolve_of_here one.here]
    · rw [already] at nothing
      cases nothing

theorem further {anchor : String} {names more : List String} (short : names <+: more)
    (makes : before.MakesWay ⟨anchor, names⟩ after) : before.MakesWay ⟨anchor, more⟩ after := by
  refine ⟨makes.here, fun place => (makes.found place).imp_right ?_⟩
  rintro ⟨nothing, made, passed, shorter, leads⟩
  exact ⟨nothing, made, passed, List.IsPrefix.trans shorter short, leads⟩

theorem kept (makes : before.MakesWay path after) {place : Place} {entry : Entry}
    (there : before.find? place = some entry) : after.find? place = some entry := by
  obtain same | ⟨nothing, _⟩ := makes.found place
  · rw [same, there]
  · rw [there] at nothing
    cases nothing

end MakesWay

variable {disk after : Disk} {path : Path}

theorem put_here (disk : Disk) (place : Place) (entry : Entry) :
    (disk.put place entry).here = disk.here := by
  unfold put
  split <;> rfl

theorem makeDirectory_way (made : disk.makeDirectory path = .ok after) :
    disk.MakesWay path after := by
  obtain ⟨place, located, nothing, rfl⟩ := put_of_makeDirectory made
  refine ⟨put_here disk place .directory, fun other => ?_⟩
  rw [find?_put (deeper_of_unknown nothing)]
  by_cases same : other = place
  · subst same
    exact .inr ⟨nothing, if_pos rfl, path.parts, List.prefix_rfl, locate_resolves located⟩
  · exact .inl (if_neg same)

theorem haveDirectory_way (had : disk.haveDirectory path = .ok after) :
    disk.MakesWay path after := by
  unfold haveDirectory at had
  split at had
  next made =>
    cases had
    exact makeDirectory_way made
  next =>
    split at had
    · cases had
      exact .refl disk path
    · cases had

end Disk

namespace Action

theorem haveAll_way (anchor : String) (names : List String) (disk : Disk) :
    Ends (disk.MakesWay ⟨anchor, names.reverse⟩) (fun _ => disk.MakesWay ⟨anchor, names.reverse⟩)
      (haveAll anchor names disk) := by
  induction names generalizing disk with
  | nil => exact .change (.refl disk _) fun _ had => Disk.haveDirectory_way had
  | cons last above ih =>
    simp only [haveAll]
    split
    next had => exact Disk.haveDirectory_way had
    next failure failed =>
      split
      · -- The way to what is above is made first.
        have short : above.reverse <+: (last :: above).reverse := by
          rw [List.reverse_cons]
          exact List.prefix_append _ _
        refine ((ih disk).imp (fun _ makes => makes.further short)
          fun _ _ makes => makes.further short).bind ?_
        intro _ middle makes
        exact .change makes fun _ had => makes.trans (Disk.haveDirectory_way had)
      · exact .refl disk _

theorem makeDirectories_way (path : Path) (disk : Disk) :
    Ends (disk.MakesWay path) (fun _ => disk.MakesWay path) (makeDirectories path disk) := by
  have ends := haveAll_way path.anchor path.parts.reverse disk
  rwa [List.reverse_reverse] at ends

end Action

/-- A file with a text has come up or changed at the place of a path, and directories have come up
on the way to it. -/
structure Disk.GetsFile (before : Disk) (path : Path) (text : String) (after : Disk) : Prop where
  here : after.here = before.here
  file : after.find? (before.resolve path) = some (.file (.text text))
  noDirectory : before.find? (before.resolve path) ≠ some .directory
  found : ∀ place, place ≠ before.resolve path → after.find? place = before.find? place ∨
    before.find? place = none ∧ after.find? place = some .directory ∧ before.OnWay path.parent place

theorem Action.writeText_way (path : Path) (text : String) (disk : Disk) :
    Ends (disk.MakesWay path.parent) (fun _ => disk.GetsFile path text)
      (writeText path text disk) := by
  refine (makeDirectories_way path.parent disk).bind ?_
  intro _ way makes
  refine .change makes ?_
  intro after written
  obtain ⟨noDirectory, rfl⟩ := Disk.put_of_write written
  have same : way.resolve path = disk.resolve path := Disk.resolve_of_here makes.here path
  rw [same] at noDirectory ⊢
  have deeper : disk.resolve path ≠ [] := by
    intro top
    rw [top, Disk.find?_top] at noDirectory
    exact noDirectory rfl
  refine ⟨(Disk.put_here way _ _).trans makes.here, ?_, fun there => noDirectory (makes.kept there),
    fun place elsewhere => ?_⟩
  · rw [Disk.find?_put deeper, if_pos rfl]
  · rw [Disk.find?_put deeper, if_neg elsewhere]
    exact makes.found place

/-! What is not the system's -/

namespace Disk

variable {disk after : Disk} {path : Path} {failure : Failure}

theorem walk_system {place : Place} {names : List String} {trouble : Trouble}
    (stopped : disk.walk place names = .error trouble) : trouble.isSystem := by
  induction names generalizing place with
  | nil => cases stopped
  | cons name rest ih =>
    rw [walk] at stopped
    split at stopped
    · exact ih stopped
    · split at stopped
      · exact ih stopped
      · cases stopped
        rfl
      · cases stopped
        rfl

theorem locate_system {trouble : Trouble} (stopped : disk.locate path = .error trouble) :
    trouble.isSystem := by
  rcases List.eq_nil_or_concat' path.parts with parts | ⟨above, name, parts⟩
  · rw [locate_empty parts] at stopped
    cases stopped
  · rw [locate_last parts] at stopped
    cases walked : disk.walk (disk.origin path) above with
    | ok reached =>
      rw [walked] at stopped
      cases stopped
    | error own =>
      rw [walked] at stopped
      cases stopped
      exact walk_system walked

/-- A step that asks the system about a path fails by what the system says, if it may ask. -/
theorem asked_system {next : Place → Except Failure Disk}
    (system : ∀ place own, next place = .error own → own.trouble.isSystem)
    (failed : (if path.hasNull then .error ⟨.nullCharacter, path⟩
      else match disk.locate path with
      | .error trouble => .error ⟨trouble, path⟩
      | .ok place => next place : Except Failure Disk) = .error failure) :
    failure.trouble.isSystem = !path.hasNull := by
  split at failed
  next null =>
    cases failed
    rw [null]
    rfl
  next plain =>
    rw [Bool.not_eq_true] at plain
    rw [plain]
    split at failed
    next trouble stopped =>
      cases failed
      exact locate_system stopped
    next place located => exact system place failure failed

theorem makeDirectory_system (failed : disk.makeDirectory path = .error failure) :
    failure.trouble.isSystem = !path.hasNull := by
  refine asked_system (fun place own refused => ?_) failed
  split at refused
  · cases refused
    rfl
  · cases refused

theorem write_system {content : Content} (failed : disk.write path content = .error failure) :
    failure.trouble.isSystem = !path.hasNull := by
  refine asked_system (fun place own refused => ?_) failed
  split at refused
  · cases refused
    rfl
  · cases refused

theorem haveDirectory_system (failed : disk.haveDirectory path = .error failure) :
    failure.trouble.isSystem = !path.hasNull := by
  unfold haveDirectory at failed
  split at failed
  · cases failed
  next own refused =>
    split at failed
    · cases failed
    · cases failed
      exact makeDirectory_system refused

/-- A path with a null character is refused before anything is done. -/
theorem haveDirectory_null (null : path.hasNull) :
    disk.haveDirectory path = .error ⟨.nullCharacter, path⟩ := by
  have refused : disk.makeDirectory path = .error ⟨.nullCharacter, path⟩ := if_pos null
  simp [haveDirectory, refused, Trouble.isSystem]

end Disk

namespace Action

variable {disk after : Disk} {path : Path} {failure : Failure}

theorem makeDirectories_null (null : path.hasNull) (disk : Disk) :
    makeDirectories path disk = .error ⟨.nullCharacter, path⟩ disk := by
  obtain ⟨anchor, parts⟩ := path
  rcases List.eq_nil_or_concat' parts with rfl | ⟨above, name, rfl⟩
  · cases null
  · have refused : disk.haveDirectory ⟨anchor, (above.reverse.cons name).reverse⟩ =
        .error ⟨.nullCharacter, ⟨anchor, above ++ [name]⟩⟩ := by
      rw [List.reverse_cons, List.reverse_reverse]
      exact Disk.haveDirectory_null null
    unfold makeDirectories
    rw [List.reverse_append, List.reverse_singleton, List.singleton_append]
    simp only [haveAll, refused]
    rfl

theorem no_null_above {anchor : String} {names more : List String} (short : names <+: more)
    (plain : (Path.mk anchor more).hasNull = false) : (Path.mk anchor names).hasNull = false := by
  simp only [Path.hasNull, List.any_eq_false] at plain ⊢
  exact fun name member => plain name (short.subset member)

theorem failed_of_change {step : Disk → Except Failure Disk}
    (failed : change step disk = .error failure after) : step disk = .error failure := by
  unfold change at failed
  split at failed
  · cases failed
  next own refused =>
    cases failed
    exact refused

theorem haveAll_system {anchor : String} {names : List String}
    (failed : haveAll anchor names disk = .error failure after) :
    failure.trouble.isSystem = !(Path.mk anchor names.reverse).hasNull := by
  induction names generalizing disk with
  | nil => exact Disk.haveDirectory_system (failed_of_change failed)
  | cons last above ih =>
    simp only [haveAll] at failed
    split at failed
    · cases failed
    next own refused =>
      have mine := Disk.haveDirectory_system refused
      split at failed
      next missing =>
        -- Only a path that the system was asked about is missing, so there is no null character.
        rw [beq_iff_eq] at missing
        have plain : (Path.mk anchor (last :: above).reverse).hasNull = false := by
          simpa [missing, Trouble.isSystem] using mine.symm
        have short : above.reverse <+: (last :: above).reverse := by
          rw [List.reverse_cons]
          exact List.prefix_append _ _
        rw [plain]
        simp only [bind, EStateM.bind] at failed
        split at failed
        next made =>
          rw [Disk.haveDirectory_system (failed_of_change failed), plain]
        next own stopped refused =>
          cases failed
          rw [ih refused, no_null_above short plain]
      next =>
        cases failed
        exact mine

theorem makeDirectories_system (failed : makeDirectories path disk = .error failure after) :
    failure.trouble.isSystem = !path.hasNull := by
  have told := haveAll_system failed
  rwa [List.reverse_reverse] at told

/-- Writing a text goes wrong for no reason of the system's exactly if there is a null character in
the name of a directory on its way, or in its own name and the way to it can be made. -/
theorem writeText_unforeseen (path : Path) (text : String) (disk : Disk) :
    (∃ failure after, writeText path text disk = .error failure after ∧
        failure.trouble.isSystem = false) ↔
      path.parent.hasNull ∨
        path.hasNull ∧ ∃ way, makeDirectories path.parent disk = .ok () way := by
  cases made : makeDirectories path.parent disk with
  | error own stopped =>
    have failed : writeText path text disk = .error own stopped := by
      simp only [writeText, bind, EStateM.bind, made]
    have told := makeDirectories_system made
    constructor
    · rintro ⟨failure, after, ran, unforeseen⟩
      rw [failed] at ran
      cases ran
      rw [unforeseen] at told
      exact .inl (by simpa using told.symm)
    · rintro (null | ⟨_, way, never⟩)
      · exact ⟨own, stopped, failed, by rw [told, null]; rfl⟩
      · cases never
  | ok _ way =>
    have plain : path.parent.hasNull = false := by
      by_contra null
      rw [makeDirectories_null (by simpa using null)] at made
      cases made
    have last : writeText path text disk = change (·.write path (.text text)) way := by
      simp only [writeText, bind, EStateM.bind, made]
    rw [last]
    constructor
    · rintro ⟨failure, after, failed, unforeseen⟩
      have told := Disk.write_system (failed_of_change failed)
      rw [unforeseen] at told
      exact .inr ⟨by simpa using told.symm, way, rfl⟩
    · rintro (null | ⟨null, _⟩)
      · rw [plain] at null
        cases null
      · have refused : way.write path (.text text) = .error ⟨.nullCharacter, path⟩ := if_pos null
        exact ⟨⟨.nullCharacter, path⟩, way, by simp only [change, refused], rfl⟩

end Action

end ProxyHeaders.Files
