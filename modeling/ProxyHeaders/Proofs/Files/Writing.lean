import ProxyHeaders.Proofs.Files.Places

/-!
What writing does to a disk: it makes directories where there was nothing and puts texts at the
places that their paths resolve to. Every other file stays as it is, also where writing fails.
-/
namespace ProxyHeaders.Files

open ProxyHeaders.Layout

/-- What holds of the disk that an action leaves, where it has failed and where it is done. -/
def Ends {ε α : Type} (failed : Disk → Prop) (done : α → Disk → Prop) :
    EStateM.Result ε Disk α → Prop
  | .error _ disk => failed disk
  | .ok value disk => done value disk

def leftDisk {ε α : Type} : EStateM.Result ε Disk α → Disk
  | .ok _ disk => disk
  | .error _ disk => disk

theorem bind_ok {ε α β : Type} {first : EStateM ε Disk α} {second : α → EStateM ε Disk β}
    {disk after : Disk} {value : α} (ran : first disk = .ok value after) :
    (first >>= second) disk = second value after := by
  simp only [Bind.bind, EStateM.bind, ran]

theorem bind_error {ε α β : Type} {first : EStateM ε Disk α} {second : α → EStateM ε Disk β}
    {disk after : Disk} {fault : ε} (failed : first disk = .error fault after) :
    (first >>= second) disk = .error fault after := by
  simp only [Bind.bind, EStateM.bind, failed]

namespace Ends

variable {ε α β : Type} {failed : Disk → Prop} {disk : Disk}

theorem bind {middle : α → Disk → Prop} {done : β → Disk → Prop} {first : EStateM ε Disk α}
    {second : α → EStateM ε Disk β} (begun : Ends failed middle (first disk))
    (continued : ∀ value disk, middle value disk → Ends failed done (second value disk)) :
    Ends failed done ((first >>= second) disk) := by
  simp only [Bind.bind, EStateM.bind]
  cases ran : first disk with
  | error fault after =>
    rw [ran] at begun
    exact begun
  | ok value after =>
    rw [ran] at begun
    exact continued value after begun

theorem get {done : β → Disk → Prop} {second : Disk → EStateM ε Disk β}
    (continued : Ends failed done (second disk disk)) :
    Ends failed done ((MonadState.get >>= second) disk) := continued

theorem imp {weaker : Disk → Prop} {done other : α → Disk → Prop}
    {result : EStateM.Result ε Disk α} (ends : Ends failed done result)
    (onFailure : ∀ disk, failed disk → weaker disk)
    (onDone : ∀ value disk, done value disk → other value disk) : Ends weaker other result := by
  cases result with
  | error fault after => exact onFailure after ends
  | ok value after => exact onDone value after ends

theorem blame {done : α → Disk → Prop} {action : Action α}
    (ends : Ends failed done (action disk)) (tell : Failure → ε) :
    Ends failed done (action.blame tell disk) := by
  unfold Action.blame
  cases ran : action disk with
  | error failure after =>
    rw [ran] at ends
    exact ends
  | ok value after =>
    rw [ran] at ends
    exact ends

theorem change {done : Unit → Disk → Prop} {step : Disk → Except Failure Disk}
    (onFailure : failed disk) (onDone : ∀ after, step disk = .ok after → done () after) :
    Ends failed done (Action.change step disk) := by
  unfold Action.change
  cases ran : step disk with
  | error failure => exact onFailure
  | ok after => exact onDone after ran

theorem of_ok {done : α → Disk → Prop} {result : EStateM.Result ε Disk α} {value : α}
    {after : Disk} (ends : Ends failed done result) (ran : result = .ok value after) :
    done value after := by
  rw [ran] at ends
  exact ends

theorem left {holds : Disk → Prop} {result : EStateM.Result ε Disk α}
    (ends : Ends holds (fun _ => holds) result) : holds (leftDisk result) := by
  cases result with
  | error fault after => exact ends
  | ok value after => exact ends

end Ends

namespace Disk

variable {disk after : Disk} {path : Path}

theorem entryAt_eq_some {entry : Entry} :
    disk.entryAt path = some entry ↔
      ∃ place, disk.locate path = .ok place ∧ disk.find? place = some entry := by
  unfold entryAt
  cases disk.locate path with
  | error trouble => simp
  | ok place => simp

theorem isDirectory_iff :
    disk.isDirectory path ↔
      ∃ place, disk.locate path = .ok place ∧ disk.find? place = some .directory := by
  have shown : disk.isDirectory path ↔ disk.entryAt path = some .directory := by
    unfold isDirectory
    cases disk.entryAt path with
    | none => simp
    | some entry => cases entry <;> simp [Entry.isDirectory]
  rw [shown, entryAt_eq_some]

/-! Making directories -/

theorem deeper_of_unknown {place : Place} (nothing : disk.find? place = none) : place ≠ [] := by
  rintro rfl
  simp [find?_top] at nothing

theorem put_gains {place : Place} (nothing : disk.find? place = none) :
    disk.GainsDirectories (disk.put place .directory) := by
  have found (other : Place) :
      (disk.put place .directory).find? other =
        if other = place then some .directory else disk.find? other :=
    find?_put (deeper_of_unknown nothing) .directory other
  refine ⟨?_, ?_, ?_⟩
  · unfold put
    split <;> rfl
  · intro other entry known
    rw [found]
    by_cases same : other = place
    · simp [← same, known] at nothing
    · rwa [if_neg same]
  · intro other unknown
    rw [found, unknown]
    by_cases same : other = place
    · exact .inr (if_pos same)
    · exact .inl (if_neg same)

theorem put_of_makeDirectory (made : disk.makeDirectory path = .ok after) :
    ∃ place, disk.locate path = .ok place ∧ disk.find? place = none ∧
      after = disk.put place .directory := by
  unfold makeDirectory at made
  split at made
  · cases made
  · cases located : disk.locate path with
    | error trouble => simp [located] at made
    | ok place =>
      by_cases present : (disk.find? place).isSome
      · simp [located, present] at made
      · simp only [located, present, Bool.false_eq_true, if_false, Except.ok.injEq] at made
        exact ⟨place, rfl, Option.not_isSome_iff_eq_none.mp present, made.symm⟩

theorem makeDirectory_ok (made : disk.makeDirectory path = .ok after) :
    disk.GainsDirectories after ∧ after.isDirectory path := by
  obtain ⟨place, located, nothing, rfl⟩ := put_of_makeDirectory made
  have gains := put_gains nothing
  refine ⟨gains, isDirectory_iff.mpr ⟨place, gains.keepsDirectories.locate located, ?_⟩⟩
  rw [find?_put (deeper_of_unknown nothing), if_pos rfl]

theorem haveDirectory_ok (had : disk.haveDirectory path = .ok after) :
    disk.GainsDirectories after ∧ after.isDirectory path := by
  unfold haveDirectory at had
  cases made : disk.makeDirectory path with
  | ok next =>
    rw [made] at had
    cases had
    exact makeDirectory_ok made
  | error failure =>
    simp only [made] at had
    by_cases already : (failure.trouble.isSystem && failure.trouble != .missing &&
        disk.isDirectory path) = true
    · rw [if_pos already] at had
      cases had
      exact ⟨.refl disk, (Bool.and_eq_true_iff.mp already).2⟩
    · rw [if_neg already] at had
      cases had

end Disk

namespace Action

/-- Making a directory changes nothing that was there before; if it does not fail the directory is
there. -/
theorem haveDirectory_ends (path : Path) (disk : Disk) :
    Ends disk.GainsDirectories (fun _ after => disk.GainsDirectories after ∧ after.isDirectory path)
      (change (·.haveDirectory path) disk) :=
  .change (.refl disk) fun _ had => Disk.haveDirectory_ok had

theorem haveAll_ends (anchor : String) (names : List String) (disk : Disk) :
    Ends disk.GainsDirectories
      (fun _ after => disk.GainsDirectories after ∧ after.isDirectory ⟨anchor, names.reverse⟩)
      (haveAll anchor names disk) := by
  induction names generalizing disk with
  | nil => exact haveDirectory_ends ⟨anchor, []⟩ disk
  | cons last above ih =>
    simp only [haveAll]
    cases had : disk.haveDirectory ⟨anchor, (last :: above).reverse⟩ with
    | ok after => exact Disk.haveDirectory_ok had
    | error failure =>
      by_cases missing : failure.trouble = .missing
      · simp only [missing, beq_self_eq_true, if_true]
        -- Whatever is made above stays, also if the directory itself cannot be made then.
        refine (ih disk).bind ?_
        rintro - middle ⟨gains, -⟩
        refine (haveDirectory_ends _ middle).imp ?_ ?_
        · exact fun after more => gains.trans more
        · exact fun _ after ⟨more, there⟩ => ⟨gains.trans more, there⟩
      · have other : (failure.trouble == .missing) = false := by simpa using missing
        simp only [other, Bool.false_eq_true, if_false]
        exact .refl disk

theorem makeDirectories_ends (path : Path) (disk : Disk) :
    Ends disk.GainsDirectories (fun _ after => disk.GainsDirectories after ∧ after.isDirectory path)
      (makeDirectories path disk) := by
  have ends := haveAll_ends path.anchor path.parts.reverse disk
  rwa [List.reverse_reverse] at ends

end Action

/-! Texts -/

/-- Afterwards the last text that was put at a place is the file there, and where none was put the
file is the one from before. -/
structure Disk.Receives (before : Disk) (texts : List (Place × String)) (after : Disk) : Prop where
  here : after.here = before.here
  fileAt? : ∀ place, after.fileAt? place =
    ((texts.reverse.lookup place).map .text).or (before.fileAt? place)

namespace Disk.Receives

theorem none {before after : Disk} (gains : before.GainsDirectories after) :
    before.Receives [] after := ⟨gains.here, gains.fileAt?⟩

theorem append {before middle after : Disk} {first second : List (Place × String)}
    (one : before.Receives first middle) (two : middle.Receives second after) :
    before.Receives (first ++ second) after := by
  refine ⟨two.here.trans one.here, ?_⟩
  intro place
  rw [two.fileAt?, one.fileAt?, List.reverse_append, List.lookup_append]
  cases second.reverse.lookup place with
  | none => rfl
  | some text => rfl

theorem put {disk : Disk} {place : Place} (deeper : place ≠ []) (text : String) :
    disk.Receives [(place, text)] (disk.put place (.file (.text text))) := by
  constructor
  · unfold Disk.put
    split <;> rfl
  · intro other
    by_cases same : other = place
    · simp [Disk.fileAt?, find?_put deeper, same]
    · have elsewhere : (other == place) = false := by simpa using same
      simp [Disk.fileAt?, find?_put deeper, same, List.lookup_cons, elsewhere]

theorem resolve {before after : Disk} {texts : List (Place × String)}
    (receives : before.Receives texts after) (path : Path) :
    after.resolve path = before.resolve path := resolve_of_here receives.here path

theorem elsewhere {before after : Disk} {texts : List (Place × String)}
    (receives : before.Receives texts after) {place : Place}
    (apart : ∀ text ∈ texts, text.1 ≠ place) : after.fileAt? place = before.fileAt? place := by
  have unknown : texts.reverse.lookup place = .none := by
    rw [List.lookup_eq_none_iff]
    intro text member
    have different := apart text (List.mem_reverse.mp member)
    simpa using Ne.symm different
  rw [receives.fileAt?, unknown]
  rfl

end Disk.Receives

theorem Disk.put_of_write {disk after : Disk} {path : Path} {content : Content}
    (written : disk.write path content = .ok after) :
    disk.find? (disk.resolve path) ≠ some .directory ∧
      after = disk.put (disk.resolve path) (.file content) := by
  unfold write at written
  split at written
  · cases written
  · cases located : disk.locate path with
    | error trouble => simp [located] at written
    | ok place =>
      by_cases directory : (disk.find? place).any Entry.isDirectory
      · simp [located, directory] at written
      · simp only [located, directory, Bool.false_eq_true, if_false, Except.ok.injEq] at written
        rw [← locate_resolves located]
        refine ⟨?_, written.symm⟩
        intro found
        simp [found, Entry.isDirectory] at directory

theorem Disk.write_ok {disk after : Disk} {path : Path} {text : String}
    (written : disk.write path (.text text) = .ok after) :
    disk.Receives [(disk.resolve path, text)] after := by
  obtain ⟨noDirectory, rfl⟩ := put_of_write written
  refine .put ?_ text
  intro top
  rw [top, find?_top] at noDirectory
  exact noDirectory rfl

/-- Writing a text puts it at its place, or fails and puts nothing anywhere. -/
theorem Action.writeText_ends (path : Path) (text : String) (disk : Disk) :
    Ends (disk.Receives []) (fun _ after => disk.Receives [(disk.resolve path, text)] after)
      (writeText path text disk) := by
  have made : Ends (disk.Receives []) (fun _ after => disk.Receives [] after)
      (makeDirectories path.parent disk) :=
    (makeDirectories_ends path.parent disk).imp (fun _ gains => .none gains)
      fun _ _ done => .none done.1
  refine made.bind ?_
  intro _ middle received
  refine .change received ?_
  intro after written
  have last := Disk.write_ok written
  rw [received.resolve] at last
  exact received.append last

/-- The texts of some headers, each at the place that its path names from a directory. -/
def headerTexts (disk : Disk) (directory : Path) (headers : List Header) : List (Place × String) :=
  headers.map fun header => (disk.resolve (directory.join header.path), header.content)

theorem headerTexts_receives {disk after : Disk} {texts : List (Place × String)}
    (receives : disk.Receives texts after) (directory : Path) (headers : List Header) :
    headerTexts after directory headers = headerTexts disk directory headers := by
  simp only [headerTexts, receives.resolve]

theorem writeHeaders_ends (directory : Path) (headers : List Header) (disk : Disk) :
    Ends
      (fun after => ∃ written, written <+: headers ∧
        disk.Receives (headerTexts disk directory written) after)
      (fun _ after => disk.Receives (headerTexts disk directory headers) after)
      (writeHeaders directory headers disk) := by
  induction headers generalizing disk with
  | nil => exact .none (.refl disk)
  | cons header rest ih =>
    have first := (Action.writeText_ends (directory.join header.path) header.content disk).blame
      (OutputFault.expecting (.notWritten (directory.join header.path)))
    refine (first.imp (fun after received => ⟨[], List.nil_prefix, received⟩)
      fun _ _ received => received).bind ?_
    intro _ middle received
    have later := ih middle
    rw [headerTexts_receives received] at later
    refine (later.imp ?_ ?_).bind fun paths after received => received
    · rintro after ⟨written, before, more⟩
      rw [headerTexts_receives received] at more
      exact ⟨header :: written, List.cons_prefix_cons.mpr ⟨rfl, before⟩, received.append more⟩
    · exact fun paths after more => received.append more

theorem writeHeaders_left (directory : Path) (headers : List Header) (disk : Disk) :
    ∃ written, written <+: headers ∧
      disk.Receives (headerTexts disk directory written)
        (leftDisk (writeHeaders directory headers disk)) := by
  have ends := writeHeaders_ends directory headers disk
  refine (ends.imp (fun _ failed => failed) ?_).left
  exact fun _ after received => ⟨headers, List.prefix_rfl, received⟩

end ProxyHeaders.Files
