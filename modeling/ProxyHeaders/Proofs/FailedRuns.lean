import ProxyHeaders.Proofs.Files.Ways
import ProxyHeaders.Run

/-!
Runs that fail before there is anything to write. They leave the disk as it was, and a report on
the fault adds one file to it, or nothing but directories on its way.
-/
namespace ProxyHeaders

open ProxyHeaders.Files

variable {α β : Type}

/-- Whether a fault comes up before anything is written. -/
def RunFault.isEarly : RunFault → Bool
  | .output _ | .disk _ => false
  | _ => true

namespace Run

/-- A step that has no fault but those of writing. -/
def Writes (step : Step α) : Prop :=
  ∀ disk fault after, step disk = .error fault after → fault.isEarly = false

namespace Writes

theorem pure (value : α) : Writes (pure value : Step α) := nofun

theorem bind {step : Step α} {next : α → Step β} (first : Writes step)
    (rest : ∀ value, Writes (next value)) : Writes (step >>= next) := by
  intro disk fault after failed
  simp only [Bind.bind, EStateM.bind] at failed
  split at failed
  next value middle ran => exact rest value middle fault after failed
  next own stopped ran =>
    cases failed
    exact first disk fault after ran

theorem map {step : Step α} (first : Writes step) (tell : α → β) : Writes (tell <$> step) := by
  intro disk fault after failed
  simp only [Functor.map, EStateM.map] at failed
  split at failed
  · cases failed
  next own stopped ran =>
    cases failed
    exact first disk fault after ran

theorem blame (action : Action α) : Writes (action.blame .disk : Step α) := by
  intro disk fault after failed
  simp only [Action.blame] at failed
  split at failed
  · cases failed
  · cases failed
    rfl

theorem output (writing : Writing α) :
    Writes (fun disk => match writing disk with
      | .ok result disk => .ok result disk
      | .error fault disk => .error (.ofOutput fault) disk : Step α) := by
  intro disk fault after failed
  dsimp only at failed
  split at failed
  · cases failed
  next own stopped ran =>
    cases failed
    cases own <;> rfl

end Writes

theorem writeReport_writes (settings : Settings) (name : String) (lines : List String) :
    Writes (writeReport settings name lines) :=
  (Writes.blame _).bind fun _ => .pure _

theorem validation_writes (settings : Settings) (validation : Option Check.Report)
    (finish : Option Path → Summary) :
    Writes (match validation with
      | none => do
        let path ← pure none
        pure (finish path)
      | some report => do
        let path ← some <$> writeReport settings settings.validationReportFile report.lines
        pure (finish path)) := by
  cases validation with
  | none => exact (Writes.pure none).bind fun _ => .pure _
  | some report => exact ((writeReport_writes settings _ _).map some).bind fun _ => .pure _

theorem write_writes (settings : Settings) (plan : Plan) : Writes (write settings plan) := by
  unfold write
  refine (Writes.output _).bind fun _ => (Writes.output _).bind fun written => ?_
  dsimp only
  split
  · exact (Writes.pure none).bind fun _ => validation_writes settings _ _
  · exact ((writeReport_writes settings _ _).map some).bind fun _ => validation_writes settings _ _

theorem failed_early {settings : Settings} {render : Template.Renderer}
    {loaders : List Load.Loader} {input : String} {disk after : Disk} {fault : RunFault}
    (failed : run settings render loaders input disk = .error fault after)
    (early : fault.isEarly) : after = disk := by
  unfold run at failed
  split at failed
  · cases failed
    rfl
  · rw [write_writes settings _ disk fault after failed] at early
    cases early

/-! Reports on faults -/

/-- What a report on a fault does to a disk. -/
structure Reports (settings : Settings) (fault : RunFault) (trace : String) (disk : Disk) :
    Prop where
  /-- It is at its path; nothing else is new but directories on the way to it. -/
  written : ∀ path after, reportFault settings fault trace disk = .ok (some path) after →
    path = reportPath settings ∧ disk.GetsFile path (faultReport fault trace) after
  /-- If the system is against it, all there was is still there. -/
  unwritten : ∀ after, reportFault settings fault trace disk = .ok none after →
    disk.MakesWay (reportPath settings).parent after
  failed : ∀ failure after, reportFault settings fault trace disk = .error failure after →
    disk.MakesWay (reportPath settings).parent after
  /-- It fails for a null character on its way, or in its name behind a way that can be made. -/
  fails_iff : (∃ failure after, reportFault settings fault trace disk = .error failure after) ↔
    (reportPath settings).parent.hasNull ∨ (reportPath settings).hasNull ∧
      ∃ way, Action.makeDirectories (reportPath settings).parent disk = .ok () way

theorem fails_unforeseen (settings : Settings) (fault : RunFault) (trace : String) (disk : Disk) :
    (∃ failure after, reportFault settings fault trace disk = .error failure after) ↔
      ∃ failure after,
        Action.writeText (reportPath settings) (faultReport fault trace) disk = .error failure after ∧
          failure.trouble.isSystem = false := by
  unfold reportFault
  dsimp only
  cases Action.writeText (reportPath settings) (faultReport fault trace) disk with
  | ok _ left => simp
  | error failure left => cases system : failure.trouble.isSystem <;> simp [system]

theorem reportFault_reports (settings : Settings) (fault : RunFault) (trace : String)
    (disk : Disk) :
    Reports settings fault trace disk := by
  have ends := Action.writeText_way (reportPath settings) (faultReport fault trace) disk
  have unforeseen := (fails_unforeseen settings fault trace disk).trans
    (Action.writeText_unforeseen (reportPath settings) (faultReport fault trace) disk)
  cases ran : Action.writeText (reportPath settings) (faultReport fault trace) disk with
  | ok _ left =>
    have result : reportFault settings fault trace disk = .ok (some (reportPath settings)) left := by
      simp only [reportFault, ran]
    rw [ran] at ends
    refine ⟨?_, ?_, ?_, unforeseen⟩
    · rw [result]
      rintro _ _ ⟨⟩
      exact ⟨rfl, ends⟩
    · rw [result]
      nofun
    · rw [result]
      nofun
  | error failure left =>
    rw [ran] at ends
    by_cases system : failure.trouble.isSystem = true
    · have result : reportFault settings fault trace disk = .ok none left := by
        simp only [reportFault, ran, system, if_true]
      refine ⟨?_, ?_, ?_, unforeseen⟩
      · rw [result]
        nofun
      · rw [result]
        rintro _ ⟨⟩
        exact ends
      · rw [result]
        nofun
    · have result : reportFault settings fault trace disk = .error failure left := by
        simp only [reportFault, ran, system, Bool.false_eq_true, if_false]
      refine ⟨?_, ?_, ?_, unforeseen⟩
      · rw [result]
        nofun
      · rw [result]
        nofun
      · rw [result]
        rintro _ _ ⟨⟩
        exact ends

def notedDisk : Disk := { entries := [(["notes.txt"], .file (.text "keep"))] }

example : reportFault { errorFile := "a\x00b" } (.nothingToGenerate {}) "" notedDisk =
    .error ⟨.nullCharacter, ⟨"", ["Output", "a\x00b"]⟩⟩ (notedDisk.put ["Output"] .directory) :=
  rfl

/-- A run that fails before there is anything to write leaves the disk as it was, and a report on
the fault adds at most one file, the report itself. -/
theorem failed_run_leaves_disk {settings : Settings} {render : Template.Renderer}
    {loaders : List Load.Loader} {input : String} {disk after : Disk} {fault : RunFault}
    (failed : run settings render loaders input disk = .error fault after)
    (early : fault.isEarly) : after = disk ∧ ∀ trace, Reports settings fault trace after :=
  ⟨failed_early failed early, fun trace => reportFault_reports settings fault trace after⟩

theorem missing_assembly_leaves_note :
    (run {} Template.renderer [] "Game.dll" notedDisk =
      .error (.noAssembly (.ofText "Game.dll")) notedDisk) ∧
    Reports {} (.noAssembly (.ofText "Game.dll")) "Game.dll not found.\n" notedDisk := by
  have failed : run {} Template.renderer [] "Game.dll" notedDisk =
    .error (.noAssembly (.ofText "Game.dll")) notedDisk := rfl
  exact ⟨failed, (failed_run_leaves_disk failed rfl).2 _⟩

end Run

end ProxyHeaders
