import ProxyHeaders.Proofs.Files.Cleaning
import ProxyHeaders.Run

/-!
What a whole run puts on a disk: its headers, its warnings if there are any, and the report of the
validation if it is asked for. A run that fails has put some texts, and taken nothing away but what
preparing the output directory takes.
-/
namespace ProxyHeaders

open ProxyHeaders.Files ProxyHeaders.Layout

namespace Files

/-- Some texts were put, and nothing else was done to any file. -/
def Disk.ReceivesSome (before after : Disk) : Prop := ∃ texts, before.Receives texts after

namespace Disk

theorem Receives.receivesSome {before after : Disk} {texts : List (Place × String)}
    (receives : before.Receives texts after) : before.ReceivesSome after := ⟨texts, receives⟩

theorem Receives.someMore {before middle after : Disk} {texts : List (Place × String)}
    (first : before.Receives texts middle) (later : middle.ReceivesSome after) :
    before.ReceivesSome after := by
  obtain ⟨more, receives⟩ := later
  exact ⟨texts ++ more, first.append receives⟩

theorem ReceivesSome.keeps {before after : Disk} (receives : before.ReceivesSome after)
    {place : Place} (there : (before.fileAt? place).isSome) : (after.fileAt? place).isSome := by
  obtain ⟨texts, receives⟩ := receives
  rw [receives.fileAt?, Option.isSome_or, there, Bool.or_true]

end Disk

theorem Ends.map {ε α β : Type} {failed : Disk → Prop} {done : Disk → Prop} {disk : Disk}
    {action : EStateM ε Disk α} (ends : Ends failed (fun _ => done) (action disk)) (tell : α → β) :
    Ends failed (fun _ => done) ((tell <$> action) disk) := by
  simp only [Functor.map, EStateM.map]
  cases ran : action disk with
  | error fault after =>
    rw [ran] at ends
    exact ends
  | ok value after =>
    rw [ran] at ends
    exact ends

theorem Ends.output {α : Type} {failed : Disk → Prop} {done : α → Disk → Prop} {disk : Disk}
    {writing : Writing α} (ends : Ends failed done (writing disk)) :
    Ends failed done (match writing disk with
      | .ok result disk => (.ok result disk : EStateM.Result RunFault Disk α)
      | .error fault disk => .error (.ofOutput fault) disk) := by
  cases ran : writing disk with
  | error fault after =>
    rw [ran] at ends
    exact ends
  | ok value after =>
    rw [ran] at ends
    exact ends

end Files

namespace Run

/-- A report as a text at its place. -/
def reportText (settings : Settings) (disk : Disk) (name : String) (lines : List String) :
    Place × String :=
  (disk.resolve (settings.outputPath.join name), String.join (lines.map (· ++ "\n")))

def warningTexts (settings : Settings) (disk : Disk) (warnings : List String) :
    List (Place × String) :=
  if warnings.isEmpty then [] else [reportText settings disk settings.warningsFile warnings]

def validationTexts (settings : Settings) (disk : Disk) (headers : List Header) :
    List (Place × String) :=
  if settings.validateOutput then
    [reportText settings disk settings.validationReportFile
      (Check.checkHeaders settings.resolveHeader headers).lines]
  else []

def texts (settings : Settings) (disk : Disk) (plan : Plan) : List (Place × String) :=
  headerTexts disk settings.outputPath plan.generation.headers ++
    (warningTexts settings disk plan.generation.warnings ++
      validationTexts settings disk plan.generation.headers)

theorem reportText_receives {before after : Disk} {written : List (Place × String)}
    (receives : before.Receives written after) (settings : Settings) :
    reportText settings after = reportText settings before := by
  unfold reportText
  simp only [receives.resolve]

theorem texts_of_here {before after : Disk} (same : after.here = before.here) (settings : Settings)
    (plan : Plan) : texts settings after plan = texts settings before plan := by
  unfold texts headerTexts warningTexts validationTexts reportText
  simp only [Disk.resolve_of_here same]

theorem writeReport_ends (settings : Settings) (name : String) (lines : List String)
    (disk : Disk) :
    Ends disk.ReceivesSome (fun _ after => disk.Receives [reportText settings disk name lines] after)
      (writeReport settings name lines disk) := by
  have written := (Action.writeText_ends (settings.outputPath.join name)
    (String.join (lines.map (· ++ "\n"))) disk).blame RunFault.disk
  refine (written.imp (fun _ received => received.receivesSome) fun _ _ received => received).bind ?_
  exact fun _ after received => received

theorem validation_ends (settings : Settings) (headers : List Header)
    (finish : Option Path → Summary) (disk : Disk) :
    Ends disk.ReceivesSome
      (fun _ after => disk.Receives (validationTexts settings disk headers) after)
      ((match if settings.validateOutput = true then
            some (Check.checkHeaders settings.resolveHeader headers) else none with
        | none => do
          let path ← pure none
          pure (finish path)
        | some report => do
          let path ← some <$> writeReport settings settings.validationReportFile report.lines
          pure (finish path) : Step Summary) disk) := by
  unfold validationTexts
  by_cases validated : settings.validateOutput = true
  · simp only [validated, if_true]
    refine ((writeReport_ends settings settings.validationReportFile _ disk).map some).bind ?_
    exact fun _ after received => received
  · simp only [validated, Bool.false_eq_true, if_false]
    exact Disk.Receives.none (.refl disk)

theorem texts_receives {settings : Settings} {plan : Plan} {before middle after : Disk}
    (first : before.Receives (headerTexts before settings.outputPath plan.generation.headers ++
      warningTexts settings before plan.generation.warnings) middle)
    (last : middle.Receives (validationTexts settings middle plan.generation.headers) after) :
    before.Receives (texts settings before plan) after := by
  have same : validationTexts settings middle plan.generation.headers =
      validationTexts settings before plan.generation.headers := by
    unfold validationTexts
    rw [reportText_receives first]
  rw [same] at last
  rw [texts, ← List.append_assoc]
  exact first.append last

/-- Preparing the output directory aside, a run puts its texts, or some texts if it fails. -/
theorem write_ends {settings : Settings} {plan : Plan} {disk : Disk} {failed prepared : Disk → Prop}
    (prepares : Ends failed (fun _ => prepared) (prepareOutput settings.outputPath
      (!settings.singleFile) [plan.assembly] settings.artifacts disk)) :
    Ends (fun left => failed left ∨ ∃ middle, prepared middle ∧ middle.ReceivesSome left)
      (fun _ after => ∃ middle, prepared middle ∧
        middle.Receives (texts settings middle plan) after)
      (write settings plan disk) := by
  unfold write
  dsimp only
  refine Ends.bind (prepares.imp (fun _ => .inl) fun _ _ => id).output ?_
  intro _ middle ready
  -- From here on every failure leaves a disk that has received some texts.
  have onFailure : ∀ left, middle.ReceivesSome left →
      failed left ∨ ∃ middle, prepared middle ∧ middle.ReceivesSome left :=
    fun left received => .inr ⟨middle, ready, received⟩
  have headers := writeHeaders_ends settings.outputPath plan.generation.headers middle
  refine Ends.bind (headers.imp ?_ fun _ _ => id).output ?_
  · exact fun left ⟨written, _, received⟩ => onFailure left received.receivesSome
  · intro written behind received
    have last {before : Disk} (so : middle.Receives
          (headerTexts middle settings.outputPath plan.generation.headers ++
            warningTexts settings middle plan.generation.warnings) before)
        (finish : Option Path → Summary) :=
      (validation_ends settings plan.generation.headers finish before).imp
        (fun left more => onFailure left (so.someMore more)) fun _ after more =>
        (⟨middle, ready, texts_receives so more⟩ : ∃ middle, prepared middle ∧
          middle.Receives (texts settings middle plan) after)
    by_cases quiet : plan.generation.warnings.isEmpty = true
    · simp only [quiet, if_true]
      exact last (by simpa [warningTexts, quiet] using received) _
    · simp only [quiet, Bool.false_eq_true, if_false]
      have warned := (writeReport_ends settings settings.warningsFile plan.generation.warnings
        behind).map some
      refine (warned.imp (fun left more => onFailure left (received.someMore more))
        fun _ _ => id).bind ?_
      intro _ before more
      rw [reportText_receives received] at more
      refine last ?_ _
      rw [warningTexts, if_neg quiet]
      exact received.append more

end Run

end ProxyHeaders
