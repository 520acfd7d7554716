import ProxyHeaders.Load.Loader
import ProxyHeaders.Proofs.Selection

/-!
What several readers find in one assembly. Readers that cannot be used and readers that refuse the
assembly are passed over, unless there is no other; what the others find is united in their order,
and of that the types are selected.
-/
namespace ProxyHeaders.Load

open ProxyHeaders.Files ProxyHeaders.Selection

/-- No reader breaks down over an assembly. -/
def Expected (disk : Disk) (path : Path) (loaders : List Loader) : Prop :=
  ∀ loader ∈ loaders, (loader.ask disk path).breakdown? = none

/-- There are readers, and each of them is unavailable or refuses the assembly. -/
def AllPassedOver (disk : Disk) (path : Path) (loaders : List Loader) : Prop :=
  loaders ≠ [] ∧ ∀ loader ∈ loaders, (loader.ask disk path).reason?.isSome

def foundBy (disk : Disk) (path : Path) (loaders : List Loader) : List TypeDecl :=
  loaders.flatMap fun loader => (loader.ask disk path).types?.getD []

variable {disk : Disk} {path : Path} {loaders : List Loader}

def allAnswers (disk : Disk) (path : Path) (loaders : List Loader) : List (String × Answer) :=
  loaders.map fun loader => (loader.name, loader.ask disk path)

theorem answers_expected (expected : Expected disk path loaders) :
    answers disk path loaders = allAnswers disk path loaders := by
  induction loaders with
  | nil => rfl
  | cons loader rest ih =>
    have first := expected loader List.mem_cons_self
    have later := ih fun other member => expected other (List.mem_cons_of_mem _ member)
    simp [answers, allAnswers, first, later]

theorem allPassedOver_iff :
    (allAnswers disk path loaders ≠ [] ∧
        ∀ entry ∈ allAnswers disk path loaders, entry.2.reason?.isSome) ↔
      AllPassedOver disk path loaders := by
  rw [AllPassedOver, allAnswers, List.forall_mem_map, ne_eq, ne_eq, List.map_eq_nil_iff]

theorem allAnswers_types :
    ((allAnswers disk path loaders).flatMap fun entry => entry.2.types?.getD []) =
      foundBy disk path loaders := List.flatMap_map ..

/-- Why the types are not from this reader. -/
def complaint (asked : String × Answer) : Option String :=
  asked.2.reason?.map fun reason => asked.1 ++ ": " ++ reason

theorem complaints_complete {asked : List (String × Answer)} :
    (!(asked.filterMap complaint).isEmpty && (asked.filterMap complaint).length == asked.length) =
        true ↔
      asked ≠ [] ∧ ∀ entry ∈ asked, entry.2.reason?.isSome := by
  have all : (asked.filterMap complaint).length = asked.length ↔
      ∀ entry ∈ asked, entry.2.reason?.isSome := by
    rw [List.filterMap_length_eq_length]
    simp only [complaint, Option.isSome_map]
  rw [Bool.and_eq_true, beq_iff_eq, ← all]
  refine and_congr_left fun lengths => ?_
  rw [Bool.not_eq_true', List.isEmpty_eq_false_iff, ne_eq, ne_eq, ← List.length_eq_zero_iff, lengths,
    List.length_eq_zero_iff]

theorem gather_expected {asked : List (String × Answer)}
    (expected : ∀ entry ∈ asked, entry.2.breakdown? = none) :
    gather asked =
      if asked ≠ [] ∧ ∀ entry ∈ asked, entry.2.reason?.isSome then
        .error (.unreadable (asked.filterMap complaint))
      else .ok {
        types := asked.flatMap fun entry => entry.2.types?.getD []
        used := (asked.filter (·.2.types?.isSome)).map (·.1) } := by
  have calm : asked.findSome? (·.2.breakdown?) = none := List.findSome?_eq_none_iff.mpr expected
  simp only [gather, calm]
  exact if_congr complaints_complete rfl rfl

/-- Readers that do not break down fail to read an assembly exactly if there are some and each of
them is passed over. Otherwise the types that are selected of what they find are, for every full
name, the first type of all readers that can be generated. -/
theorem readers_united (expected : Expected disk path loaders) :
    let gathered := gather (answers disk path loaders)
    ((∃ reasons, gathered = .error (.unreadable reasons)) ↔ AllPassedOver disk path loaders) ∧
      (¬ AllPassedOver disk path loaders →
        ∃ loaded, gathered = .ok loaded ∧
          Selects (foundBy disk path loaders) (select loaded.types)) := by
  have calm : ∀ entry ∈ allAnswers disk path loaders, entry.2.breakdown? = none := by
    rw [allAnswers, List.forall_mem_map]
    exact expected
  rw [answers_expected expected, gather_expected calm]
  by_cases passed : AllPassedOver disk path loaders
  · rw [if_pos (allPassedOver_iff.mpr passed)]
    exact ⟨iff_of_true ⟨_, rfl⟩ passed, fun other => absurd passed other⟩
  · rw [if_neg (mt allPassedOver_iff.mp passed)]
    refine ⟨iff_of_false ?_ passed, fun _ => ⟨_, rfl, ?_⟩⟩
    · rintro ⟨reasons, refused⟩
      cases refused
    · rw [allAnswers_types]
      exact select_selects _

/-! Four readers of a game, two of which are passed over. The third knows the player as a nested type
only, and both the third and the last know the enemy. -/

def gamePath : Path := .ofText "Game.dll"

def playerIn (source : String) (isNested : Bool) : TypeDecl :=
  { name := "Player", space := some "Game", source, isNested }

def enemyIn (source : String) : TypeDecl := { name := "Enemy", space := some "Game", source }

def gameReaders : List Loader := [
  { name := "reflection", isAvailable := false, load := fun _ _ => .ok [] },
  { name := "broken", load := fun _ _ => .error (.refused "no metadata") },
  { name := "outer", load := fun _ _ => .ok [playerIn "outer" true, enemyIn "outer"] },
  { name := "all", load := fun _ _ => .ok [playerIn "all" false, enemyIn "all"] }]

theorem game_united :
    Expected {} gamePath gameReaders ∧ ¬ AllPassedOver {} gamePath gameReaders ∧
      ∃ loaded, gather (answers {} gamePath gameReaders) = .ok loaded ∧
        Selects (foundBy {} gamePath gameReaders) (select loaded.types) ∧
        select loaded.types = [enemyIn "outer", playerIn "all" false] := by
  have expected : Expected {} gamePath gameReaders := by
    simp [Expected, gameReaders, Loader.ask, Answer.breakdown?]
  have open_ : ¬ AllPassedOver {} gamePath gameReaders := by
    simp [AllPassedOver, gameReaders, Loader.ask, Answer.reason?]
  obtain ⟨loaded, gathered, selects⟩ := (readers_united expected).2 open_
  have types : loaded.types =
      [playerIn "outer" true, enemyIn "outer", playerIn "all" false, enemyIn "all"] := by
    cases gathered
    rfl
  refine ⟨expected, open_, loaded, gathered, selects, ?_⟩
  rw [types]
  rfl

end ProxyHeaders.Load
