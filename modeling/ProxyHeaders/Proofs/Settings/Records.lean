import Mathlib.Data.List.Nodup
import ProxyHeaders.Data.Json
import ProxyHeaders.Proofs.Entries
import ProxyHeaders.Settings.Data

/-!
Records as lists of entries. A value that is put under a text leaves all other keys as they are, and
a record that is read from JSON has each of its keys once, all of them texts.
-/
namespace ProxyHeaders

namespace Key

theorem isText_ofCodes (codes : List Nat) : (ofCodes codes).isText := by
  unfold ofCodes
  split <;> rfl

/-- A text counts as itself and nothing else counts as it. -/
theorem identity_eq_iff {key : Key} (text : key.isText) (other : Key) :
    other.identity = key.identity ↔ other = key := by
  have own : key.identity = key := by
    cases key <;> first | rfl | cases text
  rw [own]
  cases other with
  | text | torn | none | int => rfl
  | bool truth => cases key <;> simp [identity] <;> cases text
  | real number =>
    have elsewhere : (number.integer?.map Key.int).getD (.real number) ≠ key := by
      cases number.integer? <;> rintro rfl <;> cases text
    exact ⟨fun same => absurd same elsewhere, fun same => by rw [same, own]⟩

end Key

namespace Entries

def Once (entries : Entries) : Prop := (entries.map (·.1)).Nodup

def Texts (entries : Entries) : Prop := ∀ key ∈ entries.map (·.1), key.isText

/-- What a record of JSON is: no key comes twice, and all keys are texts. -/
structure Keyed (entries : Entries) : Prop where
  once : entries.Once
  texts : entries.Texts

variable {entries above : Entries}

theorem lookup_cons (entry : Key × Value) (rest : Entries) (key : Key) :
    List.lookup key (entry :: rest) = if key = entry.1 then some entry.2 else rest.lookup key := by
  by_cases same : key = entry.1
  · rw [if_pos same, same, List.lookup_cons, beq_self_eq_true]
  · rw [if_neg same, List.lookup_cons, beq_false_of_ne same]

theorem lookup_put (entries : Entries) {key : Key} (text : key.isText) (value : Value)
    (other : Key) :
    (Value.put entries key value).lookup other =
      if other = key then some value else entries.lookup other := by
  induction entries with
  | nil => exact lookup_cons (key, value) [] other
  | cons entry rest ih =>
    unfold Value.put
    by_cases here : entry.1 = key
    · rw [if_pos (by simp [here]), lookup_cons, lookup_cons, here]
      split <;> rfl
    · have apart : ¬ (entry.1.identity == key.identity) = true := by
        rwa [beq_iff_eq, Key.identity_eq_iff text]
      rw [if_neg apart, lookup_cons, lookup_cons, ih]
      grind

theorem lookup_eq_none_iff (entries : Entries) (key : Key) :
    entries.lookup key = none ↔ key ∉ entries.map (·.1) := by
  induction entries with
  | nil => simp
  | cons entry rest ih =>
    rw [lookup_cons, List.map_cons, List.mem_cons, not_or, ← ih]
    split <;> simp [*]

theorem eq_nil_iff (entries : Entries) : entries = [] ↔ ∀ key, entries.lookup key = none := by
  cases entries with
  | nil => simp
  | cons entry rest =>
    refine ⟨fun same => (nomatch same), fun none => ?_⟩
    have found := none entry.1
    rw [lookup_cons, if_pos rfl] at found
    cases found

/-- A key that counts as one that is there changes nothing about the keys; any other comes last. -/
theorem keys_put (entries : Entries) (key : Key) (value : Value) :
    (Value.put entries key value).map (·.1) =
      if key.identity ∈ entries.map (·.1.identity) then entries.map (·.1)
      else entries.map (·.1) ++ [key] := by
  induction entries with
  | nil => rfl
  | cons entry rest ih =>
    unfold Value.put
    by_cases here : entry.1.identity = key.identity
    · rw [if_pos (beq_iff_eq.mpr here), if_pos (by simp [here])]
      rfl
    · have elsewhere : key.identity ≠ entry.1.identity := Ne.symm here
      rw [if_neg (mt beq_iff_eq.mp here), List.map_cons, ih, List.map_cons, List.map_cons]
      simp only [List.mem_cons, elsewhere, false_or]
      split <;> rfl

theorem Once.put {entries : List (Key × Value)} (once : Once entries) (key : Key)
    (value : Value) : Once (Value.put entries key value) := by
  unfold Once
  rw [keys_put]
  split
  · exact once
  · rename_i absent
    have new : key ∉ entries.map (·.1) := by
      intro member
      obtain ⟨entry, listed, rfl⟩ := List.mem_map.mp member
      exact absent (List.mem_map.mpr ⟨entry, listed, rfl⟩)
    exact once.append (List.nodup_singleton key) (List.disjoint_singleton.mpr new)

theorem Texts.put {entries : List (Key × Value)} (texts : Texts entries) {key : Key}
    (text : key.isText) (value : Value) : Texts (Value.put entries key value) := by
  unfold Texts
  rw [keys_put]
  split
  · exact texts
  · exact List.forall_mem_append.mpr ⟨texts, List.forall_mem_singleton.mpr text⟩

theorem Keyed.put {entries : List (Key × Value)} (keyed : Keyed entries) {key : Key}
    (text : key.isText) (value : Value) : Keyed (Value.put entries key value) :=
  ⟨keyed.once.put key value, keyed.texts.put text value⟩

theorem Keyed.overlay (keyed : entries.Keyed) (laid : above.Texts) :
    (entries.overlay above).Keyed := by
  unfold Entries.overlay
  induction above generalizing entries with
  | nil => exact keyed
  | cons entry rest ih =>
    obtain ⟨text, later⟩ := List.forall_mem_cons.mp laid
    exact ih (keyed.put text entry.2) later

theorem Keyed.filter (keyed : entries.Keyed) (keeps : Key × Value → Bool) :
    Keyed (entries.filter keeps) := by
  have fewer : List.Sublist ((entries.filter keeps).map (·.1)) (entries.map (·.1)) :=
    List.filter_sublist.map _
  exact ⟨keyed.once.sublist fewer, fun key member => keyed.texts key (fewer.subset member)⟩

theorem lookup_overlay (entries : Entries) (keyed : above.Keyed) (key : Key) :
    (entries.overlay above).lookup key = (above.lookup key).or (entries.lookup key) := by
  unfold Entries.overlay
  induction above generalizing entries with
  | nil => rfl
  | cons entry rest ih =>
    obtain ⟨absent, once⟩ := List.nodup_cons.mp keyed.once
    obtain ⟨text, texts⟩ := List.forall_mem_cons.mp keyed.texts
    rw [List.foldl_cons, ih _ ⟨once, texts⟩, lookup_put _ text, lookup_cons]
    by_cases same : key = entry.1
    · rw [(lookup_eq_none_iff rest key).mpr (same ▸ absent), if_pos same, if_pos same]
      rfl
    · rw [if_neg same, if_neg same]

end Entries

namespace Data.Json

/-- A value whose keys are texts of which none comes twice, as far as it is itself a record. -/
def Plain (value : Value) : Prop := ∀ entries, value = .record entries → Entries.Keyed entries

def Frame.Sound : Frame → Prop
  | .list _ => True
  | .record entries key =>
    Entries.Keyed entries ∧ ∀ own, key = some own → own.isText

/-- What is open and what is finished has every key once, and texts for keys. -/
structure Machine.Sound (machine : Machine) : Prop where
  frames : ∀ frame ∈ machine.frames, frame.Sound
  result : ∀ value, machine.result = some value → Plain value

variable {levels : Nat} {machine next : Machine} {value : Value}

theorem Machine.Sound.outer {frame : Frame} {outer : List Frame} (sound : machine.Sound)
    (inside : machine.frames = frame :: outer) :
    frame.Sound ∧ ({ machine with frames := outer } : Machine).Sound := by
  obtain ⟨first, rest⟩ := List.forall_mem_cons.mp (inside ▸ sound.frames)
  exact ⟨first, rest, sound.result⟩

theorem Machine.Sound.put (sound : machine.Sound) (frame : Frame) (fits : frame.Sound)
    (expected : Expectation) :
    ({ machine with frames := frame :: machine.frames, expected } : Machine).Sound :=
  ⟨List.forall_mem_cons.mpr ⟨fits, sound.frames⟩, sound.result⟩

theorem Machine.Sound.accept (sound : machine.Sound) (plain : Plain value) :
    (machine.accept value).Sound := by
  unfold Machine.accept
  split
  · exact ⟨sound.frames, fun other same => Option.some.inj same ▸ plain⟩
  · rename_i inside
    exact (sound.outer inside).2.put (.list _) trivial .separator
  · rename_i entries key outer inside
    obtain ⟨⟨keyed, own⟩, rest⟩ := sound.outer inside
    have text : (key.getD (.text "")).isText := by
      cases key with
      | none => rfl
      | some key => exact own key rfl
    exact rest.put (.record _ none) ⟨keyed.put text _, fun _ none => nomatch none⟩ .separator

theorem Machine.Sound.open (sound : machine.Sound) {frame : Frame} (fits : frame.Sound)
    {expected : Expectation} (opened : machine.open levels frame expected = .ok next) : next.Sound := by
  unfold Machine.open at opened
  split at opened <;> cases opened
  exact sound.put frame fits expected

theorem Machine.Sound.close (sound : machine.Sound) (closed : machine.close = .ok next) :
    next.Sound := by
  unfold Machine.close at closed
  split at closed <;> cases closed
  · rename_i inside
    exact (sound.outer inside).2.accept fun _ same => nomatch same
  · rename_i inside
    obtain ⟨once, rest⟩ := sound.outer inside
    exact rest.accept fun _ same => by cases same; exact once.1

theorem numberThen_plain {negative : Bool} {chars rest : List Char}
    (read : numberThen negative chars = .ok (value, rest)) : Plain value := by
  unfold numberThen at read
  dsimp only at read
  split at read
  · cases read
  split at read
  · cases read
    exact fun _ same => nomatch same
  split at read
  · cases read
    exact fun _ same => nomatch same
  split at read <;> cases read
  exact fun _ same => nomatch same

theorem numberOf_plain {negative : Bool} {chars : List Char}
    (read : numberOf negative chars = .ok value) : Plain value := by
  unfold numberOf at read
  split at read <;> cases read
  exact numberThen_plain ‹_›

theorem ofCodes_plain (codes : List Nat) : Plain (.ofCodes codes) := by
  intro entries same
  unfold Value.ofCodes Key.ofCodes at same
  split at same <;> cases same

theorem wordValue_plain {chars : List Char} (read : wordValue chars = .ok value) :
    Plain value := by
  unfold wordValue at read
  split at read
  case h_7 =>
    split at read <;> exact numberOf_plain read
  all_goals
    cases read
    exact fun _ same => nomatch same

theorem Machine.Sound.text {codes : List Nat} (sound : machine.Sound)
    (stepped : machine.step levels (.text codes) = .ok next) : next.Sound := by
  unfold Machine.step at stepped
  dsimp only at stepped
  split at stepped
  · cases stepped
    exact sound.accept (ofCodes_plain codes)
  split at stepped
  · split at stepped
    · -- A key, whose value is still to come.
      rename_i entries key outer inside
      cases stepped
      obtain ⟨⟨plain, -⟩, rest⟩ := sound.outer inside
      refine rest.put (.record entries (some (.ofCodes codes))) ⟨plain, fun own same => ?_⟩ .colon
      cases same
      exact Key.isText_ofCodes codes
    · cases stepped
  · cases stepped

theorem Machine.Sound.word {chars : List Char} (sound : machine.Sound)
    (stepped : machine.step levels (.word chars) = .ok next) : next.Sound := by
  unfold Machine.step at stepped
  dsimp only at stepped
  split at stepped
  · cases word : wordValue chars with
    | error fault =>
      rw [word] at stepped
      cases stepped
    | ok value =>
      rw [word] at stepped
      cases stepped
      exact sound.accept (wordValue_plain word)
  · cases stepped

theorem Machine.Sound.mark {c : Char} (sound : machine.Sound)
    (stepped : machine.step levels (.mark c) = .ok next) : next.Sound := by
  unfold Machine.step at stepped
  dsimp only at stepped
  split at stepped
  · have empty : (Frame.list []).Sound := trivial
    exact Machine.Sound.open sound empty stepped
  split at stepped
  · have empty : (Frame.record [] none).Sound :=
      ⟨⟨List.nodup_nil, fun _ member => nomatch member⟩, fun _ none => nomatch none⟩
    exact Machine.Sound.open sound empty stepped
  split at stepped
  · exact sound.close stepped
  split at stepped
  · exact sound.close stepped
  -- A comma or a colon changes only what may stand next.
  split at stepped
  · cases stepped
    exact ⟨sound.frames, sound.result⟩
  split at stepped <;> cases stepped
  exact ⟨sound.frames, sound.result⟩

theorem Machine.Sound.step {lexeme : Lexeme} (sound : machine.Sound)
    (stepped : machine.step levels lexeme = .ok next) : next.Sound := by
  cases lexeme with
  | text codes => exact sound.text stepped
  | word chars => exact sound.word stepped
  | mark c => exact sound.mark stepped

variable {reading later : Reading}

theorem between_sound {c : Char} (sound : machine.Sound)
    (read : Reading.between levels machine c = .ok later) : later.machine.Sound := by
  unfold Reading.between at read
  split at read
  · cases read
    exact sound
  split at read
  · cases read
    exact sound
  split at read
  · obtain ⟨next, stepped, rest⟩ := bind_found read
    cases rest
    exact sound.step stepped
  split at read <;> cases read
  exact sound

theorem Reading.step_sound {c : Char} (sound : reading.machine.Sound)
    (read : reading.step levels c = .ok later) : later.machine.Sound := by
  unfold Reading.step at read
  split at read
  case h_1 => exact between_sound sound read
  case h_2 =>
    split at read
    · cases read
      exact sound
    · obtain ⟨next, stepped, rest⟩ := bind_found read
      exact between_sound (sound.step stepped) rest
  case h_3 =>
    split at read
    · obtain ⟨next, stepped, rest⟩ := bind_found read
      cases rest
      exact sound.step stepped
    split at read
    · cases read
      exact sound
    split at read <;> cases read
    exact sound
  case h_4 =>
    split at read
    · cases read
      exact sound
    split at read <;> cases read
    exact sound
  case h_5 =>
    split at read
    · cases read
    dsimp only at read
    split at read <;> cases read <;> exact sound

theorem Reading.run_sound {chars : List Char} (sound : reading.machine.Sound)
    (read : chars.foldlM (Reading.step levels) reading = .ok later) : later.machine.Sound := by
  induction chars generalizing reading with
  | nil =>
    cases read
    exact sound
  | cons c rest ih =>
    rw [List.foldlM_cons] at read
    obtain ⟨next, stepped, rest⟩ := bind_found read
    exact ih (Reading.step_sound sound stepped) rest

def Machine.outcome (machine : Machine) : Except Fault Value :=
  match machine.result with
  | some value => if machine.expected == .nothing then .ok value else .error .malformed
  | none => .error .malformed

theorem Machine.Sound.outcome_plain (sound : machine.Sound) (done : machine.outcome = .ok value) :
    Plain value := by
  unfold Machine.outcome at done
  split at done
  · rename_i result
    split at done <;> cases done
    exact sound.result _ result
  · cases done

theorem Reading.finish_plain (sound : reading.machine.Sound) (done : reading.finish levels = .ok value) :
    Plain value := by
  unfold Reading.finish at done
  dsimp only at done
  split at done
  · exact sound.outcome_plain done
  · obtain ⟨machine, stepped, rest⟩ := bind_found done
    exact (sound.step stepped).outcome_plain rest
  · cases done

/-- A record that is read has each of its keys once, all of them texts. -/
theorem read_plain {text : String} {entries : Entries}
    (done : read levels text = .ok (.record entries)) : entries.Keyed := by
  have start : Machine.start.Sound := ⟨fun _ member => (nomatch member), fun _ same => nomatch same⟩
  obtain ⟨reading, run, rest⟩ := bind_found done
  exact Reading.finish_plain (Reading.run_sound start run) rest entries rfl

end Data.Json

end ProxyHeaders
