import ProxyHeaders.CommandLine.Arguments
import ProxyHeaders.Proofs.Settings.Records
import ProxyHeaders.Settings.Load

/-!
Loading settings from a file and a command line. What comes out has what the command line states,
else what the file says, else what is usual. What goes wrong is told as a refusal, but for a few
values that nothing expects: what they are is listed here, and that there are no others.
-/
namespace ProxyHeaders

open Files

namespace Settings

/-- What a settings file says, if it can be read with the calls that are left. -/
def Holds (levels : Nat) (content : Content) (file : Entries) : Prop :=
  ∃ text, content.toText? = some text ∧ Data.Json.read levels text = .ok (.record file)

def usual : Entries := ({} : Settings).toEntries

/-- The value of a setting: what the caller states goes before the file, and that before what is
usual. -/
def valueOf (file overrides : Entries) (key : Key) : Option Value :=
  ((withoutNone overrides).lookup key).or ((file.lookup key).or (usual.lookup key))

/-- The settings that are checked to be words. -/
def wordKeys : List Key := ["placeholder_base", "obfuscate_macro"]

/-- Overrides of settings that take one value each; words and custom settings are left to the
file. -/
structure Overriding (overrides : Entries) : Prop where
  once : overrides.Once
  known : ∀ key ∈ overrides.map (·.1), key ∈ keys ∧ key ∉ Key.text "custom" :: wordKeys

def HasOthers (file : Entries) : Prop := ∃ key ∈ file.map (·.1), key ∉ keys

def customOf (file : Entries) : Value := (file.lookup (.text "custom")).getD (.record [])

/-- Entries that are made of a file and overrides. -/
structure Follows (file overrides entries : Entries) : Prop where
  settings : ∀ key ∈ keys, key ≠ .text "custom" → entries.lookup key = valueOf file overrides key
  noOthers : ∀ key, key ∉ keys → entries.lookup key = none
  custom : ¬ HasOthers file → entries.lookup (.text "custom") = some (customOf file)
  joined : HasOthers file → ∃ own joined, customEntries (customOf file) = .ok own ∧
    entries.lookup (.text "custom") = some (.record joined) ∧
    ∀ key, joined.lookup key =
      if key ∈ keys then own.lookup key else (file.lookup key).or (own.lookup key)

/-- A value that is taken for a word and is no text. -/
def NoWord (value : Value) : Prop := value.isTrue ∧ value.text? = none

/-- The entries of a file that nothing expects, and what comes of them: custom settings that others
cannot join, and values that are taken for words. -/
inductive Unsettled (file : Entries) : Fault → Prop where
  | custom {fault : Fault} (others : HasOthers file)
      (failed : customEntries (customOf file) = .error fault) : Unsettled file fault
  | noWord {key : Key} {value : Value}
      (joins : HasOthers file → ∃ own, customEntries (customOf file) = .ok own)
      (word : key ∈ wordKeys) (stated : file.lookup key = some value) (noWord : NoWord value) :
      Unsettled file .noWord

/-- The contents of a file that cannot be read, and what comes of them: no text, or JSON that goes
beyond what its reader can do. -/
inductive Unread (levels : Nat) (content : Content) : Fault → Prop where
  | notText (illegible : content.toText? = none) : Unread levels content .notText
  | tooDeep {text : String} (written : content.toText? = some text)
      (deep : Data.Json.read levels text = .error .tooDeep) : Unread levels content .tooDeep
  | tooLong {text : String} (written : content.toText? = some text)
      (long : Data.Json.read levels text = .error .tooLong) : Unread levels content .tooLong

/-- What keeps the settings of a file from being made, beside what the caller is told. -/
def Unexpected (levels : Nat) (content : Content) (fault : Fault) : Prop :=
  Unread levels content fault ∨ ∃ file, Holds levels content file ∧ Unsettled file fault

variable {levels : Nat} {file overrides entries : Entries} {fault : Fault}

theorem usual_keyed : usual.Keyed := by
  constructor
  · unfold Entries.Once
    decide
  · unfold Entries.Texts
    decide

theorem Overriding.keyed (overriding : Overriding overrides) : overrides.Keyed :=
  ⟨overriding.once, fun key stated => usual_keyed.texts key (overriding.known key stated).1⟩

theorem stated_keyed (overriding : Overriding overrides) : (withoutNone overrides).Keyed :=
  overriding.keyed.filter _

theorem layered_keyed (keyed : file.Keyed) (overriding : Overriding overrides) :
    (layered file overrides).Keyed :=
  (usual_keyed.overlay keyed.texts).overlay (stated_keyed overriding).texts

theorem lookup_layered (keyed : file.Keyed) (overriding : Overriding overrides) (key : Key) :
    (layered file overrides).lookup key = valueOf file overrides key := by
  unfold layered
  rw [Entries.lookup_overlay _ (stated_keyed overriding), Entries.lookup_overlay _ keyed]
  rfl

/-! Values that only the file can have -/

theorem Overriding.unstated (overriding : Overriding overrides) {key : Key}
    (other : key ∉ keys ∨ key ∈ Key.text "custom" :: wordKeys) :
    (withoutNone overrides).lookup key = none := by
  rw [Entries.lookup_eq_none_iff]
  intro member
  obtain ⟨known, free⟩ := overriding.known key ((List.filter_sublist.map _).subset member)
  exact other.elim (absurd known) (fun left => free left)

theorem usual_known {key : Key} (unknown : key ∉ keys) : usual.lookup key = none :=
  (Entries.lookup_eq_none_iff usual key).mpr unknown

theorem valueOf_other (overriding : Overriding overrides) {key : Key} (unknown : key ∉ keys) :
    valueOf file overrides key = file.lookup key := by
  unfold valueOf
  rw [overriding.unstated (.inl unknown), usual_known unknown, Option.none_or, Option.or_none]

theorem valueOf_custom (overriding : Overriding overrides) :
    valueOf file overrides (.text "custom") = some (customOf file) := by
  have free : usual.lookup (.text "custom") = some (.record []) := rfl
  unfold valueOf customOf
  rw [overriding.unstated (.inr List.mem_cons_self), free, Option.none_or]
  cases file.lookup (.text "custom") <;> rfl

theorem noWord_valueOf (overriding : Overriding overrides) {key : Key} (word : key ∈ wordKeys) :
    NoWord ((valueOf file overrides key).getD .none) ↔
      ∃ value, file.lookup key = some value ∧ NoWord value := by
  have plain : ∃ written, usual.lookup key = some (.text written) := by
    simp only [wordKeys, List.mem_cons, List.not_mem_nil, or_false] at word
    obtain rfl | rfl := word <;> exact ⟨_, rfl⟩
  obtain ⟨written, plain⟩ := plain
  unfold valueOf
  rw [overriding.unstated (.inr (List.mem_cons_of_mem _ word)), plain, Option.none_or]
  cases stated : file.lookup key with
  | none => simp [NoWord, Value.text?]
  | some value => simp

/-! Settings and others apart -/

def knownOf (entries : Entries) : Entries := entries.filter fun (key, _) => keys.contains key

def othersOf (entries : Entries) : Entries := entries.filter fun (key, _) => !keys.contains key

theorem gather_eq (entries : Entries) : gather entries =
    if (othersOf entries).isEmpty then .ok (knownOf entries)
    else do
      let custom ← customEntries (((knownOf entries).lookup (.text "custom")).getD .none)
      return Value.put (knownOf entries) "custom"
        (.record (custom.overlay (othersOf entries))) := by
  unfold gather
  rw [List.partition_eq_filter_filter]
  rfl

theorem lookup_knownOf (entries : Entries) (key : Key) :
    (knownOf entries).lookup key = if key ∈ keys then entries.lookup key else none := by
  unfold knownOf
  rw [lookup_filter_key entries (fun key => keys.contains key) key]
  by_cases known : key ∈ keys <;> simp [known]

theorem lookup_othersOf (entries : Entries) (key : Key) :
    (othersOf entries).lookup key = if key ∈ keys then none else entries.lookup key := by
  unfold othersOf
  rw [lookup_filter_key entries (fun key => !keys.contains key) key]
  by_cases known : key ∈ keys <;> simp [known]

section Layered

variable (keyed : file.Keyed) (overriding : Overriding overrides)

include keyed overriding

theorem lookup_others (key : Key) :
    (othersOf (layered file overrides)).lookup key =
      if key ∈ keys then none else file.lookup key := by
  rw [lookup_othersOf, lookup_layered keyed overriding]
  split
  · rfl
  · exact valueOf_other overriding ‹_›

theorem others_empty_iff : (othersOf (layered file overrides)).isEmpty ↔ ¬ HasOthers file := by
  rw [List.isEmpty_iff, Entries.eq_nil_iff]
  simp only [lookup_others keyed overriding, HasOthers, not_exists, not_and, not_not]
  refine forall_congr' fun key => ?_
  split
  · simp [*]
  · rename_i unknown
    rw [Entries.lookup_eq_none_iff]
    exact ⟨fun absent inside => absurd inside absent, fun known inside => unknown (known inside)⟩

theorem lookup_known {key : Key} (known : key ∈ keys) :
    (knownOf (layered file overrides)).lookup key = valueOf file overrides key := by
  rw [lookup_knownOf, if_pos known, lookup_layered keyed overriding]

theorem known_custom :
    (knownOf (layered file overrides)).lookup (.text "custom") = some (customOf file) := by
  rw [lookup_known keyed overriding (by decide), valueOf_custom overriding]

theorem gather_follows {kept : Entries} (gathered : gather (layered file overrides) = .ok kept) :
    Follows file overrides kept := by
  rw [gather_eq, known_custom keyed overriding] at gathered
  split at gathered
  · rename_i none
    have alone := (others_empty_iff keyed overriding).mp none
    cases gathered
    exact {
      settings := fun key known _ => lookup_known keyed overriding known
      noOthers := fun key unknown => by rw [lookup_knownOf, if_neg unknown]
      custom := fun _ => known_custom keyed overriding
      joined := fun others => absurd others alone }
  · rename_i some
    have others : HasOthers file :=
      not_not.mp (mt (others_empty_iff keyed overriding).mpr some)
    obtain ⟨own, joins, made⟩ := bind_found gathered
    cases made
    have distinct : (othersOf (layered file overrides)).Keyed :=
      (layered_keyed keyed overriding).filter _
    refine {
      settings := fun key known other => ?_
      noOthers := fun key unknown => ?_
      custom := fun alone => absurd others alone
      joined := fun _ => ⟨own, _, joins, by rw [Entries.lookup_put _ rfl, if_pos rfl], fun key => ?_⟩ }
    · rw [Entries.lookup_put _ rfl, if_neg other, lookup_known keyed overriding known]
    · have other : key ≠ .text "custom" := fun same => unknown (same ▸ by decide)
      rw [Entries.lookup_put _ rfl, if_neg other, lookup_knownOf, if_neg unknown]
    · rw [Entries.lookup_overlay _ distinct, lookup_others keyed overriding]
      split <;> rfl

theorem gather_fault :
    gather (layered file overrides) = .error fault ↔
      HasOthers file ∧ customEntries (customOf file) = .error fault := by
  rw [gather_eq, known_custom keyed overriding]
  split
  · rename_i none
    have alone := (others_empty_iff keyed overriding).mp none
    simp [alone]
  · rename_i some
    have others : HasOthers file :=
      not_not.mp (mt (others_empty_iff keyed overriding).mpr some)
    rw [and_iff_right others, Option.getD_some]
    cases customEntries (customOf file) <;> simp [bind, Except.bind, pure, Except.pure]

end Layered

theorem word_kept (follows : Follows file overrides entries) {key : Key}
    (word : key ∈ wordKeys) : entries.lookup key = valueOf file overrides key := by
  have setting : ∀ key ∈ wordKeys, key ∈ keys ∧ key ≠ .text "custom" := by decide
  obtain ⟨known, other⟩ := setting key word
  exact follows.settings key known other

/-! What is checked -/

theorem isWord_fault {value : Value} :
    isWord value = .error fault ↔ fault = .noWord ∧ NoWord value := by
  unfold isWord NoWord
  by_cases holds : value.isTrue
  · rw [if_neg (by simp [holds])]
    cases value <;> simp [holds, Value.text?, eq_comm]
  · simp [holds]

/-- A check that gives up does so for a word that is none. -/
theorem problems_fault : problems entries = .error fault ↔
    fault = .noWord ∧ ∃ key ∈ wordKeys, NoWord ((entries.lookup key).getD .none) := by
  have asked : (∃ key ∈ wordKeys, NoWord ((entries.lookup key).getD .none)) ↔
      NoWord ((entries.lookup (.text "placeholder_base")).getD .none) ∨
        NoWord ((entries.lookup (.text "obfuscate_macro")).getD .none) := by
    simp [wordKeys]
  rw [asked]
  unfold problems
  dsimp only
  constructor
  · intro failed
    obtain lost | ⟨_, _, rest⟩ := bind_faults failed
    · exact ⟨(isWord_fault.mp lost).1, .inl (isWord_fault.mp lost).2⟩
    obtain lost | ⟨_, _, made⟩ := bind_faults rest
    · exact ⟨(isWord_fault.mp lost).1, .inr (isWord_fault.mp lost).2⟩
    · cases made
  · rintro ⟨rfl, noWord⟩
    cases placeholder : isWord ((entries.lookup (.text "placeholder_base")).getD .none) with
    | error fault =>
      rw [(isWord_fault.mp placeholder).1]
      rfl
    | ok sound =>
      obtain first | second := noWord
      · rw [isWord_fault.mpr ⟨rfl, first⟩] at placeholder
        cases placeholder
      · rw [isWord_fault.mpr ⟨rfl, second⟩]
        rfl

/-! What is read -/

theorem readFile_eq {disk : Disk} {path : Path} {content : Content}
    (stands : disk.content? path = some content) (suffix : Text.lower path.suffix = ".json") :
    readFile levels disk path =
      match content.toText? with
      | none => .error .notText
      | some text =>
        match Data.Json.read levels text with
        | .ok (.record file) => .ok file
        | .ok _ => .error (.refused (.notRecord path))
        | .error .malformed => .error (.refused (.malformed path))
        | .error .tooDeep => .error .tooDeep
        | .error .tooLong => .error .tooLong := by
  unfold Disk.content? Disk.entryAt at stands
  cases located : disk.locate path with
  | error trouble => simp [located] at stands
  | ok place =>
    cases entry : disk.find? place with
    | none => simp [located, entry] at stands
    | some entry' =>
      cases entry' with
      | directory => simp [located, entry] at stands
      | file own =>
        simp only [located, entry, Option.some.injEq] at stands
        subst stands
        unfold readFile Disk.read Disk.isPresent Disk.entryAt
        simp only [located, entry, suffix, Option.isSome_some, Bool.not_true, Bool.false_eq_true,
          if_false, bne_self_eq_false]
        rfl

section File

variable {disk : Disk} {path : Path} {content : Content}

theorem readFile_iff (stands : disk.content? path = some content)
    (suffix : Text.lower path.suffix = ".json") :
    readFile levels disk path = .ok file ↔ Holds levels content file := by
  rw [readFile_eq stands suffix]
  unfold Holds
  cases content.toText? with
  | none => simp
  | some text =>
    simp only [Option.some.injEq, exists_eq_left']
    split <;> simp_all

theorem readFile_fault (stands : disk.content? path = some content)
    (suffix : Text.lower path.suffix = ".json") (failed : readFile levels disk path = .error fault) :
    (∃ refusal, fault = .refused refusal) ∨ Unread levels content fault := by
  rw [readFile_eq stands suffix] at failed
  cases written : content.toText? with
  | none =>
    rw [written] at failed
    cases failed
    exact .inr (.notText written)
  | some text =>
    rw [written] at failed
    dsimp only at failed
    split at failed <;> cases failed
    · exact .inl ⟨_, rfl⟩
    · exact .inl ⟨_, rfl⟩
    · exact .inr (.tooDeep written ‹_›)
    · exact .inr (.tooLong written ‹_›)

theorem readFile_of_unread (stands : disk.content? path = some content)
    (suffix : Text.lower path.suffix = ".json") (unread : Unread levels content fault) :
    readFile levels disk path = .error fault := by
  rw [readFile_eq stands suffix]
  cases unread with
  | notText illegible => rw [illegible]
  | tooDeep written deep =>
    rw [written]
    dsimp only
    rw [deep]
  | tooLong written long =>
    rw [written]
    dsimp only
    rw [long]

end File

theorem overrides_overriding (arguments : CommandLine.Arguments) :
    Overriding arguments.overrides := by
  have stated : arguments.overrides.map (·.1) =
    ["single_file", "use_reflection", "output_dir", "image_name", "validate_output"] := rfl
  constructor
  · unfold Entries.Once
    rw [stated]
    decide
  · rw [stated]
    decide

def settled (file overrides : Entries) : Except Fault Entries := do
  let entries ← gather (layered file overrides)
  match ← problems entries with
  | [] => return entries
  | found => .error (.refused (.unsound found))

theorem loadEntries_eq {disk : Disk} {name : String}
    (suffix : Text.lower (Path.ofText name).suffix = ".json") :
    loadEntries levels disk (some name) overrides =
      (do settled (← readFile levels disk (.ofText name)) overrides) := by
  have given : name ≠ "" := by
    rintro rfl
    exact absurd suffix (by decide)
  unfold loadEntries
  dsimp only
  split
  · exact nomatch ‹some name = none›
  · exact absurd (Option.some.inj ‹_›) given
  · rename_i same
    cases same
    rfl

section Settled

variable (keyed : file.Keyed) (overriding : Overriding overrides)

include keyed overriding

theorem settled_follows (done : settled file overrides = .ok entries) :
    Follows file overrides entries := by
  obtain ⟨kept, gathered, rest⟩ := bind_found done
  obtain ⟨found, checked, rest⟩ := bind_found rest
  split at rest <;> cases rest
  exact gather_follows keyed overriding gathered

theorem settled_fault (failed : settled file overrides = .error fault) :
    (∃ refusal, fault = .refused refusal) ∨ Unsettled file fault := by
  obtain lost | ⟨kept, gathered, rest⟩ := bind_faults failed
  · obtain ⟨others, failed⟩ := (gather_fault keyed overriding).mp lost
    exact .inr (.custom others failed)
  have joins (others : HasOthers file) : ∃ own, customEntries (customOf file) = .ok own := by
    cases custom : customEntries (customOf file) with
    | ok own => exact ⟨own, rfl⟩
    | error fault =>
      rw [(gather_fault keyed overriding).mpr ⟨others, custom⟩] at gathered
      cases gathered
  obtain lost | ⟨found, _, rest⟩ := bind_faults rest
  · obtain ⟨rfl, key, word, noWord⟩ := problems_fault.mp lost
    rw [word_kept (gather_follows keyed overriding gathered) word,
      noWord_valueOf overriding word] at noWord
    obtain ⟨value, stated, noWord⟩ := noWord
    exact .inr (.noWord joins word stated noWord)
  · split at rest <;> cases rest
    exact .inl ⟨_, rfl⟩

theorem settled_of_unsettled (unsettled : Unsettled file fault) :
    settled file overrides = .error fault := by
  unfold settled
  cases unsettled with
  | custom others failed =>
    rw [(gather_fault keyed overriding).mpr ⟨others, failed⟩]
    rfl
  | noWord joins word stated noWord =>
    cases gathered : gather (layered file overrides) with
    | error fault =>
      obtain ⟨others, failed⟩ := (gather_fault keyed overriding).mp gathered
      obtain ⟨own, made⟩ := joins others
      cases made.symm.trans failed
    | ok kept =>
      have noWord := (noWord_valueOf overriding word).mpr ⟨_, stated, noWord⟩
      rw [← word_kept (gather_follows keyed overriding gathered) word] at noWord
      have gaveUp := problems_fault.mpr ⟨rfl, _, word, noWord⟩
      simp only [bind, Except.bind, gaveUp]

end Settled

/-- A settings file that is there, whatever it holds, and what the command line states: either the
settings are made of both, or the caller is told what is wrong with them, or the file holds what
nothing expects. -/
theorem loading_outcomes (levels : Nat) {disk : Disk} {arguments : CommandLine.Arguments}
    {name : String} {content : Content} (named : arguments.config = some name)
    (stands : disk.content? (.ofText name) = some content)
    (suffix : Text.lower (Path.ofText name).suffix = ".json") :
    (∀ entries, loadEntries levels disk arguments.config arguments.overrides = .ok entries →
      ∃ file, Holds levels content file ∧ Follows file arguments.overrides entries) ∧
    (∀ fault, loadEntries levels disk arguments.config arguments.overrides = .error fault →
      (∃ refusal, fault = .refused refusal) ∨ Unexpected levels content fault) ∧
    ∀ fault, Unexpected levels content fault →
      loadEntries levels disk arguments.config arguments.overrides = .error fault := by
  have overriding := overrides_overriding arguments
  have read {file : Entries} := @readFile_iff levels file _ _ _ stands suffix
  have keyed {file : Entries} (holds : Holds levels content file) : file.Keyed := by
    obtain ⟨text, _, done⟩ := holds
    exact Data.Json.read_plain done
  rw [named, loadEntries_eq suffix]
  refine ⟨fun entries loaded => ?_, fun fault failed => ?_, fun fault unexpected => ?_⟩
  · obtain ⟨file, found, done⟩ := bind_found loaded
    have holds := read.mp found
    exact ⟨file, holds, settled_follows (keyed holds) overriding done⟩
  · obtain lost | ⟨file, found, lost⟩ := bind_faults failed
    · exact (readFile_fault stands suffix lost).imp_right .inl
    · have holds := read.mp found
      exact (settled_fault (keyed holds) overriding lost).imp_right fun unsettled =>
        .inr ⟨file, holds, unsettled⟩
  · obtain unread | ⟨file, holds, unsettled⟩ := unexpected
    · rw [readFile_of_unread stands suffix unread]
      rfl
    · rw [read.mpr holds]
      exact settled_of_unsettled (keyed holds) overriding unsettled

def plainText : String := "\x7b\"output_dir\": \"In\", \"indent_size\": 2, \"team\": 1\x7d"

def plainFile : Entries := [("output_dir", .text "In"), ("indent_size", .int 2), ("team", .int 1)]

def oddText : String := "\x7b\"placeholder_base\": 5\x7d"

def oddFile : Entries := [("placeholder_base", .int 5)]

def desk : Disk where
  entries := [(["plain.json"], .file (.text plainText)), (["odd.json"], .file (.text oddText))]

def deskArguments (name : String) : CommandLine.Arguments :=
  { output := some "Out", config := some name }

theorem desk_loaded :
    (∃ entries, loadEntries 980 desk (some "plain.json") (deskArguments "plain.json").overrides =
        .ok entries ∧
      entries.lookup (.text "output_dir") = some (.text "Out") ∧
      entries.lookup (.text "indent_size") = some (.int 2) ∧
      ∃ joined, entries.lookup (.text "custom") = some (.record joined) ∧
        joined.lookup (.text "team") = some (.int 1)) ∧
    loadEntries 980 desk (some "odd.json") (deskArguments "odd.json").overrides = .error .noWord := by
  have loading (name : String) {content : Content} := @loading_outcomes 980 desk (deskArguments name)
    name content rfl
  constructor
  · have loaded : ∃ entries, loadEntries 980 desk (some "plain.json")
      (deskArguments "plain.json").overrides = .ok entries := ⟨_, rfl⟩
    obtain ⟨entries, loaded⟩ := loaded
    obtain ⟨file, ⟨text, written, done⟩, follows⟩ :=
      (loading "plain.json" rfl (by decide)).1 entries loaded
    cases written
    have read : Data.Json.read 980 plainText = .ok (.record plainFile) := rfl
    cases read.symm.trans done
    have others : HasOthers plainFile := ⟨"team", by decide, by decide⟩
    obtain ⟨own, joined, made, custom, each⟩ := follows.joined others
    cases made
    exact ⟨entries, loaded, follows.settings _ (by decide) (by decide),
      follows.settings _ (by decide) (by decide), joined, custom, each (.text "team")⟩
  · have odd : Unsettled oddFile .noWord :=
      .noWord (fun _ => ⟨[], rfl⟩) List.mem_cons_self rfl ⟨rfl, rfl⟩
    exact (loading "odd.json" rfl (by decide)).2.2 _ (.inr ⟨oddFile, ⟨_, rfl, rfl⟩, odd⟩)

end Settings

end ProxyHeaders
