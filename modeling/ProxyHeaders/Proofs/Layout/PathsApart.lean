import ProxyHeaders.Proofs.Layout.Emitted
import ProxyHeaders.Proofs.Layout.Grouping
import ProxyHeaders.Proofs.Layout.UnitPaths
import ProxyHeaders.Proofs.Names.Identifiers

/-!
The paths of separate headers, as texts and as places of a disk. The dots of a namespace become
slashes, and a type in no namespace goes to a directory of its own name. Where no namespace holds a
slash itself, a path still tells the group of its type and its generated name, of which each type
that is written has its own. Its place tells them where every part of a namespace names a directory.
-/
namespace ProxyHeaders.Layout

open ProxyHeaders.Files ProxyHeaders.Mapping ProxyHeaders.Names ProxyHeaders.Template

/-- A namespace that holds no slash, whatever else it holds. -/
def Unslashed (space : Option String) : Prop := ∀ text ∈ space, '/' ∉ text.toList

instance (space : Option String) : Decidable (Unslashed space) := Option.decidableForallMem space

theorem groupKey_unslashed {type : TypeDecl} (unslashed : Unslashed type.space) :
    '/' ∉ type.groupKey.toList := by
  rw [TypeDecl.groupKey]
  cases given : stated type.space with
  | none => decide
  | some text => exact unslashed text (Option.filter_eq_some_iff.mp given).1

theorem directory_of_key (type : TypeDecl) :
    (directoryOf (stated type.space)).toList =
      type.groupKey.toList.map fun c => if c = '.' then '/' else c := by
  rw [TypeDecl.groupKey]
  cases stated type.space with
  | none => decide
  | some text => exact directoryOf_written text

theorem dotted_again {chars : List Char} (unslashed : '/' ∉ chars) :
    ((chars.map fun c => if c = '.' then '/' else c).map fun c => if c = '/' then '.' else c) =
      chars := by
  rw [List.map_map]
  refine (List.map_congr_left ?_).trans (List.map_id chars)
  intro c member
  by_cases dot : c = '.'
  · simp [dot]
  · have other : c ≠ '/' := fun slash => unslashed (slash ▸ member)
    simp [dot, other]

theorem directory_injective {first second : TypeDecl} (firstUnslashed : Unslashed first.space)
    (secondUnslashed : Unslashed second.space)
    (same : directoryOf (stated first.space) = directoryOf (stated second.space)) :
    first.groupKey = second.groupKey := by
  have texts := congrArg String.toList same
  rw [directory_of_key, directory_of_key] at texts
  have keys := congrArg (List.map fun c => if c = '/' then '.' else c) texts
  rw [dotted_again (groupKey_unslashed firstUnslashed),
    dotted_again (groupKey_unslashed secondUnslashed)] at keys
  exact String.toList_inj.mp keys

/-- The last slash of a path is the one behind its directory. -/
theorem unitPath_apart {map : TypeMap} (wordy : map.sanitizer.Wordy) {first second : TypeDecl}
    (firstUnslashed : Unslashed first.space) (secondUnslashed : Unslashed second.space)
    (same : unitPath map first = unitPath map second) :
    laidUnder map first = laidUnder map second := by
  have pieces := congrArg (Text.splitAtChar '/') same
  rw [unitPath_pieces wordy, unitPath_pieces wordy] at pieces
  obtain ⟨directories, files⟩ := List.append_inj' pieces rfl
  have directory := splitAtChar_injective '/' directories
  exact laidUnder_of_file (directory_injective firstUnslashed secondUnslashed directory) files

theorem split_generated (settings : Settings) (questions : List (Option String × NameCase))
    (types : List TypeDecl) :
    let split := { settings with singleFile := false }
    let sanitizer := Sanitizer.forHeaders.askAll questions
    let map := (jobFor split sanitizer renderer types).map
    map.sanitizer.Wordy ∧
      ∃ generation, generateWith split sanitizer renderer types = .ok generation ∧
        generation.headers.map (·.path) = (writtenOrder map types).map (unitPath map) := by
  intro split sanitizer map
  have same : map.sanitizer = sanitizer := (TypeMap.declareAll_rest _ types).1
  have wordy : map.sanitizer.Wordy := by
    rw [same]
    exact (Sanitizer.askAll_guarded Sanitizer.guarded_forHeaders questions).wordy
  have opens (includes : List String) :
      ∃ opening, preamble (jobFor split sanitizer renderer types) includes = .ok opening :=
    ⟨_, rendered _ _⟩
  obtain ⟨generation, generated, -, -, -⟩ := generateOn_kept opens types
  have isSplit : (jobFor split sanitizer renderer types).settings.singleFile = false := rfl
  have paths := (generateOn_paths generated).trans (split_paths isSplit types)
  exact ⟨wordy, generation, generated, paths⟩

/-- A run with a header for each type gives those of the types that are written, and no two paths
are one text, for every list of types whose namespaces hold no slash, repeats included, whatever the
sanitizer was asked before. -/
theorem split_headers_apart (settings : Settings) (questions : List (Option String × NameCase))
    {types : List TypeDecl} (unslashed : ∀ type ∈ types, Unslashed type.space) :
    let split := { settings with singleFile := false }
    let sanitizer := Sanitizer.forHeaders.askAll questions
    let map := (jobFor split sanitizer renderer types).map
    ∃ generation, generateWith split sanitizer renderer types = .ok generation ∧
      generation.headers.map (·.path) = (writtenOrder map types).map (unitPath map) ∧
      (generation.headers.map (·.path)).Nodup := by
  intro split sanitizer map
  obtain ⟨wordy, generation, generated, paths⟩ := split_generated settings questions types
  refine ⟨generation, generated, paths, ?_⟩
  rw [paths]
  apply writtenOrder_apart
  intro first inFirst second inSecond same
  exact unitPath_apart wordy (unslashed first inFirst) (unslashed second inSecond) same

/-- Nor do two of these headers have one place, on any disk and under any directory, where each part
of a namespace is the name of a directory: none is written over another. -/
theorem split_files_apart (settings : Settings) (questions : List (Option String × NameCase))
    {types : List TypeDecl} (segmented : ∀ type ∈ types, Segmented type.space) :
    let split := { settings with singleFile := false }
    let sanitizer := Sanitizer.forHeaders.askAll questions
    ∃ generation, generateWith split sanitizer renderer types = .ok generation ∧
      ∀ (disk : Disk) (directory : Path),
        (generation.headers.map fun header => disk.resolve (directory.join header.path)).Nodup := by
  intro split sanitizer
  obtain ⟨wordy, generation, generated, paths⟩ := split_generated settings questions types
  refine ⟨generation, generated, ?_⟩
  intro disk directory
  have distinct := unitPlaces_distinct wordy segmented disk directory
  rwa [← paths, List.map_map] at distinct

/-! Lamps in no namespace, in one of the name that stands for none, and with one generated name. -/

def looseLamp : TypeDecl := { name := "Lamp" }
def houseLamp : TypeDecl := { name := "Lamp", space := some "House" }
def hallLamp : TypeDecl := { name := "Lamp\x601", space := some "House.Hall" }

def lamps : List TypeDecl :=
  [looseLamp, { name := "Lamp", space := some "Global" }, hallLamp,
    { name := "Lamp\x602", space := some "House.Hall" }, houseLamp]

def lampsMap : TypeMap := (jobFor { singleFile := false } Sanitizer.forHeaders renderer lamps).map

theorem lamps_apart :
    (∀ type ∈ lamps, Unslashed type.space) ∧
      ∃ generation,
        generateWith { singleFile := false } Sanitizer.forHeaders renderer lamps = .ok generation ∧
        (generation.headers.map (·.path)).Nodup ∧
        "Global/Lamp.hpp" ∈ generation.headers.map (·.path) ∧
        "House/Lamp.hpp" ∈ generation.headers.map (·.path) ∧
        "House/Hall/Lamp.hpp" ∈ generation.headers.map (·.path) := by
  have unslashed : ∀ type ∈ lamps, Unslashed type.space := by decide
  have distinct : (lamps.map (·.fullName)).Nodup := by decide
  obtain ⟨generation, generated, paths, apart⟩ :=
    split_headers_apart { singleFile := false } [] unslashed
  change _ = (writtenOrder lampsMap lamps).map (unitPath lampsMap) at paths
  have listed {type : TypeDecl} (first : IsFirst lampsMap lamps type) :
      unitPath lampsMap type ∈ generation.headers.map (·.path) := by
    rw [paths]
    exact List.mem_map_of_mem (List.mem_flatMap.mpr ((groups_members distinct).mpr first))
  have loose : IsFirst lampsMap lamps looseLamp := ⟨by decide, rfl⟩
  have house : IsFirst lampsMap lamps houseLamp := ⟨by decide, rfl⟩
  have hall : IsFirst lampsMap lamps hallLamp := ⟨by decide, rfl⟩
  exact ⟨unslashed, generation, generated, apart, listed loose, listed house, listed hall⟩

/-- Without the condition two texts may lead to one place: an empty part makes no directory. -/
example :
    let spread : TypeDecl := { name := "Lamp", space := some "House..Hall" }
    let plain : TypeDecl := { name := "Lamp", space := some "House.Hall" }
    unitPath {} spread ≠ unitPath {} plain ∧
      Path.ofText (unitPath {} spread) = Path.ofText (unitPath {} plain) := by decide +kernel

end ProxyHeaders.Layout
