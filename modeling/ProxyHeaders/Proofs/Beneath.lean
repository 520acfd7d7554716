import ProxyHeaders.Proofs.Files.Writing
import ProxyHeaders.Proofs.Layout.Emitted
import ProxyHeaders.Proofs.Layout.UnitPaths

/-!
Where separate headers are written: below the output directory, wherever that is, but for types
whose namespace makes an absolute path.
-/
namespace ProxyHeaders

open ProxyHeaders.Files ProxyHeaders.Layout ProxyHeaders.Mapping ProxyHeaders.Names
  ProxyHeaders.Proxy ProxyHeaders.Template

namespace Layout

theorem join_leadsOut {map : TypeMap} {type : TypeDecl} (out : leadsOut type) (directory : Path) :
    directory.join (unitPath map type) = Path.ofText (unitPath map type) := by
  have absolute := (unitPath_isAbsolute map type).mpr out
  simp only [Path.join, absolute, if_true]

/-- A header whose type does not lead out is below every directory that it is written to. -/
theorem join_isBelow {map : TypeMap} (wordy : map.sanitizer.Wordy) {type : TypeDecl}
    (stays : ¬ leadsOut type) (disk : Disk) (directory : Path) :
    Disk.isBelow (disk.resolve directory) (disk.resolve (directory.join (unitPath map type))) := by
  have relative := mt (unitPath_isAbsolute map type).mp stays
  rw [Disk.resolve_join relative (unitPath_descends wordy type)]
  apply Disk.isBelow_append
  rw [unitPath_parts wordy]
  simp

end Layout

/-- Headers written one each have paths without `..`, which are relative if and only if their type's
namespace does not start with a dot or a slash. Writing them, whether or not it fails, changes no file
but those below the output directory and those that the other types' absolute paths name, from any
output directory. -/
theorem headers_stay_beneath (settings : Settings) (types : List TypeDecl) :
    let split := { settings with singleFile := false }
    let map := (jobFor split Sanitizer.forHeaders renderer types).map
    let order := writtenOrder map types
    ∃ generation, generate split renderer types = .ok generation ∧
      generation.headers.map (·.path) = order.map (unitPath map) ∧
      (∀ type ∈ order, ".." ∉ (Path.ofText (unitPath map type)).parts ∧
        ((Path.ofText (unitPath map type)).isAbsolute ↔ leadsOut type)) ∧
      (∀ type ∈ order, leadsOut type → ∀ directory : Path,
        directory.join (unitPath map type) = Path.ofText (unitPath map type)) ∧
      ∀ (directory : Path) (disk : Disk) (place : Place),
        ¬ Disk.isBelow (disk.resolve directory) place →
        (∀ type ∈ order, leadsOut type → place ≠ disk.resolve (Path.ofText (unitPath map type))) →
        (leftDisk (writeHeaders directory generation.headers disk)).fileAt? place =
          disk.fileAt? place := by
  intro split map order
  have wordy := jobFor_wordy split renderer types
  obtain ⟨generation, generated, -⟩ :=
    @generateOn_kept (jobFor split Sanitizer.forHeaders renderer types)
      (fun includes => ⟨_, preamble_written rfl includes⟩) types
  have paths : generation.headers.map (·.path) = order.map (unitPath map) :=
    (generateOn_paths generated).trans (split_paths rfl types)
  refine ⟨generation, generated, paths, ?_, fun type _ out => join_leadsOut out, ?_⟩
  · exact fun type _ => ⟨unitPath_descends wordy type, unitPath_isAbsolute map type⟩
  · intro directory disk place outside notNamed
    -- No header is put at the place, so none of those that are written is.
    have apart : ∀ header ∈ generation.headers,
        disk.resolve (directory.join header.path) ≠ place := by
      intro header listed
      have member : header.path ∈ order.map (unitPath map) := paths ▸ List.mem_map_of_mem listed
      obtain ⟨type, written, path⟩ := List.mem_map.mp member
      rw [← path]
      by_cases out : leadsOut type
      · rw [join_leadsOut out]
        exact Ne.symm (notNamed type written out)
      · rintro rfl
        exact outside (join_isBelow wordy out disk directory)
    obtain ⟨written, begun, receives⟩ :=
      writeHeaders_left directory generation.headers disk
    apply receives.elsewhere
    intro text member
    obtain ⟨header, listed, rfl⟩ := List.mem_map.mp member
    exact apart header (begun.subset listed)

/-! A namespace that starts with a dot. -/

def strayed : TypeDecl := { name := "Stray", space := some ".etc" }

theorem strayed_written_outside :
    ∃ generation, generate {} renderer [strayed] = .ok generation ∧
      generation.headers.map (·.path) = ["/etc/Stray.hpp"] ∧
      ∀ directory : Path, directory.join "/etc/Stray.hpp" = ⟨"/", ["etc", "Stray.hpp"]⟩ := by
  obtain ⟨generation, generated, paths, -, outside, -⟩ := headers_stay_beneath {} [strayed]
  have path : unitPath (jobFor {} Sanitizer.forHeaders renderer [strayed]).map strayed =
      "/etc/Stray.hpp" := rfl
  have distinct : ([strayed].map (·.fullName)).Nodup := List.nodup_singleton _
  have order : writtenOrder (jobFor {} Sanitizer.forHeaders renderer [strayed]).map [strayed] =
      [strayed] := List.perm_singleton.mp (groups_partition distinct _)
  simp only [order, List.map_singleton, path] at paths
  simp only [order, List.forall_mem_singleton, path] at outside
  exact ⟨generation, generated, paths, outside (by decide)⟩

end ProxyHeaders
