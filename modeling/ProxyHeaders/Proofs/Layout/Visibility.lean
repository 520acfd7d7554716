import ProxyHeaders.Proofs.Layout.Inheritance
import ProxyHeaders.Proofs.Layout.Paths
import ProxyHeaders.Proofs.Mapping.Provenance

/-!
Which types of the run a struct can mention: those that are declared or defined in front of its
members, and those that an included header defines. One header for everything declares all types
first; the header of one type declares its group and includes no more than the header of a base.
-/
namespace ProxyHeaders.Layout

open ProxyHeaders.Code ProxyHeaders.Mapping ProxyHeaders.Names ProxyHeaders.Proxy
  ProxyHeaders.Template

/-! What the members of a class mention. -/

def memberScene (job : Job) (type : TypeDecl) : Scene :=
  { type, structName := job.map.structName type.name, map := job.map, render := job.render
    style := job.style }

/-- The types in the signatures of the accessors and methods of a class. -/
def signatureRefs (scene : Scene) : List TypeRef :=
  (emittableFields scene.type).map (·.type) ++ (emittableProperties scene).map (·.type) ++
    (emittableMethods scene).flatMap fun method =>
      method.returnType :: method.parameters.map (·.type)

/-- A spelling of a type in one of these signatures. -/
def Spells (job : Job) (type : TypeDecl) (shape : CppType) : Prop :=
  ∃ ref ∈ signatureRefs (memberScene job type), ∃ lossy,
    job.map.mapMember (some type.fullName) ref = .mapped shape lossy

/-- A type is declared or defined under its own qualified name among the entries up to the
definition of another, which may be its own. -/
def Shown (job : Job) (front : List Entry) (type other : TypeDecl) : Prop :=
  ∃ scopes, spelledIn job.map scopes other.name =
      job.map.qualifiedStructName other.space other.name ∧
    ((scopes, other) ∈ situated Entry.declared? [] front ∨
      (Proxy.define job other).isComplete ∧
        (scopes, other) ∈ situated Entry.defined? [] (front ++ [.defines type]))

def typePage (job : Job) (types : List TypeDecl) (type : TypeDecl) : Page :=
  singlePage job (groupOf (survivors job.map types) type.groupKey) type

section Run

variable {job : Job} {types : List TypeDecl} (distinct : (types.map (·.fullName)).Nodup)
  {type other : TypeDecl}

include distinct

theorem mem_members {group : Group} :
    (group, type) ∈ Group.members (groups job.map types) ↔
      type ∈ survivors job.map types ∧
        group = groupOf (survivors job.map types) type.groupKey := by
  have kept := survivors_distinct distinct job.map
  rw [Group.members, List.mem_flatMap]
  constructor
  · rintro ⟨listed, known, own⟩
    obtain ⟨key, -, rfl⟩ := List.mem_map.mp known
    obtain ⟨found, member, same⟩ := List.mem_map.mp own
    cases same
    obtain ⟨stays, rfl⟩ := (mem_groupOf kept).mp member
    exact ⟨stays, rfl⟩
  · rintro ⟨stays, rfl⟩
    refine ⟨_, List.mem_map.mpr ⟨_, mem_groupKeys.mpr ⟨type, stays, rfl⟩, rfl⟩, ?_⟩
    exact List.mem_map.mpr ⟨type, (mem_groupOf kept).mpr ⟨stays, rfl⟩, rfl⟩

theorem mem_pages (split : job.settings.singleFile = false) {page : Page} :
    page ∈ pages job types ↔ ∃ type ∈ survivors job.map types, page = typePage job types type := by
  simp only [pages, split, Bool.false_eq_true, if_false, List.mem_map]
  constructor
  · rintro ⟨⟨group, type⟩, member, rfl⟩
    obtain ⟨stays, rfl⟩ := (mem_members distinct).mp member
    exact ⟨type, stays, rfl⟩
  · rintro ⟨type, stays, rfl⟩
    exact ⟨_, (mem_members distinct).mpr ⟨stays, rfl⟩, rfl⟩

end Run

end ProxyHeaders.Layout
