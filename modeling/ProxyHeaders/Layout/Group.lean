import ProxyHeaders.Mapping.TypeMap
import ProxyHeaders.Proxy.Members

/-!
Types in groups of one namespace each, in the order in which they are written. Within a group the
first type of each generated name stays; bases stand before what derives from them. The walk to the
bases of a type nests a call for each of them, and only so many are left to it; headers are
generated as if there were always enough.
-/
namespace ProxyHeaders.Layout

open ProxyHeaders.Mapping

structure Group where
  key : String
  space : Option String
  types : List TypeDecl
  deriving Repr, Inhabited

def Group.isGlobal (group : Group) : Bool := group.space.isNone

def directoryOf (space : Option String) : String :=
  match space with
  | none => globalGroup
  | some space => "/".intercalate (Text.splitAtChar '.' space)

def Group.directory (group : Group) : String := directoryOf group.space

/-- The types that are laid out: no reserved names, and the first of each generated name in each
group; `seen` lists the groups and names met before. -/
def survivorsFrom (map : TypeMap) (seen : List (String × String)) :
    List TypeDecl → List TypeDecl
  | [] => []
  | type :: rest =>
    let entry := (type.groupKey, map.structName type.name)
    if map.isReservedName type.cleanName || seen.contains entry then survivorsFrom map seen rest
    else type :: survivorsFrom map (entry :: seen) rest

def survivors (map : TypeMap) (types : List TypeDecl) : List TypeDecl :=
  survivorsFrom map [] types

/-- A type and those of its bases that are to be placed before it, outermost base first. The walk
ends at a base that is placed already, that is no member of the group, or that it has met. -/
def lineage (find : String → Option TypeDecl) (placed : List String) :
    Nat → List String → TypeDecl → List TypeDecl
  | 0, _, _ => []
  | steps + 1, met, type =>
    if placed.contains type.fullName || met.contains type.fullName then []
    else match type.base.bind fun base => find base.fullName with
    | some base => lineage find placed steps (type.fullName :: met) base ++ [type]
    | none => [type]

def placeAll (find : String → Option TypeDecl) (steps : Nat) (placed : List TypeDecl) :
    List TypeDecl → List TypeDecl
  | [] => placed
  | type :: rest =>
    let line := lineage find (placed.map (·.fullName)) steps [] type
    placeAll find steps (placed ++ line) rest

def basesFirst (types : List TypeDecl) : List TypeDecl :=
  let find fullName := types.reverse.find? (·.fullName == fullName)
  placeAll find (types.length + 1) [] types

def groupKeys (types : List TypeDecl) : List String :=
  (types.map (·.groupKey)).eraseDups.mergeSort fun a b => !(b < a)

/-- A group takes its namespace from its first type. -/
def groupOf (types : List TypeDecl) (key : String) : Group :=
  let members := types.filter (·.groupKey == key)
  { key, space := (members.head?.map (·.space)).getD none
    types := basesFirst (Proxy.sortByName (·.name) members) }

def groups (map : TypeMap) (types : List TypeDecl) : List Group :=
  let kept := survivors map types
  (groupKeys kept).map (groupOf kept)

/-! Within the nested calls that are left -/

/-- The lineage of a type, if the calls last: each type on the way takes one, also that at which the
walk ends. -/
def lineageWithin (find : String → Option TypeDecl) (placed : List String) :
    Nat → List String → TypeDecl → Option (List TypeDecl)
  | 0, _, _ => none
  | levels + 1, met, type =>
    if placed.contains type.fullName || met.contains type.fullName then some []
    else match type.base.bind fun base => find base.fullName with
    | some base =>
      (lineageWithin find placed levels (type.fullName :: met) base).map (· ++ [type])
    | none => some [type]

def placeAllWithin (find : String → Option TypeDecl) (levels : Nat) (placed : List TypeDecl) :
    List TypeDecl → Option (List TypeDecl)
  | [] => some placed
  | type :: rest => do
    let line ← lineageWithin find (placed.map (·.fullName)) levels [] type
    placeAllWithin find levels (placed ++ line) rest

def basesFirstWithin (levels : Nat) (types : List TypeDecl) : Option (List TypeDecl) :=
  let find fullName := types.reverse.find? (·.fullName == fullName)
  placeAllWithin find levels [] types

def groupWithin (levels : Nat) (types : List TypeDecl) (key : String) : Option Group := do
  let members := types.filter (·.groupKey == key)
  let placed ← basesFirstWithin levels (Proxy.sortByName (·.name) members)
  return { key, space := (members.head?.map (·.space)).getD none, types := placed }

/-- The groups, if the calls last for the walks of all of them. -/
def groupsWithin (levels : Nat) (map : TypeMap) (types : List TypeDecl) : Option (List Group) :=
  let kept := survivors map types
  (groupKeys kept).mapM (groupWithin levels kept)

end ProxyHeaders.Layout
