import ProxyHeaders.Mapping.TypeMap

/-!
What a generated struct inherits.
-/
namespace ProxyHeaders.Mapping

/-- The base of a struct; `source` is the managed base as messages name it. -/
inductive BaseClass where
  /-- No base worth inheriting: the placeholder stands in. -/
  | placeholder (source : Option String)
  /-- A base that the runtime provides. -/
  | provided (spelling source : String)
  /-- The type itself; the placeholder stands in. -/
  | itself (source : String)
  /-- Another class that this run declares, with the full name `target`. -/
  | generated (spelling source target : String)
  /-- Any other base; the type is not written. -/
  | missing (source : String)
  deriving DecidableEq, Repr, Inhabited

namespace BaseClass

def word : BaseClass → String
  | .placeholder _ => "placeholder"
  | .provided _ _ => "allowed"
  | .itself _ => "self"
  | .generated _ _ _ => "foreign"
  | .missing _ => "removed"

/-- The inherited name, if the struct is written at all. -/
def spelling? (placeholder : String) : BaseClass → Option String
  | .placeholder _ => some placeholder
  | .provided spelling _ => some spelling
  | .itself _ => some placeholder
  | .generated spelling _ _ => some spelling
  | .missing _ => none

def source? : BaseClass → Option String
  | .placeholder source => source
  | .provided _ source => some source
  | .itself source => some source
  | .generated _ source _ => some source
  | .missing source => some source

def target? : BaseClass → Option String
  | .generated _ _ target => some target
  | _ => none

end BaseClass

def TypeMap.resolveBase (map : TypeMap) (type : TypeDecl) : BaseClass :=
  match type.base with
  | none => .placeholder none
  | some base =>
    let name := TypeMap.lookupName base
    if trivialBases.contains base.fullName || trivialBases.contains name then
      .placeholder (some name)
    else if base.fullName == type.fullName then .itself base.cleanName
    else match inheritableBases.lookup name with
    | some spelling => .provided spelling name
    | none =>
      match map.declared? base.fullName with
      | some declared =>
        if declared.isClass then
          .generated (map.qualifiedStructName declared.space declared.name) base.cleanName
            declared.fullName
        else .missing base.fullName
      | none => .missing base.fullName

end ProxyHeaders.Mapping
