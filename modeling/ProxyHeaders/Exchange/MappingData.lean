import ProxyHeaders.Exchange.TypeData
import ProxyHeaders.Mapping.Base

/-!
What is known of a type, and what becomes of it in a header, as data.
-/
namespace ProxyHeaders

open Value (ofText?)

def TypeRef.aspects (ref : TypeRef) : Value := .record [
  ("effective_namespace", ofText? ref.effectiveSpace), ("clean_name", .text ref.cleanName),
  ("full_name", .text ref.fullName), ("is_generic", .bool ref.isGeneric),
  ("is_nullable", .bool ref.isNullable), ("is_string", .bool ref.isString),
  ("is_enum", .bool ref.isEnum), ("is_reference_class", .bool ref.isReferenceClass),
  ("unwrap_nullable", ref.unwrapNullable.toData), ("str", .text ref.display)]

def TypeDecl.aspects (type : TypeDecl) : Value := .record [
  ("type", type.toData), ("full_name", .text type.fullName), ("clean_name", .text type.cleanName),
  ("group_name", .text type.groupKey), ("is_enum", .bool type.isEnum),
  ("is_class", .bool type.isClass), ("is_generic", .bool type.isGeneric),
  ("as_ref", type.asRef.toData)]

namespace Mapping

def Outcome.toData (outcome : Outcome) : Value := .record [
  ("status", .text outcome.statusWord), ("representation", ofText? outcome.spelling?),
  ("reason", ofText? outcome.reason?), ("lossy", .bool outcome.isLossy),
  ("str", .text outcome.display)]

def BaseClass.toData (base : BaseClass) (placeholder : String) : Value := .record [
  ("kind", .text base.word), ("cpp_name", ofText? (base.spelling? placeholder)),
  ("source_name", ofText? base.source?), ("target", ofText? base.target?)]

/-- A map as the data describes it; what is left out has its usual value. -/
def TypeMap.ofData (value : Value) (declared : List TypeDecl) : TypeMap :=
  let listed (key : String) (usual : List String) : List String :=
    match value.field key with
    | .list items => items.map Value.asText
    | _ => usual
  let map : TypeMap :=
    { allowed := listed "allowed" defaultAllowed
      reservedNames := listed "reserved_types" Names.runtimeTypeNames }
  map.declareAll declared

end Mapping

end ProxyHeaders
