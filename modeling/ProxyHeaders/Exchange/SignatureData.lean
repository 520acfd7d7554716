import ProxyHeaders.Exchange.TypeData
import ProxyHeaders.Metadata.Signature

/-!
Decoded signatures as data.
-/
namespace ProxyHeaders.Metadata

open Value (ofNat)

def MethodSignature.toData (signature : MethodSignature) : Value := .record [
  ("has_this", .bool signature.hasThis), ("return_type", signature.returnType.toData),
  ("parameters", .list (signature.parameters.map TypeRef.toData)),
  ("generic_count", ofNat signature.genericCount)]

def PropertySignature.toData (signature : PropertySignature) : Value := .record [
  ("has_this", .bool signature.hasThis), ("type", signature.type.toData),
  ("parameters", .list (signature.parameters.map TypeRef.toData))]

/-- The signature of a kind, decoded; a kind without a name of its own is that of a plain type. -/
def signatureData {σ : Type} (resolve : Resolver σ) (levels : Nat) (kind : String)
    (blob : List UInt8) : EStateM Fault σ Value :=
  match kind with
  | "field" => do return (← fieldSignature resolve levels blob).toData
  | "method" => do return (← methodSignature resolve levels blob).toData
  | "property" => do return (← propertySignature resolve levels blob).toData
  | _ => do return (← typeSignature resolve levels blob).toData

end ProxyHeaders.Metadata
