import ProxyHeaders.Metadata.Element
import ProxyHeaders.Metadata.Reader

/-!
Signatures of fields, methods, properties and types. Types that a signature only mentions by
number are asked for, together with the category that the signature makes likely. Types stand inside
types; how many may be open at once is up to whoever reads.
-/
namespace ProxyHeaders.Metadata

inductive TokenTable where
  | typeDef
  | typeRef
  | typeSpec
  deriving DecidableEq, Repr, Inhabited

def TokenTable.ofTag : Int → Option TokenTable
  | 0 => some .typeDef
  | 1 => some .typeRef
  | 2 => some .typeSpec
  | _ => none

def TokenTable.tag : TokenTable → Nat
  | .typeDef => 0
  | .typeRef => 1
  | .typeSpec => 2

/-- Finds the type of a number; its state lasts even when it fails. The first argument bounds
how deep the type may be nested. -/
abbrev Resolver (σ : Type) := Nat → TokenTable → Int → Category → EStateM Fault σ TypeRef

structure MethodSignature where
  hasThis : Bool
  returnType : TypeRef
  parameters : List TypeRef
  genericCount : Nat
  deriving BEq, Repr, Inhabited

structure PropertySignature where
  hasThis : Bool
  type : TypeRef
  parameters : List TypeRef
  deriving BEq, Repr, Inhabited

/-! Types made of other types. -/

def byrefTo (target : TypeRef) : TypeRef :=
  { name := target.name ++ "&", space := target.space, category := target.category
    element := some target, isByref := true }

def pointerTo (target : TypeRef) : TypeRef :=
  { name := target.name ++ "*", space := target.space, category := .pointerType
    element := some target }

def arrayOf (element : TypeRef) (rank : Nat) : TypeRef :=
  { name := element.name ++ "[" ++ String.ofList (List.replicate (rank - 1) ',') ++ "]"
    space := element.space, element := some element, isArray := true }

def instanceOf (definition : TypeRef) (arguments : List TypeRef) : TypeRef :=
  { name := definition.name, space := definition.space, category := definition.category
    arguments }

def parameterNamed (mark : String) (number : Nat) : TypeRef :=
  { name := mark ++ toString number, category := .genericParameter }

/-- Functions are passed as plain addresses. -/
def addressType : TypeRef :=
  { name := "IntPtr", space := some "System", category := .structType }

namespace Reader

variable {σ : Type} (resolve : Resolver σ)

def token (levels : Nat) (hint : Category) : Reader σ TypeRef := do
  let encoded ← number
  match TokenTable.ofTag (encoded % 4 : Nat) with
  | some table => ask (resolve levels table (encoded / 4 : Nat) hint)
  | none => fail (.badTag (encoded % 4))

/-- Passes over what stands before a type and gives the byte that the type begins with. Each
modifier names a type, so `tries` need not be more than the bytes that are left. -/
def pastModifiers (levels : Nat) : Nat → Reader σ Nat
  | 0 => byte
  | tries + 1 => do
    let element ← byte
    if element == requiredModifier || element == optionalModifier then
      let _ ← token resolve levels .classType
      pastModifiers levels tries
    else if element == pinned then pastModifiers levels tries
    else return element

def elementByte (levels : Nat) : Reader σ Nat := do
  let scan ← get
  pastModifiers resolve levels scan.rest.length

/-- The sizes and lower bounds of an array's dimensions, which nothing depends on. -/
def shape : Reader σ Nat := do
  let rank ← number
  let _ ← times (← number) number
  let _ ← times (← number) signedNumber
  return rank

def methodOf (type : Reader σ TypeRef) : Reader σ MethodSignature := do
  let head ← byte
  let genericCount ← if head / 0x10 % 2 = 1 then number else pure 0
  let count ← number
  let returnType ← type
  let parameters ← times count do
    skip sentinel
    type
  return { hasThis := head / 0x20 % 2 == 1, returnType, parameters, genericCount }

def typeFrom (levels : Nat) (type : Reader σ TypeRef) (first : Nat) : Reader σ TypeRef :=
  match elementOf first with
  | none => fail (.unsupported first)
  | some (.primitive primitive) => return primitive.ref
  | some .byref => do return byrefTo (← type)
  | some .pointer => do return pointerTo (← type)
  | some .valueType => token resolve levels .structType
  | some .classType => token resolve levels .classType
  | some .typeParameter => do return parameterNamed "!" (← number)
  | some .methodParameter => do return parameterNamed "!!" (← number)
  | some .vector => do return arrayOf (← type) 1
  | some .array => do
    let element ← type
    return arrayOf element (← shape)
  | some .instance_ => do
    let kind ← byte
    let definition ← token resolve levels
      (if kind == valueTypeByte then .structType else .classType)
    return instanceOf definition (← times (← number) type)
  | some .function => do
    let _ ← methodOf type
    return addressType

def typeAt : Nat → Reader σ TypeRef
  | 0 => throw .tooDeep
  | levels + 1 => do typeFrom resolve levels (typeAt levels) (← elementByte resolve levels)

def heading (kind : Nat) (fault : Nat → SignatureFault) : Reader σ Nat := do
  let head ← byte
  if head % 0x10 == kind then return head else fail (fault head)

def fieldAt (levels : Nat) : Reader σ TypeRef := do
  let _ ← heading 0x06 .notField
  typeAt resolve levels

def methodAt (levels : Nat) : Reader σ MethodSignature := methodOf (typeAt resolve levels)

def propertyAt (levels : Nat) : Reader σ PropertySignature := do
  let head ← heading 0x08 .notProperty
  let count ← number
  let type ← typeAt resolve levels
  let parameters ← times count (typeAt resolve levels)
  return { hasThis := head / 0x20 % 2 == 1, type, parameters }

end Reader

/-! Whole blobs. What follows a signature in its blob does not matter. -/

variable {σ : Type} (resolve : Resolver σ) (levels : Nat)

def fieldSignature (blob : List UInt8) : EStateM Fault σ TypeRef :=
  (Reader.fieldAt resolve levels).run blob

def methodSignature (blob : List UInt8) : EStateM Fault σ MethodSignature :=
  (Reader.methodAt resolve levels).run blob

def propertySignature (blob : List UInt8) : EStateM Fault σ PropertySignature :=
  (Reader.propertyAt resolve levels).run blob

def typeSignature (blob : List UInt8) : EStateM Fault σ TypeRef :=
  (Reader.typeAt resolve levels).run blob

end ProxyHeaders.Metadata
