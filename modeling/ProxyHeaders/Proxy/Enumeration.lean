import ProxyHeaders.Code.Buffer
import ProxyHeaders.Code.Diagnostics
import ProxyHeaders.Mapping.Known
import ProxyHeaders.Names.Sanitizer
import ProxyHeaders.Template.Fragment
import ProxyHeaders.TypeDecl

/-!
Enums: every member's identifier and literal, in metadata order. The values are literals of the
header language, wrapped to the width of the underlying type.
-/
namespace ProxyHeaders.Proxy

open ProxyHeaders.Code ProxyHeaders.Names ProxyHeaders.Template

/-! Values as literals -/

structure Width where
  bits : Nat
  signed : Bool
  deriving DecidableEq, Repr, Inhabited

def defaultUnderlying : String := "Int32"

def underlyingWidths : List (String × Width) := [
  ("SByte", ⟨8, true⟩), ("Byte", ⟨8, false⟩), ("Int16", ⟨16, true⟩), ("UInt16", ⟨16, false⟩),
  ("Int32", ⟨32, true⟩), ("UInt32", ⟨32, false⟩), ("Int64", ⟨64, true⟩), ("UInt64", ⟨64, false⟩),
  ("Char", ⟨16, false⟩), ("Boolean", ⟨8, false⟩)]

def underlyingName (underlying : Option String) : String :=
  match underlying with
  | some name => if name.isEmpty then defaultUnderlying else name
  | none => defaultUnderlying

/-- An unknown underlying type is as wide as the default one. -/
def widthOf (underlying : Option String) : Width :=
  (underlyingWidths.lookup (underlyingName underlying)).getD ⟨32, true⟩

def underlyingSpelling (underlying : Option String) : String :=
  (Mapping.knownSpellings.lookup ("System." ++ underlyingName underlying)).getD "int"

/-- The integer of the given width that a value stands for, modulo a power of two. -/
def Width.wrap (width : Width) (value : Int) : Int :=
  let size := Nat.pow 2 width.bits
  if width.signed then value.bmod size else value % size

/-- The least value of a signed type has no literal of its own. -/
def enumLiteral (value : Int) (underlying : Option String) : String :=
  let width := widthOf underlying
  let wrapped := width.wrap value
  if !width.signed then toString wrapped ++ (if width.bits == 64 then "ull" else "u")
  else if width.bits == 64 then
    if wrapped == -9223372036854775808 then "(-9223372036854775807ll - 1)"
    else toString wrapped ++ "ll"
  else if width.bits == 32 && wrapped == -2147483648 then "(-2147483647 - 1)"
  else toString wrapped

/-! The entries of an enum -/

def enumEntries (sanitizer : Sanitizer) (type : TypeDecl) : List (String × String) :=
  (distinct (type.enumMembers.map fun member => sanitizer.identifier member.name)).zip
    (type.enumMembers.map fun member => enumLiteral member.value type.enumUnderlying)

def enumWarnings (sanitizer : Sanitizer) (type : TypeDecl) : List String :=
  (type.enumMembers.filter fun member => sanitizer.isReserved member.name).map fun member =>
    type.fullName ++ ": enum value '" ++ member.name ++ "' escaped as '" ++
      sanitizer.identifier member.name ++ "'"

def enumFragment (sanitizer : Sanitizer) (type : TypeDecl) (name : String) : Fragment :=
  .enumeration name (underlyingSpelling type.enumUnderlying) (enumEntries sanitizer type)

/-- Appends the enum and an empty line; its warnings are due even if rendering fails. -/
def writeEnum (sanitizer : Sanitizer) (render : Renderer) (style : Style) (type : TypeDecl)
    (name : String) (buffer : Buffer) : Except RenderFailure Buffer := do
  let code ← render style (enumFragment sanitizer type name)
  return (buffer.block code).blank

end ProxyHeaders.Proxy
