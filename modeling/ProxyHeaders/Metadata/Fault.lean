import ProxyHeaders.Text.Quoted

/-!
What can be wrong with the metadata of an assembly.
-/
namespace ProxyHeaders.Metadata

inductive SignatureFault where
  | truncated (offset : Nat)
  | badLead (byte : Nat)
  | badTag (tag : Nat)
  | unsupported (element : Nat)
  | notField (head : Nat)
  | notProperty (head : Nat)
  | shortConstant (element : Nat)
  | noSuchRow (table : String) (index : Int)
  | unknownTag (tag : Int)
  deriving DecidableEq, Repr, Inhabited

def hexByte (byte : Nat) : String := "0x" ++ String.ofList (Text.hexDigits 2 byte)

def SignatureFault.message : SignatureFault → String
  | .truncated offset => "Signature truncated at offset " ++ toString offset
  | .badLead byte => "Invalid compressed integer lead byte " ++ hexByte byte
  | .badTag tag => "Invalid TypeDefOrRef tag " ++ toString tag
  | .unsupported element => "Unsupported element type " ++ hexByte element
  | .notField head => "Not a field signature (" ++ hexByte head ++ ")"
  | .notProperty head => "Not a property signature (" ++ hexByte head ++ ")"
  | .shortConstant element => "Constant blob too short for element type " ++ hexByte element
  | .noSuchRow table index => table ++ " row " ++ toString index ++ " out of range"
  | .unknownTag tag => "Unknown type token tag " ++ toString tag

inductive Fault where
  | signature (fault : SignatureFault)
  /-- A reference that leads beyond its table. -/
  | dangling
  /-- A row that is no type where a type is needed. -/
  | notAType
  /-- A type name that states an arity nobody can read. -/
  | badArity
  /-- Types nested without end, as far as anyone can tell. -/
  | tooDeep
  deriving DecidableEq, Repr, Inhabited

/-- Whether the fault is the type's own, so that only the type is lost. -/
def Fault.isLocal : Fault → Bool
  | .tooDeep => false
  | _ => true

end ProxyHeaders.Metadata
