import ProxyHeaders.Image.Bytes
import ProxyHeaders.Text.Quoted

/-!
Portable executables: the headers that lead to the metadata of managed code.
-/
namespace ProxyHeaders.Image

inductive Fault where
  | empty
  | truncated
  | unmarked
  | otherMark
  | beyondEnd
  | noHeaders
  | otherHeaders
  deriving DecidableEq, Repr, Inhabited

def Fault.text : Fault → String
  | .empty => "The file is empty"
  | .truncated => "Unable to read the DOS Header, possibly a truncated file."
  | .unmarked => "DOS Header magic not found."
  | .otherMark => "Probably a ZM Executable (not a PE file)."
  | .beyondEnd => "Invalid e_lfanew value, probably not a PE file"
  | .noHeaders => "NT Headers not found."
  | .otherHeaders => "Invalid NT Headers signature."

def Fault.message (fault : Fault) : String := Text.quoted fault.text

def startSize : Nat := 64
def startMark : Nat := 0x5a4d
def otherStartMark : Nat := 0x4d5a

/-- Where the start of a file says how far the headers are. -/
def headersField : Nat := 60
def headersMark : Nat := 0x4550

def headersAt (bytes : ByteArray) : Except Fault Nat := do
  let field (offset width : Nat) := (number? bytes offset width).getD 0
  if bytes.size == 0 then throw .empty
  if bytes.size < startSize then throw .truncated
  let mark := field 0 2
  if mark == otherStartMark then throw .otherMark
  if mark != startMark then throw .unmarked
  let offset := field headersField 4
  if offset > bytes.size then throw .beyondEnd
  match number? bytes offset 4 with
  | none | some 0 => throw .noHeaders
  | some mark => if mark == headersMark then return offset else throw .otherHeaders

structure Section where
  address : Nat
  size : Nat
  fileOffset : Nat
  deriving DecidableEq, Repr, Inhabited

def sectionAt (bytes : ByteArray) (offset : Nat) : Option Section := do
  let virtualSize ← number? bytes (offset + 8) 4
  let address ← number? bytes (offset + 12) 4
  let rawSize ← number? bytes (offset + 16) 4
  let fileOffset ← number? bytes (offset + 20) 4
  return { address, size := max virtualSize rawSize, fileOffset }

def sectionSize : Nat := 40

def offsetOf (sections : List Section) (address : Nat) : Option Nat :=
  (sections.find? fun part => part.address ≤ address && address < part.address + part.size).map
    fun part => address - part.address + part.fileOffset

/-- The optional header of images with addresses of 64 bits has another size. -/
def wideMark : Nat := 0x20b

def managedDirectory : Nat := 14

def metadataMark : Nat := 0x424a5342

def metadataOffset? (bytes : ByteArray) (headers : Nat) : Option Nat := do
  let sectionCount ← number? bytes (headers + 6) 2
  let optionalSize ← number? bytes (headers + 20) 2
  let optional := headers + 24
  let mark ← number? bytes optional 2
  let directories := optional + (if mark == wideMark then 112 else 96)
  let directoryCount ← number? bytes (directories - 4) 4
  guard (managedDirectory < directoryCount)
  let managed ← number? bytes (directories + 8 * managedDirectory) 4
  guard (managed != 0)
  let sections ← (List.range sectionCount).mapM fun index =>
    sectionAt bytes (optional + optionalSize + sectionSize * index)
  let header ← offsetOf sections managed
  let metadata ← number? bytes (header + 8) 4
  let root ← offsetOf sections metadata
  let mark ← number? bytes root 4
  guard (mark == metadataMark)
  return root

end ProxyHeaders.Image
