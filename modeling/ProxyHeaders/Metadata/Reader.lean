import ProxyHeaders.Metadata.Fault

/-!
Reading a blob from its beginning. A reader that fails stays where it stopped. Numbers are
compressed to one, two or four bytes; the first says which.
-/
namespace ProxyHeaders.Metadata

structure Scan (σ : Type) where
  rest : List UInt8
  offset : Nat := 0
  outer : σ
  deriving Inhabited

abbrev Reader (σ : Type) := EStateM Fault (Scan σ)

namespace Reader

variable {σ α : Type}

def fail (fault : SignatureFault) : Reader σ α := throw (.signature fault)

def byte : Reader σ Nat := fun scan =>
  match scan.rest with
  | [] => .error (.signature (.truncated scan.offset)) scan
  | first :: rest => .ok first.toNat { scan with rest, offset := scan.offset + 1 }

def compressed : Reader σ (Nat × Nat) := do
  let first ← byte
  if first < 0x80 then return (first, 1)
  else if first < 0xc0 then
    let second ← byte
    return (first % 0x40 * 0x100 + second, 2)
  else if first < 0xe0 then
    let second ← byte
    let third ← byte
    let fourth ← byte
    return (((first % 0x20 * 0x100 + second) * 0x100 + third) * 0x100 + fourth, 4)
  else fail (.badLead first)

def number : Reader σ Nat := do return (← compressed).1

def signedBits (size : Nat) : Nat := if size = 1 then 6 else if size = 2 then 13 else 28

/-- A signed number; its sign is the lowest bit of the compressed one. -/
def signedNumber : Reader σ Int := do
  let (raw, size) ← compressed
  let half : Int := (raw / 2 : Nat)
  return if raw % 2 = 1 then half - (Nat.pow 2 (signedBits size) : Nat) else half

def times (count : Nat) (read : Reader σ α) : Reader σ (List α) :=
  match count with
  | 0 => return []
  | count + 1 => do
    let first ← read
    let rest ← times count read
    return first :: rest

/-- Passes over every copy of a byte; what follows has to be there. -/
def skip (byte : UInt8) : Reader σ Unit := fun scan =>
  let passed := scan.rest.takeWhile (· == byte)
  let scan := { scan with
    rest := scan.rest.dropWhile (· == byte), offset := scan.offset + passed.length }
  if scan.rest.isEmpty then .error (.signature (.truncated scan.offset)) scan else .ok () scan

def ask (question : EStateM Fault σ α) : Reader σ α := fun scan =>
  match question scan.outer with
  | .ok answer outer => .ok answer { scan with outer }
  | .error fault outer => .error fault { scan with outer }

def run (read : Reader σ α) (blob : List UInt8) : EStateM Fault σ α := fun outer =>
  match read { rest := blob, outer } with
  | .ok result scan => .ok result scan.outer
  | .error fault scan => .error fault scan.outer

end Reader

end ProxyHeaders.Metadata
