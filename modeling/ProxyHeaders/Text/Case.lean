import ProxyHeaders.Text.CaseTable
import ProxyHeaders.Text.Ranges
import ProxyHeaders.Text.SigmaTable

/-!
Upper and lower case by Unicode's full mapping. ASCII is mapped by code; the tables cover the
rest, and a few characters have a mapping of several characters.
-/
namespace ProxyHeaders.Text

def shiftByRuns (runs : List (Nat × Nat × Nat × Int)) (c : Char) : Char :=
  match runs.find? fun (first, last, step, _) =>
      first ≤ c.toNat && c.toNat ≤ last && (c.toNat - first) % step == 0 with
  | some (_, _, _, shift) => Char.ofNat (Int.toNat (c.toNat + shift))
  | none => c

def upperChar (c : Char) : List Char :=
  if isAscii c then [c.toUpper]
  else match upperExpansions.find? (·.1 == c.toNat) with
    | some (_, codes) => codes.map Char.ofNat
    | none => [shiftByRuns upperRuns c]

def lowerChar (c : Char) : List Char :=
  if isAscii c then [c.toLower]
  else if c.toNat == 0x130 then ['i', Char.ofNat 0x307]
  else [shiftByRuns lowerRuns c]

def isCased (c : Char) : Bool := inRanges casedRanges c
def isCaseIgnorable (c : Char) : Bool := inRanges ignorableRanges c

/-- Whether, ignorable characters aside, the next character is a cased letter. -/
def nextIsCased (chars : List Char) : Bool :=
  match chars.dropWhile isCaseIgnorable with
  | [] => false
  | c :: _ => isCased c

/-- Lower case of a text; `before` holds what was read, latest first. A capital sigma after a
cased letter and before none is written in its final form. -/
def lowerAfter (before : List Char) : List Char → List Char
  | [] => []
  | c :: rest =>
    let mapped :=
      if c.toNat == 0x3a3 then
        if nextIsCased before && !nextIsCased rest then [Char.ofNat 0x3c2] else [Char.ofNat 0x3c3]
      else lowerChar c
    mapped ++ lowerAfter (c :: before) rest

def lower (text : String) : String := String.ofList (lowerAfter [] text.toList)

end ProxyHeaders.Text
