import ProxyHeaders.Text.WidthTable
import ProxyHeaders.Text.Ranges

/-!
The width of text on a terminal, in cells.
-/
namespace ProxyHeaders.Text

def cellsOf (c : Char) : Nat :=
  if 0x20 ≤ c.toNat && c.toNat ≤ 0x7e then 1
  else if isAscii c then 0
  else if inRanges zeroWidthRanges c then 0
  else if inRanges doubleWidthRanges c then 2
  else 1

def cellsOfAll (chars : List Char) : Nat := chars.foldl (fun total c => total + cellsOf c) 0

def width (text : String) : Nat := cellsOfAll text.toList

end ProxyHeaders.Text
