/-!
Sets of characters given as closed ranges of code points.
-/
namespace ProxyHeaders.Text

def inRanges (ranges : List (Nat × Nat)) (c : Char) : Bool :=
  ranges.any fun range => range.1 ≤ c.toNat && c.toNat ≤ range.2

def isAscii (c : Char) : Bool := c.toNat < 0x80

end ProxyHeaders.Text
