/-!
Blank characters and how they are trimmed. Blank are the Unicode white-space characters and the
four ASCII separators U+001C to U+001F; the zero-width space and the byte-order mark are not.
-/
namespace ProxyHeaders.Text

def isBlank (c : Char) : Bool :=
  let n := c.toNat
  (0x09 ≤ n && n ≤ 0x0d) || (0x1c ≤ n && n ≤ 0x20) || n == 0x85 || n == 0xa0 || n == 0x1680 ||
    (0x2000 ≤ n && n ≤ 0x200a) || n == 0x2028 || n == 0x2029 || n == 0x202f || n == 0x205f ||
    n == 0x3000

/-- Drops the longest tail whose elements all satisfy `drop`. -/
def dropEnd {α : Type} (drop : α → Bool) (items : List α) : List α :=
  (items.reverse.dropWhile drop).reverse

def trimEnd (text : String) : String := String.ofList (dropEnd isBlank text.toList)

def trim (text : String) : String :=
  String.ofList (dropEnd isBlank (text.toList.dropWhile isBlank))

def isAllBlank (text : String) : Bool := text.toList.all isBlank

end ProxyHeaders.Text
