import ProxyHeaders.Names.Words

/-!
The names in use inside one generated struct. A name can be claimed once; the members of every
managed object and the struct's own name are claimed from the start.
-/
namespace ProxyHeaders.Names

structure Claimed where
  names : List String
  deriving Repr, Inhabited

namespace Claimed

def contains (claimed : Claimed) (name : String) : Bool := claimed.names.contains name

def claim (claimed : Claimed) (name : String) : Claimed :=
  if claimed.contains name then claimed else ⟨name :: claimed.names⟩

def size (claimed : Claimed) : Nat := claimed.names.length

def ofSeed (seed : List String) : Claimed := seed.foldl claim ⟨[]⟩

def forStruct (name : String) (seed : List String := implicitMembers) : Claimed :=
  let claimed := ofSeed seed
  if name.isEmpty then claimed else claimed.claim name

end Claimed

end ProxyHeaders.Names
