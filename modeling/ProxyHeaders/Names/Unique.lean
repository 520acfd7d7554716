/-!
Making names distinct by numbering: the first of `name`, `name_1`, `name_2`, … that is free.
A search never needs more candidates than there are taken names, and one.
-/
namespace ProxyHeaders.Names

/-- The first free candidate from number `index` on, after at most `tries` taken ones. -/
def freeFrom (taken : List String) (candidate : Nat → String) : Nat → Nat → String
  | 0, index => candidate index
  | tries + 1, index =>
    if taken.contains (candidate index) then freeFrom taken candidate tries (index + 1)
    else candidate index

def firstFree (taken : List String) (candidate : Nat → String) : String :=
  freeFrom taken candidate taken.length 0

/-- The spelling of the `index`-th repeat of a name; the name itself is number 0. -/
def numbered (name : String) (index : Nat) : String :=
  if index = 0 then name else name ++ "_" ++ toString index

/-- Every name in turn, numbered past those taken and those before it. -/
def spread (taken : List String) : List String → List String
  | [] => []
  | name :: rest =>
    let free := firstFree taken (numbered name)
    free :: spread (free :: taken) rest

def distinct (names : List String) : List String := spread [] names

end ProxyHeaders.Names
