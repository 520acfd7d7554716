/-!
What comes of mapping a managed type: a type of the header language, or a refusal and its reason.
-/
namespace ProxyHeaders.Mapping

/-- A type as the headers spell it. -/
inductive CppType where
  /-- A type that the runtime or the language provides. -/
  | plain (text : String)
  /-- An enum that this run declares, by its qualified name. -/
  | declared (name : String)
  | array (element : CppType)
  | list (element : CppType)
  | pointer (target : CppType)
  deriving DecidableEq, Repr, Inhabited

def CppType.render : CppType → String
  | .plain text => text
  | .declared name => name
  | .array element => "Mono::Array<" ++ element.render ++ ">*"
  | .list element => "Mono::List<" ++ element.render ++ ">*"
  | .pointer target => target.render ++ "*"

/-- A pointer that hides what it points to. -/
def CppType.hidden : CppType := .plain "void*"

def CppType.leaves : CppType → List CppType
  | .array element => element.leaves
  | .list element => element.leaves
  | .pointer target => target.leaves
  | leaf => [leaf]

inductive Refusal where
  | removed
  | selfReferential
  deriving DecidableEq, Repr, Inhabited

def Refusal.word : Refusal → String
  | .removed => "removed"
  | .selfReferential => "self_referential"

inductive Reason where
  | external (fullName : String)
  | selfReference (name : String)
  | crossReference (fullName : String)
  | arrayOfNothing (name : String)
  | undefinedEnum (name : String)
  | unsupported (name : String)
  | reserved (name : String)
  | stated (text : String)
  deriving DecidableEq, Repr, Inhabited

def Reason.message : Reason → String
  | .external fullName => "unsupported external type " ++ fullName
  | .selfReference name => "self-referential type " ++ name
  | .crossReference fullName => "cross-type reference " ++ fullName
  | .arrayOfNothing name => "array without element type " ++ name
  | .undefinedEnum name => "undefined enum " ++ name
  | .unsupported name => "unsupported type " ++ name
  | .reserved name => "reserved type " ++ name
  | .stated text => text

/-- A lossy mapping has lost the type behind a hidden pointer. -/
inductive Outcome where
  | mapped (type : CppType) (lossy : Bool)
  | refused (refusal : Refusal) (reason : Reason) (lossy : Bool)
  deriving DecidableEq, Repr, Inhabited

inductive OutcomeFault where
  | mappedMalformed
  | refusedMalformed
  deriving DecidableEq, Repr

def OutcomeFault.message : OutcomeFault → String
  | .mappedMalformed => "A mapped result needs a representation and no reason"
  | .refusedMalformed => "A failed mapping needs a reason and no representation"

namespace Outcome

def found (type : CppType) : Outcome := .mapped type false
def removed (reason : Reason) : Outcome := .refused .removed reason false

/-- An outcome from its parts: a spelling goes with no reason, a refusal (`some`) with a reason
that says something and no spelling. -/
def ofParts (refusal : Option Refusal) (spelling reason : Option String) (lossy : Bool) :
    Except OutcomeFault Outcome :=
  match refusal, spelling, reason with
  | none, some spelling, none => .ok (.mapped (.plain spelling) lossy)
  | none, _, _ => .error .mappedMalformed
  | some refusal, none, some reason =>
    if reason.isEmpty then .error .refusedMalformed
    else .ok (.refused refusal (.stated reason) lossy)
  | some _, _, _ => .error .refusedMalformed

def isMapped : Outcome → Bool
  | .mapped _ _ => true
  | .refused _ _ _ => false

def isLossy : Outcome → Bool
  | .mapped _ lossy => lossy
  | .refused _ _ lossy => lossy

def statusWord : Outcome → String
  | .mapped _ _ => "mapped"
  | .refused refusal _ _ => refusal.word

def spelling? : Outcome → Option String
  | .mapped type _ => some type.render
  | .refused _ _ _ => none

def reason? : Outcome → Option String
  | .mapped _ _ => none
  | .refused _ reason _ => some reason.message

/-- The pointer to what was mapped; a refusal stays as it is. -/
def asPointer : Outcome → Outcome
  | .mapped type lossy => .mapped (.pointer type) lossy
  | outcome => outcome

def display : Outcome → String
  | .mapped type _ => type.render
  | .refused refusal reason _ => "<" ++ refusal.word ++ ": " ++ reason.message ++ ">"

end Outcome

end ProxyHeaders.Mapping
