/-!
What a run has to say beside its output.
-/
namespace ProxyHeaders.Code

structure Diagnostics where
  warnings : List String := []
  errors : List String := []
  deriving Repr, Inhabited

namespace Diagnostics

def warn (diagnostics : Diagnostics) (message : String) : Diagnostics :=
  { diagnostics with warnings := diagnostics.warnings ++ [message] }

def error (diagnostics : Diagnostics) (message : String) : Diagnostics :=
  { diagnostics with errors := diagnostics.errors ++ [message] }

def extend (diagnostics other : Diagnostics) : Diagnostics :=
  { warnings := diagnostics.warnings ++ other.warnings
    errors := diagnostics.errors ++ other.errors }

def lines (diagnostics : Diagnostics) : List String :=
  diagnostics.errors.map ("ERROR: " ++ ·) ++ diagnostics.warnings

def size (diagnostics : Diagnostics) : Nat :=
  diagnostics.warnings.length + diagnostics.errors.length

end Diagnostics

end ProxyHeaders.Code
