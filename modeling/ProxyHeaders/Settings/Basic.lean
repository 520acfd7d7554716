import ProxyHeaders.Data.Value
import ProxyHeaders.Mapping.Known

/-!
What a run can be told.
-/
namespace ProxyHeaders

structure Settings where
  outputDir : String := "Output"
  combinedFileName : String := "BNMResolves.hpp"
  singleFile : Bool := false
  useReflection : Bool := false
  imageName : Option String := none
  resolveHeader : String := "BNMResolve.hpp"
  usingSpaces : List String :=
    ["BNM", "BNM::IL2CPP", "BNM::Structures", "BNM::Structures::Unity", "BNM::UnityEngine"]
  obfuscateMacro : String := "O"
  allowedSpaces : List String := Mapping.defaultAllowed
  placeholderBase : String := "Behaviour"
  indentSize : Int := 4
  validateOutput : Bool := true
  warningsFile : String := "GenerationWarnings.txt"
  validationReportFile : String := "ValidationReport.txt"
  errorFile : String := "GeneratorError.txt"
  /-- What the settings file says beyond what is known. -/
  custom : Value := .record []
  deriving Inhabited

namespace Settings

def indent (settings : Settings) : String :=
  String.ofList (List.replicate settings.indentSize.toNat ' ')

end Settings

end ProxyHeaders
