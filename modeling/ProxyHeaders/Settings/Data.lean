import ProxyHeaders.Data.Access
import ProxyHeaders.Settings.Basic

/-!
Settings as entries, keyed as in a settings file. Entries that are missing or of another kind
read as the default; a flag is any value, taken as a condition.
-/
namespace ProxyHeaders

abbrev Entries := List (Key × Value)

namespace Entries

/-- The entries with others laid over them: known keys keep their place, new ones follow. -/
def overlay (entries above : Entries) : Entries :=
  above.foldl (fun entries (key, value) => Value.put entries key value) entries

end Entries

namespace Settings

def toEntries (settings : Settings) : Entries := [
  ("output_dir", .text settings.outputDir),
  ("combined_file_name", .text settings.combinedFileName),
  ("single_file", .bool settings.singleFile),
  ("use_reflection", .bool settings.useReflection),
  ("image_name", .ofText? settings.imageName),
  ("resolve_header", .text settings.resolveHeader),
  ("using_namespaces", .ofTexts settings.usingSpaces),
  ("obfuscate_macro", .text settings.obfuscateMacro),
  ("allowed_namespaces", .ofTexts settings.allowedSpaces),
  ("placeholder_base", .text settings.placeholderBase),
  ("indent_size", .int settings.indentSize),
  ("validate_output", .bool settings.validateOutput),
  ("warnings_file", .text settings.warningsFile),
  ("validation_report_file", .text settings.validationReportFile),
  ("error_file", .text settings.errorFile),
  ("custom", settings.custom)]

def ofEntries (entries : Entries) : Settings :=
  let usual : Settings := {}
  let value (key : Key) : Value := (entries.lookup key).getD .none
  let text (key : Key) (absent : String) := (value key).textOr absent
  let flag (key : Key) (absent : Bool) := ((entries.lookup key).map Value.isTrue).getD absent
  { outputDir := text "output_dir" usual.outputDir
    combinedFileName := text "combined_file_name" usual.combinedFileName
    singleFile := flag "single_file" usual.singleFile
    useReflection := flag "use_reflection" usual.useReflection
    imageName := (value "image_name").text?
    resolveHeader := text "resolve_header" usual.resolveHeader
    usingSpaces := (value "using_namespaces").textsOr usual.usingSpaces
    obfuscateMacro := text "obfuscate_macro" usual.obfuscateMacro
    allowedSpaces := (value "allowed_namespaces").textsOr usual.allowedSpaces
    placeholderBase := text "placeholder_base" usual.placeholderBase
    indentSize := (value "indent_size").intOr usual.indentSize
    validateOutput := flag "validate_output" usual.validateOutput
    warningsFile := text "warnings_file" usual.warningsFile
    validationReportFile := text "validation_report_file" usual.validationReportFile
    errorFile := text "error_file" usual.errorFile
    custom := (entries.lookup (.text "custom")).getD usual.custom }

def ofData (value : Value) : Settings := ofEntries value.entries

end Settings

end ProxyHeaders
