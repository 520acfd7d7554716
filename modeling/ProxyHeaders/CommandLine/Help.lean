import ProxyHeaders.CommandLine.Arguments

/-!
What the command line says about itself.
-/
namespace ProxyHeaders.CommandLine

def programName : String := "bnm-structgen"

def programVersion : String := "0.1.0"

def usageLines : List String := [
  "usage: bnm-structgen [-h] [--single-file] [--output DIR] [--image-name NAME]",
  "                     [--no-validate] [--reflection] [--config FILE]",
  "                     [--verbose] [--log-file FILE] [--version]",
  "                     [input]"]

def helpLines : List String := usageLines ++ [
  "",
  "Generate BNM C++ proxy headers from a .NET assembly",
  "",
  "positional arguments:",
  "  input                 Assembly to read (default: ./Files/Assembly-",
  "                        CSharp.dll)",
  "",
  "options:",
  "  -h, --help            show this help message and exit",
  "  --config FILE         JSON configuration file",
  "  --verbose, -v         Show progress logging",
  "  --log-file FILE       Write a debug log to FILE",
  "  --version             show program's version number and exit",
  "",
  "output:",
  "  --single-file, -s     Write one combined header instead of one header per",
  "                        type",
  "  --output DIR, -o DIR  Output directory (default: Output)",
  "  --image-name NAME     Image name used by GetClass() (default: input file",
  "                        name)",
  "  --no-validate         Skip the advisory validation pass",
  "",
  "metadata:",
  "  --reflection, -r      Also load types through the .NET reflection backend",
  "                        (needs pythonnet)",
  "",
  "Examples:",
  "  bnm-structgen ./Files/Assembly-CSharp.dll",
  "  bnm-structgen -s -o Generated Assembly-CSharp.dll",
  "  bnm-structgen --reflection --config structgen.json game.dll"]

namespace Stop

def exitCode : Stop → Nat
  | .refused _ => 2
  | _ => 0

def output : Stop → List String
  | .help => helpLines
  | .version => [programName ++ " " ++ programVersion]
  | .refused _ => []

def errors : Stop → List String
  | .refused refusal => usageLines ++ [programName ++ ": error: " ++ refusal.message]
  | _ => []

end Stop

end ProxyHeaders.CommandLine
