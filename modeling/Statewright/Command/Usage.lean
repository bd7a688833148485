import Statewright.Text.Lines

/-!
What the command says about itself.
-/
set_option autoImplicit false

namespace Statewright.Command

def commandName : Text := "machine-factory"

def usageLines : List Text :=
  ["usage: machine-factory [-h] [-o OUTPUT_DIR] [-t TEMPLATE_DIR] [--stdout]",
   "                       [--check]",
   "                       spec_file"]

def helpLines : List Text :=
  ["",
   "Generate Python state machine code from XML specification blocks",
   "",
   "positional arguments:",
   "  spec_file             Input specification file",
   "",
   "options:",
   "  -h, --help            show this help message and exit",
   "  -o OUTPUT_DIR, --output-dir OUTPUT_DIR",
   "                        Output directory for generated files",
   "  -t TEMPLATE_DIR, --template-dir TEMPLATE_DIR",
   "                        Template directory (default: bundled templates)",
   "  --stdout              Print the generated module instead of writing it",
   "  --check               Only parse and validate the specification"]

def linesText (all : List Text) : Text := all.flatMap (· ++ ['\n'])

def usage : Text := linesText usageLines

def help : Text := linesText (usageLines ++ helpLines)

def misuse (message : Text) : Text := usage ++ commandName ++ ": error: " ++ message ++ ['\n']

def describerUsage : Text := "Usage: python -m machine_factory.spec_parser <spec_file>\n"

end Statewright.Command
