import MathGrammar.CommandLine.Arguments
import MathGrammar.Text.Wrap

/-! # Help

The usage line, the help, and what is shown when the arguments are wrong. -/

namespace MathGrammar

namespace Help

/-- The usage of the command. -/
def usage : String := "usage: species [-h] [--marker MARKER] [--fail-fast] [--verbose] file\n"

/-- The column at which descriptions start. -/
def indent : Nat := 19

/-- The number of characters on a line of a description. -/
def width : Nat := 59

/-- The text with each run of spaces as one space. -/
def squeezeSpaces : Text → Text
  | ' ' :: ' ' :: rest => squeezeSpaces (' ' :: rest)
  | c :: rest => c :: squeezeSpaces rest
  | [] => []

/-- The description of the marker option, in lines, with its default value. -/
def markerLines (marker : Text) : List Text :=
  Text.wrap width
    ("Line that starts a math block (default: ".toList ++ squeezeSpaces marker.quoted ++ [')'])

/-- Lines of a description, each but the first behind the indent. -/
def description (lines : List Text) : String :=
  String.ofList (List.intercalate ('\n' :: List.replicate indent ' ') lines)

/-- The whole help, when `marker` is the default of the marker option. -/
def text (marker : Text) : String :=
  usage
    ++ "\nspecies - grammar productions from LaTeX math blocks\n"
    ++ "\npositional arguments:\n"
    ++ "  file             The document (.rst) to scan\n"
    ++ "\noptions:\n"
    ++ "  -h, --help       show this help message and exit\n"
    ++ "  --marker MARKER  " ++ description (markerLines marker) ++ "\n"
    ++ "  --fail-fast      Stop at the first block that fails to parse\n"
    ++ "  --verbose        Log every parsed production\n"

/-- What is shown when the arguments are wrong. -/
def ofError (error : UsageError) : String :=
  usage ++ "species: error: " ++ error.message ++ "\n"

end Help

end MathGrammar
