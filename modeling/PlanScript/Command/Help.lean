/-
PlanScript.Command.Help — what the program says about itself.

Help and the version go to the standard output and are a success. Every
other refusal is one line on the standard error and a failure of its own
kind; a command line with nothing on it gets the first line of the help.
-/
import PlanScript.Command.Request

namespace PlanScript.Command

/-- What the program does. -/
def about : Text := "Planner pseudocode to instruction list".toList

/-- The help of a scope, line by line. -/
def helpLines : Scope → List Text
  | .root => about :: ["",
      "Usage: planparse [OPTIONS] <COMMAND>", "",
      "Commands:",
      "  parse  Parse a pseudocode file into instructions",
      "  test   Run .test.plan fixture files",
      "  help   Print this message or the help of the given subcommand(s)", "",
      "Options:",
      "      --no-color  Disable colored error output",
      "  -v, --verbose   Log each recognized line",
      "  -h, --help      Print help",
      "  -V, --version   Print version"].map String.toList
  | .parse => ["Parse a pseudocode file into instructions", "",
      "Usage: planparse parse [OPTIONS] <FILE>", "",
      "Arguments:",
      "  <FILE>  Pseudocode file to parse, or `-` for stdin", "",
      "Options:",
      "      --json           Print instructions as JSON",
      "      --check          Parse only (exit 0 if valid)",
      "      --lenient-dicts  Skip dict entries without a `:` instead of failing",
      "      --no-color       Disable colored error output",
      "  -v, --verbose        Log each recognized line",
      "  -h, --help           Print help"].map String.toList
  | .test => ["Run .test.plan fixture files", "",
      "Usage: planparse test [OPTIONS] <PATH>", "",
      "Arguments:",
      "  <PATH>  Path to a .test.plan file or directory containing them", "",
      "Options:",
      "  -c, --category <CATEGORY>  Run only tests in these categories (subfolder names). Repeatable",
      "      --list-categories      List available categories and exit",
      "      --no-color             Disable colored error output",
      "  -v, --verbose              Log each recognized line",
      "  -h, --help                 Print help"].map String.toList

/-- A name between single quotes. -/
def quoteName (t : Text) : Text := '\x27' :: t ++ ['\x27']

/-- The line that tells of a refusal. -/
def Refusal.message : Refusal → Text
  | help _ | version | empty => about
  | missingCommand =>
    "error: ".toList ++ quoteName programName
      ++ " requires a subcommand but one was not provided".toList
  | missingPath => "error: the following required arguments were not provided:".toList
  | unknownCommand a => "error: unrecognized subcommand ".toList ++ quoteName a
  | unexpected a => "error: unexpected argument ".toList ++ quoteName a ++ " found".toList
  | valueMissing f =>
    "error: a value is required for ".toList ++ quoteName f.title
      ++ " but none was supplied".toList
  | valueUnneeded f v =>
    "error: unexpected value ".toList ++ quoteName v ++ " for ".toList ++ quoteName f.title
      ++ " found; no more were expected".toList
  | repeated f =>
    "error: the argument ".toList ++ quoteName f.title
      ++ " cannot be used multiple times".toList

/-- The first line of a text, without its end. -/
def firstLine (t : Text) : Text := t.takeWhile (· ≠ '\n')

end PlanScript.Command
