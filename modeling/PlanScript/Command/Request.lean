/-
PlanScript.Command.Request — what the command line can ask for.

There are two commands. `parse` reads a plan and shows its instructions;
`test` runs the fixtures under a path. Instead of a command there may be a
question about the program, or something that no command takes.
-/
import PlanScript.Text.Basic

namespace PlanScript

/-- The name of the program. -/
def programName : Text := "planparse".toList

/-- The version of the program. -/
def programVersion : Text := "0.1.0".toList

namespace Command

/-- The place on the command line, which decides what may stand there. -/
inductive Scope where
  /-- Before the command. -/
  | root
  | parse
  | test
deriving DecidableEq, Repr

/-! ## 1. Requests -/

/-- A request to parse a plan. -/
structure ParseRequest where
  /-- The file, or `-` for the standard input. -/
  file : Text
  json : Bool := false
  check : Bool := false
  lenientDicts : Bool := false
deriving DecidableEq, Repr

/-- A request to run a suite. -/
structure TestRequest where
  path : Text
  categories : List Text := []
  listCategories : Bool := false
deriving DecidableEq, Repr

/-- The work of a request. -/
inductive Job where
  | parse (r : ParseRequest)
  | test (r : TestRequest)
deriving DecidableEq, Repr

/-- A request, with the settings that all commands have. -/
structure Request where
  noColor : Bool := false
  verbose : Bool := false
  job : Job
deriving DecidableEq, Repr

/-! ## 2. Options -/

/-- An option of the command line. -/
inductive Flag where
  | noColor
  | verbose
  | help
  | version
  | json
  | check
  | lenientDicts
  | category
  | listCategories
deriving DecidableEq, Repr

namespace Flag

/-- The long name of an option. -/
def long : Flag → String
  | noColor => "no-color"
  | verbose => "verbose"
  | help => "help"
  | version => "version"
  | json => "json"
  | check => "check"
  | lenientDicts => "lenient-dicts"
  | category => "category"
  | listCategories => "list-categories"

/-- The letter of an option, if it has one. -/
def short? : Flag → Option Char
  | verbose => some 'v'
  | help => some 'h'
  | version => some 'V'
  | category => some 'c'
  | _ => none

/-- Whether an option comes with a value. -/
def takesValue : Flag → Bool
  | category => true
  | _ => false

/-- The name by which messages call an option. -/
def title : Flag → Text
  | category => "--category <CATEGORY>".toList
  | f => '-' :: '-' :: f.long.toList

/-- The options that may stand in a scope. -/
def allAt : Scope → List Flag
  | .root => [noColor, verbose, help, version]
  | .parse => [json, check, lenientDicts, noColor, verbose, help]
  | .test => [category, listCategories, noColor, verbose, help]

end Flag

/-! ## 3. Refusals -/

/-- Why the command line is no request. -/
inductive Refusal where
  /-- It asks for help. -/
  | help (scope : Scope)
  /-- It asks for the version. -/
  | version
  /-- There is nothing on it. -/
  | empty
  | missingCommand
  | missingPath
  | unknownCommand (argument : Text)
  | unexpected (argument : Text)
  | valueMissing (flag : Flag)
  | valueUnneeded (flag : Flag) (value : Text)
  | repeated (flag : Flag)
deriving DecidableEq, Repr

end Command

end PlanScript
