/-
PlanScript.Command.Run — what the program answers.

A request is answered from what its path leads to, so nothing here reads a
file. `parse` shows the plan, or a diagnostic of the line that fails; `test`
reports on a suite. The exit code is 0 for success, 1 for failure, and 2 for
a command line that is no request.
-/
import PlanScript.Command.Arguments
import PlanScript.Command.Help
import PlanScript.Command.LogLine
import PlanScript.Diagnostic.Snippet
import PlanScript.Suite.Report
import PlanScript.Wire.Json

namespace PlanScript.Command

open Suite

/-- Where the answers go. -/
structure Terminal where
  /-- Whether diagnostics may be painted. -/
  painted : Bool := false
  /-- Whether events are logged. -/
  logged : Bool := false
deriving DecidableEq, Repr

/-- What the program leaves behind. -/
structure Outcome where
  exit : Nat
  output : Text := []
  errors : Text := []
deriving DecidableEq, Repr

/-- Lines, each with its end. -/
def endLines (lines : List Text) : Text := lines.flatMap (· ++ ['\n'])

/-- The lines of a command's notices. -/
def shown (terminal : Terminal) (verbose : Bool) (notices : List Notice) : List Text :=
  notices.filterMap fun
    | .line t => some t
    | .event e => if terminal.logged && e.level.isShown verbose then some e.logLine else none

section

variable (libraries : Libraries)

/-! ## 1. Parsing a plan -/

/-- The reports of some instructions, each with a line under it, and their
number. -/
def planLines (plan : List Instruction) : List Text :=
  if plan.isEmpty then ["(no instructions)".toList]
  else
    plan.flatMap (fun i => [i.report, "---".toList])
      ++ [Decimal.ofNat plan.length ++ " step(s)".toList]

/-- The line that the log of a parse starts with. -/
def startLine (r : ParseRequest) : Text :=
  let lenient := if r.lenientDicts then "true" else "false"
  logLine .debug "parsing".toList
    [("file", .bare r.file),
      ("options", .bare ("ParseOptions \x7b lenient_dicts: " ++ lenient ++ " \x7d").toList)]

/-- The answer to a request to parse a source. -/
def parseSource (terminal : Terminal) (request : Request) (r : ParseRequest) (source : Text) :
    Outcome :=
  let run := parseLogged { lenientDicts := r.lenientDicts } 0 source libraries.markdown
  let start := if terminal.logged && request.verbose then [startLine r] else []
  let log := start ++ shown terminal request.verbose (run.events.map .event)
  match run.result with
  | .error e =>
    let painted := terminal.painted && !request.noColor
    { exit := 1, errors := endLines (log ++ e.diagnostic.snippet painted r.file source) }
  | .ok plan =>
    if r.check then
      { exit := 0
        errors := endLines (log ++ ["ok: ".toList ++ r.file ++ " parsed successfully (".toList
          ++ Decimal.ofNat plan.length ++ " steps)".toList]) }
    else
      { exit := 0
        output := endLines <|
          if r.json then [libraries.printJson (.array (plan.map fun i => i.record.toJson))]
          else planLines plan
        errors := endLines log }

/-- The answer to a request to parse a file. -/
def answerParse (terminal : Terminal) (request : Request) (r : ParseRequest)
    (found : Except ReadError Tree) : Outcome :=
  match found >>= Tree.read with
  | .ok source => parseSource libraries terminal request r source
  | .error e =>
    { exit := 1
      errors := endLines ["error: cannot read ".toList ++ quoteName r.file ++ [':', ' ']
        ++ e.message] }

/-! ## 2. Running a suite -/

/-- The answer to a request to run a suite. -/
def answerTest (terminal : Terminal) (request : Request) (r : TestRequest)
    (found : Except ReadError Tree) : Outcome :=
  if r.listCategories then { exit := 0, errors := endLines (categoryList r.path found) }
  else
    let result := runSuite libraries (discover r.path found) r.categories
    { exit := if result.succeeded then 0 else 1
      errors := endLines <| shown terminal request.verbose
        (result.notices (!request.noColor) r.path) }

/-! ## 3. The program -/

/-- The path that a request reads; the standard input has none. -/
def Request.path? (r : Request) : Option Text :=
  match r.job with
  | .parse p => if p.file = ['-'] then none else some p.file
  | .test t => some t.path

/-- The answer to a request, given what its path leads to. -/
def answer (terminal : Terminal) (request : Request) (found : Except ReadError Tree) :
    Outcome :=
  match request.job with
  | .parse r => answerParse libraries terminal request r found
  | .test r => answerTest libraries terminal request r found

end

/-- The answer to a command line that is no request. -/
def refuse : Refusal → Outcome
  | .help scope => { exit := 0, output := endLines (helpLines scope) }
  | .version => { exit := 0, output := endLines [programName ++ [' '] ++ programVersion] }
  | r => { exit := 2, errors := firstLine r.message }

/-- The program, in a folder and with a standard input. -/
def run (terminal : Terminal) (folder : Tree) (input : ByteArray) (arguments : List Text)
    (libraries : Libraries := {}) : Outcome :=
  match readArguments arguments with
  | .error r => refuse r
  | .ok request =>
    let found := match request.path? with
      | some path => folder.at? path
      | none => .ok (.file (.ok input))
    answer libraries terminal request found

end PlanScript.Command
