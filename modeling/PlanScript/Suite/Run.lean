/-
PlanScript.Suite.Run — running the cases of a suite.

A case passes when its file reads as a fixture and the fixture's plan parses
as expected. The readers for both are parameters. Each chosen case is run
once. The run succeeds when there is something to run and nothing fails.
-/
import PlanScript.Libraries
import PlanScript.Suite.Select
import PlanScript.Fixture.Read
import PlanScript.Fixture.Check

namespace PlanScript.Suite

/-- Why a case fails. -/
inductive CaseFailure where
  | unreadable (error : ReadError)
  | malformed (error : FixtureError)
  | mismatch (m : Mismatch)
deriving DecidableEq, Repr

/-- The text of a failure. -/
def CaseFailure.message : CaseFailure → Text
  | unreadable e => "cannot read file: ".toList ++ e.message
  | malformed e => "frontmatter error: ".toList ++ e.message
  | mismatch m => m.message

/-- What came of a case. -/
structure CaseResult where
  path : Text
  description : Option Text := none
  failure : Option CaseFailure := none
  /-- What happened during the parse. -/
  events : List Event := []
deriving DecidableEq, Repr

/-- Runs a case. -/
def Case.run (libraries : Libraries) (c : Case) : CaseResult :=
  match c.file.read with
  | .error e => { path := c.path, failure := some (.unreadable e) }
  | .ok content => match Fixture.parse content libraries.toml with
    | .error e => { path := c.path, failure := some (.malformed e) }
    | .ok fixture =>
      { path := c.path
        description := fixture.expectations.description
        failure := match fixture.check libraries.markdown with
          | .ok () => none
          | .error m => some (.mismatch m)
        events := (fixture.run libraries.markdown).events }

/-- The results of a category. -/
structure CategoryResult where
  name : Text
  results : List CaseResult
deriving DecidableEq, Repr

/-- What came of a suite. -/
inductive Result where
  /-- There are no fixture files. -/
  | nothingFound
  /-- The requests chose no category. -/
  | nothingChosen (missing : List Text)
  | ran (missing : List Text) (categories : List CategoryResult)
deriving DecidableEq, Repr

/-- Runs the categories that some requests choose. -/
def runSuite (libraries : Libraries) (categories : List Category) (requests : List Text) :
    Result :=
  if categories.isEmpty then .nothingFound
  else
    let s := select (categories.map Category.name) requests
    let chosen := categories.filter fun c => s.chosen.contains c.name
    if chosen.isEmpty then .nothingChosen s.missing
    else .ran s.missing (chosen.map fun c => ⟨c.name, c.cases.map (Case.run libraries)⟩)

namespace Result

/-- The results of all cases that were run. -/
def results : Result → List CaseResult
  | ran _ categories => categories.flatMap CategoryResult.results
  | _ => []

/-- The results of the cases that failed. -/
def failures (r : Result) : List CaseResult :=
  r.results.filter fun c => c.failure.isSome

/-- Whether something was run and nothing failed. -/
def succeeded : Result → Bool
  | r@(ran ..) => r.failures.isEmpty
  | _ => false

end Result

end PlanScript.Suite
