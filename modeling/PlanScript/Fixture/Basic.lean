/-
PlanScript.Fixture.Basic — a fixture: a plan and what is expected of it.

A fixture is a text with two parts. Between two `---` marks stands the
frontmatter, which says what to expect; after the second mark stands the
body, which is the plan to parse. Nothing is expected that is not said, and
a fixture that says anything about an error expects the parse to fail.
-/
import PlanScript.Instruction.Record
import PlanScript.Options

namespace PlanScript

/-- What a fixture says about its body. -/
structure Expectations where
  description : Option Text := none
  options : Options := {}
  parseError : Bool := false
  /-- A text that the error message contains. -/
  errorText : Option Text := none
  errorStep : Option Nat := none
  count : Option Nat := none
  instructions : Option (List Record) := none
deriving DecidableEq, Repr

/-- Whether the parse is expected to fail. -/
def Expectations.expectsFailure (x : Expectations) : Bool :=
  x.parseError || x.errorText.isSome || x.errorStep.isSome

/-- A plan with what is expected of it. -/
structure Fixture where
  expectations : Expectations
  body : Text
deriving DecidableEq, Repr

/-- Why a text is no fixture. -/
inductive FixtureError where
  /-- The text does not start with a mark. -/
  | missingOpening
  /-- There is no second mark. -/
  | missingClosing
  /-- The frontmatter is not TOML, or says something of the wrong type. -/
  | malformed
deriving DecidableEq, Repr

/-- The text of a fixture error. -/
def FixtureError.message : FixtureError → Text
  | missingOpening => "missing opening --- frontmatter delimiter".toList
  | missingClosing => "missing closing --- frontmatter delimiter".toList
  | malformed => "TOML parse error".toList

end PlanScript
