/-
PlanScript.Plan.Error — why a plan cannot be parsed.

A parse fails at one line. The error keeps that line, the step number it
would have had, and the fault: no form takes the line, its nesting is
broken, or a literal on it is malformed. A nesting error that comes out of a
literal is a nesting fault (`Fault.ofLiteral`).
-/
import PlanScript.Statement.Form
import PlanScript.Source.Lines

namespace PlanScript

/-- What is wrong with a line. -/
inductive Fault where
  /-- No statement form takes the line. -/
  | unparseable
  | malformedNesting (error : NestingError)
  | malformedLiteral (error : LiteralError)
deriving DecidableEq, Repr

namespace Fault

/-- The fault of a line with a malformed literal. -/
def ofLiteral : LiteralError → Fault
  | .nesting e => malformedNesting e
  | e => malformedLiteral e

/-- The text of a fault. -/
def message : Fault → Text
  | unparseable => "no statement form matches this line".toList
  | malformedNesting e => "malformed nesting: ".toList ++ e.message
  | malformedLiteral e => "malformed literal: ".toList ++ e.message

end Fault

/-- A failed parse, pinned to one line. -/
structure ParseError where
  fault : Fault
  /-- The step number that the line would have had. -/
  step : Nat
  line : Line
  /-- The file that the source came from. -/
  fileId : Nat
deriving DecidableEq, Repr

/-- The text of an error. -/
def ParseError.message (e : ParseError) : Text :=
  "step ".toList ++ Decimal.ofNat e.step ++ ": ".toList ++ e.fault.message ++ ": ".toList
    ++ e.line.text

end PlanScript
