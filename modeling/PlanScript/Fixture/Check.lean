/-
PlanScript.Fixture.Check — whether a parse is as expected.

A fixture that expects a failure looks only at the error; one that does not
looks at the number of instructions and then at their records, in order. The
first thing that is not as expected is the mismatch that is reported.
-/
import PlanScript.Fixture.Basic
import PlanScript.Plan.Parse

namespace PlanScript

/-- How a parse differs from what is expected. -/
inductive Mismatch where
  /-- The parse failed. -/
  | unexpectedError (error : ParseError)
  /-- The parse did not fail. -/
  | unexpectedSuccess (steps : Nat)
  | wrongCount (expected actual : Nat)
  | wrongRecord (expected actual : Record)
  | wrongErrorText (expected : Text) (error : ParseError)
  | wrongErrorStep (expected : Nat) (error : ParseError)
deriving DecidableEq, Repr

/-- The text of a mismatch. -/
def Mismatch.message : Mismatch → Text
  | unexpectedError e => "unexpected parse error: ".toList ++ e.message
  | unexpectedSuccess steps =>
    "expected parse error, but parsing succeeded (".toList ++ Decimal.ofNat steps
      ++ " steps)".toList
  | wrongCount expected actual =>
    "expected ".toList ++ Decimal.ofNat expected ++ " instruction(s), got ".toList
      ++ Decimal.ofNat actual
  | wrongRecord expected actual =>
    "step ".toList ++ Decimal.ofNat expected.step ++ " mismatch\n  expected: ".toList
      ++ expected.debug ++ "\n  actual:   ".toList ++ actual.debug
  | wrongErrorText expected e =>
    "expected error containing \"".toList ++ expected ++ "\", got: ".toList ++ e.message
  | wrongErrorStep expected e =>
    "expected failure at step ".toList ++ Decimal.ofNat expected ++ ", got step ".toList
      ++ Decimal.ofNat e.step ++ ": ".toList ++ e.message

namespace Expectations

/-- Checks a number of instructions. -/
def checkCount (expected : Option Nat) (actual : Nat) : Except Mismatch Unit :=
  match expected with
  | some n => if actual = n then .ok () else .error (.wrongCount n actual)
  | none => .ok ()

/-- The first pair of records that differ, the expected one first. -/
def firstDifference? (expected actual : List Record) : Option (Record × Record) :=
  (expected.zip actual).find? fun (e, a) => a ≠ e

/-- Checks the records of a plan. -/
def checkRecords (expected : Option (List Record)) (actual : List Record) :
    Except Mismatch Unit :=
  match expected with
  | none => .ok ()
  | some expected => do
    checkCount (some expected.length) actual.length
    match firstDifference? expected actual with
    | some (e, a) => .error (.wrongRecord e a)
    | none => .ok ()

/-- Checks the message of an error. -/
def checkErrorText (expected : Option Text) (e : ParseError) : Except Mismatch Unit :=
  match expected with
  | some t => if Text.hasInfix t e.message then .ok () else .error (.wrongErrorText t e)
  | none => .ok ()

/-- Checks the step of an error. -/
def checkErrorStep (expected : Option Nat) (e : ParseError) : Except Mismatch Unit :=
  match expected with
  | some step => if e.step = step then .ok () else .error (.wrongErrorStep step e)
  | none => .ok ()

/-- Checks an error. -/
def checkError (x : Expectations) (e : ParseError) : Except Mismatch Unit := do
  checkErrorText x.errorText e
  checkErrorStep x.errorStep e

/-- Checks the result of a parse. -/
def check (x : Expectations) (result : Except ParseError (List Instruction)) :
    Except Mismatch Unit :=
  match result with
  | .error e => if x.expectsFailure then x.checkError e else .error (.unexpectedError e)
  | .ok plan =>
    if x.expectsFailure then .error (.unexpectedSuccess plan.length)
    else do
      checkCount x.count plan.length
      checkRecords x.instructions (plan.map Instruction.record)

end Expectations

/-- The parse of the body of a fixture, with the fixture's options. -/
def Fixture.run (f : Fixture) (markdown : Markdown.EventReader) : Logged (List Instruction) :=
  parseLogged f.expectations.options 0 f.body markdown

/-- Whether the body of a fixture parses as expected. -/
def Fixture.check (f : Fixture) (markdown : Markdown.EventReader := Markdown.events) :
    Except Mismatch Unit :=
  f.expectations.check (f.run markdown).result

end PlanScript
