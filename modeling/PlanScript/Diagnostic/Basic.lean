/-
PlanScript.Diagnostic.Basic — an error as a reader of the source sees it.

A diagnostic points at the offending line and says which step was being
parsed; when no form takes the line, it also lists the forms there are.
-/
import PlanScript.Plan.Error

namespace PlanScript

/-- The stretch of a file that a diagnostic points at. -/
structure Label where
  fileId : Nat
  start : Nat
  stop : Nat
deriving DecidableEq, Repr

/-- An error message with the place it is about and further notes. -/
structure Diagnostic where
  message : Text
  label : Label
  notes : List Text
deriving DecidableEq, Repr

/-- The note that lists the forms of a statement. -/
def expectedForms : Text :=
  ("expected one of: `name = expr`, `name = call(...)[n]`, `name = call(...)`, "
    ++ "`call(...)`, `name = collection[n]`, `name = value`").toList

/-- The diagnostic of a failed parse. -/
def ParseError.diagnostic (e : ParseError) : Diagnostic where
  message := e.fault.message
  label := ⟨e.fileId, e.line.start, e.line.stop⟩
  notes := ("while parsing step ".toList ++ Decimal.ofNat e.step) ::
    if e.fault = .unparseable then [expectedForms] else []

end PlanScript
