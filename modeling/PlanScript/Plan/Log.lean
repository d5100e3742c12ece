/-
PlanScript.Plan.Log — what a parse reports while it runs.

Events are part of the result of a parse, in the order in which they
happen. A skipped dict entry is reported before the line it stands on is
claimed; a line that becomes an instruction is reported as claimed and then
as built; a line that fails is reported once; and a parse that succeeds ends
with the number of its instructions. A notice is an event or a line for the
user, so that both can be told in one order.
-/
import PlanScript.Plan.Error

namespace PlanScript

/-- How much an event matters. -/
inductive Level where
  | debug
  | info
  | warning
deriving DecidableEq, Repr

/-- Something that happened during a parse. -/
inductive Event where
  /-- A dict entry without a colon was left out. -/
  | skipped (entry : Text)
  /-- A form took a line. -/
  | claimed (step : Nat) (form : Form) (line : Text)
  /-- A line became an instruction. -/
  | built (step : Nat) (line function : Text)
  /-- A line failed. -/
  | rejected (step : Nat) (line : Text) (fault : Fault)
  /-- All lines became instructions. -/
  | finished (count : Nat)
deriving DecidableEq, Repr

/-- Something that is told while a command runs. -/
inductive Notice where
  /-- A line for the user. -/
  | line (t : Text)
  /-- An event for the log. -/
  | event (e : Event)
deriving DecidableEq, Repr

/-- The value of a field of a log line. -/
inductive FieldValue where
  | number (n : Nat)
  /-- A text that is shown between quotes. -/
  | quoted (t : Text)
  /-- A text that is shown as it stands. -/
  | bare (t : Text)
deriving DecidableEq, Repr

namespace Event

def level : Event → Level
  | skipped _ => .warning
  | claimed .. => .debug
  | built .. => .info
  | rejected .. => .warning
  | finished _ => .info

def message : Event → Text
  | skipped _ => "skipping dict entry without `:`".toList
  | claimed .. => "line claimed".toList
  | built _ line _ => line
  | rejected _ _ fault => fault.message
  | finished _ => "parsed plan".toList

/-- The named values that go with the message. -/
def fields : Event → List (String × FieldValue)
  | skipped entry => [("pair", .bare entry)]
  | claimed step form line =>
    [("step", .number step), ("recognizer", .quoted form.name.toList), ("line", .quoted line)]
  | built step _ function => [("step", .number step), ("function", .quoted function)]
  | rejected step line _ => [("step", .number step), ("line", .quoted line)]
  | finished count => [("count", .number count)]

end Event

end PlanScript
