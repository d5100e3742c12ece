/-
PlanScript.Command.LogLine — events as lines of a log.

A line has the level, at the right of five columns, the message, and the
fields as `name=value`. Controls that a terminal would obey are escaped in
the message. A quiet log shows only warnings.
-/
import PlanScript.Plan.Log
import PlanScript.Text.Quoted

namespace PlanScript

/-- A level in five columns. -/
def Level.column : Level → Text
  | debug => "DEBUG".toList
  | info => " INFO".toList
  | warning => " WARN".toList

/-- A character of a message, escaped when a terminal would obey it. -/
def messageChar (c : Char) : Text :=
  if c = '\x1b' then ['\\', 'x', '1', 'b']
  else if c = '\x07' then ['\\', 'x', '0', '7']
  else if c = '\x08' then ['\\', 'x', '0', '8']
  else if c = '\x0c' then ['\\', 'x', '0', 'c']
  else if c = '\x7f' then ['\\', 'x', '7', 'f']
  else if 0x80 ≤ c.toNat ∧ c.toNat < 0xA0 then escapeByCode c
  else [c]

/-- The text of a field value. -/
def FieldValue.text : FieldValue → Text
  | number n => Decimal.ofNat n
  | quoted t => t.quoted
  | bare t => t

/-- A line of the log. -/
def logLine (level : Level) (message : Text) (fields : List (String × FieldValue)) : Text :=
  level.column ++ [' '] ++ message.flatMap messageChar
    ++ fields.flatMap fun (name, value) => ' ' :: name.toList ++ '=' :: value.text

/-- The line of an event. -/
def Event.logLine (e : Event) : Text := PlanScript.logLine e.level e.message e.fields

/-- Whether a log shows a level. -/
def Level.isShown (verbose : Bool) : Level → Bool
  | warning => true
  | _ => verbose

end PlanScript
