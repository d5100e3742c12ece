/-
PlanScript.Text.Reader — readers of a text from its start.

A reader gives what it read and the rest of the text, or nothing. Of two
readers in turn (`<|>`) the second starts where the first did. `repeated`
runs a reader as long as it succeeds and moves on, so it ends by the length
of the text.
-/
import PlanScript.Text.Basic

namespace PlanScript

/-- A reader of the start of a text. -/
abbrev Reader (α : Type) := StateT Text Option α

namespace Reader

variable {α : Type}

/-- The next character, which is left where it is. -/
def peek : Reader (Option Char) := fun t => some (t.head?, t)

/-- A character that satisfies `p`. -/
def one (p : Char → Bool) : Reader Char := fun t =>
  match t with
  | c :: rest => if p c then some (c, rest) else none
  | [] => none

/-- The given text. -/
def exact (pattern : Text) : Reader Unit := fun t => (Text.dropPrefix? pattern t).map ((), ·)

/-- All characters up to the first that does not satisfy `p`. -/
def run (p : Char → Bool) : Reader Text := fun t => some (t.takeWhile p, t.dropWhile p)

/-- Some number of characters that satisfy `p`. -/
def count (p : Char → Bool) : Nat → Reader Text
  | 0 => return []
  | n + 1 => return (← one p) :: (← count p n)

/-- Fails unless the condition holds. -/
def check (b : Bool) : Reader Unit := if b then pure () else failure

/-- Reads again and again, until the reader fails or stands still. -/
def repeated (r : Reader α) (t : Text) : Option (List α × Text) :=
  match r t with
  | none => some ([], t)
  | some (a, rest) =>
    if rest.length < t.length then
      (repeated r rest).map fun (as, rest) => (a :: as, rest)
    else some ([a], rest)
termination_by t.length

/-- One or more items with a separator between them. -/
def separated (item : Reader α) (separator : Reader Unit) : Reader (List α) := do
  let first ← item
  let others ← repeated (do separator; item)
  return first :: others

end Reader

end PlanScript
