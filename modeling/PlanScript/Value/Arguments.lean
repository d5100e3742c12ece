/-
PlanScript.Value.Arguments — lists of arguments.

An argument list is cut at its top-level commas, the pieces are trimmed, and
the blank ones are dropped, so a trailing comma adds nothing. The whole list
has to be well nested: the first nesting error wins, and it is the one the
nesting check of the whole text reports.
-/
import PlanScript.Nesting.Scan
import PlanScript.Text.Blank
import PlanScript.Value.Literal

namespace PlanScript

/-- The pieces between top-level commas, scanning from a state and an offset
on: the piece at hand and the ones after it. -/
def piecesFrom (s : ScanState) (offset : Nat) : Text → Except NestingError (Text × List Text)
  | [] => do
    s.finish
    return ([], [])
  | c :: rest => do
    let next ← s.advance c offset
    let (piece, more) ← piecesFrom next (offset + c.utf8Size) rest
    if c = ',' && s.isTopLevel then return ([], piece :: more)
    else return (c :: piece, more)

/-- The pieces of a text between its top-level commas. -/
def pieces (t : Text) : Except NestingError (List Text) := do
  let (piece, more) ← piecesFrom {} 0 t
  return piece :: more

/-- The arguments of an argument list: the trimmed pieces that are not
blank. -/
def splitArguments (t : Text) : Except NestingError (List Text) := do
  return ((← pieces t).map Text.trim).filter (!·.isEmpty)

/-- An argument as it is handed over: a plain literal without its quotes
and escapes, anything else as it stands. -/
def normalizeArgument (t : Text) : Text :=
  if Literal.isFormat t then t
  else match Literal.body? t with
    | some body => Literal.unescape body
    | none => t

end PlanScript
