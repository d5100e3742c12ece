/-
PlanScript.Statement.Basic — statements, and the pieces they are cut into.

A line assigns when it has a top-level `=` that is not part of a comparison,
with an identifier on its left and something on its right. A call is an
identifier and a round group; an index is a signed 64-bit number in square
brackets.
-/
import PlanScript.Value.Basic
import PlanScript.Text.Letter
import PlanScript.Text.Decimal

namespace PlanScript

/-- What a line says, before it has a step number. -/
inductive Statement where
  /-- A name bound to an expression with a top-level operator. -/
  | arithmetic (target expression : Text)
  /-- A name bound to one element of a call's result. -/
  | indexedCall (target function : Text) (arguments : List Text) (index : Int64)
  /-- A name bound to a call's result. -/
  | callAssignment (target function : Text) (arguments : List Text)
  /-- A call whose result is not bound. -/
  | bareCall (function : Text) (arguments : List Text)
  /-- A name bound to one element of a collection. -/
  | arrayAccess (target collection : Text) (index : Int64)
  /-- A name bound to a value. -/
  | assignment (target : Text) (value : Value)
deriving DecidableEq, Repr

/-! ## 1. Assignments -/

/-- The characters that make a following `=` part of a comparison. -/
def startsComparison (c : Char) : Bool := c = '=' || c = '!' || c = '<' || c = '>'

/-- The place is a top-level `=` that assigns: none of `=`, `!`, `<` and `>`
stands before it and no `=` after it. -/
def Place.assigns (p : Place) : Bool :=
  p.isTopLevelChar '=' && !p.previous.any startsComparison && p.next ≠ some '='

/-- The two sides of an assignment. -/
structure Binding where
  target : Text
  source : Text
deriving DecidableEq, Repr

/-- The sides of a line that assigns something to an identifier. -/
def Binding.ofText? (line : Text) : Option Binding :=
  (cut Place.assigns line).bind fun (left, right) =>
    let b : Binding := ⟨left.trim, right.trim⟩
    if b.target.isIdentifier && !b.source.isEmpty then some b else none

/-- Whether a line has a sign that assigns, whatever stands around it. -/
def hasAssignment (line : Text) : Bool := hasPlace Place.assigns line

/-- Whether a text has a top-level operator. -/
def hasOperator (t : Text) : Bool :=
  hasPlace (fun p => p.before.isTopLevel &&
    (p.char = '+' || p.char = '-' || p.char = '*' || p.char = '/')) t

/-! ## 2. Calls -/

/-- An identifier with a round group, and what follows it. -/
structure Call where
  function : Text
  /-- The text between the brackets. -/
  body : Text
  /-- The trimmed text after the brackets. -/
  suffix : Text
deriving DecidableEq, Repr

/-- The call that a text starts with. The group opens at the first round
bracket of the text, inside a literal or not. -/
def Call.ofText? (t : Text) : Option Call :=
  (Text.breakAt (· = '(') t).bind fun (before, found) =>
    let function := Text.trimEnd before
    if function.isIdentifier then
      (Group.ofText? found).map fun g => ⟨function, g.body, g.rest.trim⟩
    else none

/-- The arguments of a call, handed over. -/
def Call.arguments (c : Call) : Except LiteralError (List Text) :=
  ((splitArguments c.body).map (·.map normalizeArgument)).mapError .nesting

/-! ## 3. Indices -/

/-- The number of a text that is one number between square brackets. -/
def index? (t : Text) : Option Int64 :=
  (Text.dropPrefix? ['['] t).bind fun rest =>
    (Text.dropSuffix? [']'] rest).bind fun body => Decimal.toInt64? body.trim

end PlanScript
