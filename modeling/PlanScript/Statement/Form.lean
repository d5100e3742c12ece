/-
PlanScript.Statement.Form — the six forms of a statement.

`Form.read` tries one form on a line: it declines with `none`, or it takes
the line, and then either gives a statement or reports a malformed literal.
`recognize` tries the forms in the order of `Form.all`; the first one that
takes the line decides.
-/
import PlanScript.Statement.Basic

namespace PlanScript

/-- The forms of a statement. -/
inductive Form where
  | arithmetic
  | indexedCall
  | callAssignment
  | bareCall
  | arrayAccess
  | assignment
deriving DecidableEq, Repr

namespace Form

/-- The forms in the order in which they are tried. -/
def all : List Form :=
  [arithmetic, indexedCall, callAssignment, bareCall, arrayAccess, assignment]

/-- The name a form goes by in the log. -/
def name : Form → String
  | arithmetic => "arithmetic"
  | indexedCall => "indexed-call"
  | callAssignment => "call-assignment"
  | bareCall => "bare-call"
  | arrayAccess => "array-access"
  | assignment => "assignment"

end Form

/-- A statement with the dict entries that were skipped to read it. -/
structure Reading where
  statement : Statement
  skipped : List Text := []
deriving DecidableEq, Repr

/-! ## 1. Reading one form -/

/-- Reads `name = expression` with a top-level operator. -/
def readArithmetic (line : Text) : Option Statement :=
  (Binding.ofText? line).bind fun b =>
    if hasOperator b.source then some (.arithmetic b.target b.source) else none

/-- Reads `name = call(...)[n]`. -/
def readIndexedCall (line : Text) : Except LiteralError (Option Statement) :=
  let parts? := (Binding.ofText? line).bind fun b =>
    (Call.ofText? b.source).bind fun c => (index? c.suffix).map fun n => (b.target, c, n)
  match parts? with
  | none => .ok none
  | some (target, c, n) =>
    c.arguments.map fun arguments => some (.indexedCall target c.function arguments n)

/-- Reads `name = call(...)`. -/
def readCallAssignment (line : Text) : Except LiteralError (Option Statement) :=
  let parts? := (Binding.ofText? line).bind fun b =>
    (Call.ofText? b.source).bind fun c => if c.suffix.isEmpty then some (b.target, c) else none
  match parts? with
  | none => .ok none
  | some (target, c) =>
    c.arguments.map fun arguments => some (.callAssignment target c.function arguments)

/-- Reads `call(...)` on a line that assigns nothing. -/
def readBareCall (line : Text) : Except LiteralError (Option Statement) :=
  let call? := if hasAssignment line then none
    else (Call.ofText? line).filter (·.suffix.isEmpty)
  match call? with
  | none => .ok none
  | some c => c.arguments.map fun arguments => some (.bareCall c.function arguments)

/-- Reads `name = collection[n]`. -/
def readArrayAccess (line : Text) : Option Statement :=
  (Binding.ofText? line).bind fun b =>
    (Text.breakAt (· = '[') b.source).bind fun (before, found) =>
      let collection := Text.trimEnd before
      if collection.isIdentifier then
        (index? found).map fun n => .arrayAccess b.target collection n
      else none

/-- Reads `name = value`. -/
def readAssignment (options : Options) (line : Text) : Except LiteralError (Option Reading) :=
  match Binding.ofText? line with
  | none => .ok none
  | some b =>
    (Value.read options b.source).map fun (value, skipped) =>
      some ⟨.assignment b.target value, skipped⟩

/-- Reads a line as a form; `none` means that the form does not take it. -/
def Form.read (form : Form) (options : Options) (line : Text) :
    Except LiteralError (Option Reading) :=
  match form with
  | arithmetic => .ok ((readArithmetic line).map fun s => { statement := s })
  | indexedCall => (readIndexedCall line).map (·.map fun s => { statement := s })
  | callAssignment => (readCallAssignment line).map (·.map fun s => { statement := s })
  | bareCall => (readBareCall line).map (·.map fun s => { statement := s })
  | arrayAccess => .ok ((readArrayAccess line).map fun s => { statement := s })
  | assignment => readAssignment options line

/-- Whether a form takes a line, even if it then reports an error. -/
def Form.claims (form : Form) (options : Options) (line : Text) : Bool :=
  match form.read options line with
  | .ok none => false
  | _ => true

/-! ## 2. Trying the forms in turn -/

/-- The first of some forms that takes a line, with what it read. -/
def firstClaim (options : Options) (line : Text) :
    List Form → Except LiteralError (Option (Form × Reading))
  | [] => .ok none
  | form :: rest => do
    match ← form.read options line with
    | some reading => return some (form, reading)
    | none => firstClaim options line rest

/-- The form that takes a line, with what it read; `none` when all decline. -/
def recognize (options : Options) (line : Text) :
    Except LiteralError (Option (Form × Reading)) :=
  firstClaim options line Form.all

end PlanScript
