/-
PlanScript.Instruction.Basic — instructions and their report.

An instruction is one numbered step of a plan: a call of a host function, an
extraction from a collection, or a literal bound to a name. Its kind, name,
inputs and index are read off the operation, so a literal has no index and
an extraction always has one.
-/
import PlanScript.Text.Decimal

namespace PlanScript

/-- How an executor dispatches an instruction. -/
inductive Kind where
  | functionExecution
  | dataExtraction
  | defaultValue
deriving DecidableEq, Repr

/-- The name of a kind in a report. -/
def Kind.title : Kind → String
  | functionExecution => "FunctionExecution"
  | dataExtraction => "DataExtraction"
  | defaultValue => "DefaultValue"

/-- What an instruction does. -/
inductive Operation where
  /-- Call a host function, and take one element of its result if an index
  is given. -/
  | call (function : Text) (inputs : List Text) (index : Option Int64)
  /-- Take one element of a collection. -/
  | extract (collection : Text) (index : Int64)
  /-- Bind a literal. -/
  | literal (value : Text)
deriving DecidableEq, Repr

/-- One step of a plan, counted from one. -/
structure Instruction where
  step : Nat
  output : Option Text
  operation : Operation
deriving DecidableEq, Repr

namespace Instruction

def kind (i : Instruction) : Kind :=
  match i.operation with
  | .call .. => .functionExecution
  | .extract .. => .dataExtraction
  | .literal _ => .defaultValue

/-- The function that is called, the collection that is indexed, or the
literal that is bound. -/
def functionName (i : Instruction) : Text :=
  match i.operation with
  | .call function _ _ => function
  | .extract collection _ => collection
  | .literal value => value

/-- The arguments of a call; nothing else has inputs. -/
def inputs (i : Instruction) : List Text :=
  match i.operation with
  | .call _ inputs _ => inputs
  | .extract .. => []
  | .literal _ => []

/-- The index into a call's result or into a collection. -/
def resultIndex (i : Instruction) : Option Int64 :=
  match i.operation with
  | .call _ _ index => index
  | .extract _ index => some index
  | .literal _ => none

/-! ## 1. The report -/

/-- The inputs in square brackets, or a dash when there are none. -/
def inputsText (i : Instruction) : Text :=
  if i.inputs.isEmpty then ['-']
  else '[' :: Text.join [',', ' '] i.inputs ++ [']']

/-- The six lines that describe an instruction. A dash stands for what is
absent. -/
def reportLines (i : Instruction) : List Text :=
  [ "step:     ".toList ++ Decimal.ofNat i.step,
    "function: ".toList ++ i.functionName,
    "inputs:   ".toList ++ i.inputsText,
    "output:   ".toList ++ i.output.getD ['-'],
    "index:    ".toList ++ (i.resultIndex.map fun n => Decimal.ofInt n.toInt).getD ['-'],
    "kind:     ".toList ++ i.kind.title.toList ]

/-- The report of an instruction, without a line feed at its end. -/
def report (i : Instruction) : Text := Text.join ['\n'] i.reportLines

end Instruction

end PlanScript
