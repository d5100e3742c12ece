/-
PlanScript.Instruction.Record — the flat form in which instructions travel.

A record has one field per property of an instruction. Not every record
comes from an instruction: fixtures and JSON texts may combine the fields
freely. `Record.debug` is the one-line form that a failed comparison shows.
-/
import PlanScript.Instruction.Basic
import PlanScript.Text.Quoted

namespace PlanScript

/-- The flat form of an instruction. -/
structure Record where
  step : Nat
  kind : Kind
  functionName : Text
  inputs : List Text := []
  outputName : Option Text := none
  resultIndex : Option Int64 := none
deriving DecidableEq, Repr

/-- The name of a kind in a record. -/
def Kind.tag : Kind → String
  | functionExecution => "function"
  | dataExtraction => "data"
  | defaultValue => "default"

/-- The kind that goes by a name in a record. -/
def Kind.ofTag? (tag : Text) : Option Kind :=
  [functionExecution, dataExtraction, defaultValue].find? (·.tag.toList = tag)

/-- The flat form of an instruction. -/
def Instruction.record (i : Instruction) : Record where
  step := i.step
  kind := i.kind
  functionName := i.functionName
  inputs := i.inputs
  outputName := i.output
  resultIndex := i.resultIndex

namespace Record

/-- An optional part in the one-line form. -/
def debugOption : Option Text → Text
  | none => "None".toList
  | some t => "Some(".toList ++ t ++ [')']

/-- A record on one line, with every field named and every text quoted. -/
def debug (r : Record) : Text :=
  "InstructionRecord \x7b step: ".toList ++ Decimal.ofNat r.step
    ++ ", kind: ".toList ++ r.kind.title.toList
    ++ ", function_name: ".toList ++ r.functionName.quoted
    ++ ", inputs: [".toList ++ Text.join [',', ' '] (r.inputs.map Text.quoted)
    ++ "], output_name: ".toList ++ debugOption (r.outputName.map Text.quoted)
    ++ ", result_index: ".toList
    ++ debugOption (r.resultIndex.map fun n => Decimal.ofInt n.toInt)
    ++ " \x7d".toList

end Record

end PlanScript
