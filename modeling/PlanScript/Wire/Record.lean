/-
PlanScript.Wire.Record — records and options in a data format.

A record has six fields. The step, the kind and the name are required, the
inputs are empty when not given, and the output and the index may be left
out. Fields that a record does not have are passed over; the options accept
no field but their own.
-/
import PlanScript.Wire.Basic
import PlanScript.Instruction.Record
import PlanScript.Options

namespace PlanScript

variable {V : Type}

/-- The names of the fields of a record, in order. -/
def Record.fieldNames : List Text :=
  ["step", "kind", "function_name", "inputs", "output_name", "result_index"].map String.toList

/-- The record that a value stands for. -/
def Record.ofValue? (F : Format V) (v : V) : Option Record := do
  match ← F.fields? false fieldNames v with
  | [some step, some kind, some name, inputs, output, index] =>
    return {
      step := ← F.natural? step
      kind := ← (F.tag? kind).bind Kind.ofTag?
      functionName := ← F.text? name
      inputs := ← match inputs with
        | some v => F.texts? v
        | none => some []
      outputName := ← F.optional? F.text? output
      resultIndex := ← F.optional? F.word? index }
  | _ => none

/-- The options that a value stands for. -/
def Options.ofValue? (F : Format V) (v : V) : Option Options := do
  match ← F.fields? true ["lenient_dicts".toList] v with
  | [some lenient] => return { lenientDicts := ← F.truth? lenient }
  | _ => return {}

end PlanScript
