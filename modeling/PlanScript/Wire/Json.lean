/-
PlanScript.Wire.Json — records and options as JSON.

Integers are whole-number tokens in range; minus zero is not one of them. A
null stands for a missing output or index. `Record.toJson` writes the fields
in order and leaves out what is not there.
-/
import PlanScript.Wire.Record
import PlanScript.Json.Reader

namespace PlanScript

namespace Json

/-- A number that is not negative and fits in 64 bits. -/
def natural? : Json → Option Nat
  | number token => (Decimal.toNat? token).filter (· < UInt64.size)
  | _ => none

/-- A signed 64-bit number. -/
def word? : Json → Option Int64
  | number token => if token = ['-', '0'] then none else Decimal.toInt64? token
  | _ => none

/-- How JSON values read. -/
def format : Format Json where
  natural? := natural?
  word? := word?
  truth? | bool b => some b | _ => none
  text? | string body => spelled? body | _ => none
  items? | array items => some items | _ => none
  members?
    | object members => members.mapM fun (key, value) => (spelled? key).map (·, value)
    | _ => none
  isAbsent | null => true | _ => false
  isEmpty | null => true | _ => false
  allowsSurplus := false

end Json

/-- A record as JSON. -/
def Record.toJson (r : Record) : Json :=
  let field (name : String) (value : Json) : Text × Json := (Json.written name.toList, value)
  .object <|
    [field "step" (.ofNat r.step), field "kind" (.ofText r.kind.tag.toList),
      field "function_name" (.ofText r.functionName),
      field "inputs" (.array (r.inputs.map .ofText))]
    ++ (r.outputName.map fun o => field "output_name" (.ofText o)).toList
    ++ (r.resultIndex.map fun n => field "result_index" (.ofInt n.toInt)).toList

/-- The record that a JSON text holds, with a reader of JSON. -/
def Record.ofJsonText? (t : Text) (read? : Text → Option Json := Json.parse?) : Option Record :=
  (read? t).bind (Record.ofValue? Json.format)

/-- The options that a JSON text holds, with a reader of JSON. -/
def Options.ofJsonText? (t : Text) (read? : Text → Option Json := Json.parse?) :
    Option Options :=
  (read? t).bind (Options.ofValue? Json.format)

end PlanScript
