/-
PlanScript.Wire.Toml — records and options as TOML.

A number must be an integer; TOML has no value that says there is none, and
a tag without content holds an empty table or an empty array. A list may be
longer than the structure it stands for.
-/
import PlanScript.Wire.Record
import PlanScript.Toml.Basic

namespace PlanScript.Toml

/-- How TOML values read. -/
def format : Format Toml where
  natural? | integer n => if 0 ≤ n.toInt then some n.toInt.toNat else none | _ => none
  word? | integer n => some n | _ => none
  truth? | truth b => some b | _ => none
  text? | text t => some t | _ => none
  items?
    | array items => some items
    | tables all => some (all.map (table .header))
    | _ => none
  members? | table _ entries => some entries | _ => none
  isAbsent _ := false
  isEmpty | array [] => true | table _ [] => true | _ => false
  allowsSurplus := true

end PlanScript.Toml
