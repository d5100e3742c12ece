/-
PlanScript.Toml.Value — TOML keys and values.

A key is bare or quoted, and dots join keys into a path. Arrays may run over
several lines, with comments and a trailing comma; tables between braces
stay on one line and have no trailing comma. Brackets and paths may not go
deeper than `depthLimit`.
-/
import PlanScript.Toml.Number
import PlanScript.Toml.Moment

namespace PlanScript.Toml.Grammar

open Reader

/-- No value nests this deep, and no path has this many keys. -/
def depthLimit : Nat := 80

/-! ## 1. Keys -/

/-- Whether a character may stand in a bare key. -/
def isBareKey (c : Char) : Bool := c.isAlphanum || c = '-' || c = '_'

/-- A single key. -/
def key : Reader Text := basic <|> literal <|> do return (← one isBareKey) :: (← run isBareKey)

/-- A path of keys, with blanks around each. -/
def path : Reader (List Text) := do
  let keys ← separated (do gap; let k ← key; gap; return k) (exact ['.'])
  check (keys.length < depthLimit)
  return keys

/-- A pair of a path and the value that a reader gives. -/
def pair (value : Reader Toml) : Reader Pair := do
  let keys ← path
  exact ['=']
  gap
  let v ← value
  gap
  match keys.reverse with
  | [] => failure
  | last :: before => return ⟨before.reverse, last, v⟩

/-! ## 2. Values -/

/-- A comment up to the end of its line. -/
def comment : Reader Unit := do
  exact ['#']
  discard (run isPlain)

/-- Blanks, comments and line ends. -/
def margin : Reader Unit :=
  discard (repeated (discard (one isGap) <|> lineEnd <|> do comment; lineEnd))

/-- A value without brackets. -/
def scalar : Reader Toml := do
  match ← peek with
  | some '"' | some '\x27' => return .text (← quotedText)
  | some 't' => exact "true".toList *> pure (.truth true)
  | some 'f' => exact "false".toList *> pure (.truth false)
  | _ => moment <|> float <|> integer

/-- The items of an array and its closing bracket. -/
def items (value : Reader Toml) : Reader Toml := do
  let item : Reader Toml := do margin; let v ← value; margin; return v
  let all ← optional (separated item (exact [',']))
  if all.isSome then discard (optional (exact [',']))
  margin
  exact [']']
  return .array (all.getD [])

/-- The pairs of a table between braces and its closing brace. -/
def pairs (value : Reader Toml) : Reader Toml := do
  let all ← optional (separated (pair value) (exact [',']))
  gap
  exact ['\x7d']
  match insertAll? (all.getD []) [] with
  | some entries => return .table .braces entries
  | none => failure

/-- A value within so many further brackets. -/
def valueWithin : (room : Nat) → Reader Toml
  | 0 => scalar
  | room + 1 => do
    match ← peek with
    | some '[' => exact ['['] *> items (valueWithin room)
    | some '\x7b' => exact ['\x7b'] *> pairs (valueWithin room)
    | _ => scalar

/-- A value. -/
def value : Reader Toml := valueWithin (depthLimit - 1)

end PlanScript.Toml.Grammar
