/-
PlanScript.Toml.Document — a TOML text as one table.

A document is a list of lines: pairs, headers of tables, and headers that
add a table to an array. The pairs before the first header belong to the
root; those after a header belong to its table. A table has at most one
header, and an array of tables is never an array of another kind.
-/
import PlanScript.Toml.Value

namespace PlanScript.Toml

open Reader Grammar

/-! ## 1. Lines -/

/-- What a line says. -/
inductive Item where
  | pair (p : Pair)
  | header (path : List Text)
  | arrayHeader (path : List Text)
deriving Repr

/-- The end of a line or of the text. -/
def lineOrTextEnd : Reader Unit :=
  lineEnd <|> do check (← peek).isNone

/-- A pair or a header. -/
def item : Reader Item :=
  (do
    exact ['[', '[']
    let p ← path
    exact [']', ']']
    return .arrayHeader p)
    <|> (do
      exact ['[']
      let p ← path
      exact [']']
      return .header p)
    <|> do return .pair (← pair value)

/-- A line, which may be blank, with its comment and its end. -/
def line : Reader (Option Item) := do
  gap
  let i ← optional item
  gap
  discard (optional comment)
  lineOrTextEnd
  return i

/-- The items of a text. A byte order mark may come first. -/
def items? (t : Text) : Option (List Item) := do
  let lines : Reader (List (Option Item)) := do
    discard (optional (exact ['\uFEFF']))
    repeated line
  match lines t with
  | some (lines, []) => some (lines.filterMap id)
  | _ => none

/-! ## 2. Tables -/

/-- The pairs before the first header, and each header with the pairs after
it. -/
def sections : List Item → List Pair × List (Item × List Pair)
  | [] => ([], [])
  | .pair p :: rest =>
    let (pairs, others) := sections rest
    (p :: pairs, others)
  | header :: rest =>
    let (pairs, others) := sections rest
    ([], (header, pairs) :: others)

/-- Gives a key its table with a header. -/
def openTable? (key : Text) (pairs : List Pair) (entries : Entries) : Option Entries := do
  let inner ← match lookup? key entries with
    | none => some []
    | some (.table .implied inner) => some inner
    | some _ => none
  let inner ← insertAll? pairs inner
  return set key (.table .header inner) entries

/-- Adds a table to the array of a key. -/
def appendTable? (key : Text) (pairs : List Pair) (entries : Entries) : Option Entries := do
  let earlier ← match lookup? key entries with
    | none => some []
    | some (.tables all) => some all
    | some _ => none
  let last ← insertAll? pairs []
  return set key (.tables (earlier ++ [last])) entries

/-- Changes the table that holds the last key of a path. -/
def addAt? (path : List Text) (put? : Text → Entries → Option Entries) (root : Entries) :
    Option Entries :=
  match path.reverse with
  | [] => none
  | last :: before =>
    extend? .implied (fun _ entries => put? last entries) before.reverse .header root

/-- The root with the table of a section added. -/
def addSection? (root : Entries) : Item × List Pair → Option Entries
  | (.header path, pairs) => addAt? path (openTable? · pairs) root
  | (.arrayHeader path, pairs) => addAt? path (appendTable? · pairs) root
  | (.pair _, _) => none

/-- The entries of a TOML text. -/
def parse? (t : Text) : Option Entries := do
  let (pairs, others) := sections (← items? t)
  let root ← insertAll? pairs []
  others.foldlM addSection? root

end PlanScript.Toml
