/-
PlanScript.Wire.Basic — structures in a data format.

Records and options travel in more than one format. A `Format` says how the
values of one format read as numbers, texts, lists and tables; what a record
is made of is then said once, over any format. A structure is written as a
table of its fields by name, or as a list of them in order
(`Format.fields?`).
-/
import PlanScript.Text.Basic

namespace PlanScript

/-- How the values of a data format read. -/
structure Format (V : Type) where
  /-- A number that is not negative. -/
  natural? : V → Option Nat
  /-- A signed 64-bit number. -/
  word? : V → Option Int64
  truth? : V → Option Bool
  text? : V → Option Text
  items? : V → Option (List V)
  members? : V → Option (List (Text × V))
  /-- Whether the value says that there is none. -/
  isAbsent : V → Bool
  /-- Whether the value is the content of a tag that has no content. -/
  isEmpty : V → Bool
  /-- Whether a list may be longer than the structure it stands for. -/
  allowsSurplus : Bool

namespace Format

variable {V : Type}

/-- The only value of a name in a table; a name given twice is refused. -/
def member? (members : List (Text × V)) (name : Text) : Option (Option V) :=
  match members.filter fun m => m.1 = name with
  | [] => some none
  | [m] => some (some m.2)
  | _ => none

/-- The fields of a structure, in the order of their names, where given.
When `closed`, a table has no other names. -/
def fields? (F : Format V) (closed : Bool) (names : List Text) (v : V) :
    Option (List (Option V)) :=
  match F.items? v, F.members? v with
  | some items, _ =>
    if items.length ≤ names.length ∨ F.allowsSurplus then
      some ((items.take names.length).map some
        ++ List.replicate (names.length - items.length) none)
    else none
  | none, some members =>
    if closed && members.any fun m => !names.contains m.1 then none
    else names.mapM (member? members)
  | none, none => none

/-- The texts of a list. -/
def texts? (F : Format V) (v : V) : Option (List Text) := do
  (← F.items? v).mapM F.text?

/-- An optional field: none when missing or said to be absent. -/
def optional? (F : Format V) (read? : V → Option α) : Option V → Option (Option α)
  | none => some none
  | some v => if F.isAbsent v then some none else (read? v).map some

/-- A tag: its text, or a table whose only member is the tag without
content. -/
def tag? (F : Format V) (v : V) : Option Text :=
  match F.text? v, F.members? v with
  | some t, _ => some t
  | none, some [(t, content)] => if F.isEmpty content then some t else none
  | _, _ => none

end Format

end PlanScript
