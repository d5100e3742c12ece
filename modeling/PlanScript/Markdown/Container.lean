/-
PlanScript.Markdown.Container — block quotes, lists and their items.

A block lies inside a list of containers, and each of its lines starts with
their prefixes: a quote mark for a block quote, indentation for a list item.
`Cursor` walks that prefix in columns, where a tab reaches to the next
multiple of four and the part of it that is not asked for is owed to the
next step.
-/
import PlanScript.Markdown.Segment

namespace PlanScript.Markdown

/-! ## 1. Columns -/

/-- A place in the prefix of a line. -/
structure Cursor where
  /-- The text from the place on. -/
  rest : Text
  /-- The number of characters since the start of the line or the last tab. -/
  sinceTab : Nat := 0
  /-- The columns of a tab that have not been asked for. -/
  owed : Nat := 0
deriving DecidableEq, Repr

namespace Cursor

/-- Skips spaces and tabs for at most `limit` columns: the columns that are
missing, and the place reached. -/
def skipText (limit sinceTab : Nat) : Text → Nat × Cursor
  | [] => (limit, ⟨[], sinceTab, 0⟩)
  | c :: rest =>
    if limit = 0 then (0, ⟨c :: rest, sinceTab, 0⟩)
    else if c = ' ' then skipText (limit - 1) (sinceTab + 1) rest
    else if c = '\t' then
      let width := 4 - sinceTab % 4
      if width < limit then skipText (limit - width) 0 rest
      else (0, ⟨rest, 0, width - limit⟩)
    else (limit, ⟨c :: rest, sinceTab, 0⟩)

/-- Skips at most `limit` columns: the columns skipped, and the place
reached. -/
def skip (limit : Nat) (c : Cursor) : Nat × Cursor :=
  if limit ≤ c.owed then (limit, { c with owed := c.owed - limit })
  else
    let (missing, reached) := skipText (limit - c.owed) c.sinceTab c.rest
    (limit - missing, reached)

/-- Steps over `n` characters that are not tabs. -/
def forward (n : Nat) (c : Cursor) : Cursor :=
  { c with rest := c.rest.drop n, sinceTab := c.sinceTab + n }

/-- Whether the line ends at the place. -/
def atEnd (c : Cursor) : Bool := c.rest.isEmpty

end Cursor

/-! ## 2. Containers -/

/-- What a block can lie in. -/
inductive Container where
  | quote
  /-- A list whose markers have a character in common. It is tight as long as
  no blank line stands between its blocks. Its items lie in it; it has no
  prefix of its own. -/
  | list (mark : Char) (tight : Bool)
  /-- A list item whose contents are indented by some columns. -/
  | item (indent : Nat)
deriving DecidableEq, Repr

/-- The place after a quote mark and the column after it. -/
def quoteMark? (c : Cursor) : Option Cursor :=
  match c.rest with
  | '>' :: _ => some ((c.forward 1).skip 1).2
  | _ => none

namespace Container

/-- The place after the prefix of a container, when the line has it. A blank
line goes on any list item. -/
def enter? (container : Container) (c : Cursor) : Option Cursor :=
  match container with
  | quote => quoteMark? (c.skip 3).2
  | list _ _ => some c
  | item indent =>
    let (skipped, reached) := c.skip indent
    if skipped = indent || reached.atEnd then some reached else none

/-- Whether a container is a list item. -/
def isItem : Container → Bool
  | item _ => true
  | _ => false

/-- Whether a container is a list without a blank line between its blocks. -/
def isTightList : Container → Bool
  | list _ tight => tight
  | _ => false

end Container

/-- The number of containers whose prefixes a line has, counted from the
outermost on, and the place after those prefixes. -/
def enterAll (c : Cursor) : List Container → Nat × Cursor
  | [] => (0, c)
  | container :: inner =>
    match container.enter? c with
    | some reached =>
      let (entered, last) := enterAll reached inner
      (entered + 1, last)
    | none => (0, c)

/-! ## 3. List markers -/

/-- Whether a line is a thematic break: three or more of one of the
characters `*`, `-` and `_`, and otherwise spaces and tabs. -/
def isThematicBreak : Text → Bool
  | [] => false
  | c :: rest =>
    (c = '*' || c = '-' || c = '_')
      && rest.all (fun d => d = c || d = ' ' || d = '\t')
      && rest.count c ≥ 2

/-- Whether a character is the marker of a bullet list. -/
def isBullet (c : Char) : Bool := c = '-' || c = '+' || c = '*'

/-- A marker of an ordered list: a number of up to nine digits, and a full
stop or bracket after it. -/
structure OrderedMarker where
  number : Nat
  /-- The character after the number. -/
  mark : Char
  length : Nat
deriving DecidableEq, Repr

/-- The ordered list marker at the start of a line. -/
def orderedMarker? (t : Text) : Option OrderedMarker :=
  let digits := t.takeWhile Char.isDigit
  match t.drop digits.length with
  | c :: _ =>
    if (c = '.' || c = ')') && 0 < digits.length && digits.length ≤ 9 then
      some ⟨digits.foldl (fun n d => 10 * n + (d.toNat - 48)) 0, c, digits.length + 1⟩
    else none
  | [] => none

/-- The start of a list item. -/
structure ItemStart where
  /-- The character that the markers of one list have in common: the bullet,
  or the one after the number. -/
  mark : Char
  /-- The columns by which the contents of the item are indented. -/
  indent : Nat
  /-- The place where the contents start. -/
  contents : Cursor
deriving DecidableEq, Repr

/-- The start of the item whose marker ends at a place, `indent` columns
after the start of its container. Four columns of space or more belong to
the contents, but for the first. -/
def ItemStart.after (mark : Char) (indent : Nat) (c : Cursor) : ItemStart :=
  if isBlankLine c.rest then ⟨mark, indent, c⟩
  else
    let (skipped, reached) := c.skip 4
    if skipped < 4 then ⟨mark, indent + skipped, reached⟩ else ⟨mark, indent, c⟩

/-- Reads a marker of some length, which a space or the end of the line has
to follow. -/
def itemAfter? (mark : Char) (indent length : Nat) (c : Cursor) : Option ItemStart :=
  let (skipped, reached) := (c.forward length).skip 1
  if skipped = 1 || reached.atEnd then some (.after mark (indent + length + 1) reached)
  else none

/-- The list item that starts at a place, after `indent` columns of space. -/
def listItem? (indent : Nat) (c : Cursor) : Option ItemStart :=
  match c.rest with
  | [] => none
  | d :: _ =>
    if isBullet d then
      if isThematicBreak c.rest then none else itemAfter? d indent 1 c
    else (orderedMarker? c.rest).bind fun m => itemAfter? m.mark indent m.length c

end PlanScript.Markdown
