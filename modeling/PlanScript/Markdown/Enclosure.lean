/-
PlanScript.Markdown.Enclosure — the containers open between two lines.

A list outlives its last item: it is over only when a block starts that is
no item of it. An item whose marker stands alone on its line waits for its
first block, and at most one blank line may come before that block. Both
rules look at what came before the line at hand, so `Enclosure` holds that
beside the containers.
-/
import PlanScript.Markdown.Container

namespace PlanScript.Markdown

/-- The containers that are open between two lines, and what the lines before
mean for the next block. -/
structure Enclosure where
  /-- The open containers, from the outermost on. -/
  containers : List Container := []
  /-- An item has begun with an empty line, and no block has started since. -/
  awaiting : Bool := false
  /-- A blank line stands before the next block. -/
  afterBlank : Bool := false
deriving DecidableEq, Repr

namespace Enclosure

/-! ## 1. Leaving containers -/

/-- Leaves all containers but the outermost `n`. With a tight list goes the
wait for the first block of its item. -/
def leaveTo (e : Enclosure) (n : Nat) : Enclosure :=
  { e with
    containers := e.containers.take n
    awaiting := e.awaiting && !(e.containers.drop n).any Container.isTightList }

/-- The enclosure when a block is about to start: an item that has begun with
an empty line and a blank one is over. -/
def finishEmptyItem (e : Enclosure) : Enclosure :=
  let expired := e.awaiting && e.afterBlank && e.containers.getLast?.any Container.isItem
  { e with
    containers := if expired then e.containers.dropLast else e.containers
    awaiting := false }

/-- The containers when a blank line has come before a block of the innermost
item: the list around the item is not tight. -/
def loosenLast : List Container → List Container
  | [.list mark _, inner] => [.list mark false, inner]
  | container :: rest => container :: loosenLast rest
  | [] => []

/-- The enclosure of a block that is no list item: a list that has no open
item is over. -/
def finishList (e : Enclosure) : Enclosure :=
  let f := e.finishEmptyItem
  let kept := match f.containers.getLast? with
    | some (.list _ _) => f.containers.dropLast
    | _ => f.containers
  { f with containers := if f.afterBlank then loosenLast kept else kept, afterBlank := false }

/-- The enclosure after a blank line. A quote mark makes the line of a block
quote one of its own. An item that still waits for its first block has room
for no more blank lines; until that block ends it, it takes every line as it
stands. -/
def blankLine (e : Enclosure) : Enclosure :=
  match e.containers.getLast? with
  | some .quote => e
  | some (.item indent) =>
    let kept := if e.awaiting then 0 else indent
    { e with containers := e.containers.dropLast ++ [.item kept], afterBlank := true }
  | _ => { e with afterBlank := true }

/-! ## 2. Opening containers -/

/-- The enclosure after a list marker: the item goes on the open list when
their markers agree, and starts a list otherwise. -/
def openItem (e : Enclosure) (start : ItemStart) : Enclosure :=
  let f := e.finishEmptyItem
  let goesOn := match f.containers.getLast? with
    | some (.list mark tight) =>
      if mark = start.mark then some (Container.list mark (tight && !f.afterBlank)) else none
    | _ => none
  match goesOn with
  | some list =>
    { f with
      containers := f.containers.dropLast ++ [list, .item start.indent]
      afterBlank := false }
  | none =>
    { f.finishList with
      containers := f.finishList.containers ++ [.list start.mark true, .item start.indent] }

/-- The enclosure after a quote mark. -/
def openQuote (e : Enclosure) : Enclosure :=
  { e.finishList with containers := e.finishList.containers ++ [.quote] }

end Enclosure

/-- The result of reading the markers at the start of a block. -/
structure Opened where
  enclosure : Enclosure
  cursor : Cursor
  /-- The last marker is a list marker with nothing after it. -/
  emptyItem : Bool := false
deriving DecidableEq, Repr

/-- Opens the containers whose markers stand at a place; at most `fuel` of
them. -/
def openContainers : (fuel : Nat) → Enclosure → Cursor → Opened
  | 0, e, c => { enclosure := e, cursor := c }
  | fuel + 1, e, c =>
    let (indent, reached) := c.skip 4
    if indent ≥ 4 then { enclosure := e, cursor := c }
    else match listItem? indent reached with
      | some start =>
        if isBlankLine start.contents.rest then
          { enclosure := { e.openItem start with awaiting := true }
            cursor := start.contents
            emptyItem := true }
        else openContainers fuel (e.openItem start) start.contents
      | none => match quoteMark? reached with
        | some contents => openContainers fuel e.openQuote contents
        | none => { enclosure := e, cursor := c }

end PlanScript.Markdown
