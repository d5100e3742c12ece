/-
PlanScript.Markdown.Fenced — the fenced code blocks of a document.

`Markdown.events` is a reader in the sense of `EventReader`, the one that the
program runs with. What the program does with the events does not depend on
how a reader comes by them, so this one is there to run and to be an example:
that it meets the conditions on a reader is proved in `Proofs.Markdown`.

The document is read segment by segment. `Reader` holds what the segments
read so far have left open: the containers and the block inside them. A
fenced block ends at its closing fence, at the first line that does not go on
its containers, or with the document; `FencedBlock.closed` tells the first
case from the others. Every segment that belongs to a block is kept as it
stands, so the body of a block is one stretch of the document, container
prefixes of its later lines included.
-/
import PlanScript.Markdown.Definition
import PlanScript.Markdown.Enclosure
import PlanScript.Markdown.Event

namespace PlanScript.Markdown

/-! ## 1. Open blocks -/

/-- A fenced code block that is still open. -/
structure OpenFence where
  run : FenceRun
  /-- The columns of space before the opening fence. -/
  indent : Nat
  source : Text
  body : Option Stretch := none
deriving DecidableEq, Repr

/-- The block, at its end, which stands at an offset. -/
def OpenFence.finish (f : OpenFence) (stop : Nat) (closed : Bool) : FencedBlock :=
  ⟨stop - f.source.bytes, f.source, f.body, closed⟩

/-- The block with more text that is not part of a line of its body. -/
def OpenFence.extend (f : OpenFence) (more : Text) : OpenFence :=
  { f with source := f.source ++ more }

/-- The block with one more stretch of its body: a container prefix that
starts at an offset and the text after it. The prefix counts only after the
first line. -/
def OpenFence.add (f : OpenFence) (start : Nat) (before line : Text) : OpenFence :=
  { f with
    source := f.source ++ (before ++ line)
    body := if line.isEmpty then f.body
      else match f.body with
        | none => some ⟨start + before.bytes, line⟩
        | some b => some { b with text := b.text ++ (before ++ line) } }

/-! ## 2. The reader -/

/-- The block that lies open inside the containers. -/
inductive Leaf where
  /-- No block, or one that every line may end. -/
  | none
  | paragraph
  | fence (f : OpenFence)
  /-- An HTML block that ends after the row with its end mark, and whether
  the row at hand has shown it. -/
  | htmlUntil (mark : Text) (seen : Bool)
  /-- An HTML block that ends at a blank line. -/
  | html
  | indented
  /-- A link reference definition that takes some more lines. After them
  comes what a paragraph in its place would go on with. -/
  | definition (lines : Nat)
deriving DecidableEq, Repr

/-- The state between two segments. -/
structure Reader where
  /-- The byte offset of the next segment. -/
  offset : Nat := 0
  enclosure : Enclosure := {}
  leaf : Leaf := .none
  /-- The next segment goes on the row of the last one: nothing can start
  or end there. -/
  midRow : Bool := false
  /-- The next segment goes on the opening line of a fence. -/
  inInfo : Bool := false
deriving DecidableEq, Repr

namespace Reader

/-- The reader after a segment that left a block open. Rows of code and HTML
run over lone carriage returns. -/
def stay (r : Reader) (leaf : Leaf) (s : Segment) : Reader :=
  { r with leaf := leaf, midRow := !s.endsRow }

/-- The reader after a segment that ended its block. -/
def leave (r : Reader) : Reader :=
  { r with leaf := .none, midRow := false, inInfo := false }

/-! ## 3. Starting a block -/

/-- The HTML block that the text after a `<` starts. -/
def htmlLeaf? (t : Text) : Option Leaf :=
  match Html.endMark? t with
  | some mark => some (.htmlUntil mark (Text.hasInfix mark ('<' :: t)))
  | none => if Html.startsBlockElement t || Html.isLoneTag t then some .html else none

/-- An HTML block after a segment: one with an end mark is over at the end
of the row that has shown it. -/
def afterHtml (leaf : Leaf) (s : Segment) : Leaf :=
  match leaf with
  | .htmlUntil mark seen =>
    if s.endsRow then (if seen then .none else .htmlUntil mark false) else .htmlUntil mark seen
  | other => other

/-- The reader after the text of a line that starts a link reference
definition or else a paragraph. -/
def startParagraph (r : Reader) (line : Text) (s : Segment) (ahead : List Segment) : Reader :=
  match definitionLength? r.enclosure.containers line s ahead with
  | some lines => { r.leave with leaf := .definition lines }
  | none => { r.leave with leaf := .paragraph }

/-- The reader after a line that starts a block, inside the containers of
`r`; `indent` columns of space stand before the text `line`. -/
def startText (r : Reader) (indent : Nat) (line : Text) (s : Segment) (ahead : List Segment) :
    Reader :=
  let html? := match line with
    | '<' :: rest => htmlLeaf? rest
    | _ => none
  match html? with
  | some leaf => r.stay (afterHtml leaf s) s
  | none =>
    if isThematicBreak line || isHeading line then r.leave
    else match openingFence? line (restOfRow s ahead) with
      | some run =>
        { r.stay (.fence { run, indent, source := line ++ s.ending }) s with inInfo := !s.endsRow }
      | none => r.startParagraph line s ahead

/-- The reader after a line that goes on the outermost `entered` containers
and starts something new inside them. -/
def start (r : Reader) (entered : Nat) (c : Cursor) (s : Segment) (ahead : List Segment) :
    Reader :=
  let opened := openContainers (c.rest.length + 1) (r.enclosure.leaveTo entered) c
  if opened.emptyItem then { r.leave with enclosure := opened.enclosure }
  else if isBlankLine opened.cursor.rest then
    { r.leave with enclosure := opened.enclosure.blankLine }
  else
    let (indent, reached) := opened.cursor.skip 4
    let inner := { r with enclosure := opened.enclosure.finishList }
    if indent = 4 then inner.stay .indented s
    else inner.startText indent reached.rest s ahead

/-! ## 4. One segment -/

/-- The reader after a segment that goes on the row before it. -/
def continueRow (r : Reader) (s : Segment) : Reader :=
  let next := { r with midRow := !s.endsRow, inInfo := r.inInfo && !s.endsRow }
  match r.leaf with
  | .fence f =>
    { next with leaf := .fence (if r.inInfo then f.extend s.full else f.add r.offset [] s.full) }
  | .htmlUntil mark seen =>
    { next with leaf := afterHtml (.htmlUntil mark (seen || Text.hasInfix mark s.text)) s }
  | _ => next

/-- The reader after a line inside an open fence, with the block if the line
closes it. `c` is the place after the container prefixes. -/
def continueFence (r : Reader) (f : OpenFence) (c : Cursor) (s : Segment) :
    Option FencedBlock × Reader :=
  let indented := (c.skip f.indent).2
  let (extra, reached) := indented.skip (4 - f.indent)
  if extra < 4 - f.indent && f.run.closedBy reached.rest then
    (some ((f.extend s.text).finish (r.offset + s.text.bytes) true), r.leave)
  else
    let before := s.text.take (s.text.length - indented.rest.length)
    (none, r.stay (.fence (f.add r.offset before (indented.rest ++ s.ending))) s)

/-- What a line does to an open paragraph: `none` if it ends it. -/
def continueParagraph? (r : Reader) (inside : Bool) (c : Cursor) (s : Segment)
    (ahead : List Segment) : Option Reader :=
  let (indent, reached) := c.skip 4
  if indent < 4 && inside && isUnderline reached.rest then some r.leave
  else if indent < 4 && interruptsParagraph inside reached.rest s ahead then none
  else if reached.rest.all (fun d => d = ' ' || d = '\t') then none
  else some { r.leave with leaf := .paragraph }

/-- What a line does after a link reference definition: `none` if it would
end a paragraph in its place. -/
def continueDefinition? (r : Reader) (inside : Bool) (c : Cursor) (s : Segment)
    (ahead : List Segment) : Option Reader :=
  let (indent, reached) := c.skip 4
  if indent < 4 && interruptsParagraph inside reached.rest s ahead then none
  else some (r.startParagraph (reached.rest.dropWhile fun d => d = ' ' || d = '\t') s ahead)

/-- The reader after a line of an indented code block; a blank line counts
for the block after it. `c` is the place after the indentation. -/
def continueIndented (r : Reader) (c : Cursor) (s : Segment) : Reader :=
  { r.stay .indented s with enclosure := { r.enclosure with afterBlank := isBlankLine c.rest } }

/-- The reader after a segment, with the fenced block that ended in it. -/
def step (r : Reader) (s : Segment) (ahead : List Segment) : Option FencedBlock × Reader :=
  if r.midRow then (none, r.continueRow s)
  else
    let (entered, c) := enterAll { rest := s.text } r.enclosure.containers
    let inside : Bool := entered = r.enclosure.containers.length
    let restart := r.start entered c s ahead
    match r.leaf with
    | .none => (none, restart)
    | .paragraph => (none, (r.continueParagraph? inside c s ahead).getD restart)
    | .fence f =>
      if inside then r.continueFence f c s else (some (f.finish r.offset false), restart)
    | .htmlUntil mark _ =>
      if inside then
        (none, r.stay (afterHtml (.htmlUntil mark (Text.hasInfix mark c.rest)) s) s)
      else (none, restart)
    | .html => if inside && !isBlankLine c.rest then (none, r.stay .html s) else (none, restart)
    | .indented =>
      let (indent, reached) := c.skip 4
      if inside && (indent = 4 || reached.atEnd) then (none, r.continueIndented reached s)
      else (none, restart)
    | .definition (lines + 1) => (none, { r.leave with leaf := .definition lines })
    | .definition 0 => (none, (r.continueDefinition? inside c s ahead).getD restart)

/-- The blocks of the segments that are still to be read. -/
def blocks (r : Reader) : List Segment → List FencedBlock
  | [] => match r.leaf with
    | .fence f => [f.finish r.offset false]
    | _ => []
  | s :: ahead =>
    let (block?, next) := r.step s ahead
    block?.toList ++ blocks { next with offset := r.offset + s.full.bytes } ahead

end Reader

/-- The fenced code blocks of a document, in order. -/
def fencedBlocks (document : Text) : List FencedBlock := ({} : Reader).blocks (segments document)

/-- A reader that reports the fenced code blocks of a document, each with its
lines as one text, and nothing else. -/
def events : EventReader := fun document => (fencedBlocks document).flatMap FencedBlock.events

end PlanScript.Markdown
