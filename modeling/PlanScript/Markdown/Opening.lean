/-
PlanScript.Markdown.Opening — what the first line of a block looks like.

A code fence is a run of at least three backticks or tildes; after backticks
no other backtick may stand in the row. `interruptsParagraph` lists what
ends a paragraph: a blank line, a thematic break, a heading, a fence, a
quote mark, an HTML block other than a lone tag, and a list item. On a line
that goes on all containers of the paragraph, a list item counts only if its
number, if it has one, is one, and if it is not empty with a blank line after
it.
-/
import PlanScript.Markdown.Container
import PlanScript.Markdown.Html

namespace PlanScript.Markdown

/-- Whether a line is a heading with number signs: one to six of them, with
white space or the end of the line after them. -/
def isHeading (t : Text) : Bool :=
  let level := (t.takeWhile (· = '#')).length
  1 ≤ level && level ≤ 6 && match t.drop level with
    | [] => true
    | c :: _ => isLineBlank c

/-- Whether a line underlines a paragraph as a heading. -/
def isUnderline : Text → Bool
  | [] => false
  | c :: rest => (c = '=' || c = '-') && isBlankLine (rest.dropWhile (· = c))

/-! ## 1. Fences -/

/-- The run of fence characters that a line starts with. -/
structure FenceRun where
  char : Char
  length : Nat
deriving DecidableEq, Repr

/-- The fence that opens on a line, given what is left of its row. -/
def openingFence? (line row : Text) : Option FenceRun :=
  match line with
  | [] => none
  | c :: _ =>
    let length := (line.takeWhile (· = c)).length
    if (c = '\x60' || c = '~') && 3 ≤ length then
      if c = '\x60' && (line.drop length ++ row).contains '\x60' then none
      else some ⟨c, length⟩
    else none

/-- Whether a line closes a fence: a run at least as long, then spaces. -/
def FenceRun.closedBy (fence : FenceRun) (line : Text) : Bool :=
  let length := (line.takeWhile (· = fence.char)).length
  fence.length ≤ length && (line.drop length).all (· = ' ')

/-! ## 2. Interrupting a paragraph -/

/-- A list marker at the start of a line that could start a list: the text
after it, and whether the list may start in the middle of a paragraph. -/
def listMarker? (t : Text) : Option (Text × Bool) :=
  match t with
  | [] => none
  | c :: rest =>
    if isBullet c then checked rest true
    else (orderedMarker? t).bind fun m => checked (t.drop m.length) (m.number = 1)
where
  /-- The end of the line, a space or a tab has to follow the marker. -/
  checked (after : Text) (may : Bool) : Option (Text × Bool) :=
    match after with
    | [] => some (after, may)
    | c :: _ => if c = ' ' || c = '\t' then some (after, may) else none

/-- Whether a line ends the paragraph before it. `inside` tells whether the
line goes on all containers of the paragraph, `ahead` holds the segments
after the line. -/
def interruptsParagraph (inside : Bool) (line : Text) (segment : Segment) (ahead : List Segment) :
    Bool :=
  line.isEmpty
    || isThematicBreak line
    || isHeading line
    || (openingFence? line (restOfRow segment ahead)).isSome
    || Text.startsWith ['>'] line
    || (listMarker? line).any (fun (after, may) =>
        !inside || may && !(isBlankLine after && (ahead.headD ⟨[], []⟩).text.all isLineBlank))
    || match line with
      | '<' :: rest => (Html.endMark? rest).isSome || Html.startsBlockElement rest
      | _ => false

end PlanScript.Markdown
