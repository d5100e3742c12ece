/-
PlanScript.Markdown.Segment — the lines of a Markdown document.

A segment is a stretch of text and the line ending after it: a line feed, a
carriage return with a line feed, a carriage return on its own, or nothing
at the end of the document. Most blocks end their lines at every ending;
fenced code, indented code and HTML run on over a lone carriage return, so
their lines are several segments (`Segment.endsRow` tells which segment is
the last).
-/
import PlanScript.Text.Basic

namespace PlanScript.Markdown

/-- A stretch of text with the line ending after it. -/
structure Segment where
  text : Text
  ending : Text
deriving DecidableEq, Repr

namespace Segment

/-- The text with its line ending. -/
def full (s : Segment) : Text := s.text ++ s.ending

/-- Whether the segment ends in a line feed, or ends the document. -/
def endsRow (s : Segment) : Bool := s.ending ≠ ['\r']

end Segment

/-- The segments of a document. -/
def segments : Text → List Segment
  | [] => []
  | '\r' :: '\n' :: rest => ⟨[], ['\r', '\n']⟩ :: segments rest
  | c :: rest =>
    if c = '\n' ∨ c = '\r' then ⟨[], [c]⟩ :: segments rest
    else match segments rest with
      | [] => [⟨[c], []⟩]
      | s :: more => ⟨c :: s.text, s.ending⟩ :: more

/-- The segments hold every character of the document, in order. -/
theorem flatMap_full_segments (t : Text) : (segments t).flatMap Segment.full = t := by
  fun_induction segments t with
  | case1 => rfl
  | case2 rest ih => simp [Segment.full, ih]
  | case3 c rest _ h ih => simp [Segment.full, ih]
  | case4 c rest _ h hnil ih => simpa [hnil, Segment.full] using ih
  | case5 c rest _ h s more hs ih => simpa [hs, Segment.full] using ih

/-- What is left of a row after one of its segments. -/
def restOfRow (s : Segment) : List Segment → Text
  | [] => []
  | next :: more => if s.endsRow then [] else next.text ++ restOfRow next more

/-- White space within a line: space, tab, vertical tab and form feed. -/
def isLineBlank (c : Char) : Bool := c = ' ' || c = '\t' || c = '\x0b' || c = '\x0c'

/-- Whether a line is blank. -/
def isBlankLine (t : Text) : Bool := t.all isLineBlank

end PlanScript.Markdown
