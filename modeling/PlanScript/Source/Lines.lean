/-
PlanScript.Source.Lines — the statement lines of a source.

The lines of the statement region are trimmed, fence markers on them are
dropped, and blank lines and comments are left out. Every line that is kept
knows the byte offset of its text in the source. Where no Markdown reader is
given, the one of this library finds the region.
-/
import PlanScript.Markdown.Fenced
import PlanScript.Source.Region
import PlanScript.Text.Letter

namespace PlanScript

/-! ## 1. Fence markers on a line -/

/-- Whether a character may stand in the info string of a fence that opens
after other text. -/
def isInfoChar (c : Char) : Bool := isLetterOrNumeral c || c = '_' || c = '-' || c = '+'

/-- What is left of a line that has a marker of one kind; `none` if it has
none that counts. A line that starts with the marker is all fence. Behind
other text, a bare marker closes a block, so the text before it stays; a
marker with an info string opens one, so that text is prose and goes. -/
def stripMarker? (kind : FenceKind) (line : Text) : Option Text :=
  if Text.startsWith kind.marker line then some []
  else (Text.breakOn kind.marker line).bind fun (before, found) =>
    let info := Text.trim (found.dropWhile (· = kind.char))
    if info.isEmpty then some (Text.trimEnd before)
    else if info.all isInfoChar then some []
    else none

/-- What is left of a line with a fence marker, backticks tried first. -/
def stripFence? (line : Text) : Option Text :=
  stripMarker? .backtick line <|> stripMarker? .tilde line

/-! ## 2. Lines -/

/-- A statement line. -/
structure Line where
  text : Text
  /-- The byte offset of the text in the source. -/
  start : Nat
deriving DecidableEq, Repr

/-- The byte offset after the text. -/
def Line.stop (line : Line) : Nat := line.start + line.text.bytes

/-- Whether a line says nothing: it is empty or a comment. -/
def isSilent (t : Text) : Bool := t.isEmpty || t.head? = some '#'

/-- The statement line that a raw line at an offset holds. -/
def Line.ofRaw? (offset : Nat) (raw : Text) : Option Line :=
  let trimmed := raw.trim
  let text := (stripFence? trimmed).getD trimmed
  if isSilent text then none
  else some ⟨text, offset + Text.bytes (raw.takeWhile isBlank)⟩

/-- The statement lines among raw lines that start at an offset. -/
def linesFrom (offset : Nat) : List Text → List Line
  | [] => []
  | raw :: rest => (Line.ofRaw? offset raw).toList ++ linesFrom (offset + raw.bytes) rest

/-- The statement lines of a source. -/
def statementLines (source : Text) (markdown : Markdown.EventReader := Markdown.events) :
    List Line :=
  let region := statementRegion source markdown
  linesFrom region.start (Text.lines region.text)

end PlanScript
