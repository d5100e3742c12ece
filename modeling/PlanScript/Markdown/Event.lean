/-
PlanScript.Markdown.Event — what a Markdown reader reports.

A reader of Markdown is a tool that the library is given. It walks a document
and reports what it meets as events, in order, each with the range of the
document that it is about. Of all events only those are told apart that matter
to a search for fenced code blocks.

Everything that looks for statements takes the reader as a parameter. Where
none is given it is `Markdown.events`.
-/
import PlanScript.Text.Slice

namespace PlanScript.Markdown

/-! ## 1. Ranges -/

/-- A range of byte offsets. -/
structure Span where
  start : Nat
  stop : Nat
deriving DecidableEq, Repr

/-- The text at a range of a document. A range beyond the document or inside a
character has none. -/
def Span.text (range : Span) (document : Text) : Text :=
  (Text.slice? range.start range.stop document).getD []

/-- A stretch of a document and the byte offset where it starts. -/
structure Stretch where
  start : Nat
  text : Text
deriving DecidableEq, Repr

/-- The range of a stretch. -/
def Stretch.range (s : Stretch) : Span := ⟨s.start, s.start + s.text.bytes⟩

/-! ## 2. Events -/

/-- Something that a reader meets in a document. -/
inductive Event where
  /-- A fenced code block starts. -/
  | fence
  | text (range : Span)
  /-- A code block ends, fenced or not; the range is that of the block. -/
  | blockEnd (range : Span)
  | other
deriving DecidableEq, Repr

namespace Event

/-- The range of a text. -/
def textRange? : Event → Option Span
  | text range => some range
  | _ => none

/-- The range of a text or a code block. -/
def range? : Event → Option Span
  | text range => some range
  | blockEnd range => some range
  | _ => none

end Event

/-- A reader gives the events of a document. -/
abbrev EventReader := Text → List Event

/-! ## 3. Blocks -/

/-- A fenced code block. -/
structure FencedBlock where
  /-- The byte offset of the block. -/
  start : Nat
  /-- The block from its opening fence to its end. -/
  source : Text
  /-- The block from the start of its first line to the end of its last
  one; a block without a line has no body. -/
  body : Option Stretch
  /-- The block ends at its own closing fence. -/
  closed : Bool
deriving DecidableEq, Repr

namespace FencedBlock

/-- The range of the block. -/
def range (b : FencedBlock) : Span := ⟨b.start, b.start + b.source.bytes⟩

/-- The ranges of the texts of the block: its lines are one text. -/
def texts (b : FencedBlock) : List Span := (b.body.map Stretch.range).toList

/-- The events of the block. -/
def events (b : FencedBlock) : List Event := .fence :: (b.texts.map .text ++ [.blockEnd b.range])

end FencedBlock

end PlanScript.Markdown
