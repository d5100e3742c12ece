/-
PlanScript.Source.Region — the part of a source that holds statements.

A planner may wrap its statements in prose and Markdown. The statements are
the body of the first fenced code block that looks closed and is not blank;
where there is no such block, or no fence marker at all, they are the whole
source.

Where the blocks are is found out by a Markdown reader, which is a parameter.
The body of a block goes from the start of its first text to the end of its
last one. A block looks closed when its last line starts with a marker, after
white space. The markers of both kinds count, and the prefix of an enclosing
block quote does not.
-/
import PlanScript.Markdown.Event
import PlanScript.Text.Blank

namespace PlanScript

open Markdown (Span Stretch EventReader)

/-! ## 1. Fence markers -/

/-- The two kinds of fence. -/
inductive FenceKind where
  | backtick
  | tilde
deriving DecidableEq, Repr

namespace FenceKind

/-- The character a fence is made of. -/
def char : FenceKind → Char
  | backtick => '\x60'
  | tilde => '~'

/-- The shortest run that is a fence. -/
def marker (k : FenceKind) : Text := [k.char, k.char, k.char]

end FenceKind

/-- Whether a text holds a marker of either kind. -/
def hasMarker (t : Text) : Bool :=
  Text.hasInfix FenceKind.backtick.marker t || Text.hasInfix FenceKind.tilde.marker t

/-- Whether a text starts with a marker of either kind. -/
def startsWithMarker (t : Text) : Bool :=
  Text.startsWith FenceKind.backtick.marker t || Text.startsWith FenceKind.tilde.marker t

/-! ## 2. The region -/

/-- The text after the last line feed. -/
def lastLine (t : Text) : Text := (t.reverse.takeWhile (· ≠ '\n')).reverse

/-- Whether the text of a block ends with a line that starts with a marker. -/
def looksClosed (block : Text) : Bool :=
  let b := block.trimEnd
  b.contains '\n' && startsWithMarker (lastLine b).trimStart

/-- The range of some texts, with one more text. -/
def growBody (body : Option Span) (range : Span) : Span :=
  match body with
  | some b => ⟨b.start, range.stop⟩
  | none => range

/-- The body of a block, if it is not blank and the block looks closed. -/
def statementBody? (source : Text) (body : Option Span) (block : Span) : Option Span :=
  body.filter fun b => !(b.text source).allBlank && looksClosed (block.text source)

/-- The body of the first block that looks closed and is not blank, among the
events that are still to come, or else the whole source. `inFence` tells
whether a fenced block is open, and `body` is the range of its texts so far. -/
def regionFrom (source : Text) (inFence : Bool) (body : Option Span) : List Markdown.Event → Span
  | [] => ⟨0, source.bytes⟩
  | .fence :: rest => regionFrom source true none rest
  | .text range :: rest =>
    regionFrom source inFence (if inFence then some (growBody body range) else body) rest
  | .blockEnd range :: rest =>
    if inFence then (statementBody? source body range).getD (regionFrom source false none rest)
    else regionFrom source inFence body rest
  | .other :: rest => regionFrom source inFence body rest

/-- The range of the part of a source that holds statements. -/
def statementRange (source : Text) (markdown : EventReader) : Span :=
  if hasMarker source then regionFrom source false none (markdown source)
  else ⟨0, source.bytes⟩

/-- The part of a source that holds statements. -/
def statementRegion (source : Text) (markdown : EventReader) : Stretch :=
  let range := statementRange source markdown
  ⟨range.start, range.text source⟩

end PlanScript
