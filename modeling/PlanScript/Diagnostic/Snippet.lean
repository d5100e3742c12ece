/-
PlanScript.Diagnostic.Snippet — a diagnostic with the line it is about.

The message comes first, then the place, then the line with its number and
a row of carets under the labelled stretch, then the notes. Every character
takes as many columns as on a terminal, and a tab runs to the next multiple
of four. The text before a stretch is passed over in blanks of the same
width, so the carets stand under what they mark.

When painted, the heading, the frame, the stretch and the carets have styles
of their own.
-/
import PlanScript.Diagnostic.Basic
import PlanScript.Text.Paint
import PlanScript.Text.Width

namespace PlanScript

namespace Snippet

/-! ## 1. The labelled line -/

/-- A line of a source with its number and the byte at which it starts. -/
structure NumberedLine where
  number : Nat
  start : Nat
  text : Text
deriving DecidableEq, Repr

/-- The line that a byte of the source lies on, where `number` and `start`
are those of the first of the lines. -/
def lineAt (byte number start : Nat) : List Text → NumberedLine
  | [] => ⟨number, start, []⟩
  | line :: rest =>
    if byte < start + Text.bytes line ∨ rest.isEmpty then ⟨number, start, line⟩
    else lineAt byte (number + 1) (start + Text.bytes line) rest

/-- The line without the line ends and nulls it ends with. -/
def shownText (line : Text) : Text :=
  (line.reverse.dropWhile fun c => c = '\n' || c = '\r' || c = '\x00').reverse

/-- A character of a line with the byte and the column it stands at. -/
structure Cell where
  byte : Nat
  column : Nat
  char : Char
deriving DecidableEq, Repr

/-- The number of columns from one tab stop to the next. -/
def tabWidth : Nat := 4

/-- The columns that a cell takes. -/
def Cell.width (c : Cell) : Nat :=
  if c.char = '\t' then tabWidth - c.column % tabWidth else columns c.char

/-- The cells of a text that starts at a byte and a column. -/
def cells (byte column : Nat) : Text → List Cell
  | [] => []
  | c :: rest =>
    let cell : Cell := ⟨byte, column, c⟩
    cell :: cells (byte + c.utf8Size) (column + cell.width) rest

/-- The columns that some cells take together. -/
def widthOf : List Cell → Nat
  | [] => 0
  | c :: rest => c.width + widthOf rest

/-- Whether a cell lies in a stretch of bytes. -/
def Cell.isIn (start stop : Nat) (c : Cell) : Bool :=
  start < c.byte + c.char.utf8Size && c.byte < stop

/-- A cell as it is shown: a tab as blanks. -/
def Cell.shown (c : Cell) : Text :=
  if c.char = '\t' then List.replicate c.width ' ' else [c.char]

/-! ## 2. Styles -/

/-- A piece of the frame around the line. -/
def frame (painted : Bool) (t : String) : Text :=
  if painted then Text.styleMark "0" ++ Text.paint true "36" t.toList else t.toList

/-- The labelled stretch, or the carets under it. -/
def stretch (painted : Bool) (t : Text) : Text :=
  if painted then Text.styleMark "0" ++ Text.paint true "31" t else t

/-- The first line. -/
def heading (painted : Bool) (message : Text) : Text :=
  if painted then
    Text.styleMark "0" ++ Text.styleMark "1" ++ Text.styleMark "38;5;9" ++ "error".toList
      ++ Text.styleMark "0" ++ Text.styleMark "1" ++ [':', ' '] ++ message ++ Text.styleMark "0"
  else "error: ".toList ++ message

/-! ## 3. Rows -/

/-- The line with its labelled stretch. -/
def sourceRow (painted : Bool) (start stop : Nat) (line : List Cell) : Text :=
  let before := line.takeWhile fun c => !c.isIn start stop
  let rest := line.dropWhile fun c => !c.isIn start stop
  let inside := rest.takeWhile (Cell.isIn start stop)
  let after := rest.dropWhile (Cell.isIn start stop)
  before.flatMap Cell.shown
    ++ stretch (painted && !inside.isEmpty) (inside.flatMap Cell.shown)
    ++ after.flatMap Cell.shown

/-- The carets under the stretch. One more column stands for what the line
holds after the byte at which its shown text ends; it has a caret when the
stretch goes on there, and is blank when the stretch starts even later. -/
def caretRow (painted : Bool) (start stop : Nat) (line : List Cell) (byte : Nat) : Text :=
  let before := line.takeWhile fun c => !c.isIn start stop
  let inside := line.filter (Cell.isIn start stop)
  let isMarked := start ≤ byte && byte < stop
  let blanks := widthOf before + if byte < start then 1 else 0
  let carets := widthOf inside + if isMarked then 1 else 0
  List.replicate blanks ' '
    ++ stretch (painted && (isMarked || !inside.isEmpty)) (List.replicate carets '^')

/-- The rows of a diagnostic about a file. -/
def rows (painted : Bool) (file source : Text) (d : Diagnostic) : List Text :=
  let line := lineAt d.label.start 1 0 (Text.lines source)
  let start := d.label.start - line.start
  let stop := d.label.stop - line.start
  let number := Decimal.ofNat line.number
  let margin : Text := List.replicate (number.length + 1) ' '
  let text := shownText line.text
  let row := cells 0 0 text
  let column := ((cells 0 0 line.text).filter fun c => c.byte < start).length + 1
  let bar := frame painted "│"
  [heading painted d.message,
    margin ++ frame painted "┌─" ++ [' '] ++ file ++ [':'] ++ number ++ [':']
      ++ Decimal.ofNat column,
    margin ++ bar,
    frame painted (String.ofList number) ++ [' '] ++ bar ++ [' ']
      ++ sourceRow painted start stop row,
    margin ++ bar ++ [' '] ++ caretRow painted start stop row (Text.bytes text),
    margin ++ bar]
    ++ d.notes.map (fun note => margin ++ frame painted "=" ++ [' '] ++ note)
    ++ [[]]

end Snippet

/-- A diagnostic about a file, as lines for a terminal. -/
def Diagnostic.snippet (d : Diagnostic) (painted : Bool) (file source : Text) : List Text :=
  Snippet.rows painted file source d

end PlanScript
