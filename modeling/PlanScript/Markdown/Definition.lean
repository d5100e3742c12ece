/-
PlanScript.Markdown.Definition — link reference definitions.

A definition is a label in square brackets, a colon, a destination and an
optional title. It may run over several lines, so reading one needs the
lines after the first. All that matters here is how many of them it takes:
`definitionLength?` gives that number.

`Position` is a place in those lines. Until it has been read to its end, a
definition might as well be a paragraph, so a line that ends a paragraph ends
it too; as in a paragraph, the other lines need not have the prefixes of the
containers.
-/
import PlanScript.Markdown.Opening

namespace PlanScript.Markdown

/-! ## 1. Places in several lines -/

/-- A place in the lines of a definition. -/
structure Position where
  /-- The rest of the line at hand. -/
  line : Text
  /-- The ending of the line at hand. -/
  ending : Text
  /-- The lines after it. -/
  ahead : List Segment
  /-- The number of lines left behind. -/
  crossed : Nat := 0
deriving DecidableEq, Repr

/-- The start of the next line as it stands, container prefixes included. -/
def Position.nextRaw? (p : Position) : Option Position :=
  match p.ahead with
  | [] => none
  | segment :: more => some ⟨segment.text, segment.ending, more, p.crossed + 1⟩

/-- Which lines a heading underline is looked for on. -/
inductive Underlines where
  /-- Only those with the prefixes of all containers. -/
  | inside
  /-- All lines. -/
  | everywhere
deriving DecidableEq, Repr

/-- The text of the next line after its container prefixes and up to four
columns of space, unless the line ends the paragraph that the definition
would otherwise be. -/
def Position.next? (spine : List Container) (underlines : Underlines) (p : Position) :
    Option Position :=
  p.nextRaw?.bind fun raw =>
    let (entered, cursor) := enterAll { rest := raw.line } spine
    let inside : Bool := entered = spine.length
    let (skipped, reached) := cursor.skip 4
    let ends := interruptsParagraph inside reached.rest ⟨raw.line, raw.ending⟩ raw.ahead
      || (inside || underlines = .everywhere) && isUnderline reached.rest
    if skipped < 4 && ends then none else some { raw with line := reached.rest }

/-- The place after white space that holds at most one line ending. -/
def Position.skipSpace? (spine : List Container) (p : Position) : Option Position :=
  match p.line.dropWhile isLineBlank with
  | c :: rest => some { p with line := c :: rest }
  | [] => (p.next? spine .everywhere).bind fun q =>
    match q.line.dropWhile isLineBlank with
    | c :: rest => some { q with line := c :: rest }
    | [] => none

/-! ## 2. The label -/

/-- What has been read of a label. -/
structure LinkLabel where
  /-- The bytes of the label, of which ASCII characters count only if they
  are white space or escaped. -/
  weight : Nat := 0
  /-- The label holds something other than white space. -/
  hasText : Bool := false
deriving DecidableEq, Repr

/-- What the scan of a label inside one line stops at. -/
inductive LabelStop where
  /-- The closing bracket was found; the text after it follows. -/
  | closed (label : LinkLabel) (after : Text)
  /-- The line ended first, perhaps with a backslash. -/
  | lineEnd (label : LinkLabel) (escaped : Bool)
  /-- An opening bracket, which must not stand in a label. -/
  | refused
deriving DecidableEq, Repr

namespace LinkLabel

/-- The heaviest label that counts. -/
def maxWeight : Nat := 999

/-- The label with one more character. -/
def add (l : LinkLabel) (c : Char) : LinkLabel :=
  if isLineBlank c then { l with weight := l.weight + 1 }
  else ⟨l.weight + (if c.toNat < 128 then 0 else c.utf8Size), true⟩

/-- Scans a line for the closing bracket; a backslash takes the next
character with it. -/
def scan (l : LinkLabel) : Text → LabelStop
  | [] => .lineEnd l false
  | [c] =>
    if c = ']' then .closed l []
    else if c = '[' then .refused
    else if c = '\\' then .lineEnd ⟨l.weight + 1, true⟩ true
    else .lineEnd (l.add c) false
  | c :: d :: rest =>
    if c = ']' then .closed l (d :: rest)
    else if c = '[' then .refused
    else if c = '\\' then scan ⟨l.weight + 1 + d.utf8Size, true⟩ rest
    else scan (l.add c) (d :: rest)

/-- The label when a line ending has been crossed, and the start of the next
line up to some place; all of that counts. -/
def addCrossing (l : LinkLabel) (p q : Position) : LinkLabel :=
  let start := (p.ahead.head?.elim 0 fun s => s.text.bytes) - q.line.bytes
  { l with weight := l.weight + p.ending.length + start }

/-- Scans at most `fuel` lines for the closing bracket. A backslash takes a
line ending of one character with it, and then the next line counts as it
stands; otherwise that line must not be blank. -/
def scanLines (spine : List Container) :
    (fuel : Nat) → LinkLabel → Position → Option (LinkLabel × Position)
  | 0, _, _ => none
  | fuel + 1, l, p =>
    match l.scan p.line with
    | .closed label after => some (label, { p with line := after })
    | .refused => none
    | .lineEnd label escaped =>
      let next? := if escaped && p.ending.length = 1 then p.nextRaw?
        else (p.next? spine .inside).filter fun q => !isBlankLine q.line
      next?.bind fun q => scanLines spine fuel (label.addCrossing p q) q

end LinkLabel

/-- The place after a label and its colon. The place given is after the
opening bracket. -/
def label? (spine : List Container) (p : Position) : Option Position :=
  (LinkLabel.scanLines spine (p.ahead.length + 1) {} p).bind fun (label, q) =>
    if label.hasText && label.weight ≤ LinkLabel.maxWeight then
      (Text.dropPrefix? [':'] q.line).map fun rest => { q with line := rest }
    else none

/-! ## 3. Destination and title -/

/-- Whether a character is ASCII punctuation, which a backslash escapes. -/
def isPunctuation (c : Char) : Bool :=
  let n := c.toNat
  0x21 ≤ n && n ≤ 0x2F || 0x3A ≤ n && n ≤ 0x40 || 0x5B ≤ n && n ≤ 0x60 || 0x7B ≤ n && n ≤ 0x7E

/-- The number of round brackets that may be open where another one opens. -/
def maxOpenBrackets : Nat := 32

/-- The text after a destination without angle brackets; `depth` counts the
round brackets open in it. -/
def bareDestination? (depth : Nat) : Text → Option Text
  | [] => if depth = 0 then some [] else none
  | [c] =>
    if c.toNat ≤ 0x20 then if depth = 0 then some [c] else none
    else if c = '(' then none
    else if c = ')' then if depth = 0 then some [c] else if depth = 1 then some [] else none
    else if depth = 0 then some [] else none
  | c :: d :: rest =>
    if c.toNat ≤ 0x20 then if depth = 0 then some (c :: d :: rest) else none
    else if c = '(' then
      if depth > maxOpenBrackets then none else bareDestination? (depth + 1) (d :: rest)
    else if c = ')' then
      if depth = 0 then some (c :: d :: rest) else bareDestination? (depth - 1) (d :: rest)
    else if c = '\\' && isPunctuation d then bareDestination? depth rest
    else bareDestination? depth (d :: rest)

/-- The text after a destination between angle brackets, of which the
opening one has been read. -/
def angledDestination? : Text → Option Text
  | [] => none
  | [c] => if c = '>' then some [] else none
  | c :: d :: rest =>
    if c = '<' then none
    else if c = '>' then some (d :: rest)
    else if c = '\\' && isPunctuation d then angledDestination? rest
    else angledDestination? (d :: rest)

/-- The text after a destination; it must not be empty. -/
def destination? (t : Text) : Option Text :=
  match t with
  | '<' :: rest => angledDestination? rest
  | _ => (bareDestination? 0 t).filter fun rest => rest.length < t.length

/-- What the scan of a title inside one line stops at. -/
inductive TitleStop where
  /-- The closing mark was found; the text after it follows. -/
  | closed (after : Text)
  /-- The line ended first. -/
  | lineEnd
  /-- An opening bracket, which must not stand in a title in brackets. -/
  | refused
deriving DecidableEq, Repr

/-- Scans a line for the closing mark of a title; a backslash takes the next
character with it. -/
def scanTitle (close : Char) : Text → TitleStop
  | [] => .lineEnd
  | [c] => if c = close then .closed [] else if c = '(' && close = ')' then .refused else .lineEnd
  | c :: d :: rest =>
    if c = close then .closed (d :: rest)
    else if c = '(' && close = ')' then .refused
    else if c = '\\' then scanTitle close rest
    else scanTitle close (d :: rest)

/-- Scans at most `fuel` lines for the closing mark of a title; none of them
is blank. -/
def scanTitleLines (spine : List Container) (close : Char) :
    (fuel : Nat) → Position → Option Position
  | 0, _ => none
  | fuel + 1, p =>
    match scanTitle close p.line with
    | .closed after => some { p with line := after }
    | .refused => none
    | .lineEnd =>
      ((p.next? spine .everywhere).filter fun q => !isBlankLine q.line).bind
        (scanTitleLines spine close fuel)

/-- The place after a title. -/
def title? (spine : List Container) (p : Position) : Option Position :=
  let close? : Option Char := match p.line with
    | '"' :: _ => some '"'
    | '\x27' :: _ => some '\x27'
    | '(' :: _ => some ')'
    | _ => none
  close?.bind fun close =>
    scanTitleLines spine close (p.ahead.length + 1) { p with line := p.line.drop 1 }

/-! ## 4. The whole definition -/

/-- The number of lines that the definition takes beyond its first one, of
which `line` is the text; `none` when that text starts no definition. A title
that cannot be read is left out if it has a line of its own. -/
def definitionLength? (spine : List Container) (line : Text) (s : Segment) (ahead : List Segment) :
    Option Nat :=
  (Text.dropPrefix? ['['] line).bind fun rest =>
    (label? spine ⟨rest, s.ending, ahead, 0⟩).bind fun afterColon =>
      (afterColon.skipSpace? spine).bind fun start =>
        (destination? start.line).bind fun afterDestination =>
          let stop : Position := { start with line := afterDestination }
          match stop.skipSpace? spine with
          | none => some stop.crossed
          | some next =>
            let ownLine := stop.crossed < next.crossed
            if !ownLine && next.line.length = stop.line.length then none
            else match (title? spine next).filter fun q => isBlankLine q.line with
              | some q => some q.crossed
              | none => if ownLine then some stop.crossed else none

end PlanScript.Markdown
