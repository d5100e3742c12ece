/-
PlanScript.Toml.Quoted — TOML strings.

There are four notations: basic and literal strings on one line, and both
over several lines between tripled quotes. Only basic strings have escapes.
In a multi-line string a line ending reads as a line feed, the one right
after the opening quotes is dropped, and a backslash at the end of a line
swallows it with all blanks after it. One or two quotes may stand inside, and
right before the closing ones.
-/
import PlanScript.Text.Reader

namespace PlanScript.Toml.Grammar

open Reader

/-! ## 1. Blanks and characters -/

/-- Whether a character is a blank within a line. -/
def isGap (c : Char) : Bool := c = ' ' || c = '\t'

/-- The blanks within a line, if any. -/
def gap : Reader Unit := discard (run isGap)

/-- The end of a line. -/
def lineEnd : Reader Unit := exact ['\n'] <|> exact ['\r', '\n']

/-- Whether a character may stand as itself: the tab and all characters but
the controls. -/
def isPlain (c : Char) : Bool := c = '\t' || (0x20 ≤ c.toNat && c.toNat ≠ 0x7F)

/-- The number that some digits spell in a base. -/
def ofDigits (base : Nat) (ds : Text) : Nat :=
  let value (c : Char) : Nat :=
    if c.isDigit then c.toNat - 48 else if 'a' ≤ c then c.toNat - 87 else c.toNat - 55
  ds.foldl (fun n c => base * n + value c) 0

/-- Whether a character is a hexadecimal digit. -/
def isHexDigit (c : Char) : Bool :=
  c.isDigit || ('a' ≤ c && c ≤ 'f') || ('A' ≤ c && c ≤ 'F')

/-! ## 2. Escapes -/

/-- The character of a code point in hexadecimal; surrogates and numbers
beyond the last code point have none. -/
def codePoint (width : Nat) : Reader Char := do
  let n := ofDigits 16 (← count isHexDigit width)
  check (n < 0xD800 || (0xE000 ≤ n && n < 0x110000))
  return Char.ofNat n

/-- An escape, from its backslash on. -/
def escape : Reader Char := do
  exact ['\\']
  match ← one fun _ => true with
  | 'b' => return '\x08'
  | 't' => return '\t'
  | 'n' => return '\n'
  | 'f' => return '\x0c'
  | 'r' => return '\r'
  | '"' => return '"'
  | '\\' => return '\\'
  | 'u' => codePoint 4
  | 'U' => codePoint 8
  | _ => failure

/-! ## 3. Strings on one line -/

/-- A basic string. -/
def basic : Reader Text := do
  exact ['"']
  let body ← repeated (one (fun c => isPlain c && c ≠ '"' && c ≠ '\\') <|> escape)
  exact ['"']
  return body

/-- A literal string. -/
def literal : Reader Text := do
  exact ['\x27']
  let body ← run fun c => isPlain c && c ≠ '\x27'
  exact ['\x27']
  return body

/-! ## 4. Strings over several lines -/

/-- A line ending that a backslash swallows, with the blanks around it. -/
def swallowed : Reader Unit := do
  exact ['\\']
  gap
  lineEnd
  discard (repeated (lineEnd <|> discard (one isGap)))

/-- A piece of a multi-line basic string without quotes. -/
def basicPiece : Reader Text :=
  (do return [← one fun c => isPlain c && c ≠ '"' && c ≠ '\\'])
    <|> (do swallowed; return [])
    <|> (do return [← escape])
    <|> (do lineEnd; return ['\n'])

/-- A piece of a multi-line literal string without quotes. -/
def literalPiece : Reader Text :=
  (do return [← one fun c => isPlain c && c ≠ '\x27'])
    <|> (do lineEnd; return ['\n'])

/-- A string between tripled quotes: pieces, with at most two quotes in a
row between them and before the closing quotes. -/
def multiline (quote : Char) (piece : Reader Text) : Reader Text := do
  let quotes (n : Nat) : Reader Text := do
    exact (List.replicate n quote)
    return List.replicate n quote
  quotes 3 *> discard (optional lineEnd)
  let body ← repeated (piece
    <|> (do return (← quotes 2) ++ (← piece))
    <|> (do return (← quotes 1) ++ (← piece)))
  let closing ← (do let q ← quotes 2; discard (quotes 3); return q)
    <|> (do let q ← quotes 1; discard (quotes 3); return q)
    <|> (do discard (quotes 3); return [])
  return body.flatten ++ closing

/-- A string in any notation. -/
def quotedText : Reader Text :=
  multiline '"' basicPiece <|> multiline '\x27' literalPiece <|> basic <|> literal

end PlanScript.Toml.Grammar
