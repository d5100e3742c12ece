/-
PlanScript.Json.Reader — JSON values from text.

The grammar is that of RFC 8259 and nothing more: blanks are the space, the
tab, the line feed and the carriage return; numbers have no leading zeros; no
comma trails; controls stand in a string only as escapes. A half of a
surrogate pair is valid here (`Json.spelled?` looks at pairs).

A reader takes a text and gives what it read with the rest of the text. The
readers of nested values carry a bound on the depth of their calls. A bracket
costs two calls and a character is read between them, so the bound that
`Json.parse?` sets is never met.
-/
import PlanScript.Json.Basic

namespace PlanScript.Json

/-! ## 1. Leaves -/

/-- Whether a character may stand between tokens. -/
def isGap (c : Char) : Bool := c = ' ' || c = '\t' || c = '\n' || c = '\r'

/-- The text without the blanks it starts with. -/
def skipGap (t : Text) : Text := t.dropWhile isGap

/-- One or more digits. -/
def digits? (t : Text) : Option (Text × Text) :=
  match t.takeWhile Char.isDigit with
  | [] => none
  | ds => some (ds, t.dropWhile Char.isDigit)

/-- The whole part of a number: zero, or digits that do not start with
zero. -/
def whole? : Text → Option (Text × Text)
  | '0' :: rest => some (['0'], rest)
  | t => digits? t

/-- The fraction of a number, if it has one. -/
def fraction? : Text → Option (Text × Text)
  | '.' :: rest => (digits? rest).map fun (ds, rest) => ('.' :: ds, rest)
  | t => some ([], t)

/-- The digits of an exponent, after its optional sign. -/
def power? : Text → Option (Text × Text)
  | '+' :: rest => (digits? rest).map fun (ds, rest) => ('+' :: ds, rest)
  | '-' :: rest => (digits? rest).map fun (ds, rest) => ('-' :: ds, rest)
  | t => digits? t

/-- The exponent of a number, if it has one. -/
def exponent? : Text → Option (Text × Text)
  | 'e' :: rest => (power? rest).map fun (p, rest) => ('e' :: p, rest)
  | 'E' :: rest => (power? rest).map fun (p, rest) => ('E' :: p, rest)
  | t => some ([], t)

/-- A number without its sign. -/
def unsigned? (t : Text) : Option (Text × Text) := do
  let (whole, t) ← whole? t
  let (fraction, t) ← fraction? t
  let (exponent, t) ← exponent? t
  some (whole ++ fraction ++ exponent, t)

/-- A number. -/
def number? : Text → Option (Text × Text)
  | '-' :: rest => (unsigned? rest).map fun (n, rest) => ('-' :: n, rest)
  | t => unsigned? t

/-- The body of a string up to its closing quote, and what follows that. -/
def body? : Text → Option (Text × Text)
  | [] => none
  | '"' :: rest => some ([], rest)
  | '\\' :: 'u' :: a :: b :: c :: d :: rest => do
    let _ ← hexUnit? [a, b, c, d]
    let (body, rest) ← body? rest
    some ('\\' :: 'u' :: a :: b :: c :: d :: body, rest)
  | '\\' :: c :: rest => do
    let _ ← escaped? c
    let (body, rest) ← body? rest
    some ('\\' :: c :: body, rest)
  | c :: rest => do
    if c = '\\' ∨ c.toNat < 0x20 then none
    let (body, rest) ← body? rest
    some (c :: body, rest)

/-! ## 2. Values -/

mutual

/-- A value at the start of a text. -/
def value? : (depth : Nat) → Text → Option (Json × Text)
  | 0, _ => none
  | depth + 1, t =>
    match t with
    | '"' :: rest => (body? rest).map fun (body, rest) => (.string body, rest)
    | '[' :: rest =>
      match skipGap rest with
      | ']' :: rest => some (.array [], rest)
      | rest => (items? depth rest).map fun (items, rest) => (.array items, rest)
    | '{' :: rest =>
      match skipGap rest with
      | '}' :: rest => some (.object [], rest)
      | rest => (members? depth rest).map fun (members, rest) => (.object members, rest)
    | 'n' :: 'u' :: 'l' :: 'l' :: rest => some (.null, rest)
    | 't' :: 'r' :: 'u' :: 'e' :: rest => some (.bool true, rest)
    | 'f' :: 'a' :: 'l' :: 's' :: 'e' :: rest => some (.bool false, rest)
    | t => (number? t).map fun (token, rest) => (.number token, rest)

/-- The items of an array, from the first one on, up to the closing
bracket. -/
def items? : (depth : Nat) → Text → Option (List Json × Text)
  | 0, _ => none
  | depth + 1, t => do
    let (item, rest) ← value? depth t
    match skipGap rest with
    | ']' :: rest => some ([item], rest)
    | ',' :: rest =>
      let (items, rest) ← items? depth (skipGap rest)
      some (item :: items, rest)
    | _ => none

/-- The members of an object, from the first one on, up to the closing
brace. -/
def members? : (depth : Nat) → Text → Option (List (Text × Json) × Text)
  | 0, _ => none
  | depth + 1, '"' :: t => do
    let (key, rest) ← body? t
    match skipGap rest with
    | ':' :: rest =>
      let (value, rest) ← value? depth (skipGap rest)
      match skipGap rest with
      | '}' :: rest => some ([(key, value)], rest)
      | ',' :: rest =>
        let (members, rest) ← members? depth (skipGap rest)
        some ((key, value) :: members, rest)
      | _ => none
    | _ => none
  | _ + 1, _ => none

end

/-- The value that a text holds, with blanks around it and nothing else. -/
def parse? (t : Text) : Option Json := do
  let (value, rest) ← value? (2 * t.length + 1) (skipGap t)
  if (skipGap rest).isEmpty then some value else none

end PlanScript.Json
