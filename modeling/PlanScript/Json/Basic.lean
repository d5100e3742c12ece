/-
PlanScript.Json.Basic — JSON values as they are written.

A number keeps its token and a string keeps what stands between its quotes,
so that reading loses nothing but white space, and printing a value that was
read gives the same leaves back. What a string spells is a second step:
`Json.spelled?` resolves the escapes and fails on a surrogate that has no
partner, which is a valid string that spells no text. `Json.written` goes the
other way.
-/
import PlanScript.Text.Decimal

namespace PlanScript

/-- A JSON value, with its leaves as written. -/
inductive Json where
  | null
  | bool (b : Bool)
  /-- A number, by its token. -/
  | number (token : Text)
  /-- A string, by what stands between its quotes. -/
  | string (body : Text)
  | array (items : List Json)
  /-- An object, with its keys as string bodies, in order. -/
  | object (members : List (Text × Json))
deriving Repr

namespace Json

/-! ## 1. Escapes -/

/-- The character that a one-letter escape stands for. -/
def escaped? (c : Char) : Option Char :=
  if c = '"' ∨ c = '\\' ∨ c = '/' then some c
  else if c = 'b' then some '\x08'
  else if c = 'f' then some '\x0c'
  else if c = 'n' then some '\n'
  else if c = 'r' then some '\r'
  else if c = 't' then some '\t'
  else none

/-- The value of a hexadecimal digit. -/
def hexDigit? (c : Char) : Option Nat :=
  if c.isDigit then some (c.toNat - 48)
  else if 'a' ≤ c ∧ c ≤ 'f' then some (c.toNat - 87)
  else if 'A' ≤ c ∧ c ≤ 'F' then some (c.toNat - 55)
  else none

/-- The value of four hexadecimal digits at the start of a text, with what
follows them. -/
def hexUnit? : Text → Option (Nat × Text)
  | a :: b :: c :: d :: rest => do
    let a ← hexDigit? a
    let b ← hexDigit? b
    let c ← hexDigit? c
    let d ← hexDigit? d
    some (((a * 16 + b) * 16 + c) * 16 + d, rest)
  | _ => none

/-! ## 2. What a string spells -/

/-- A unit of a string: a character, or half of a surrogate pair. -/
inductive StringUnit where
  | char (c : Char)
  | leading (n : Nat)
  | trailing (n : Nat)
deriving DecidableEq, Repr

/-- The unit that four hexadecimal digits stand for. -/
def StringUnit.ofCode (n : Nat) : StringUnit :=
  if 0xD800 ≤ n ∧ n < 0xDC00 then leading (n - 0xD800)
  else if 0xDC00 ≤ n ∧ n < 0xE000 then trailing (n - 0xDC00)
  else char (Char.ofNat n)

/-- The units of a string body. -/
def units? : Text → Option (List StringUnit)
  | [] => some []
  | '\\' :: 'u' :: a :: b :: c :: d :: rest => do
    let (n, _) ← hexUnit? [a, b, c, d]
    return .ofCode n :: (← units? rest)
  | '\\' :: c :: rest => do
    let c ← escaped? c
    return .char c :: (← units? rest)
  | c :: rest => do
    if c = '\\' ∨ c = '"' ∨ c.toNat < 0x20 then none
    return .char c :: (← units? rest)

/-- The text of some units. The two halves of a pair make one character, and
a half alone makes none. -/
def textOfUnits? : List StringUnit → Option Text
  | [] => some []
  | .char c :: rest => (textOfUnits? rest).map (c :: ·)
  | .leading m :: .trailing n :: rest =>
    (textOfUnits? rest).map (Char.ofNat (0x10000 + m * 0x400 + n) :: ·)
  | _ => none

/-- The text that a string body spells. -/
def spelled? (body : Text) : Option Text := (units? body).bind textOfUnits?

/-! ## 3. How a text is written -/

/-- A digit of a hexadecimal number, in lower case. -/
def hexDigit (n : Nat) : Char := if n < 10 then Char.ofNat (48 + n) else Char.ofNat (87 + n)

/-- A character as it stands in a string body: quotes, backslashes and
controls are escaped, with a letter where there is one. -/
def writtenChar (c : Char) : Text :=
  if c = '"' ∨ c = '\\' then ['\\', c]
  else if c = '\x08' then ['\\', 'b']
  else if c = '\x0c' then ['\\', 'f']
  else if c = '\n' then ['\\', 'n']
  else if c = '\r' then ['\\', 'r']
  else if c = '\t' then ['\\', 't']
  else if c.toNat < 0x20 then
    ['\\', 'u', '0', '0', hexDigit (c.toNat / 16), hexDigit (c.toNat % 16)]
  else [c]

/-- The string body that spells a text. -/
def written (t : Text) : Text := t.flatMap writtenChar

/-- The JSON string of a text. -/
def ofText (t : Text) : Json := .string (written t)

/-- The JSON number of a natural number. -/
def ofNat (n : Nat) : Json := .number (Decimal.ofNat n)

/-- The JSON number of an integer. -/
def ofInt (i : Int) : Json := .number (Decimal.ofInt i)

end Json

end PlanScript
