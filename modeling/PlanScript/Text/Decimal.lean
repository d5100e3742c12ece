/-
PlanScript.Text.Decimal — whole numbers in decimal.

`Decimal.ofNat` and `Decimal.ofInt` write a number without leading zeros;
`Decimal.toInt?` reads an optional sign and at least one ASCII digit, with
any number of leading zeros. `Decimal.toInt64?` adds the range check: a
number that does not fit in 64 bits is refused, never wrapped.
-/
import PlanScript.Text.Basic

namespace PlanScript.Decimal

/-! ## 1. Writing -/

/-- The decimal digits of a natural number. -/
def ofNat (n : Nat) : Text := Nat.toDigits 10 n

/-- An integer in decimal, with a minus sign when negative. -/
def ofInt : Int → Text
  | .ofNat n => ofNat n
  | .negSucc n => '-' :: ofNat (n + 1)

/-! ## 2. Reading -/

/-- The value of an ASCII digit. -/
def digit? (c : Char) : Option Nat := if c.isDigit then some (c.toNat - 48) else none

/-- The value of a run of digits that follow a number `n` already read. -/
def digitsFrom? (n : Nat) : Text → Option Nat
  | [] => some n
  | c :: rest => (digit? c).bind fun d => digitsFrom? (10 * n + d) rest

/-- The value of a non-empty run of ASCII digits. -/
def toNat? : Text → Option Nat
  | [] => none
  | c :: rest => digitsFrom? 0 (c :: rest)

/-- The value of an optional sign and a non-empty run of ASCII digits. -/
def toInt? : Text → Option Int
  | '+' :: rest => (toNat? rest).map Int.ofNat
  | '-' :: rest => (toNat? rest).map fun n => -Int.ofNat n
  | t => (toNat? t).map Int.ofNat

/-- An integer as a signed 64-bit word, when it fits. -/
def int64? (i : Int) : Option Int64 :=
  if -0x8000000000000000 ≤ i ∧ i < 0x8000000000000000 then some (Int64.ofInt i) else none

/-- Reads a signed 64-bit number; a number out of range is refused. -/
def toInt64? (t : Text) : Option Int64 := (toInt? t).bind int64?

end PlanScript.Decimal
