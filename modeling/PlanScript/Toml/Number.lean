/-
PlanScript.Toml.Number — TOML integers and floats.

Digits may be grouped by single underscores. Decimal integers have no
leading zeros and an optional sign; hexadecimal, octal and binary integers
have a marker and no sign; all must fit in 64 bits with a sign. A float is a
decimal integer with a fraction, an exponent or both; one so large that it
rounds to infinity is refused, unless it is negative.
-/
import PlanScript.Toml.Basic
import PlanScript.Toml.Quoted
import PlanScript.Text.Decimal

namespace PlanScript.Toml.Grammar

open Reader

/-! ## 1. Digits -/

/-- One or more digits, with single underscores between them; gives the
digits. -/
def grouped (isDigit : Char → Bool) : Reader Text := do
  let first ← one isDigit
  let others ← repeated do
    discard (optional (exact ['_']))
    one isDigit
  return first :: others

/-- An optional sign; gives whether it is a minus. -/
def sign : Reader Bool :=
  (do exact ['-']; return true) <|> (do exact ['+']; return false) <|> pure false

/-- The digits of a whole number without leading zeros. -/
def whole : Reader Text := do
  match ← peek with
  | some '0' => return [← one (· = '0')]
  | _ => grouped Char.isDigit

/-! ## 2. Integers -/

/-- An integer that fits. -/
def fitting (i : Int) : Reader Toml :=
  match Decimal.int64? i with
  | some n => return .integer n
  | none => failure

/-- An integer in a base of its own, after its marker. -/
def marked (marker : Char) (base : Nat) (isDigit : Char → Bool) : Reader Toml := do
  exact ['0', marker]
  fitting (ofDigits base (← grouped isDigit))

/-- A decimal integer. -/
def decimal : Reader Toml := do
  let negative ← sign
  let n : Int := ofDigits 10 (← whole)
  fitting (if negative then -n else n)

/-- An integer. A number that starts with a marker is nothing else. -/
def integer : Reader Toml :=
  marked 'x' 16 isHexDigit
    <|> marked 'o' 8 (fun c => '0' ≤ c && c ≤ '7')
    <|> marked 'b' 2 (fun c => c = '0' || c = '1')
    <|> decimal

/-! ## 3. Floats -/

/-- Whether `digits · 10 ^ scale` rounds to infinity as a 64-bit float: the
border lies halfway between the largest finite float and the next power of
two. Far from the border the number of digits decides. -/
def overflows (digits : Text) (scale : Int) : Bool :=
  let n := ofDigits 10 digits
  if n = 0 then false
  else
    let size := (Decimal.ofNat n).length + scale
    if size < 309 then false
    else if 309 < size then true
    else
      let border := Nat.pow 2 1024 - Nat.pow 2 970
      if 0 ≤ scale then border ≤ n * Nat.pow 10 scale.toNat
      else border * Nat.pow 10 scale.natAbs ≤ n

/-- An exponent. -/
def exponent : Reader Int := do
  discard (one fun c => c = 'e' || c = 'E')
  let negative ← sign
  let n : Int := ofDigits 10 (← grouped Char.isDigit)
  return if negative then -n else n

/-- A float with a fraction, an exponent or both. -/
def fractional : Reader Toml := do
  let negative ← sign
  let before ← whole
  let fraction ← optional (do exact ['.']; grouped Char.isDigit)
  let power ← match fraction with
    | some _ => pure ((← optional exponent).getD 0)
    | none => exponent
  let after := fraction.getD []
  check (negative || !overflows (before ++ after) (power - after.length))
  return .float

/-- An infinity or an undefined number. -/
def special : Reader Toml := do
  discard sign
  exact "inf".toList <|> exact "nan".toList
  return .float

/-- A float. -/
def float : Reader Toml := fractional <|> special

end PlanScript.Toml.Grammar
