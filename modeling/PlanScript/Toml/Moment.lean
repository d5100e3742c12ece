/-
PlanScript.Toml.Moment — TOML dates and times.

A moment is a date, a time, or a date with a time after a `T` or a space,
with or without an offset. Days must exist in their month, and leap years
follow the Gregorian calendar. A minute may have a sixty-first second.
-/
import PlanScript.Toml.Basic
import PlanScript.Toml.Quoted

namespace PlanScript.Toml.Grammar

open Reader

/-- A number of a fixed width that lies between two bounds. -/
def bounded (width low high : Nat) : Reader Nat := do
  let n := ofDigits 10 (← count Char.isDigit width)
  check (low ≤ n && n ≤ high)
  return n

/-- Whether a year has a leap day. -/
def isLeap (year : Nat) : Bool := year % 4 = 0 && (year % 100 ≠ 0 || year % 400 = 0)

/-- The number of days of a month. -/
def daysIn (year month : Nat) : Nat :=
  if month = 2 then if isLeap year then 29 else 28
  else if month = 4 ∨ month = 6 ∨ month = 9 ∨ month = 11 then 30
  else 31

/-- A date. -/
def date : Reader Unit := do
  let year ← bounded 4 0 9999
  exact ['-']
  let month ← bounded 2 1 12
  exact ['-']
  discard (bounded 2 1 (daysIn year month))

/-- A time of day. -/
def time : Reader Unit := do
  discard (bounded 2 0 23)
  exact [':']
  discard (bounded 2 0 59)
  exact [':']
  discard (bounded 2 0 60)
  discard (optional do
    exact ['.']
    discard (one Char.isDigit)
    run Char.isDigit)

/-- An offset from universal time. -/
def offset : Reader Unit :=
  discard (one fun c => c = 'Z' || c = 'z')
    <|> do
      discard (one fun c => c = '+' || c = '-')
      discard (bounded 2 0 23)
      exact [':']
      discard (bounded 2 0 59)

/-- A date with or without a time, or a time alone. -/
def moment : Reader Toml :=
  (do
    date
    discard (optional do
      discard (one fun c => c = 'T' || c = 't' || c = ' ')
      time
      discard (optional offset))
    return .moment)
    <|> (do time; return .moment)

end PlanScript.Toml.Grammar
