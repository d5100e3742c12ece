/-
PlanScript.Nesting.Basic — the state of a left-to-right scan.

A scan counts the open brackets of each of the three kinds and knows which
quote, if any, it is inside. The counts are independent: a closing bracket
is checked against the count of its own kind and nothing else, so `([)]`
leaves nothing open. Inside a literal only its own quote ends it, and a
backslash takes the character after it out of consideration.

The counts are natural numbers. Counters of 32 bits do the same work as long
as the text is `Shallow`, which is to say that nowhere in it are `2 ^ 32`
brackets of one kind open: `Proofs.Offset.Nesting` scans with such counters
and ties the two.

* `ScanState.step` is the state after one character; its only failure is a
  closing bracket of a kind that is not open.
* `ScanState.finish` says what a finished scan has left open: an open
  literal is named before an open bracket, and round brackets before square
  and curly ones.
-/
import PlanScript.Text.Decimal

namespace PlanScript

/-! ## 1. Brackets and quotes -/

/-- The kinds of bracket. -/
inductive Bracket where
  | round
  | square
  | curly
deriving DecidableEq, Repr

namespace Bracket

def opener : Bracket → Char
  | round => '('
  | square => '['
  | curly => '{'

def closer : Bracket → Char
  | round => ')'
  | square => ']'
  | curly => '}'

/-- The kind a character opens. -/
def ofOpener? (c : Char) : Option Bracket :=
  if c = '(' then some round
  else if c = '[' then some square
  else if c = '{' then some curly
  else none

/-- The kind a character closes. -/
def ofCloser? (c : Char) : Option Bracket :=
  if c = ')' then some round
  else if c = ']' then some square
  else if c = '}' then some curly
  else none

@[simp] theorem ofOpener?_opener (b : Bracket) : ofOpener? b.opener = some b := by
  cases b <;> rfl

@[simp] theorem ofCloser?_closer (b : Bracket) : ofCloser? b.closer = some b := by
  cases b <;> rfl

end Bracket

/-- Whether a character starts a literal. -/
def isQuote (c : Char) : Bool := c = '"' || c = '\x27'

/-! ## 2. Depth -/

/-- How many brackets of each kind are open. -/
structure Depth where
  round : Nat := 0
  square : Nat := 0
  curly : Nat := 0
deriving DecidableEq, Repr

namespace Depth

/-- The depth with one more bracket of a kind open. -/
def raise (d : Depth) : Bracket → Depth
  | .round => { d with round := d.round + 1 }
  | .square => { d with square := d.square + 1 }
  | .curly => { d with curly := d.curly + 1 }

/-- The number of open brackets of a kind. -/
def count (d : Depth) : Bracket → Nat
  | .round => d.round
  | .square => d.square
  | .curly => d.curly

/-- The depth with one bracket of a kind closed, when one is open. -/
def lower? (d : Depth) (b : Bracket) : Option Depth :=
  if d.count b = 0 then none
  else match b with
    | .round => some { d with round := d.round - 1 }
    | .square => some { d with square := d.square - 1 }
    | .curly => some { d with curly := d.curly - 1 }

/-- The depth inside one bracket of a kind, and no other. -/
def inside (b : Bracket) : Depth := raise {} b

@[simp] theorem lower?_raise (d : Depth) (b : Bracket) : (d.raise b).lower? b = some d := by
  cases b <;> simp [raise, lower?, count]

/-- The first kind, in the order round, square, curly, that is open. -/
def firstOpen? (d : Depth) : Option Bracket :=
  if d.round > 0 then some .round
  else if d.square > 0 then some .square
  else if d.curly > 0 then some .curly
  else none

theorem firstOpen?_eq_none_iff (d : Depth) : d.firstOpen? = none ↔ d = {} := by
  obtain ⟨r, s, c⟩ := d
  simp only [firstOpen?, Depth.mk.injEq]
  repeat' split
  all_goals simp
  all_goals omega

end Depth

/-! ## 3. Errors -/

/-- What is wrong with the nesting of a text. -/
inductive NestingError where
  /-- A closing bracket, at a byte offset, of a kind that is not open. -/
  | unexpectedClose (bracket : Bracket) (offset : Nat)
  /-- A bracket that is open at the end. -/
  | unclosed (bracket : Bracket)
  /-- A literal that is open at the end. -/
  | unterminatedQuote (quote : Char)
deriving DecidableEq, Repr

namespace NestingError

/-- The text of an error. -/
def message : NestingError → Text
  | unexpectedClose b offset =>
    "unexpected `".toList ++ [b.closer] ++ "` at byte ".toList ++ Decimal.ofNat offset
  | unclosed b => "unclosed `".toList ++ [b.opener, '\x60']
  | unterminatedQuote q => "unterminated ".toList ++ [q] ++ "-quoted string".toList

end NestingError

/-! ## 4. The state -/

/-- What a scan knows at one place: the open brackets, the quote of the
literal it is inside, and whether the character before was a backslash that
takes the next one literally. -/
structure ScanState where
  depth : Depth := {}
  quote : Option Char := none
  escaped : Bool := false
deriving DecidableEq, Repr

namespace ScanState

/-- Whether the place is outside every literal and every bracket. -/
def isTopLevel (s : ScanState) : Bool := s.quote.isNone && s.depth = {}

/-- The state after a character, or the kind of a closing bracket that has
nothing to close. -/
def step (s : ScanState) (c : Char) : Except Bracket ScanState :=
  match s.quote with
  | some q =>
    if s.escaped then .ok { s with escaped := false }
    else if c = '\\' then .ok { s with escaped := true }
    else if c = q then .ok { s with quote := none }
    else .ok s
  | none =>
    if isQuote c then .ok { s with quote := some c }
    else match Bracket.ofOpener? c with
      | some b => .ok { s with depth := s.depth.raise b }
      | none => match Bracket.ofCloser? c with
        | none => .ok s
        | some b => match s.depth.lower? b with
          | some d => .ok { s with depth := d }
          | none => .error b

/-- The state after a character that stands at a byte offset. -/
def advance (s : ScanState) (c : Char) (offset : Nat) : Except NestingError ScanState :=
  (s.step c).mapError fun b => .unexpectedClose b offset

/-- Whether a scan that ends in this state has left nothing open. -/
def finish (s : ScanState) : Except NestingError Unit :=
  match s.quote with
  | some q => .error (.unterminatedQuote q)
  | none => match s.depth.firstOpen? with
    | some b => .error (.unclosed b)
    | none => .ok ()

theorem finish_eq_ok_iff (s : ScanState) : s.finish = .ok () ↔ s.isTopLevel := by
  unfold finish isTopLevel
  cases s.quote with
  | some q => simp
  | none =>
    have h := Depth.firstOpen?_eq_none_iff s.depth
    cases hd : s.depth.firstOpen? with
    | none => simpa [hd] using h
    | some b => simp [hd] at h; simpa using h

end ScanState

end PlanScript
