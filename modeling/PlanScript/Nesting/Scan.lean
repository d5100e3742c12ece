/-
PlanScript.Nesting.Scan — walking a text and checking its nesting.

`scan` lists the characters of a text, each with its byte offset and the
state before it, up to and including the first character that breaks the
nesting. `topLevel` keeps those outside every literal and bracket, and
`checkNesting` runs to the end and asks that nothing is left open.
-/
import PlanScript.Nesting.Basic

namespace PlanScript

/-- One place of a scan. -/
structure Visit where
  offset : Nat
  char : Char
  before : ScanState
deriving DecidableEq, Repr

/-- The places of a text that is scanned from a state and an offset on. -/
def scanFrom (s : ScanState) (offset : Nat) : Text → List Visit
  | [] => []
  | c :: rest =>
    ⟨offset, c, s⟩ :: match s.step c with
      | .ok next => scanFrom next (offset + c.utf8Size) rest
      | .error _ => []

/-- The places of a text, up to the first character that breaks nesting. -/
def scan (t : Text) : List Visit := scanFrom {} 0 t

/-- The places of a text that are outside every literal and bracket. -/
def topLevel (t : Text) : List Visit := (scan t).filter (·.before.isTopLevel)

/-- The state after a text that is scanned from a state and an offset on. -/
def runFrom (s : ScanState) (offset : Nat) : Text → Except NestingError ScanState
  | [] => .ok s
  | c :: rest => do runFrom (← s.advance c offset) (offset + c.utf8Size) rest

/-- Checks that every quote and bracket of a text is closed. -/
def checkNesting (t : Text) : Except NestingError Unit := do
  (← runFrom {} 0 t).finish

end PlanScript
