/-
PlanScript.Nesting.Cut — cutting a text at a place of its scan.

Every search in a line looks for the first place with some property: the
closing bracket of a group, the sign of an assignment, the colon of a dict
entry. `cut` returns the text before and after that place, so nothing is
lost (`append_of_cut`) and an offset is the length of the text before it.

`Group.ofText?` cuts off the group that a text starts with. Its closing
bracket is the first one of its kind where that kind is open once and the
other kinds are not open at all.
-/
import PlanScript.Nesting.Scan

namespace PlanScript

/-! ## 1. Cutting -/

/-- A place of a scan together with its neighbours. -/
structure Place where
  before : ScanState
  previous : Option Char
  char : Char
  next : Option Char

/-- Cuts at the first place with a property, scanning from a state on. -/
def cutFrom (wanted : Place → Bool) (s : ScanState) (previous : Option Char) :
    Text → Option (Text × Text)
  | [] => none
  | c :: rest =>
    if wanted ⟨s, previous, c, rest.head?⟩ then some ([], rest)
    else match s.step c with
      | .ok next => (cutFrom wanted next (some c) rest).map fun (left, right) => (c :: left, right)
      | .error _ => none

/-- Cuts at the first place with a property: the text before it and the
text after it. -/
def cut (wanted : Place → Bool) (t : Text) : Option (Text × Text) := cutFrom wanted {} none t

theorem append_of_cutFrom {wanted : Place → Bool} {s : ScanState} {previous : Option Char}
    {t left right : Text} (h : cutFrom wanted s previous t = some (left, right)) :
    ∃ p : Place, wanted p ∧ t = left ++ p.char :: right := by
  induction t generalizing s previous left with
  | nil => simp [cutFrom] at h
  | cons c t ih =>
    simp only [cutFrom] at h
    split at h
    · next hw =>
      simp only [Option.some.injEq, Prod.mk.injEq] at h
      exact ⟨_, hw, by simp [← h.1, ← h.2]⟩
    · split at h
      · simp only [Option.map_eq_some_iff, Prod.exists, Prod.mk.injEq] at h
        obtain ⟨l, r, hlr, rfl, rfl⟩ := h
        obtain ⟨p, hp, ht⟩ := ih hlr
        exact ⟨p, hp, by simp [ht]⟩
      · simp at h

/-- A cut loses one character, the one it was made at. -/
theorem append_of_cut {wanted : Place → Bool} {t left right : Text}
    (h : cut wanted t = some (left, right)) :
    ∃ p : Place, wanted p ∧ t = left ++ p.char :: right := append_of_cutFrom h

/-- Whether some place of a text has a property. -/
def hasPlace (wanted : Place → Bool) (t : Text) : Bool := (cut wanted t).isSome

/-- The place is a given character outside every literal and bracket. -/
def Place.isTopLevelChar (c : Char) (p : Place) : Bool := p.before.isTopLevel && p.char = c

/-! ## 2. Groups -/

/-- A bracketed group at the start of a text. -/
structure Group where
  bracket : Bracket
  /-- The text between the brackets. -/
  body : Text
  /-- The text after the closing bracket. -/
  rest : Text
deriving DecidableEq, Repr

/-- The place closes a bracket of a kind that is open once, with no other
kind open. -/
def Place.closes (b : Bracket) (p : Place) : Bool :=
  p.char = b.closer && p.before.quote.isNone && p.before.depth = Depth.inside b

/-- The group that a text starts with. -/
def Group.ofText? : Text → Option Group
  | [] => none
  | c :: rest =>
    (Bracket.ofOpener? c).bind fun b =>
      (cutFrom (·.closes b) { depth := Depth.inside b } (some c) rest).map fun (body, rest) =>
        ⟨b, body, rest⟩

/-- The byte offset of the bracket that closes the group a text starts
with. -/
def closingOffset? (t : Text) : Option Nat :=
  (Group.ofText? t).map fun g => 1 + g.body.bytes

/-- The text between the brackets, when a text is one group of a kind and
nothing else. -/
def enclosed? (b : Bracket) (t : Text) : Option Text :=
  (Group.ofText? t).bind fun g => if g.bracket = b && g.rest.isEmpty then some g.body else none

end PlanScript
