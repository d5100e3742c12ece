/-
PlanScript.Proofs.Plan.Position — the offset of an unexpected bracket.

An unexpected closing bracket is reported with a byte offset. The scan that
finds it counts from the start of the text it was given
(`checkNesting_eq_unexpectedClose_iff`), and so the offset belongs to that
text. There are two scans. The check of the line is given the line, and its
offsets are positions in it. The splitter is given a list on the line, and
its offsets go up unchanged: they count from the start of the list.

The second scan fails only where the first one has missed something. The
line passes the check, since the counts of its brackets work out, and
brackets of two kinds cross in it (`position_of_unexpectedClose`). So on
`f([)](a)` the round bracket behind the square one is reported at byte 1,
where an opening one stands (`position_with_crossing_brackets`).
-/
import PlanScript.Proofs.Plan.Run
import PlanScript.Proofs.Statement.Nested

namespace PlanScript

/-! ## 1. Characters at a byte offset -/

/-- The character starts at the byte offset. -/
def CharAt (t : Text) (offset : Nat) (c : Char) : Prop :=
  ∃ left right : Text, t = left ++ c :: right ∧ left.bytes = offset

/-- One character at most starts at an offset. -/
theorem CharAt.unique {t : Text} {offset : Nat} {c d : Char} (hc : CharAt t offset c)
    (hd : CharAt t offset d) : c = d := by
  obtain ⟨left, right, rfl, rfl⟩ := hc
  obtain ⟨left', right', hsplit, hbytes⟩ := hd
  induction left generalizing left' with
  | nil =>
    cases left' with
    | nil => exact (List.cons.inj hsplit).1
    | cons a left' =>
      have hpos := a.utf8Size_pos
      simp only [Text.bytes_nil, Text.bytes_cons] at hbytes
      omega
  | cons a left ih =>
    cases left' with
    | nil =>
      have hpos := a.utf8Size_pos
      simp only [Text.bytes_nil, Text.bytes_cons] at hbytes
      omega
    | cons a' left' =>
      obtain ⟨rfl, hrest⟩ := List.cons.inj hsplit
      simp only [Text.bytes_cons, Nat.add_left_cancel_iff] at hbytes
      exact ih left' hrest hbytes

/-- In a longer text an offset counts from further on. -/
theorem CharAt.within {t : Text} {offset : Nat} {c : Char} (h : CharAt t offset c)
    (before after : Text) : CharAt (before ++ t ++ after) (before.bytes + offset) c := by
  obtain ⟨left, right, rfl, rfl⟩ := h
  exact ⟨before ++ left, right ++ after, by simp, Text.bytes_append _ _⟩

/-- The bracket that the check names stands at the offset that it gives. -/
theorem charAt_of_checkNesting {t : Text} {b : Bracket} {offset : Nat}
    (h : checkNesting t = .error (.unexpectedClose b offset)) : CharAt t offset b.closer := by
  obtain ⟨left, right, _, ht, _, _, _, hoffset⟩ := (checkNesting_eq_unexpectedClose_iff ..).mp h
  exact ⟨left, right, ht, hoffset⟩

/-! ## 2. Where a reported bracket stands -/

/-- The nesting fault of a line comes from the check of the line, or from the
check of a list on a line that passed. -/
theorem checkNesting_of_faulty {options : Options} {line : Text} {n : NestingError}
    (h : Faulty options line (.malformedNesting n)) :
    checkNesting line = .error n ∨
      checkNesting line = .ok () ∧
        ∃ list, ElementList line list ∧ checkNesting list = .error n := by
  cases h with
  | nesting herror => exact .inl herror
  | literalNesting hcheck herror =>
    obtain ⟨form, _, hread⟩ := exists_read_of_firstClaim herror
    exact .inr ⟨hcheck, exists_elementList_of_read hread⟩

/-- A list that fails, on a line that passes, gives crossing brackets away. -/
theorem interleaved_of_elementList {line list : Text} {n : NestingError}
    (hline : checkNesting line = .ok ()) (hlist : ElementList line list)
    (herror : checkNesting list = .error n) : Interleaved line := by
  refine Classical.byContradiction ?_
  intro hno
  have hnested := ((checkNesting_eq_ok_iff line).mp hline).wellNested hno
  rw [(checkNesting_eq_ok_iff list).mpr (hnested.of_elementList hlist).balanced] at herror
  contradiction

/-- A closing bracket that is reported as unexpected stands where the error
says, in the line or in a list on it.

* Where the check of the line finds it, the offset is its position in the
  line.
* Otherwise the line passes the check, brackets of two kinds cross in it, and
  the offset counts from the start of the list: in the line the bracket
  stands as many bytes further on as there are before the list. -/
theorem position_of_unexpectedClose {options : Options} {fileId : Nat} {source : Text}
    {markdown : Markdown.EventReader} {e : ParseError} {b : Bracket} {offset : Nat}
    (h : parse options fileId source markdown = .error e)
    (hfault : e.fault = .malformedNesting (.unexpectedClose b offset)) :
    (checkNesting e.line.text = .error (.unexpectedClose b offset) ∧
      CharAt e.line.text offset b.closer) ∨
    (checkNesting e.line.text = .ok () ∧ Interleaved e.line.text ∧
      ∃ before list after, e.line.text = before ++ list ++ after ∧
        ElementList e.line.text list ∧ checkNesting list = .error (.unexpectedClose b offset) ∧
        CharAt list offset b.closer ∧
        CharAt e.line.text (Text.bytes before + offset) b.closer) := by
  obtain ⟨line, _, rfl, hfaulty⟩ := fault_of_parse h
  rw [hfault] at hfaulty
  rcases checkNesting_of_faulty hfaulty with herror | ⟨hcheck, list, hlist, herror⟩
  · exact .inl ⟨herror, charAt_of_checkNesting herror⟩
  · have hat := charAt_of_checkNesting herror
    obtain ⟨before, after, hsplit⟩ := part_of_elementList hlist
    refine .inr ⟨hcheck, interleaved_of_elementList hcheck hlist herror, before, list, after,
      hsplit.symm, hlist, herror, hat, ?_⟩
    have hwithin := hat.within before after
    rwa [hsplit] at hwithin

/-- With no bracket open, the position is one in the line; in the arguments
of a call, it counts from their start. -/
theorem position_of_unexpectedClose_lines :
    CharAt "x = 1]".toList 5 ']' ∧
      ∃ before list after, "f([)](a)".toList = before ++ list ++ after ∧
        CharAt list 1 ')' ∧ CharAt "f([)](a)".toList (Text.bytes before + 1) ')' := by
  have hline : parse {} 0 "x = 1]".toList Markdown.events
      = .error ⟨.malformedNesting (.unexpectedClose .square 5), 1, ⟨"x = 1]".toList, 0⟩, 0⟩ := rfl
  have hlist : parse {} 0 "f([)](a)".toList Markdown.events
      = .error ⟨.malformedNesting (.unexpectedClose .round 1), 1, ⟨"f([)](a)".toList, 0⟩, 0⟩ := rfl
  refine ⟨?_, ?_⟩
  · rcases position_of_unexpectedClose hline rfl with ⟨_, hat⟩ | ⟨hcheck, _⟩
    · exact hat
    · contradiction
  · rcases position_of_unexpectedClose hlist rfl with ⟨herror, _⟩ | ⟨_, _, rest⟩
    · contradiction
    · obtain ⟨before, list, after, hsplit, _, _, hat, hwithin⟩ := rest
      exact ⟨before, list, after, hsplit, hat, hwithin⟩

/-- Where brackets cross, a line that passes the check is reported with an
unexpected closing bracket, at an offset where no such bracket stands in it. -/
theorem position_with_crossing_brackets :
    ∃ e, parse {} 0 "f([)](a)".toList Markdown.events = .error e ∧
      e.line.text = "f([)](a)".toList ∧
      e.fault = .malformedNesting (.unexpectedClose .round 1) ∧
      checkNesting e.line.text = .ok () ∧ CharAt e.line.text 1 '(' ∧
      ¬ CharAt e.line.text 1 (Bracket.closer .round) := by
  have hopen : CharAt "f([)](a)".toList 1 '(' := ⟨['f'], "[)](a)".toList, rfl, rfl⟩
  refine ⟨⟨_, _, ⟨"f([)](a)".toList, 0⟩, _⟩, rfl, rfl, rfl, rfl, hopen, ?_⟩
  intro hclose
  exact absurd (hopen.unique hclose) (by decide)

end PlanScript
