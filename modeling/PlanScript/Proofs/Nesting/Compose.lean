/-
PlanScript.Proofs.Nesting.Compose — scanning a text in two parts.

A scan uses the offset it starts at only to report places: further on in a
text it lists the same visits and fails with the same error, with their
offsets moved (`scanFrom_add`, `runFrom_add`). Behind the first part of a text
it goes on from the state after that part (`scanFrom_append`,
`runFrom_append`). When the first part is balanced, that state is the one a
scan starts in. So a balanced text in front changes nothing but offsets, for
the top level (`topLevel_append`) and for the nesting check
(`checkNesting_append`).
-/
import PlanScript.Proofs.Nesting.Run

namespace PlanScript

/-! ## 1. Offsets -/

/-- The error as it is reported when its text stands `n` bytes further on.
Only an unexpected bracket has an offset. -/
def NestingError.shift (n : Nat) : NestingError → NestingError
  | unexpectedClose b offset => unexpectedClose b (offset + n)
  | unclosed b => unclosed b
  | unterminatedQuote q => unterminatedQuote q

/-- The visit when its text stands `n` bytes further on. -/
def Visit.shift (n : Nat) (v : Visit) : Visit := { v with offset := v.offset + n }

/-- A scan that starts further on lists the same visits further on. -/
theorem scanFrom_add (s : ScanState) (offset n : Nat) (t : Text) :
    scanFrom s (offset + n) t = (scanFrom s offset t).map (Visit.shift n) := by
  induction t generalizing s offset with
  | nil => rfl
  | cons c t ih =>
    have hoffset : offset + n + c.utf8Size = offset + c.utf8Size + n := by omega
    rw [scanFrom, scanFrom, List.map_cons]
    cases s.step c with
    | ok next => simp only [hoffset, ih, Visit.shift]
    | error b => rfl

/-- A scan that starts at an offset lists the visits of the text, that far on. -/
theorem scanFrom_start (offset : Nat) (t : Text) :
    scanFrom {} offset t = (scan t).map (Visit.shift offset) := by
  rw [scan, ← scanFrom_add, Nat.zero_add]

/-- A scan that starts further on ends in the same state, or fails with the
same error further on. -/
theorem runFrom_add (s : ScanState) (offset n : Nat) (t : Text) :
    runFrom s (offset + n) t = (runFrom s offset t).mapError (NestingError.shift n) := by
  induction t generalizing s offset with
  | nil => rfl
  | cons c t ih =>
    have hoffset : offset + n + c.utf8Size = offset + c.utf8Size + n := by omega
    cases hstep : s.step c with
    | ok next => rw [runFrom_cons_of_step hstep, runFrom_cons_of_step hstep, hoffset, ih]
    | error b =>
      rw [runFrom_cons_of_step_error hstep, runFrom_cons_of_step_error hstep]
      rfl

/-- What is open at the end has no offset. -/
theorem mapError_finish (s : ScanState) (n : Nat) :
    s.finish.mapError (NestingError.shift n) = s.finish := by
  unfold ScanState.finish
  split
  · rfl
  · split <;> rfl

/-! ## 2. Two parts -/

/-- A scan goes through the first part, and then through the second one from
where it got. -/
theorem scanFrom_append {s m : ScanState} {u : Text} (h : s.after? u = some m) (offset : Nat)
    (v : Text) :
    scanFrom s offset (u ++ v) = scanFrom s offset u ++ scanFrom m (offset + u.bytes) v := by
  induction u generalizing s offset with
  | nil => cases h; rfl
  | cons c u ih =>
    obtain ⟨next, hstep, hrest⟩ := ScanState.step_of_after?_cons h
    rw [List.cons_append, scanFrom, scanFrom, hstep]
    simp only [ih hrest, List.cons_append, Text.bytes_cons, Nat.add_assoc]

theorem runFrom_append {s m : ScanState} {u : Text} (h : s.after? u = some m) (offset : Nat)
    (v : Text) : runFrom s offset (u ++ v) = runFrom m (offset + u.bytes) v := by
  induction u generalizing s offset with
  | nil => cases h; rfl
  | cons c u ih =>
    obtain ⟨next, hstep, hrest⟩ := ScanState.step_of_after?_cons h
    rw [List.cons_append, runFrom_cons_of_step hstep, Text.bytes_cons, ← Nat.add_assoc, ih hrest]

/-! ## 3. Behind a balanced text -/

/-- The visits of a text behind a balanced one are its own, further on. -/
theorem scan_append {u : Text} (hu : Balanced u) (v : Text) :
    scan (u ++ v) = scan u ++ (scan v).map (Visit.shift u.bytes) := by
  rw [scan, scanFrom_append hu, Nat.zero_add, scanFrom_start u.bytes]
  rfl

theorem topLevel_append {u : Text} (hu : Balanced u) (v : Text) :
    topLevel (u ++ v) = topLevel u ++ (topLevel v).map (Visit.shift u.bytes) := by
  rw [topLevel, scan_append hu, List.filter_append, List.filter_map]
  rfl

/-- The check of a text behind a balanced one is its own, with its error
further on. -/
theorem checkNesting_append {u : Text} (hu : Balanced u) (v : Text) :
    checkNesting (u ++ v) = (checkNesting v).mapError (NestingError.shift u.bytes) := by
  simp only [checkNesting, runFrom_append hu, runFrom_add, bind, Except.bind]
  cases runFrom {} 0 v with
  | error e => rfl
  | ok last => exact (mapError_finish last u.bytes).symm

end PlanScript
