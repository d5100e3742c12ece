/-
PlanScript.Proofs.Fixture.Check — what it says of a parse that its fixture
passes.

A fixture says what to expect of a failure or of a plan, and what it does not
say is not expected. Each check passes exactly when the one thing that it looks
at is as expected, and checks in turn pass when all of them do. So a fixture
that speaks of an error passes exactly when the parse fails with such an error
(`FailsAsExpected`), and every other one exactly when the parse gives such a
plan (`SucceedsAsExpected`); see `check_eq_ok_iff`.

Records are compared pair by pair, and pairs stop where the shorter list does;
it is the count before that makes the comparison one of whole lists
(`checkRecords_eq_ok_iff`). The pair that is reported stands at the first place
where the lists differ (`firstDifference?_eq_some_iff`).
-/
import PlanScript.Fixture.Check
import PlanScript.Proofs.Text.Search

namespace PlanScript

namespace Expectations

/-! ## 1. One check -/

/-- Two checks in turn pass when both do. -/
theorem bind_eq_ok_iff {ε : Type} {a b : Except ε Unit} :
    (do a; b) = .ok () ↔ a = .ok () ∧ b = .ok () := by
  cases a <;> simp [bind, Except.bind]

/-- What two checks in turn report comes from the second one only if the first
one passes. -/
theorem bind_eq_error_iff {ε : Type} {a b : Except ε Unit} {e : ε} :
    (do a; b) = .error e ↔ a = .error e ∨ a = .ok () ∧ b = .error e := by
  cases a <;> simp [bind, Except.bind]

theorem checkCount_eq_ok_iff (expected : Option Nat) (actual : Nat) :
    checkCount expected actual = .ok () ↔ ∀ n ∈ expected, actual = n := by
  cases expected <;> simp [checkCount]

theorem checkErrorText_eq_ok_iff (expected : Option Text) (e : ParseError) :
    checkErrorText expected e = .ok () ↔ ∀ t ∈ expected, t <:+: e.message := by
  cases expected <;> simp [checkErrorText, Text.hasInfix_iff]

theorem checkErrorStep_eq_ok_iff (expected : Option Nat) (e : ParseError) :
    checkErrorStep expected e = .ok () ↔ ∀ n ∈ expected, e.step = n := by
  cases expected <;> simp [checkErrorStep]

/-! ## 2. Records -/

/-- The lists differ at a place, and nowhere before it. -/
structure DifferFirstAt (xs ys : List Record) (i : Nat) : Prop where
  differ : xs[i]? ≠ ys[i]?
  agree : ∀ j < i, xs[j]? = ys[j]?

theorem differFirstAt_zero_iff {x y : Record} {xs ys : List Record} :
    DifferFirstAt (x :: xs) (y :: ys) 0 ↔ x ≠ y :=
  ⟨fun h => by simpa using h.differ, fun h => ⟨by simpa using h, by simp⟩⟩

theorem differFirstAt_succ_iff {x y : Record} {xs ys : List Record} {i : Nat} :
    DifferFirstAt (x :: xs) (y :: ys) (i + 1) ↔ x = y ∧ DifferFirstAt xs ys i := by
  constructor
  · intro h
    refine ⟨by simpa using h.agree 0 (Nat.succ_pos i), by simpa using h.differ, fun j hj => ?_⟩
    simpa using h.agree (j + 1) (Nat.succ_lt_succ hj)
  · rintro ⟨rfl, h⟩
    refine ⟨by simpa using h.differ, fun j hj => ?_⟩
    cases j with
    | zero => rfl
    | succ j => simpa using h.agree j (Nat.lt_of_succ_lt_succ hj)

/-- The pair that is found stands at the first place where the lists differ. -/
theorem firstDifference?_eq_some_iff {expected actual : List Record} {e a : Record} :
    firstDifference? expected actual = some (e, a) ↔
      ∃ i, DifferFirstAt expected actual i ∧ expected[i]? = some e ∧ actual[i]? = some a := by
  induction expected generalizing actual with
  | nil => simp [firstDifference?]
  | cons x xs ih =>
    cases actual with
    | nil => simp [firstDifference?]
    | cons y ys =>
      rw [firstDifference?, List.zip_cons_cons, List.find?_cons, ← Nat.or_exists_add_one]
      simp only [differFirstAt_zero_iff, differFirstAt_succ_iff]
      by_cases hxy : x = y
      · simpa [hxy, and_assoc, firstDifference?] using ih
      · simp [hxy, Ne.symm hxy]

/-- Between lists of one length no pair is found exactly when they are equal. -/
theorem firstDifference?_eq_none_iff {expected actual : List Record}
    (h : expected.length = actual.length) :
    firstDifference? expected actual = none ↔ expected = actual := by
  induction expected generalizing actual with
  | nil => simp [firstDifference?, List.eq_nil_of_length_eq_zero h.symm]
  | cons x xs ih =>
    cases actual with
    | nil => contradiction
    | cons y ys =>
      have hrest := ih (Nat.succ.inj h)
      rw [firstDifference?] at hrest
      rw [firstDifference?, List.zip_cons_cons, List.find?_cons]
      by_cases hxy : x = y
      · simpa [hxy] using hrest
      · simp [hxy, Ne.symm hxy]

theorem checkRecords_eq_ok_iff (expected : Option (List Record)) (actual : List Record) :
    checkRecords expected actual = .ok () ↔ ∀ records ∈ expected, actual = records := by
  cases expected with
  | none => simp [checkRecords]
  | some records =>
    rw [checkRecords, bind_eq_ok_iff, checkCount_eq_ok_iff]
    simp only [Option.mem_some_iff, forall_eq']
    constructor
    · rintro ⟨hlength, hpairs⟩
      refine ((firstDifference?_eq_none_iff hlength.symm).mp ?_).symm
      cases hfirst : firstDifference? records actual with
      | none => rfl
      | some pair => simp [hfirst] at hpairs
    · rintro rfl
      refine ⟨rfl, ?_⟩
      rw [(firstDifference?_eq_none_iff rfl).mpr rfl]

theorem checkCount_ne_wrongRecord (expected : Option Nat) (actual : Nat) (e a : Record) :
    checkCount expected actual ≠ .error (.wrongRecord e a) := by
  unfold checkCount
  grind

theorem checkError_ne_wrongRecord (x : Expectations) (error : ParseError) (e a : Record) :
    x.checkError error ≠ .error (.wrongRecord e a) := by
  rw [checkError, ne_eq, bind_eq_error_iff]
  unfold checkErrorText checkErrorStep
  grind

/-- A pair of records is reported from lists of one length only. -/
theorem checkRecords_eq_wrongRecord_iff (expected : Option (List Record)) (actual : List Record)
    (e a : Record) :
    checkRecords expected actual = .error (.wrongRecord e a) ↔
      ∃ records ∈ expected, actual.length = records.length ∧
        firstDifference? records actual = some (e, a) := by
  cases expected with
  | none => simp [checkRecords]
  | some records =>
    rw [checkRecords, bind_eq_error_iff, checkCount_eq_ok_iff]
    simp only [checkCount_ne_wrongRecord, false_or, Option.mem_some_iff, forall_eq',
      exists_eq_left']
    refine and_congr_right fun _ => ?_
    cases firstDifference? records actual <;> simp [Prod.ext_iff]

/-! ## 3. A whole fixture -/

/-- The fixture says something about an error. -/
def SpeaksOfError (x : Expectations) : Prop :=
  x.parseError = true ∨ (∃ t, x.errorText = some t) ∨ ∃ n, x.errorStep = some n

/-- The parse failed, and its error is as the fixture says. -/
def FailsAsExpected (x : Expectations) (result : Except ParseError (List Instruction)) : Prop :=
  ∃ e, result = .error e ∧ (∀ t ∈ x.errorText, t <:+: e.message) ∧ ∀ n ∈ x.errorStep, e.step = n

/-- The parse succeeded, and its instructions are as the fixture says. -/
def SucceedsAsExpected (x : Expectations) (result : Except ParseError (List Instruction)) : Prop :=
  ∃ plan, result = .ok plan ∧ (∀ n ∈ x.count, plan.length = n) ∧
    ∀ records ∈ x.instructions, plan.map Instruction.record = records

theorem expectsFailure_iff (x : Expectations) : x.expectsFailure = true ↔ x.SpeaksOfError := by
  rw [expectsFailure, SpeaksOfError, Bool.or_eq_true, Bool.or_eq_true, Option.isSome_iff_exists,
    Option.isSome_iff_exists, or_assoc]

variable (x : Expectations) (result : Except ParseError (List Instruction))

theorem check_eq_ok_iff :
    x.check result = .ok () ↔
      x.SpeaksOfError ∧ x.FailsAsExpected result ∨
        ¬ x.SpeaksOfError ∧ x.SucceedsAsExpected result := by
  rw [← expectsFailure_iff, FailsAsExpected, SucceedsAsExpected]
  cases result with
  | error e =>
    rw [check]
    cases hfails : x.expectsFailure with
    | true => simp [checkError, bind_eq_ok_iff, checkErrorText_eq_ok_iff, checkErrorStep_eq_ok_iff]
    | false => simp
  | ok plan =>
    rw [check]
    cases hfails : x.expectsFailure with
    | true => simp
    | false => simp [bind_eq_ok_iff, checkCount_eq_ok_iff, checkRecords_eq_ok_iff]

theorem check_eq_wrongRecord_iff (e a : Record) :
    x.check result = .error (.wrongRecord e a) ↔
      ¬ x.SpeaksOfError ∧ ∃ plan, result = .ok plan ∧ (∀ n ∈ x.count, plan.length = n) ∧
        ∃ records ∈ x.instructions, plan.length = records.length ∧
          ∃ i, DifferFirstAt records (plan.map Instruction.record) i ∧ records[i]? = some e ∧
            (plan.map Instruction.record)[i]? = some a := by
  rw [← expectsFailure_iff]
  cases result with
  | error error =>
    rw [check]
    cases hfails : x.expectsFailure with
    | true => simp [checkError_ne_wrongRecord]
    | false => simp
  | ok plan =>
    rw [check]
    cases hfails : x.expectsFailure with
    | true => simp
    | false =>
      simp [bind_eq_error_iff, checkCount_ne_wrongRecord, checkCount_eq_ok_iff,
        checkRecords_eq_wrongRecord_iff, firstDifference?_eq_some_iff]

end Expectations

open Expectations

/-- A fixture passes exactly when all that it says of the parse holds.

* If it speaks of an error, the parse of its body with its options fails, and
  the error is as it says. If it does not, the parse succeeds, and number and
  records of the instructions are as it says.
* A pair of records is reported exactly when nothing else is wrong and the
  lists, of one length, first differ where the two stand. -/
theorem fixture_passes_iff (f : Fixture) (markdown : Markdown.EventReader) :
    (f.check markdown = .ok () ↔
      f.expectations.SpeaksOfError ∧
          f.expectations.FailsAsExpected (parse f.expectations.options 0 f.body markdown) ∨
        ¬ f.expectations.SpeaksOfError ∧
          f.expectations.SucceedsAsExpected (parse f.expectations.options 0 f.body markdown)) ∧
    ∀ e a, f.check markdown = .error (.wrongRecord e a) ↔
      ¬ f.expectations.SpeaksOfError ∧
        ∃ plan, parse f.expectations.options 0 f.body markdown = .ok plan ∧
          (∀ n ∈ f.expectations.count, plan.length = n) ∧
          ∃ records ∈ f.expectations.instructions, plan.length = records.length ∧
            ∃ i, DifferFirstAt records (plan.map Instruction.record) i ∧
              records[i]? = some e ∧ (plan.map Instruction.record)[i]? = some a :=
  ⟨check_eq_ok_iff _ _, check_eq_wrongRecord_iff _ _⟩

end PlanScript
