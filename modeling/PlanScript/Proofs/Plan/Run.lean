/-
PlanScript.Proofs.Plan.Run — a parse, line by line.

`States` and `Faulty` judge one line on its own: it makes a statement, or it
has a fault (`states_or_faulty`), and never both (`States.not_faulty`). A step
of the cursor is then one of three (`Cursor.next_of_states`,
`Cursor.next_of_faulty`, `Cursor.next_of_nil`).

`runs_line_by_line` puts the steps together. Up to the first faulty line
both ways to run through a source give the statements of the lines, numbered
from one; at that line they give its fault; and nothing behind it counts.
-/
import Mathlib.Data.List.Forall2
import PlanScript.Proofs.Statement.Form
import PlanScript.Plan.Parse

namespace PlanScript

open Markdown (EventReader)

variable {options : Options} {fileId done : Nat} {line : Line} {s : Statement} {fault : Fault}

/-! ## 1. One line -/

/-- The line is well nested and recognized as a statement. -/
def States (options : Options) (line : Text) (s : Statement) : Prop :=
  checkNesting line = .ok () ∧ Recognizes options line s

/-- What is wrong with a line on its own. Nesting comes first, and a nesting
error that comes out of a literal is a nesting fault too. -/
inductive Faulty (options : Options) (line : Text) : Fault → Prop
  | nesting {e : NestingError} :
    checkNesting line = .error e → Faulty options line (.malformedNesting e)
  | literalNesting {e : NestingError} :
    checkNesting line = .ok () → recognize options line = .error (.nesting e) →
    Faulty options line (.malformedNesting e)
  | literal {entry : Text} :
    checkNesting line = .ok () → recognize options line = .error (.entryWithoutColon entry) →
    Faulty options line (.malformedLiteral (.entryWithoutColon entry))
  | unparseable :
    checkNesting line = .ok () → recognize options line = .ok none →
    Faulty options line .unparseable

/-- A line makes a statement or has a fault. -/
theorem states_or_faulty (options : Options) (line : Text) :
    (∃ s, States options line s) ∨ ∃ fault, Faulty options line fault := by
  cases hnesting : checkNesting line with
  | error e => exact .inr ⟨_, .nesting hnesting⟩
  | ok u =>
    cases hread : recognize options line with
    | error e =>
      cases e with
      | nesting e => exact .inr ⟨_, .literalNesting hnesting hread⟩
      | entryWithoutColon entry => exact .inr ⟨_, .literal hnesting hread⟩
    | ok claim =>
      cases claim with
      | none => exact .inr ⟨_, .unparseable hnesting hread⟩
      | some claim => exact .inl ⟨claim.2.statement, hnesting, claim.1, claim.2, hread, rfl⟩

theorem readLine_of_states {line : Text} (h : States options line s) :
    ∃ form reading, readLine options line = .ok (form, reading) ∧ reading.statement = s := by
  obtain ⟨hnesting, form, reading, hread, hs⟩ := h
  refine ⟨form, reading, ?_, hs⟩
  rw [readLine, hnesting]
  simp only [hread]

theorem readLine_of_faulty {line : Text} (h : Faulty options line fault) :
    readLine options line = .error fault := by
  cases h with
  | nesting hnesting =>
    rw [readLine, hnesting]
  | literalNesting hnesting hread =>
    rw [readLine, hnesting]
    simp only [hread, Fault.ofLiteral]
  | literal hnesting hread =>
    rw [readLine, hnesting]
    simp only [hread, Fault.ofLiteral]
  | unparseable hnesting hread =>
    rw [readLine, hnesting]
    simp only [hread]

theorem States.not_faulty {line : Text} (h : States options line s) :
    ¬ Faulty options line fault := by
  intro hfault
  obtain ⟨form, reading, hread, _⟩ := readLine_of_states h
  rw [readLine_of_faulty hfault] at hread
  contradiction

/-- A nesting error is never wrapped in a literal fault. -/
theorem Faulty.ne_literal_nesting {line : Text} (h : Faulty options line fault)
    (e : NestingError) : fault ≠ .malformedLiteral (.nesting e) := by
  cases h <;> simp

theorem parseLine_of_states (h : States options line.text s) (fileId step : Nat) :
    (parseLine options fileId step line).result = .ok (s.build step) := by
  obtain ⟨form, reading, hread, rfl⟩ := readLine_of_states h
  simp only [parseLine, hread]

theorem parseLine_of_faulty (h : Faulty options line.text fault) (fileId step : Nat) :
    (parseLine options fileId step line).result = .error ⟨fault, step, line, fileId⟩ := by
  simp only [parseLine, readLine_of_faulty h]

/-! ## 2. One step of the cursor -/

namespace Cursor

theorem next_of_nil (options : Options) (fileId done : Nat) :
    next ⟨options, fileId, [], done⟩ = (none, ⟨options, fileId, [], done⟩) := rfl

theorem next_of_states (h : States options line.text s) (fileId done : Nat) (rest : List Line) :
    next ⟨options, fileId, line :: rest, done⟩
      = (some (.ok (s.build (done + 1))), ⟨options, fileId, rest, done + 1⟩) := by
  simp only [next, parseLine_of_states h]

theorem next_of_faulty (h : Faulty options line.text fault) (fileId done : Nat)
    (rest : List Line) :
    next ⟨options, fileId, line :: rest, done⟩
      = (some (.error ⟨fault, done + 1, line, fileId⟩), ⟨options, fileId, [], done + 1⟩) := by
  simp only [next, parseLine_of_faulty h]

/-! ## 3. A run of the cursor -/

/-- An exhausted cursor stays exhausted. -/
theorem take_of_nil (options : Options) (fileId done : Nat) {n calls : Nat} (hn : n ≤ calls) :
    take n ⟨options, fileId, [], done⟩ = (List.replicate calls none).take n := by
  induction n generalizing calls with
  | zero => rfl
  | succ n ih =>
    obtain ⟨m, rfl⟩ : ∃ m, calls = m + 1 := ⟨calls - 1, by omega⟩
    have hlater := @ih m (by omega)
    simp only [take, next_of_nil, hlater, List.replicate_succ, List.take_succ_cons]

theorem take_of_faulty (h : Faulty options line.text fault) (fileId done : Nat)
    (rest : List Line) {n calls : Nat} (hn : n ≤ calls) :
    take n ⟨options, fileId, line :: rest, done⟩
      = (some (.error ⟨fault, done + 1, line, fileId⟩) :: List.replicate calls none).take n := by
  cases n with
  | zero => rfl
  | succ n =>
    have hlater := take_of_nil options fileId (done + 1) (show n ≤ calls by omega)
    simp only [take, next_of_faulty h, hlater, List.take_succ_cons]

end Cursor

/-- The lines make the statements, one each. -/
abbrev AllState (options : Options) : List Line → List Statement → Prop :=
  List.Forall₂ fun line s => States options line.text s

/-- The instructions of some statements, numbered after `done` earlier ones. -/
def planFrom (done : Nat) (statements : List Statement) : List Instruction :=
  statements.mapIdx fun i s => s.build (done + i + 1)

theorem planFrom_cons (done : Nat) (s : Statement) (statements : List Statement) :
    planFrom done (s :: statements) = s.build (done + 1) :: planFrom (done + 1) statements := by
  have hstep : ∀ i, done + (i + 1) + 1 = done + 1 + i + 1 := by omega
  simp [planFrom, List.mapIdx_cons, hstep]

/-- The first results of a cursor are the instructions of its lines, as long
as these make statements. -/
theorem Cursor.take_of_allState {lines : List Line} {statements : List Statement}
    (h : AllState options lines statements) (fileId done calls : Nat) (rest : List Line)
    (more : List (Option (Except ParseError Instruction)))
    (hrest : ∀ n ≤ calls,
      take n ⟨options, fileId, rest, done + statements.length⟩ = more.take n) :
    take calls ⟨options, fileId, lines ++ rest, done⟩
      = ((planFrom done statements).map (some ∘ Except.ok) ++ more).take calls := by
  induction h generalizing done calls with
  | nil => exact hrest calls (Nat.le_refl _)
  | @cons line s lines statements hstates _ ih =>
    cases calls with
    | zero => rfl
    | succ calls =>
      have hlater := ih (done + 1) calls fun n hn => by
        have hmore := hrest n (by omega)
        rwa [List.length_cons, Nat.add_comm statements.length, ← Nat.add_assoc] at hmore
      rw [List.cons_append, take, next_of_states hstates, planFrom_cons, List.map_cons,
        List.cons_append, List.take_succ_cons, ← hlater]
      rfl

/-! ## 4. The whole source -/

theorem parseLines_of_faulty (h : Faulty options line.text fault) (fileId done : Nat)
    (rest : List Line) :
    (parseLines options fileId done (line :: rest)).result
      = .error ⟨fault, done + 1, line, fileId⟩ := by
  simp only [parseLines, parseLine_of_faulty h]

theorem parseLines_of_allState {lines : List Line} {statements : List Statement}
    (h : AllState options lines statements) (fileId done : Nat) (rest : List Line) :
    (parseLines options fileId done (lines ++ rest)).result
      = (parseLines options fileId (done + statements.length) rest).result.map
          (planFrom done statements ++ ·) := by
  induction h generalizing done with
  | nil =>
    show _ = Except.map ([] ++ ·) _
    simp only [List.nil_append, List.length_nil, Nat.add_zero]
    cases (parseLines options fileId done rest).result <;> rfl
  | @cons line s lines statements hstates _ ih =>
    rw [List.cons_append, parseLines]
    simp only [parseLine_of_states hstates, ih, planFrom_cons, List.length_cons]
    rw [Nat.add_comm statements.length, ← Nat.add_assoc]
    cases (parseLines options fileId (done + 1 + statements.length) rest).result <;> rfl

/-- Some lines all make statements, or there is a first faulty one. -/
theorem allState_or_first_faulty (options : Options) (lines : List Line) :
    (∃ statements, AllState options lines statements) ∨
      ∃ before line after statements fault, lines = before ++ line :: after ∧
        AllState options before statements ∧ Faulty options line.text fault := by
  induction lines with
  | nil => exact .inl ⟨[], .nil⟩
  | cons line lines ih =>
    rcases states_or_faulty options line.text with ⟨s, hs⟩ | ⟨fault, hfault⟩
    · rcases ih with ⟨statements, hall⟩ | ⟨before, other, after, statements, fault, rfl, hall, hf⟩
      · exact .inl ⟨s :: statements, .cons hs hall⟩
      · exact .inr ⟨line :: before, other, after, s :: statements, fault, rfl, .cons hs hall, hf⟩
    · exact .inr ⟨[], line, lines, [], fault, rfl, .nil, hfault⟩

theorem AllState.not_faulty {lines : List Line} {statements : List Statement}
    (h : AllState options lines statements) :
    ∀ line ∈ lines, ∀ fault, ¬ Faulty options line.text fault := by
  induction h with
  | nil => simp
  | cons hstates _ ih =>
    intro line hline fault
    rcases List.mem_cons.mp hline with rfl | hline
    · exact hstates.not_faulty
    · exact ih line hline fault

section Source

variable {source : Text} {markdown : EventReader} {before after : List Line}
  {statements : List Statement}

theorem parse_of_allState (h : AllState options (statementLines source markdown) statements)
    (fileId : Nat) :
    parse options fileId source markdown = .ok (planFrom 0 statements) := by
  have hrun := parseLines_of_allState h fileId 0 []
  rw [List.append_nil] at hrun
  rw [parse, parseLogged, hrun]
  simp [parseLines, Except.map]

theorem parse_of_first_faulty (hsource : statementLines source markdown = before ++ line :: after)
    (h : AllState options before statements) (hfault : Faulty options line.text fault)
    (fileId : Nat) :
    parse options fileId source markdown = .error ⟨fault, before.length + 1, line, fileId⟩ := by
  rw [parse, parseLogged, hsource, parseLines_of_allState h, parseLines_of_faulty hfault,
    ← h.length_eq, Nat.zero_add]
  rfl

theorem take_ofSource_of_allState (h : AllState options (statementLines source markdown) statements)
    (fileId calls : Nat) :
    (Cursor.ofSource options fileId source markdown).take calls
      = ((planFrom 0 statements).map (some ∘ Except.ok) ++ List.replicate calls none).take
          calls := by
  have hrun := Cursor.take_of_allState h fileId 0 calls [] (List.replicate calls none) fun n hn =>
    Cursor.take_of_nil options fileId _ hn
  rwa [List.append_nil] at hrun

theorem take_ofSource_of_first_faulty
    (hsource : statementLines source markdown = before ++ line :: after)
    (h : AllState options before statements) (hfault : Faulty options line.text fault)
    (fileId calls : Nat) :
    (Cursor.ofSource options fileId source markdown).take calls
      = ((planFrom 0 statements).map (some ∘ Except.ok) ++
          some (Except.error (ParseError.mk fault (before.length + 1) line fileId)) ::
            List.replicate calls none).take calls := by
  rw [Cursor.ofSource, hsource]
  refine Cursor.take_of_allState h fileId 0 calls (line :: after) _ fun n hn => ?_
  rw [Cursor.take_of_faulty hfault fileId _ after hn, ← h.length_eq, Nat.zero_add]

/-- A source is parsed when none of its lines is faulty. -/
theorem exists_parse_eq_ok_iff (options : Options) (fileId : Nat) (source : Text)
    (markdown : EventReader) :
    (∃ plan, parse options fileId source markdown = .ok plan) ↔
      ∀ line ∈ statementLines source markdown, ∀ fault, ¬ Faulty options line.text fault := by
  rcases allState_or_first_faulty options (statementLines source markdown) with
    ⟨statements, hall⟩ | ⟨before, line, after, statements, fault, hsource, hall, hfault⟩
  · exact ⟨fun _ => hall.not_faulty, fun _ => ⟨_, parse_of_allState hall fileId⟩⟩
  · constructor
    · rintro ⟨plan, hok⟩
      rw [parse_of_first_faulty hsource hall hfault] at hok
      contradiction
    · intro hnone
      exact absurd hfault (hnone line (by simp [hsource]) fault)

theorem fault_of_parse {e : ParseError} (h : parse options fileId source markdown = .error e) :
    ∃ line ∈ statementLines source markdown, e.line = line ∧ Faulty options line.text e.fault := by
  rcases allState_or_first_faulty options (statementLines source markdown) with
    ⟨statements, hall⟩ | ⟨before, line, after, statements, fault, hsource, hall, hfault⟩
  · rw [parse_of_allState hall] at h
    contradiction
  · rw [parse_of_first_faulty hsource hall hfault] at h
    cases h
    exact ⟨line, by simp [hsource], rfl, hfault⟩

end Source

/-- Both ways to run through a source follow its lines one by one.

* While the lines make statements, they give these, numbered from one. When
  there are no more lines, `parse` gives the plan and the cursor is
  exhausted.
* At the first faulty line they give its fault, pinned to that line. The
  cursor is then exhausted and `parse` gives nothing else, whatever stands
  behind the line.
* So `parse` gives a plan exactly when no line is faulty, and no nesting
  error is ever reported as a malformed literal. -/
theorem runs_line_by_line (options : Options) (fileId : Nat) (source : Text)
    (markdown : EventReader) :
    (∀ statements, AllState options (statementLines source markdown) statements →
      let plan := statements.mapIdx fun i s => s.build (i + 1)
      parse options fileId source markdown = .ok plan ∧
        ∀ calls, (Cursor.ofSource options fileId source markdown).take calls
          = (plan.map (some ∘ Except.ok) ++ List.replicate calls none).take calls) ∧
    (∀ before line after statements fault,
      statementLines source markdown = before ++ line :: after →
      AllState options before statements → Faulty options line.text fault →
      let plan := statements.mapIdx fun i s => s.build (i + 1)
      let error : ParseError := ⟨fault, before.length + 1, line, fileId⟩
      parse options fileId source markdown = .error error ∧
        ∀ calls, (Cursor.ofSource options fileId source markdown).take calls
          = (plan.map (some ∘ Except.ok) ++
              some (Except.error error) :: List.replicate calls none).take calls) ∧
    ((∃ statements, AllState options (statementLines source markdown) statements) ∨
      ∃ before line after statements fault,
        statementLines source markdown = before ++ line :: after ∧
        AllState options before statements ∧ Faulty options line.text fault) ∧
    ((∃ plan, parse options fileId source markdown = .ok plan) ↔
      ∀ line ∈ statementLines source markdown, ∀ fault, ¬ Faulty options line.text fault) ∧
    ∀ error, parse options fileId source markdown = .error error →
      ∀ e, error.fault ≠ .malformedLiteral (.nesting e) := by
  have hplan : ∀ statements : List Statement,
      planFrom 0 statements = statements.mapIdx fun i s => s.build (i + 1) := by
    intro statements
    simp [planFrom]
  refine ⟨?_, ?_, ?_, ?_, ?_⟩
  · intro statements hall
    rw [← hplan]
    exact ⟨parse_of_allState hall fileId, take_ofSource_of_allState hall fileId⟩
  · intro before line after statements fault hsource hall hfault
    rw [← hplan]
    exact ⟨parse_of_first_faulty hsource hall hfault fileId,
      take_ofSource_of_first_faulty hsource hall hfault fileId⟩
  · exact allState_or_first_faulty options (statementLines source markdown)
  · exact exists_parse_eq_ok_iff options fileId source markdown
  · intro error herror e
    obtain ⟨line, _, _, hfault⟩ := fault_of_parse herror
    exact hfault.ne_literal_nesting e

/-- A plan whose second line is no statement is refused at that line. -/
theorem runs_line_by_line_second_line :
    parse {} 0 "x = 1\n?\ny = 2".toList Markdown.events = .error ⟨.unparseable, 2, ⟨['?'], 6⟩, 0⟩ ∧
      (Cursor.ofSource {} 0 "x = 1\n?\ny = 2".toList Markdown.events).take 3
        = [some (.ok ⟨1, some ['x'], .literal ['1']⟩),
          some (.error ⟨.unparseable, 2, ⟨['?'], 6⟩, 0⟩), none] := by
  have hlines : statementLines "x = 1\n?\ny = 2".toList Markdown.events
      = [⟨"x = 1".toList, 0⟩] ++ ⟨['?'], 6⟩ :: [⟨"y = 2".toList, 8⟩] := rfl
  have hstates : AllState {} [⟨"x = 1".toList, 0⟩] [.assignment ['x'] (.plain ['1'])] :=
    .cons ⟨rfl, .assignment, ⟨.assignment ['x'] (.plain ['1']), []⟩, rfl, rfl⟩ .nil
  have hfaulty : Faulty {} ['?'] .unparseable := .unparseable rfl rfl
  have h := (runs_line_by_line {} 0 _ _).2.1 _ _ _ _ _ hlines hstates hfaulty
  exact ⟨h.1, h.2 3⟩

end PlanScript
