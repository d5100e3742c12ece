/-
PlanScript.Proofs.Plan.Lenient — what skipping dict entries changes.

With strict options a dict entry without a colon is refused, with lenient
ones it is skipped. `Relaxes` compares the two readings of one text: they are
the same, or the strict one refuses such an entry and the lenient one is a
dict of the other entries. Every layer that passes the options on keeps this
relation (`relaxes_readEntries`, `relaxes_read`, `relaxes_formRead`,
`relaxes_recognize`), so a line is judged alike by both, but for a malformed
literal (`states_lenient`, `faulty_lenient`, `states_of_malformedLiteral`).

A strict parse ends at its first faulty line. Where that line has a malformed
literal a lenient one goes on (`GoesOn`), and otherwise both give the same
(`parse_lenient`).
-/
import PlanScript.Proofs.Plan.Append
import PlanScript.Proofs.Statement.Nested

namespace PlanScript

open Markdown (EventReader)

/-- The options that refuse dict entries without a colon. -/
def Options.strict : Options := { lenientDicts := false }

/-- The options that skip dict entries without a colon. -/
def Options.lenient : Options := { lenientDicts := true }

variable {α β : Type}

/-! ## 1. Two readings of one text -/

/-- A strict reading and a lenient one of the same text. They agree, or the
strict one refuses a dict entry without a colon; the lenient one then has the
property `isDict`. -/
inductive Relaxes (isDict : α → Prop) :
    (strict lenient : Except LiteralError α) → Prop
  | ok (a : α) : Relaxes isDict (.ok a) (.ok a)
  | nesting (e : NestingError) : Relaxes isDict (.error (.nesting e)) (.error (.nesting e))
  | skips {entry : Text} {a : α} : isDict a →
    Relaxes isDict (.error (.entryWithoutColon entry)) (.ok a)

namespace Relaxes

variable {isDict : α → Prop} {isDict' : β → Prop} {strict lenient : Except LiteralError α}

theorem of_ok {a : α} (h : Relaxes isDict (.ok a) lenient) : lenient = .ok a := by
  cases h
  rfl

theorem of_nesting {e : NestingError} (h : Relaxes isDict (.error (.nesting e)) lenient) :
    lenient = .error (.nesting e) := by
  cases h
  rfl

theorem of_entry {entry : Text} (h : Relaxes isDict (.error (.entryWithoutColon entry)) lenient) :
    ∃ a, isDict a ∧ lenient = .ok a := by
  cases h with
  | skips ha => exact ⟨_, ha, rfl⟩

theorem ne_entry (h : Relaxes isDict strict lenient) (entry : Text) :
    lenient ≠ .error (.entryWithoutColon entry) := by
  cases h <;> simp

theorem map (h : Relaxes isDict strict lenient) {f : α → β} (hf : ∀ a, isDict a → isDict' (f a)) :
    Relaxes isDict' (strict.map f) (lenient.map f) := by
  cases h with
  | ok a => exact .ok (f a)
  | nesting e => exact .nesting e
  | skips ha => exact .skips (hf _ ha)

theorem bind (h : Relaxes isDict strict lenient) {f g : α → Except LiteralError β}
    (hsame : ∀ a, Relaxes isDict' (f a) (g a))
    (hdict : ∀ a, isDict a → ∃ b, g a = .ok b ∧ isDict' b) :
    Relaxes isDict' (strict >>= f) (lenient >>= g) := by
  cases h with
  | ok a => exact hsame a
  | nesting e => exact .nesting e
  | skips ha =>
    obtain ⟨b, hb, hb'⟩ := hdict _ ha
    show Relaxes isDict' _ (g _)
    rw [hb]
    exact .skips hb'

/-- A reading that does not look at the options. -/
theorem same {r : Except LiteralError α} (h : ∀ e, r = .error e → ∃ n, e = .nesting n) :
    Relaxes isDict r r := by
  cases r with
  | ok a => exact .ok a
  | error e =>
    obtain ⟨n, rfl⟩ := h e rfl
    exact .nesting n

end Relaxes

/-! ## 2. Values -/

theorem readEntries_lenient_ok (entries : List Text) :
    ∃ r, readEntries .lenient entries = .ok r := by
  cases h : readEntries .lenient entries with
  | ok r => exact ⟨r, rfl⟩
  | error e =>
    obtain ⟨hstrict, _⟩ := (readEntries_eq_error_iff _ entries e).mp h
    contradiction

theorem relaxes_readEntries (entries : List Text) :
    Relaxes (fun _ => True) (readEntries .strict entries) (readEntries .lenient entries) := by
  induction entries with
  | nil => exact .ok _
  | cons entry rest ih =>
    rw [readEntries, readEntries]
    cases splitEntry? entry with
    | some sides => exact ih.map fun _ _ => trivial
    | none =>
      obtain ⟨r, hr⟩ := readEntries_lenient_ok rest
      rw [hr]
      exact .skips trivial

/-- A value that is a dict. -/
def Value.IsDict (v : Value) : Prop := ∃ entries, v = .dict entries

theorem relaxes_read (source : Text) :
    Relaxes (fun r => r.1.IsDict) (Value.read .strict source) (Value.read .lenient source) := by
  unfold Value.read Value.readTrimmed
  split
  · exact .ok _
  · split
    · exact .ok _
    · split
      · refine .same fun e he => ?_
        obtain ⟨n, _, hn⟩ := (splitElements_eq_error_iff _ e).mp ((map_eq_error_iff _ _ e).mp he)
        exact ⟨n, hn⟩
      · split
        · next body _ =>
          cases hsplit : splitElements body with
          | error e =>
            obtain ⟨n, _, rfl⟩ := (splitElements_eq_error_iff body e).mp hsplit
            exact .nesting n
          | ok entries => exact (relaxes_readEntries entries).map fun r _ => ⟨r.1, rfl⟩
        · exact .ok _

/-! ## 3. Forms -/

/-- A reading that assigns a dict. -/
def Reading.AssignsDict (r : Reading) : Prop :=
  ∃ target entries, r.statement = .assignment target (.dict entries)

/-- Only an assigned value can be a dict. -/
theorem read_eq_of_ne_assignment {form : Form} (h : form ≠ .assignment) (line : Text)
    (options options' : Options) : form.read options line = form.read options' line := by
  cases form with
  | assignment => contradiction
  | _ => rfl

theorem relaxes_formRead (form : Form) (line : Text) :
    Relaxes (fun r => ∃ reading, r = some reading ∧ reading.AssignsDict)
      (form.read .strict line) (form.read .lenient line) := by
  by_cases hform : form = .assignment
  · subst hform
    simp only [Form.read, readAssignment]
    cases Binding.ofText? line with
    | none => exact .ok _
    | some b =>
      refine (relaxes_read b.source).map ?_
      rintro ⟨_, skipped⟩ ⟨entries, rfl⟩
      exact ⟨_, rfl, b.target, entries, rfl⟩
  · rw [read_eq_of_ne_assignment hform line .lenient .strict]
    refine .same fun e he => ?_
    rcases error_of_read he with ⟨c, _, hargs⟩ | ⟨hassign, _⟩
    · obtain ⟨n, _, hn⟩ := (Call.arguments_eq_error_iff c e).mp hargs
      exact ⟨n, hn⟩
    · exact absurd hassign hform

/-- The form that decides for strict options decides for lenient ones. -/
theorem relaxes_firstClaim (forms : List Form) (line : Text) :
    Relaxes (fun r => ∃ form reading, r = some (form, reading) ∧ reading.AssignsDict)
      (firstClaim .strict line forms) (firstClaim .lenient line forms) := by
  induction forms with
  | nil => exact .ok _
  | cons form rest ih =>
    refine (relaxes_formRead form line).bind ?_ ?_
    · rintro (_ | reading)
      · exact ih
      · exact .ok _
    · rintro _ ⟨reading, rfl, hassigns⟩
      exact ⟨some (form, reading), rfl, form, reading, rfl, hassigns⟩

/-- Strict and lenient options recognize a line alike, unless the strict ones
refuse an entry of a dict that the line assigns. -/
theorem relaxes_recognize (line : Text) :
    Relaxes (fun r => ∃ form reading, r = some (form, reading) ∧ reading.AssignsDict)
      (recognize .strict line) (recognize .lenient line) :=
  relaxes_firstClaim Form.all line

/-! ## 4. Lines -/

section Line

variable {line : Text} {s : Statement} {fault : Fault}

theorem states_lenient (h : States .strict line s) : States .lenient line s := by
  obtain ⟨hnesting, form, reading, hread, hs⟩ := h
  have hrelaxes := relaxes_recognize line
  rw [hread] at hrelaxes
  exact ⟨hnesting, form, reading, hrelaxes.of_ok, hs⟩

theorem faulty_lenient (h : Faulty .strict line fault) (hfault : ∀ e, fault ≠ .malformedLiteral e) :
    Faulty .lenient line fault := by
  have hrelaxes := relaxes_recognize line
  cases h with
  | nesting hnesting => exact .nesting hnesting
  | literalNesting hnesting hread =>
    rw [hread] at hrelaxes
    exact .literalNesting hnesting hrelaxes.of_nesting
  | literal _ _ => exact absurd rfl (hfault _)
  | unparseable hnesting hread =>
    rw [hread] at hrelaxes
    exact .unparseable hnesting hrelaxes.of_ok

/-- A line with a malformed literal assigns a dict, once its entries without a
colon are skipped. -/
theorem states_of_malformedLiteral {e : LiteralError}
    (h : Faulty .strict line (.malformedLiteral e)) :
    ∃ target entries, States .lenient line (.assignment target (.dict entries)) := by
  have hrelaxes := relaxes_recognize line
  cases h with
  | literal hnesting hread =>
    rw [hread] at hrelaxes
    obtain ⟨_, ⟨form, reading, rfl, target, entries, hs⟩, hlenient⟩ := hrelaxes.of_entry
    exact ⟨target, entries, hnesting, form, reading, hlenient, hs⟩

/-- With lenient options no literal is malformed. -/
theorem not_faulty_malformedLiteral (e : LiteralError) :
    ¬ Faulty .lenient line (.malformedLiteral e) := by
  intro h
  cases h with
  | literal _ hread => exact (relaxes_recognize line).ne_entry _ hread

end Line

theorem allState_lenient {lines : List Line} {statements : List Statement}
    (h : AllState .strict lines statements) : AllState .lenient lines statements :=
  h.imp fun _ _ => states_lenient

/-! ## 5. Sources -/

variable {markdown : EventReader}

/-- An error comes behind the lines that are done. -/
theorem lt_step_of_parseLines {options : Options} {fileId done : Nat} {lines : List Line}
    {e : ParseError} (h : (parseLines options fileId done lines).result = .error e) :
    done < e.step := by
  induction lines generalizing done with
  | nil => contradiction
  | cons line lines ih =>
    rcases states_or_faulty options line.text with ⟨s, hs⟩ | ⟨fault, hfault⟩
    · rw [parseLines] at h
      simp only [parseLine_of_states hs] at h
      have hlater := ih ((map_eq_error_iff _ _ e).mp h)
      omega
    · rw [parseLines_of_faulty hfault] at h
      cases h
      exact Nat.lt_succ_self done

/-- An error is that of the first faulty line. -/
theorem first_faulty_of_parse {options : Options} {fileId : Nat} {source : Text} {e : ParseError}
    (h : parse options fileId source markdown = .error e) :
    ∃ before line after statements fault,
      statementLines source markdown = before ++ line :: after ∧
      AllState options before statements ∧ Faulty options line.text fault ∧
      e = ⟨fault, before.length + 1, line, fileId⟩ := by
  rcases allState_or_first_faulty options (statementLines source markdown) with
    ⟨statements, hall⟩ | ⟨before, line, after, statements, fault, hsource, hall, hfault⟩
  · rw [parse_of_allState hall] at h
    contradiction
  · rw [parse_of_first_faulty hsource hall hfault] at h
    cases h
    exact ⟨before, line, after, statements, fault, hsource, hall, hfault, rfl⟩

@[simp] theorem length_planFrom (done : Nat) (statements : List Statement) :
    (planFrom done statements).length = statements.length := by
  simp [planFrom]

theorem planFrom_append (done : Nat) (statements more : List Statement) :
    planFrom done (statements ++ more)
      = planFrom done statements ++ planFrom (done + statements.length) more := by
  simp [planFrom, List.mapIdx_append, Nat.add_assoc, Nat.add_comm, Nat.add_left_comm]

/-- The first results of a cursor, as many as there are lines that make
statements. -/
theorem Cursor.take_length_of_allState {options : Options} {lines : List Line}
    {statements : List Statement} (h : AllState options lines statements) (fileId done : Nat)
    (rest : List Line) :
    take lines.length ⟨options, fileId, lines ++ rest, done⟩
      = (planFrom done statements).map (some ∘ Except.ok) := by
  induction h generalizing done with
  | nil => rfl
  | cons hs _ ih =>
    rw [List.length_cons, List.cons_append, take, next_of_states hs, planFrom_cons, List.map_cons]
    exact congrArg _ (ih (done + 1))

/-- Behind lines that make statements a parse goes on: their instructions come
first in its plan, or its error comes later. -/
theorem parse_of_allState_append {options : Options} {source : Text} {before after : List Line}
    {statements : List Statement} (hsource : statementLines source markdown = before ++ after)
    (h : AllState options before statements) (fileId : Nat) :
    (∃ plan, parse options fileId source markdown = .ok plan ∧ planFrom 0 statements <+: plan) ∨
      ∃ e, parse options fileId source markdown = .error e ∧ statements.length < e.step := by
  rw [parse, parseLogged, hsource, parseLines_of_allState h, Nat.zero_add]
  cases hrest : (parseLines options fileId statements.length after).result with
  | ok plan => exact .inl ⟨_, rfl, List.prefix_append _ plan⟩
  | error e => exact .inr ⟨e, rfl, lt_step_of_parseLines hrest⟩

/-- Where a strict parse fails with an error, a lenient one takes the line of
the error as an instruction and goes on. Up to that line both give the same
instructions. -/
structure GoesOn (fileId : Nat) (source : Text) (markdown : EventReader) (e : ParseError)
    (done : List Instruction) (accepted : Instruction) : Prop where
  line : (statementLines source markdown)[done.length]? = some e.line
  step : e.step = done.length + 1
  strict : (Cursor.ofSource .strict fileId source markdown).take e.step
    = done.map (some ∘ .ok) ++ [some (.error e)]
  lenient : (Cursor.ofSource .lenient fileId source markdown).take e.step
    = done.map (some ∘ .ok) ++ [some (.ok accepted)]
  rest : (∃ plan, parse .lenient fileId source markdown = .ok plan ∧ done ++ [accepted] <+: plan) ∨
    ∃ later, parse .lenient fileId source markdown = .error later ∧ e.step < later.step

theorem goesOn_of_malformedLiteral {source : Text} {before after : List Line} {line : Line}
    {statements : List Statement} {l : LiteralError}
    (hsource : statementLines source markdown = before ++ line :: after)
    (hall : AllState .strict before statements)
    (hfault : Faulty .strict line.text (.malformedLiteral l)) (fileId : Nat) :
    ∃ target entries,
      GoesOn fileId source markdown ⟨.malformedLiteral l, before.length + 1, line, fileId⟩
        (planFrom 0 statements)
        ⟨before.length + 1, some target, .call dictFunction entries none⟩ := by
  obtain ⟨target, entries, hdict⟩ := states_of_malformedLiteral hfault
  have hcount : statements.length = before.length := hall.length_eq.symm
  have hlength : (planFrom 0 statements).length = before.length := by
    rw [length_planFrom, hcount]
  have hlenient : AllState .lenient (before ++ [line])
      (statements ++ [.assignment target (.dict entries)]) :=
    List.rel_append (allState_lenient hall) (.cons hdict .nil)
  have hplan : planFrom 0 (statements ++ [.assignment target (.dict entries)])
      = planFrom 0 statements ++
        [⟨before.length + 1, some target, .call dictFunction entries none⟩] := by
    rw [planFrom_append, Nat.zero_add, hcount]
    rfl
  have hlines : statementLines source markdown = (before ++ [line]) ++ after := by
    rw [hsource, List.append_assoc, List.singleton_append]
  refine ⟨target, entries, ?_, ?_, ?_, ?_, ?_⟩
  · rw [hlength, hsource, List.getElem?_append_right (Nat.le_refl _), Nat.sub_self]
    rfl
  · rw [hlength]
  · rw [take_ofSource_of_first_faulty hsource hall hfault, ← hlength]
    simp [List.take_append, List.take_of_length_le]
  · have htaken := Cursor.take_length_of_allState hlenient fileId 0 after
    rw [← hlines, hplan, List.length_append, List.map_append] at htaken
    exact htaken
  · have hgoes := parse_of_allState_append hlines hlenient fileId
    rwa [hplan, List.length_append, hcount] at hgoes

/-- A lenient parse differs from a strict one only where the strict one
refuses a dict entry without a colon.

* A strict plan is the lenient plan, and a strict error that is no malformed
  literal is the lenient error.
* Where the strict parse fails with a malformed literal, the lenient one takes
  that line as a call that makes a dict, and goes on from there.
* The lenient parse never fails with a malformed literal. -/
theorem parse_lenient (fileId : Nat) (source : Text) (markdown : EventReader) :
    (∀ plan, parse .strict fileId source markdown = .ok plan →
      parse .lenient fileId source markdown = .ok plan) ∧
    (∀ e, parse .strict fileId source markdown = .error e →
      (∀ l, e.fault ≠ .malformedLiteral l) → parse .lenient fileId source markdown = .error e) ∧
    (∀ e l, parse .strict fileId source markdown = .error e → e.fault = .malformedLiteral l →
      ∃ done target entries, GoesOn fileId source markdown e done
        ⟨e.step, some target, .call dictFunction entries none⟩) ∧
    ∀ e, parse .lenient fileId source markdown = .error e → ∀ l, e.fault ≠ .malformedLiteral l := by
  refine ⟨?_, ?_, ?_, ?_⟩
  · intro plan hplan
    rcases allState_or_first_faulty .strict (statementLines source markdown) with
      ⟨statements, hall⟩ | ⟨before, line, after, statements, fault, hsource, hall, hfault⟩
    · rw [parse_of_allState hall] at hplan
      rw [parse_of_allState (allState_lenient hall), hplan]
    · rw [parse_of_first_faulty hsource hall hfault] at hplan
      contradiction
  · intro e herror hkind
    obtain ⟨before, line, after, statements, fault, hsource, hall, hfault, rfl⟩ :=
      first_faulty_of_parse herror
    exact parse_of_first_faulty hsource (allState_lenient hall) (faulty_lenient hfault hkind) fileId
  · intro e l herror hkind
    obtain ⟨before, line, after, statements, fault, hsource, hall, hfault, rfl⟩ :=
      first_faulty_of_parse herror
    obtain rfl : fault = .malformedLiteral l := hkind
    obtain ⟨target, entries, hgoes⟩ := goesOn_of_malformedLiteral hsource hall hfault fileId
    exact ⟨planFrom 0 statements, target, entries, hgoes⟩
  · intro e herror l hkind
    obtain ⟨line, _, _, hfault⟩ := fault_of_parse herror
    rw [hkind] at hfault
    exact not_faulty_malformedLiteral l hfault

/-- An entry without a colon ends a strict parse at its line. -/
theorem parse_lenient_second_line :
    let source := "x = 1\nd = {k: 1, b}\ny = 2".toList
    let refused : ParseError := ⟨.malformedLiteral (.entryWithoutColon ['b']), 2,
      ⟨"d = {k: 1, b}".toList, 6⟩, 0⟩
    parse .strict 0 source Markdown.events = .error refused ∧
      (∃ done target entries, GoesOn 0 source Markdown.events refused done
        ⟨2, some target, .call dictFunction entries none⟩) ∧
      parse .lenient 0 "x = 1".toList Markdown.events = .ok [⟨1, some ['x'], .literal ['1']⟩] := by
  have hstrict : parse .strict 0 "x = 1\nd = {k: 1, b}\ny = 2".toList Markdown.events
      = .error ⟨.malformedLiteral (.entryWithoutColon ['b']), 2,
          ⟨"d = {k: 1, b}".toList, 6⟩, 0⟩ := rfl
  exact ⟨hstrict, (parse_lenient 0 _ _).2.2.1 _ _ hstrict rfl, (parse_lenient 0 _ _).1 _ rfl⟩

end PlanScript
