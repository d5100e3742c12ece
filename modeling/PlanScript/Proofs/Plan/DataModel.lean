/-
PlanScript.Proofs.Plan.DataModel — what holds of every instruction of a plan.

The names in a statement are identifiers, since each form checks the names
that it takes from the line (`named_of_recognizes`). An instruction has its
names from the statement, so they are identifiers too, and not empty. The one
exception is the name of a default value: it is the literal that is bound,
and a literal may be empty (`functionName_eq_nil_iff`).

`Instruction.Conforms` puts together what the parts of an instruction say of
each other and of the line it comes from; `parse_conforms` is that for every
instruction of a plan.
-/
import PlanScript.Proofs.Plan.Span
import PlanScript.Proofs.Value.Read

namespace PlanScript

variable {options : Options} {line : Text} {s : Statement}

/-! ## 1. Names in a statement -/

/-- The names in a statement are identifiers. -/
def Statement.Named : Statement → Prop
  | arithmetic target _ => target.isIdentifier = true
  | indexedCall target function _ _ => target.isIdentifier = true ∧ function.isIdentifier = true
  | callAssignment target function _ => target.isIdentifier = true ∧ function.isIdentifier = true
  | bareCall function _ => function.isIdentifier = true
  | arrayAccess target collection _ =>
    target.isIdentifier = true ∧ collection.isIdentifier = true
  | assignment target _ => target.isIdentifier = true

theorem Binding.isIdentifier_target {b : Binding} (h : Binding.ofText? line = some b) :
    b.target.isIdentifier = true := by
  obtain ⟨_, _, _, _, htarget, _⟩ := Binding.cut_of_ofText? h
  exact htarget

/-- What a line assigns is the value of its source. -/
theorem exists_read_of_recognizes {target : Text} {value : Value}
    (h : Recognizes options line (.assignment target value)) :
    ∃ b skipped, Binding.ofText? line = some b ∧ b.target = target ∧
      Value.read options b.source = .ok (value, skipped) := by
  obtain ⟨r, hread, hr⟩ := h.exists_read
  rcases readAssignment_cases options line with ⟨_, hnone⟩ | ⟨b, hb, hvalue⟩
  · rw [Statement.form, Form.read, hnone] at hread
    cases hread
  · rw [Statement.form, Form.read, hvalue] at hread
    cases hv : Value.read options b.source with
    | error e =>
      rw [hv] at hread
      contradiction
    | ok v =>
      rw [hv] at hread
      cases hread
      cases hr
      exact ⟨b, v.2, hb, rfl, hv⟩

/-- A recognized statement has identifiers for names. -/
theorem named_of_recognizes (h : Recognizes options line s) : s.Named := by
  cases s with
  | assignment target value =>
    obtain ⟨b, _, hb, rfl, _⟩ := exists_read_of_recognizes h
    exact Binding.isIdentifier_target hb
  | arithmetic target expression =>
    obtain ⟨r, hread, hr⟩ := h.exists_read
    obtain ⟨s, hs, rfl⟩ := Option.map_eq_some_iff.mp (Except.ok.inj hread)
    obtain ⟨b, hb, _, rfl⟩ := (readArithmetic_eq_some_iff line s).mp hs
    cases hr
    exact Binding.isIdentifier_target hb
  | indexedCall target function args n =>
    obtain ⟨r, hread, hr⟩ := h.exists_read
    obtain ⟨s, hs, rfl⟩ := (map_reading_eq_some_iff _ r).mp hread
    obtain ⟨b, c, m, args', hb, hc, _, _, rfl⟩ := (readIndexedCall_eq_some_iff line s).mp hs
    cases hr
    exact ⟨Binding.isIdentifier_target hb, (Call.group_of_ofText? hc).1⟩
  | callAssignment target function args =>
    obtain ⟨r, hread, hr⟩ := h.exists_read
    obtain ⟨s, hs, rfl⟩ := (map_reading_eq_some_iff _ r).mp hread
    obtain ⟨b, c, args', hb, hc, _, _, rfl⟩ := (readCallAssignment_eq_some_iff line s).mp hs
    cases hr
    exact ⟨Binding.isIdentifier_target hb, (Call.group_of_ofText? hc).1⟩
  | bareCall function args =>
    obtain ⟨r, hread, hr⟩ := h.exists_read
    obtain ⟨s, hs, rfl⟩ := (map_reading_eq_some_iff _ r).mp hread
    obtain ⟨c, args', _, hc, _, _, rfl⟩ := (readBareCall_eq_some_iff line s).mp hs
    cases hr
    exact (Call.group_of_ofText? hc).1
  | arrayAccess target collection n =>
    obtain ⟨r, hread, hr⟩ := h.exists_read
    obtain ⟨s, hs, rfl⟩ := Option.map_eq_some_iff.mp (Except.ok.inj hread)
    obtain ⟨b, before, found, m, hb, _, hname, _, rfl⟩ := (readArrayAccess_eq_some_iff line s).mp hs
    cases hr
    exact ⟨Binding.isIdentifier_target hb, hname⟩

/-! ## 2. Empty literals -/

theorem Literal.unescape_eq_nil_iff (t : Text) : unescape t = [] ↔ t = [] := by
  constructor
  · intro h
    fun_cases unescape t <;> simp_all [unescape]
  · rintro rfl
    rfl

/-- A literal with an empty body is two quotes. -/
theorem Literal.body?_eq_some_nil_iff (t : Text) :
    body? t = some [] ↔ ∃ q, isQuote q = true ∧ t = [q, q] := by
  constructor
  · intro h
    obtain ⟨⟨body, after⟩, hsplit, hbody⟩ := Option.bind_eq_some_iff.mp h
    simp only [List.isEmpty_iff, Option.ite_none_right_eq_some] at hbody
    obtain ⟨rfl, hnil⟩ := hbody
    obtain rfl : body = [] := Option.some.inj hnil
    cases t with
    | nil => contradiction
    | cons q rest =>
      rw [split?, Option.ite_none_right_eq_some] at hsplit
      obtain ⟨_, rfl⟩ := body_of_untilQuote hsplit.2
      exact ⟨q, hsplit.1, rfl⟩
  · rintro ⟨q, hq, rfl⟩
    exact body?_literal hq .nil

/-- The line binds a plain literal with nothing in it. -/
def BindsEmptyLiteral (line : Text) : Prop :=
  ∃ target q, isQuote q = true ∧ IsBinding line target [q, q]

/-- A value binds the empty text when it is written as an empty literal. -/
theorem operation_eq_literal_nil_iff {t : Text} (ht : t ≠ []) {value : Value}
    {skipped : List Text} (h : Value.readTrimmed options t = .ok (value, skipped)) :
    value.operation = .literal [] ↔ ∃ q, isQuote q = true ∧ t = [q, q] := by
  rw [← Literal.body?_eq_some_nil_iff]
  rw [Value.readTrimmed] at h
  split at h
  · next hformat =>
    cases h
    have hbody : Literal.body? t ≠ some [] := by
      intro hnil
      obtain ⟨q, hq, rfl⟩ := (Literal.body?_eq_some_nil_iff t).mp hnil
      rw [Literal.isFormat_of_isQuote hq] at hformat
      contradiction
    simp [Value.operation, ht, hbody]
  · split at h
    · next body hbody =>
      cases h
      simp [Value.operation, hbody, Literal.unescape_eq_nil_iff]
    · next hbody =>
      rw [hbody]
      split at h
      · next body _ =>
        simp only [Except.map] at h
        split at h
        · contradiction
        · cases h
          simp [Value.operation]
      · split at h
        · next body _ =>
          simp only [bind, Except.bind, pure, Except.pure] at h
          split at h
          · contradiction
          · split at h
            · contradiction
            · cases h
              simp [Value.operation]
        · cases h
          simp [Value.operation, ht]

/-- A line that binds an empty literal assigns the empty text. -/
theorem recognizes_of_bindsEmptyLiteral (options : Options) (h : BindsEmptyLiteral line) :
    ∃ target, Recognizes options line (.assignment target (.string [])) := by
  obtain ⟨target, q, hq, htarget, w₁, w₂, h₁, h₂, rfl⟩ := h
  have hstart : ∀ c : Char, isQuote c = true → startsIdentifier c = false ∧ c ≠ '=' := by
    intro c hc
    simp only [isQuote, Bool.or_eq_true, decide_eq_true_eq] at hc
    rcases hc with rfl | rfl <;> decide
  have hhead : (w₂ ++ [q, q]).head? ≠ some '=' := by
    cases w₂ with
    | nil => simpa using (hstart q hq).2
    | cons d w =>
      have hd := isWordChar_of_allBlank h₂ d (List.mem_cons_self ..)
      simpa using ne_of_isWordChar hd (show isWordChar '=' = false by decide)
  have hb := Binding.ofText?_assignment htarget h₁ h₂ (trimmed_literal hq [])
    (List.cons_ne_nil q [q]) hhead
  exact ⟨target, recognizes_assignment hb (marksSign_isOperator.quiet_literal hq .nil) rfl
    (hstart q hq).1 (read_literal options hq [])⟩

theorem Recognizes.unique {s' : Statement} (h : Recognizes options line s)
    (h' : Recognizes options line s') : s = s' := by
  obtain ⟨form, r, hr, rfl⟩ := h
  obtain ⟨form', r', hr', rfl⟩ := h'
  rw [hr] at hr'
  cases hr'
  rfl

/-! ## 3. Instructions -/

theorem isIdentifier_functionName (h : s.Named) {step : Nat}
    (hkind : (s.build step).kind ≠ .defaultValue) :
    (s.build step).functionName.isIdentifier = true := by
  cases s with
  | arithmetic => exact show arithmeticFunction.isIdentifier = true by decide
  | indexedCall => exact h.2
  | callAssignment => exact h.2
  | bareCall => exact h
  | arrayAccess => exact h.2
  | assignment _ value =>
    cases value with
    | list => exact show listFunction.isIdentifier = true by decide
    | dict => exact show dictFunction.isIdentifier = true by decide
    | string | plain => exact absurd rfl hkind

/-- The name of an instruction is empty when its line binds an empty literal,
and never else. -/
theorem functionName_eq_nil_iff (hline : Text.Trimmed line) (h : Recognizes options line s)
    (step : Nat) :
    (s.build step).functionName = [] ↔ (s.build step).kind = .defaultValue ∧
      BindsEmptyLiteral line := by
  constructor
  · intro hname
    have hkind : (s.build step).kind = .defaultValue := by
      refine Classical.byContradiction fun hkind => ?_
      exact Text.ne_nil_of_isIdentifier
        (isIdentifier_functionName (named_of_recognizes h) hkind) hname
    refine ⟨hkind, ?_⟩
    cases s with
    | assignment target value =>
      obtain ⟨b, skipped, hb, rfl, hread⟩ := exists_read_of_recognizes h
      obtain ⟨hbinding, htrimmed, hne⟩ := Binding.isBinding_of_ofText? hline hb
      have hliteral : value.operation = .literal [] := by
        cases value with
        | list | dict => contradiction
        | string | plain => exact congrArg _ hname
      rw [Value.read, htrimmed] at hread
      obtain ⟨q, hq, hsource⟩ := (operation_eq_literal_nil_iff hne hread).mp hliteral
      rw [hsource] at hbinding
      exact ⟨b.target, q, hq, hbinding⟩
    | _ => contradiction
  · rintro ⟨_, hempty⟩
    obtain ⟨target, h'⟩ := recognizes_of_bindsEmptyLiteral options hempty
    rw [h.unique h']
    rfl

namespace Instruction

/-- An extraction has an index and a literal has none, and only a call has
inputs. -/
theorem parts_of_kind (i : Instruction) :
    (i.kind = .dataExtraction → i.resultIndex.isSome = true) ∧
    (i.kind = .defaultValue → i.resultIndex = none) ∧
    (i.kind ≠ .functionExecution → i.inputs = []) := by
  obtain ⟨_, _, operation⟩ := i
  cases operation <;> simp [kind, resultIndex, inputs]

end Instruction

/-- A value is bound without an index, whatever it is. -/
theorem resultIndex_of_value (target : Text) (value : Value) (step : Nat) :
    ((Statement.assignment target value).build step).resultIndex = none := by
  cases value <;> rfl

/-- What the parts of an instruction say of each other, and of the line and
the statement it comes from. -/
structure Instruction.Conforms (line : Text) (s : Statement) (i : Instruction) : Prop where
  /-- Only a literal that is bound can be empty. -/
  empty : i.functionName = [] ↔ i.kind = .defaultValue ∧ BindsEmptyLiteral line
  name : i.kind ≠ .defaultValue → i.functionName.isIdentifier = true
  output : ∀ o, i.output = some o → o.isIdentifier = true
  unbound : i.output = none ↔ ∃ function args, s = .bareCall function args
  extracted : i.kind = .dataExtraction → i.resultIndex.isSome = true
  unindexed : (i.kind = .defaultValue ∨ ∃ target value, s = .assignment target value) →
    i.resultIndex = none
  inputs : i.kind ≠ .functionExecution → i.inputs = []

theorem conforms_build (hline : Text.Trimmed line) (h : Recognizes options line s) (step : Nat) :
    (s.build step).Conforms line s where
  empty := functionName_eq_nil_iff hline h step
  name := isIdentifier_functionName (named_of_recognizes h)
  output := by
    have hnamed := named_of_recognizes h
    intro o ho
    cases s with
    | bareCall => contradiction
    | arithmetic | assignment => cases ho; exact hnamed
    | indexedCall | callAssignment | arrayAccess => cases ho; exact hnamed.1
  unbound := by cases s <;> simp [Statement.build, Statement.output]
  extracted := (s.build step).parts_of_kind.1
  unindexed := by
    rintro (hkind | ⟨target, value, rfl⟩)
    · exact (s.build step).parts_of_kind.2.1 hkind
    · exact resultIndex_of_value target value step
  inputs := (s.build step).parts_of_kind.2.2

/-! ## 4. Plans -/

theorem getElem?_planFrom (done k : Nat) (statements : List Statement) :
    (planFrom done statements)[k]? = statements[k]?.map fun s => s.build (done + k + 1) :=
  List.getElem?_mapIdx

theorem AllState.exists_getElem? {lines : List Line} {statements : List Statement}
    (h : AllState options lines statements) {k : Nat} (hs : statements[k]? = some s) :
    ∃ line, lines[k]? = some line ∧ States options line.text s := by
  obtain ⟨hk, rfl⟩ := List.getElem?_eq_some_iff.mp hs
  have hline : k < lines.length := by rwa [h.length_eq]
  exact ⟨lines[k], List.getElem?_eq_getElem hline, h.get hline hk⟩

/-- Every instruction of a plan comes from the line at its place, and conforms
to what the line says.

* Its name is empty only if it binds a literal with nothing in it. The name
  of a call and of an extraction is an identifier.
* An output is an identifier, and only a bare call has none.
* An extraction has an index; a literal, a list and a dict have none.
* Only a call has inputs. -/
theorem parse_conforms {options : Options} {fileId : Nat} {source : Text}
    {markdown : Markdown.EventReader} {plan : List Instruction}
    (h : parse options fileId source markdown = .ok plan) :
    ∀ (k : Nat) (i : Instruction), plan[k]? = some i → ∃ line s,
      (statementLines source markdown)[k]? = some line ∧ States options line.text s ∧
        i = s.build (k + 1) ∧ i.Conforms line.text s := by
  intro k i hi
  rcases allState_or_first_faulty options (statementLines source markdown) with
    ⟨statements, hall⟩ | ⟨before, line, after, statements, fault, hsource, hall, hfault⟩
  · rw [parse_of_allState hall] at h
    cases h
    rw [getElem?_planFrom, Nat.zero_add] at hi
    obtain ⟨s, hs, rfl⟩ := Option.map_eq_some_iff.mp hi
    obtain ⟨line, hline, hstates⟩ := hall.exists_getElem? hs
    obtain ⟨htext, _⟩ := stands_of_mem_linesFrom _ _ line (List.mem_of_getElem? hline)
    exact ⟨line, s, hline, hstates, rfl, conforms_build htext.trimmed hstates.2 (k + 1)⟩
  · rw [parse_of_first_faulty hsource hall hfault] at h
    contradiction

/-- A call and an extraction have identifiers for names. -/
theorem parse_conforms_two_lines :
    let plan : List Instruction := [⟨1, none, .call ['f'] [['1']] none⟩,
      ⟨2, some ['x'], .extract ['a'] (-2)⟩]
    parse {} 0 "f(1)\nx = a[-2]".toList Markdown.events = .ok plan ∧
      ∀ i ∈ plan, ∃ line s, i.Conforms line s := by
  have hparse : parse {} 0 "f(1)\nx = a[-2]".toList Markdown.events
      = .ok [⟨1, none, .call ['f'] [['1']] none⟩, ⟨2, some ['x'], .extract ['a'] (-2)⟩] := rfl
  refine ⟨hparse, fun i hi => ?_⟩
  obtain ⟨k, hk⟩ := List.mem_iff_getElem?.mp hi
  obtain ⟨line, s, _, _, _, h⟩ := parse_conforms hparse k i hk
  exact ⟨line.text, s, h⟩

/-- The name of an instruction can be empty. -/
theorem functionName_of_empty_literal :
    ∃ i : Instruction, parse {} 0 "x = \"\"".toList Markdown.events = .ok [i] ∧
      i.kind = .defaultValue ∧ i.functionName = [] :=
  ⟨⟨1, some ['x'], .literal []⟩, rfl, rfl, rfl⟩

end PlanScript
