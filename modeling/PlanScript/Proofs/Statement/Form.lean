/-
PlanScript.Proofs.Statement.Form — which lines are read as which statement.

`recognize` gives the first form that takes the line, so a form decides when
it takes the line and the forms before it decline (`recognize_of_read`,
`read_of_recognize`). `Recognizes` says which statement comes out.

`Form.Asks` says what a form looks for on a line, and a form takes the lines
that have it (`claims_iff_asks`). What comes out is said once for each form
(`readIndexedCall_cases` and its like): a statement around the arguments of
the call or around the value, and an error where these have one.

The four structured forms are characterized by how they are written
(`recognizes_structured_iff`). The forms before them never interfere: a
call, a group and an index hide every sign in them from arithmetic, and
what follows a call tells the two call forms apart.
-/
import PlanScript.Proofs.Statement.Parts
import PlanScript.Statement.Form

namespace PlanScript

variable {options : Options} {line : Text}

/-! ## 1. The chain of forms -/

/-- The forms that are tried before one. -/
def Form.earlier (form : Form) : List Form := Form.all.takeWhile (· ≠ form)

/-- The form of a statement. -/
def Statement.form : Statement → Form
  | arithmetic .. => .arithmetic
  | indexedCall .. => .indexedCall
  | callAssignment .. => .callAssignment
  | bareCall .. => .bareCall
  | arrayAccess .. => .arrayAccess
  | assignment .. => .assignment

/-- The form does not take the line. -/
def Form.Declines (form : Form) (options : Options) (line : Text) : Prop :=
  form.read options line = .ok none

theorem firstClaim_cons_of_declines {form : Form} (h : form.Declines options line)
    (rest : List Form) : firstClaim options line (form :: rest) = firstClaim options line rest := by
  unfold Form.Declines at h
  rw [firstClaim, h]
  rfl

theorem firstClaim_append_of_declines {forms : List Form}
    (h : ∀ f ∈ forms, f.Declines options line) (rest : List Form) :
    firstClaim options line (forms ++ rest) = firstClaim options line rest := by
  induction forms with
  | nil => rfl
  | cons f forms ih =>
    rw [List.cons_append, firstClaim_cons_of_declines (h f (List.mem_cons_self ..))]
    exact ih fun g hg => h g (List.mem_cons_of_mem _ hg)

/-- A chain gives nothing when all its forms decline; else it gives what one
of them does, an error or a statement. -/
theorem firstClaim_cases (options : Options) (line : Text) (forms : List Form) :
    (firstClaim options line forms = .ok none ∧ ∀ f ∈ forms, f.Declines options line) ∨
      ∃ f ∈ forms,
        (∃ e, firstClaim options line forms = .error e ∧ f.read options line = .error e) ∨
        ∃ r, firstClaim options line forms = .ok (some (f, r)) ∧
          f.read options line = .ok (some r) := by
  induction forms with
  | nil => exact .inl ⟨rfl, by simp⟩
  | cons f forms ih =>
    cases hread : f.read options line with
    | error e =>
      have hfirst : firstClaim options line (f :: forms) = .error e := by
        simp [firstClaim, hread, bind, Except.bind]
      exact .inr ⟨f, List.mem_cons_self .., .inl ⟨e, hfirst, hread⟩⟩
    | ok claim =>
      cases claim with
      | none =>
        rw [firstClaim_cons_of_declines hread]
        rcases ih with ⟨hnone, hall⟩ | ⟨g, hg, hclaim⟩
        · exact .inl ⟨hnone, List.forall_mem_cons.mpr ⟨hread, hall⟩⟩
        · exact .inr ⟨g, List.mem_cons_of_mem _ hg, hclaim⟩
      | some r =>
        have hfirst : firstClaim options line (f :: forms) = .ok (some (f, r)) := by
          simp [firstClaim, hread, bind, Except.bind, pure, Except.pure]
        exact .inr ⟨f, List.mem_cons_self .., .inr ⟨r, hfirst, hread⟩⟩

theorem read_of_firstClaim {forms : List Form} {form : Form} {r : Reading}
    (h : firstClaim options line forms = .ok (some (form, r))) :
    form ∈ forms ∧ form.read options line = .ok (some r) := by
  rcases firstClaim_cases options line forms with
    ⟨hnone, _⟩ | ⟨f, hf, ⟨e, herror, _⟩ | ⟨r', hsome, hread⟩⟩
  · rw [hnone] at h
    cases h
  · rw [herror] at h
    contradiction
  · rw [hsome] at h
    cases h
    exact ⟨hf, hread⟩

/-- The chain fails where one of its forms does. -/
theorem exists_read_of_firstClaim {forms : List Form} {e : LiteralError}
    (h : firstClaim options line forms = .error e) :
    ∃ f ∈ forms, f.read options line = .error e := by
  rcases firstClaim_cases options line forms with
    ⟨hnone, _⟩ | ⟨f, hf, ⟨e', herror, hread⟩ | ⟨r, hsome, _⟩⟩
  · rw [hnone] at h
    contradiction
  · rw [herror] at h
    cases h
    exact ⟨f, hf, hread⟩
  · rw [hsome] at h
    contradiction

/-- A form decides that takes the line when the earlier ones decline. -/
theorem recognize_of_read {form : Form} {r : Reading} (h : form.read options line = .ok (some r))
    (hearlier : ∀ f ∈ form.earlier, f.Declines options line) :
    recognize options line = .ok (some (form, r)) := by
  have hall : ∃ after, Form.all = form.earlier ++ form :: after := by
    cases form <;> exact ⟨_, rfl⟩
  obtain ⟨after, hall⟩ := hall
  rw [recognize, hall, firstClaim_append_of_declines hearlier, firstClaim, h]
  rfl

/-- The form that decides has taken the line. -/
theorem read_of_recognize {form : Form} {r : Reading}
    (h : recognize options line = .ok (some (form, r))) : form.read options line = .ok (some r) :=
  (read_of_firstClaim h).2

/-- The line is recognized as a statement. -/
def Recognizes (options : Options) (line : Text) (s : Statement) : Prop :=
  ∃ form reading, recognize options line = .ok (some (form, reading)) ∧ reading.statement = s

/-! ## 2. Reading one form -/

/-- The line has what the form looks for. -/
def Form.Asks (line : Text) : Form → Prop
  | arithmetic => ∃ b, Binding.ofText? line = some b ∧ hasOperator b.source = true
  | indexedCall => ∃ b c n, Binding.ofText? line = some b ∧ Call.ofText? b.source = some c ∧
      index? c.suffix = some n
  | callAssignment => ∃ b c, Binding.ofText? line = some b ∧ Call.ofText? b.source = some c ∧
      c.suffix = []
  | bareCall => hasAssignment line = false ∧ ∃ c, Call.ofText? line = some c ∧ c.suffix = []
  | arrayAccess => ∃ b before found n, Binding.ofText? line = some b ∧
      Text.breakAt (· = '[') b.source = some (before, found) ∧
      (Text.trimEnd before).isIdentifier = true ∧ index? found = some n
  | assignment => ∃ b, Binding.ofText? line = some b

/-- A form that asks for a call reads a statement around its arguments, and
these alone can fail. -/
theorem readIndexedCall_cases (line : Text) :
    (¬ Form.indexedCall.Asks line ∧ readIndexedCall line = .ok none) ∨
      ∃ b c n, Binding.ofText? line = some b ∧ Call.ofText? b.source = some c ∧
        index? c.suffix = some n ∧ readIndexedCall line
          = c.arguments.map fun args => some (.indexedCall b.target c.function args n) := by
  cases hb : Binding.ofText? line with
  | none => exact .inl (by simp [Form.Asks, readIndexedCall, hb])
  | some b =>
    cases hc : Call.ofText? b.source with
    | none => exact .inl (by simp [Form.Asks, readIndexedCall, hb, hc])
    | some c =>
      cases hn : index? c.suffix with
      | none => exact .inl (by simp [Form.Asks, readIndexedCall, hb, hc, hn])
      | some n => exact .inr ⟨b, c, n, rfl, hc, hn, by simp [readIndexedCall, hb, hc, hn]⟩

theorem readCallAssignment_cases (line : Text) :
    (¬ Form.callAssignment.Asks line ∧ readCallAssignment line = .ok none) ∨
      ∃ b c, Binding.ofText? line = some b ∧ Call.ofText? b.source = some c ∧ c.suffix = [] ∧
        readCallAssignment line
          = c.arguments.map fun args => some (.callAssignment b.target c.function args) := by
  cases hb : Binding.ofText? line with
  | none => exact .inl (by simp [Form.Asks, readCallAssignment, hb])
  | some b =>
    cases hc : Call.ofText? b.source with
    | none => exact .inl (by simp [Form.Asks, readCallAssignment, hb, hc])
    | some c =>
      by_cases hs : c.suffix = []
      · exact .inr ⟨b, c, rfl, hc, hs, by simp [readCallAssignment, hb, hc, hs]⟩
      · exact .inl (by simp [Form.Asks, readCallAssignment, hb, hc, hs])

theorem readBareCall_cases (line : Text) :
    (¬ Form.bareCall.Asks line ∧ readBareCall line = .ok none) ∨
      ∃ c, hasAssignment line = false ∧ Call.ofText? line = some c ∧ c.suffix = [] ∧
        readBareCall line = c.arguments.map fun args => some (.bareCall c.function args) := by
  cases hassign : hasAssignment line with
  | true => exact .inl (by simp [Form.Asks, readBareCall, hassign])
  | false =>
    cases hc : Call.ofText? line with
    | none => exact .inl (by simp [Form.Asks, readBareCall, hassign, hc])
    | some c =>
      by_cases hs : c.suffix = []
      · exact .inr ⟨c, rfl, rfl, hs, by simp [readBareCall, hassign, hc, hs, Option.filter]⟩
      · exact .inl (by simp [Form.Asks, readBareCall, hassign, hc, hs, Option.filter])

theorem readAssignment_cases (options : Options) (line : Text) :
    (¬ Form.assignment.Asks line ∧ readAssignment options line = .ok none) ∨
      ∃ b, Binding.ofText? line = some b ∧ readAssignment options line
        = (Value.read options b.source).map fun r => some ⟨.assignment b.target r.1, r.2⟩ := by
  cases hb : Binding.ofText? line with
  | none => exact .inl (by simp [Form.Asks, readAssignment, hb])
  | some b => exact .inr ⟨b, rfl, by simp [readAssignment, hb]⟩

theorem readArithmetic_eq_some_iff (line : Text) (s : Statement) :
    readArithmetic line = some s ↔ ∃ b, Binding.ofText? line = some b ∧
      hasOperator b.source = true ∧ .arithmetic b.target b.source = s := by
  simp [readArithmetic, Option.bind_eq_some_iff]

theorem readIndexedCall_eq_some_iff (line : Text) (s : Statement) :
    readIndexedCall line = .ok (some s) ↔ ∃ b c n args, Binding.ofText? line = some b ∧
      Call.ofText? b.source = some c ∧ index? c.suffix = some n ∧ c.arguments = .ok args ∧
      .indexedCall b.target c.function args n = s := by
  rcases readIndexedCall_cases line with ⟨hno, hread⟩ | ⟨b, c, n, hb, hc, hn, hread⟩
  · rw [hread]
    constructor
    · intro h
      cases h
    · rintro ⟨b, c, n, _, hb, hc, hn, _⟩
      exact absurd ⟨b, c, n, hb, hc, hn⟩ hno
  · cases ha : c.arguments <;> simp [hread, hb, hc, hn, ha, Except.map]

theorem readCallAssignment_eq_some_iff (line : Text) (s : Statement) :
    readCallAssignment line = .ok (some s) ↔ ∃ b c args, Binding.ofText? line = some b ∧
      Call.ofText? b.source = some c ∧ c.suffix = [] ∧ c.arguments = .ok args ∧
      .callAssignment b.target c.function args = s := by
  rcases readCallAssignment_cases line with ⟨hno, hread⟩ | ⟨b, c, hb, hc, hs, hread⟩
  · rw [hread]
    constructor
    · intro h
      cases h
    · rintro ⟨b, c, _, hb, hc, hs, _⟩
      exact absurd ⟨b, c, hb, hc, hs⟩ hno
  · cases ha : c.arguments <;> simp [hread, hb, hc, hs, ha, Except.map]

theorem readBareCall_eq_some_iff (line : Text) (s : Statement) :
    readBareCall line = .ok (some s) ↔ ∃ c args, hasAssignment line = false ∧
      Call.ofText? line = some c ∧ c.suffix = [] ∧ c.arguments = .ok args ∧
      .bareCall c.function args = s := by
  rcases readBareCall_cases line with ⟨hno, hread⟩ | ⟨c, hassign, hc, hs, hread⟩
  · rw [hread]
    constructor
    · intro h
      cases h
    · rintro ⟨c, _, hassign, hc, hs, _⟩
      exact absurd ⟨hassign, c, hc, hs⟩ hno
  · cases ha : c.arguments <;> simp [hread, hassign, hc, hs, ha, Except.map]

theorem readArrayAccess_eq_some_iff (line : Text) (s : Statement) :
    readArrayAccess line = some s ↔ ∃ b before found n, Binding.ofText? line = some b ∧
      Text.breakAt (· = '[') b.source = some (before, found) ∧
      (Text.trimEnd before).isIdentifier = true ∧ index? found = some n ∧
      .arrayAccess b.target (Text.trimEnd before) n = s := by
  simp [readArrayAccess, Option.bind_eq_some_iff]

theorem map_reading_eq_some_iff (e : Except LiteralError (Option Statement)) (r : Reading) :
    e.map (·.map fun s => ({ statement := s } : Reading)) = .ok (some r) ↔
      ∃ s, e = .ok (some s) ∧ { statement := s } = r := by
  cases e with
  | error e => simp [Except.map]
  | ok s => cases s <;> simp [Except.map]

/-- A statement comes from the form that it has. -/
theorem form_of_read {form : Form} {r : Reading} (h : form.read options line = .ok (some r)) :
    r.statement.form = form := by
  cases form with
  | arithmetic =>
    obtain ⟨s, hs, rfl⟩ := Option.map_eq_some_iff.mp (Except.ok.inj h)
    obtain ⟨b, _, _, rfl⟩ := (readArithmetic_eq_some_iff line s).mp hs
    rfl
  | indexedCall =>
    obtain ⟨s, hs, rfl⟩ := (map_reading_eq_some_iff _ r).mp h
    obtain ⟨b, c, n, args, _, _, _, _, rfl⟩ := (readIndexedCall_eq_some_iff line s).mp hs
    rfl
  | callAssignment =>
    obtain ⟨s, hs, rfl⟩ := (map_reading_eq_some_iff _ r).mp h
    obtain ⟨b, c, args, _, _, _, _, rfl⟩ := (readCallAssignment_eq_some_iff line s).mp hs
    rfl
  | bareCall =>
    obtain ⟨s, hs, rfl⟩ := (map_reading_eq_some_iff _ r).mp h
    obtain ⟨c, args, _, _, _, _, rfl⟩ := (readBareCall_eq_some_iff line s).mp hs
    rfl
  | arrayAccess =>
    obtain ⟨s, hs, rfl⟩ := Option.map_eq_some_iff.mp (Except.ok.inj h)
    obtain ⟨b, before, found, n, _, _, _, _, rfl⟩ := (readArrayAccess_eq_some_iff line s).mp hs
    rfl
  | assignment =>
    rcases readAssignment_cases options line with ⟨_, hread⟩ | ⟨b, _, hread⟩
    · simp [Form.read, hread] at h
    · cases hv : Value.read options b.source with
      | error e => simp [Form.read, hread, hv, Except.map] at h
      | ok v =>
        simp only [Form.read, hread, hv, Except.map, Except.ok.injEq, Option.some.injEq] at h
        rw [← h]
        rfl

/-- A recognized statement was read by its own form. -/
theorem Recognizes.exists_read {s : Statement} (h : Recognizes options line s) :
    ∃ r, s.form.read options line = .ok (some r) ∧ r.statement = s := by
  obtain ⟨form, r, hr, rfl⟩ := h
  have hread := read_of_recognize hr
  exact ⟨r, by rwa [form_of_read hread], rfl⟩

theorem recognizes_of_read {form : Form} {s : Statement}
    (h : form.read options line = .ok (some { statement := s }))
    (hearlier : ∀ f ∈ form.earlier, f.Declines options line) : Recognizes options line s :=
  ⟨form, { statement := s }, recognize_of_read h hearlier, rfl⟩

/-! ## 3. What a form asks of a line -/

theorem claims_eq_false_iff (form : Form) (options : Options) (line : Text) :
    form.claims options line = false ↔ form.Declines options line := by
  unfold Form.claims Form.Declines
  split <;> simp_all

theorem claims_eq_isSome (form : Form) {read? : Option Statement}
    (h : form.read options line = .ok (read?.map fun s => { statement := s })) :
    form.claims options line = read?.isSome := by
  unfold Form.claims
  rw [h]
  cases read? <;> rfl

/-- A form takes the lines that have what it asks for. -/
theorem claims_iff_asks (form : Form) (options : Options) (line : Text) :
    form.claims options line = true ↔ form.Asks line := by
  cases form with
  | arithmetic =>
    rw [claims_eq_isSome .arithmetic rfl, Option.isSome_iff_exists]
    constructor
    · rintro ⟨s, hs⟩
      obtain ⟨b, hb, hoperator, _⟩ := (readArithmetic_eq_some_iff line s).mp hs
      exact ⟨b, hb, hoperator⟩
    · rintro ⟨b, hb, hoperator⟩
      exact ⟨_, (readArithmetic_eq_some_iff line _).mpr ⟨b, hb, hoperator, rfl⟩⟩
  | indexedCall =>
    rcases readIndexedCall_cases line with ⟨hno, hread⟩ | ⟨b, c, n, hb, hc, hn, hread⟩
    · simp [Form.claims, Form.read, hread, hno, Except.map]
    · have hasks : Form.indexedCall.Asks line := ⟨b, c, n, hb, hc, hn⟩
      cases ha : c.arguments <;> simp [Form.claims, Form.read, hread, ha, hasks, Except.map]
  | callAssignment =>
    rcases readCallAssignment_cases line with ⟨hno, hread⟩ | ⟨b, c, hb, hc, hs, hread⟩
    · simp [Form.claims, Form.read, hread, hno, Except.map]
    · have hasks : Form.callAssignment.Asks line := ⟨b, c, hb, hc, hs⟩
      cases ha : c.arguments <;> simp [Form.claims, Form.read, hread, ha, hasks, Except.map]
  | bareCall =>
    rcases readBareCall_cases line with ⟨hno, hread⟩ | ⟨c, hassign, hc, hs, hread⟩
    · simp [Form.claims, Form.read, hread, hno, Except.map]
    · have hasks : Form.bareCall.Asks line := ⟨hassign, c, hc, hs⟩
      cases ha : c.arguments <;> simp [Form.claims, Form.read, hread, ha, hasks, Except.map]
  | arrayAccess =>
    rw [claims_eq_isSome .arrayAccess rfl, Option.isSome_iff_exists]
    constructor
    · rintro ⟨s, hs⟩
      obtain ⟨b, before, found, n, hb, hbreak, hname, hn, _⟩ :=
        (readArrayAccess_eq_some_iff line s).mp hs
      exact ⟨b, before, found, n, hb, hbreak, hname, hn⟩
    · rintro ⟨b, before, found, n, hb, hbreak, hname, hn⟩
      exact ⟨_, (readArrayAccess_eq_some_iff line _).mpr
        ⟨b, before, found, n, hb, hbreak, hname, hn, rfl⟩⟩
  | assignment =>
    rcases readAssignment_cases options line with ⟨hno, hread⟩ | ⟨b, hb, hread⟩
    · simp [Form.claims, Form.read, hread, hno]
    · have hasks : Form.assignment.Asks line := ⟨b, hb⟩
      cases hv : Value.read options b.source <;>
        simp [Form.claims, Form.read, hread, hv, hasks, Except.map]

theorem declines_iff_not_asks (form : Form) (options : Options) (line : Text) :
    form.Declines options line ↔ ¬ form.Asks line := by
  rw [← claims_eq_false_iff, ← Bool.not_eq_true, claims_iff_asks]

theorem declines_arithmetic
    (h : ∀ b, Binding.ofText? line = some b → hasOperator b.source = false) :
    Form.arithmetic.Declines options line := by
  refine (declines_iff_not_asks _ options line).mpr ?_
  rintro ⟨b, hb, hoperator⟩
  rw [h b hb] at hoperator
  contradiction

theorem declines_indexedCall
    (h : ∀ b, Binding.ofText? line = some b → ∀ c, Call.ofText? b.source = some c →
      index? c.suffix = none) : Form.indexedCall.Declines options line := by
  refine (declines_iff_not_asks _ options line).mpr ?_
  rintro ⟨b, c, n, hb, hc, hn⟩
  rw [h b hb c hc] at hn
  contradiction

theorem declines_callAssignment
    (h : ∀ b, Binding.ofText? line = some b → ∀ c, Call.ofText? b.source = some c →
      c.suffix ≠ []) : Form.callAssignment.Declines options line := by
  refine (declines_iff_not_asks _ options line).mpr ?_
  rintro ⟨b, c, hb, hc, hsuffix⟩
  exact h b hb c hc hsuffix

theorem declines_bareCall (h : hasAssignment line = true) :
    Form.bareCall.Declines options line := by
  refine (declines_iff_not_asks _ options line).mpr ?_
  rintro ⟨hassign, _⟩
  rw [h] at hassign
  contradiction

theorem declines_arrayAccess
    (h : ∀ b, Binding.ofText? line = some b → ∀ before found,
      Text.breakAt (· = '[') b.source = some (before, found) →
      (Text.trimEnd before).isIdentifier = false) : Form.arrayAccess.Declines options line := by
  refine (declines_iff_not_asks _ options line).mpr ?_
  rintro ⟨b, before, found, n, hb, hbreak, hname, _⟩
  rw [h b hb before found hbreak] at hname
  contradiction

/-- On a line that assigns nothing, only a bare call can be read. -/
theorem declines_of_not_hasAssignment (h : hasAssignment line = false) :
    ∀ f ∈ Form.bareCall.earlier, f.Declines options line := by
  have hb : ∀ b, Binding.ofText? line ≠ some b := by simp [Binding.ofText?_eq_none h]
  have harithmetic : Form.arithmetic.Declines options line :=
    declines_arithmetic fun b hsome => absurd hsome (hb b)
  have hindexed : Form.indexedCall.Declines options line :=
    declines_indexedCall fun b hsome => absurd hsome (hb b)
  have hcall : Form.callAssignment.Declines options line :=
    declines_callAssignment fun b hsome => absurd hsome (hb b)
  have hforms : Form.bareCall.earlier = [.arithmetic, .indexedCall, .callAssignment] := rfl
  simp [hforms, harithmetic, hindexed, hcall]

/-- What holds of the one binding of a line holds of every binding that is
read from it. -/
theorem forall_binding {b : Binding} (hb : Binding.ofText? line = some b)
    {p : Binding → Prop} (h : p b) : ∀ other, Binding.ofText? line = some other → p other := by
  intro other hother
  rw [hb] at hother
  cases hother
  exact h

theorem declines_arithmetic_of_quiet {b : Binding} (hb : Binding.ofText? line = some b)
    (h : Quiet Place.isOperator b.source) : Form.arithmetic.Declines options line :=
  declines_arithmetic (forall_binding hb (hasPlace_eq_false h.2))

/-- A source without a call is read by neither of the two call forms. -/
theorem declines_of_no_call (options : Options) {b : Binding}
    (hb : Binding.ofText? line = some b) (h : Call.ofText? b.source = none) :
    Form.indexedCall.Declines options line ∧ Form.callAssignment.Declines options line := by
  have hno : ∀ c, Call.ofText? b.source ≠ some c := by simp [h]
  constructor
  · exact declines_indexedCall (forall_binding hb fun c hc => absurd hc (hno c))
  · exact declines_callAssignment (forall_binding hb fun c hc => absurd hc (hno c))

/-- A source that no name starts, and that has no operator, can only be read
as a value. -/
theorem declines_of_value {b : Binding} (hb : Binding.ofText? line = some b)
    (hquiet : Quiet Place.isOperator b.source) {c : Char} {rest : Text}
    (hstart : b.source = c :: rest) (hc : startsIdentifier c = false) :
    ∀ f ∈ Form.assignment.earlier, f.Declines options line := by
  have hnocall : Call.ofText? b.source = none := by
    rw [hstart]
    exact Call.ofText?_eq_none_of_start hc rest
  have hcalls := declines_of_no_call options hb hnocall
  have hbare : Form.bareCall.Declines options line :=
    declines_bareCall (hasAssignment_of_ofText? hb)
  have haccess : Form.arrayAccess.Declines options line := by
    refine declines_arrayAccess (forall_binding hb fun before found hbreak => ?_)
    rw [hstart] at hbreak
    rw [← Bool.not_eq_true]
    intro hname
    rw [startsIdentifier_of_breakAt hbreak hname] at hc
    contradiction
  have hforms : Form.assignment.earlier
      = [.arithmetic, .indexedCall, .callAssignment, .bareCall, .arrayAccess] := rfl
  have harithmetic : Form.arithmetic.Declines options line :=
    declines_arithmetic_of_quiet hb hquiet
  simp [hforms, harithmetic, hcalls, hbare, haccess]

/-! ## 4. Written forms are read -/

/-- What the readers find on a line that binds a call with a number in square
brackets behind it. -/
theorem reads_call_and_index {t f call w index : Text} {args : List Text} {n : Int}
    (hbinding : IsBinding line t (call ++ w ++ index)) (hcall : IsCall call f args)
    (hw : w.allBlank = true) (hindex : SpellsIndex index n) :
    Binding.ofText? line = some ⟨t, call ++ w ++ index⟩ ∧ Text.Trimmed (call ++ w ++ index) ∧
      Quiet Place.isOperator (call ++ w ++ index) ∧
      ∃ parts, Call.ofText? (call ++ w ++ index) = some parts ∧ parts.function = f ∧
        parts.suffix = index ∧ parts.arguments = .ok args := by
  have hsource : Text.Trimmed (call ++ w ++ index) :=
    hcall.trimmed.join hindex.trimmed hcall.ne_nil hindex.ne_nil w
  obtain ⟨c, more, hstart, hc⟩ := hcall.start
  have hhead : call ++ w ++ index = c :: (more ++ w ++ index) := by simp [hstart]
  have hquiet : Quiet Place.isOperator (call ++ w ++ index) :=
    ((hcall.quiet marksSign_isOperator).append
      (marksSign_isOperator.quiet_word (isWordChar_of_allBlank hw))).append
      (hindex.quiet marksSign_isOperator)
  exact ⟨hbinding.ofText?_eq_some hsource hhead hc, hsource, hquiet,
    hcall.ofText? hw hindex.trimmed⟩

/-- A line is read as an element of a call's result when it is written as
one. -/
theorem recognizes_indexedCall {t f call w index : Text} {args : List Text} {n : Int64}
    (hbinding : IsBinding line t (call ++ w ++ index)) (hcall : IsCall call f args)
    (hw : w.allBlank = true) (hindex : IsIndex index n) :
    Recognizes options line (.indexedCall t f args n) := by
  obtain ⟨hb, _, hquiet, parts, hread, rfl, hsuffix, hargs⟩ :=
    reads_call_and_index hbinding hcall hw hindex.spells
  have hn : index? parts.suffix = some n := by rwa [hsuffix, index?_eq_some_iff]
  have hstatement := (readIndexedCall_eq_some_iff line _).mpr
    ⟨_, parts, n, args, hb, hread, hn, hargs, rfl⟩
  have hform : Form.indexedCall.read options line
      = .ok (some { statement := .indexedCall t parts.function args n }) :=
    (map_reading_eq_some_iff _ _).mpr ⟨_, hstatement, rfl⟩
  refine recognizes_of_read hform ?_
  have hforms : Form.indexedCall.earlier = [.arithmetic] := rfl
  simp [hforms, declines_arithmetic_of_quiet hb hquiet]

theorem recognizes_callAssignment {t f call : Text} {args : List Text}
    (hbinding : IsBinding line t call) (hcall : IsCall call f args) :
    Recognizes options line (.callAssignment t f args) := by
  obtain ⟨c, more, hstart, hc⟩ := hcall.start
  have hb := hbinding.ofText?_eq_some hcall.trimmed hstart hc
  obtain ⟨parts, hread, rfl, hsuffix, hargs⟩ := hcall.ofText?_self
  have hstatement := (readCallAssignment_eq_some_iff line _).mpr
    ⟨_, parts, args, hb, hread, hsuffix, hargs, rfl⟩
  have hform : Form.callAssignment.read options line
      = .ok (some { statement := .callAssignment t parts.function args }) :=
    (map_reading_eq_some_iff _ _).mpr ⟨_, hstatement, rfl⟩
  -- What follows the call is no index, so it is not an element of its result.
  have hindexed : Form.indexedCall.Declines options line := by
    refine declines_indexedCall (forall_binding hb fun other hother => ?_)
    rw [hread] at hother
    cases hother
    rw [hsuffix]
    rfl
  refine recognizes_of_read hform ?_
  have hforms : Form.callAssignment.earlier = [.arithmetic, .indexedCall] := rfl
  have harithmetic : Form.arithmetic.Declines options line :=
    declines_arithmetic_of_quiet hb (hcall.quiet marksSign_isOperator)
  simp [hforms, harithmetic, hindexed]

theorem recognizes_bareCall {f : Text} {args : List Text} (hcall : IsCall line f args) :
    Recognizes options line (.bareCall f args) := by
  have hassign : hasAssignment line = false := hasPlace_eq_false (hcall.quiet marksSign_assigns).2
  obtain ⟨parts, hread, rfl, hsuffix, hargs⟩ := hcall.ofText?_self
  have hstatement := (readBareCall_eq_some_iff line _).mpr
    ⟨parts, args, hassign, hread, hsuffix, hargs, rfl⟩
  have hform : Form.bareCall.read options line
      = .ok (some { statement := .bareCall parts.function args }) :=
    (map_reading_eq_some_iff _ _).mpr ⟨_, hstatement, rfl⟩
  exact recognizes_of_read hform (declines_of_not_hasAssignment hassign)

/-- What the readers find on a line that binds a name with a number in square
brackets behind it. -/
theorem reads_name_and_index {t c w index : Text} {n : Int}
    (hbinding : IsBinding line t (c ++ w ++ index)) (hc : c.isIdentifier = true)
    (hw : w.allBlank = true) (hindex : SpellsIndex index n) :
    Binding.ofText? line = some ⟨t, c ++ w ++ index⟩ ∧ Text.Trimmed (c ++ w ++ index) ∧
      Quiet Place.isOperator (c ++ w ++ index) ∧ Call.ofText? (c ++ w ++ index) = none ∧
      Text.breakAt (· = '[') (c ++ w ++ index) = some (c ++ w, index) := by
  have hsource : Text.Trimmed (c ++ w ++ index) :=
    (Text.trimmed_of_isIdentifier hc).join hindex.trimmed (Text.ne_nil_of_isIdentifier hc)
      hindex.ne_nil w
  obtain ⟨d, more, hstart, hd⟩ := Text.exists_start_of_isIdentifier hc
  have hhead : c ++ w ++ index = d :: (more ++ w ++ index) := by simp [hstart]
  have hname := isWordChar_of_name hc hw
  have hquiet : Quiet Place.isOperator (c ++ w ++ index) :=
    (marksSign_isOperator.quiet_word hname).append (hindex.quiet marksSign_isOperator)
  -- No round bracket stands in the source, so no call is found there.
  have hnocall : Call.ofText? (c ++ w ++ index) = none := by
    refine Call.ofText?_eq_none_of_no_opener fun hmem => ?_
    rcases List.mem_append.mp hmem with hmem | hmem
    · exact ne_of_isWordChar (hname _ hmem) (show isWordChar '(' = false by decide) rfl
    · exact hindex.not_mem_opener hmem
  obtain ⟨body, hbody, _⟩ := hindex.exists_body
  have hbreak : Text.breakAt (· = '[') (c ++ w ++ index) = some (c ++ w, index) := by
    rw [hbody]
    refine Text.breakAt_append (fun d hd => decide_eq_false ?_) (by decide) (body ++ [']'])
    exact ne_of_isWordChar (hname d hd) (by decide)
  exact ⟨hbinding.ofText?_eq_some hsource hhead hd, hsource, hquiet, hnocall, hbreak⟩

theorem recognizes_arrayAccess {t c w index : Text} {n : Int64}
    (hbinding : IsBinding line t (c ++ w ++ index)) (hc : c.isIdentifier = true)
    (hw : w.allBlank = true) (hindex : IsIndex index n) :
    Recognizes options line (.arrayAccess t c n) := by
  obtain ⟨hb, _, hquiet, hnocall, hbreak⟩ := reads_name_and_index hbinding hc hw hindex.spells
  have hcalls := declines_of_no_call options hb hnocall
  have htrim : Text.trimEnd (c ++ w) = c := (Text.trimmed_of_isIdentifier hc).trimEnd_append hw
  have hstatement := (readArrayAccess_eq_some_iff line (.arrayAccess t c n)).mpr
    ⟨_, c ++ w, index, n, hb, hbreak, by rwa [htrim], (index?_eq_some_iff index n).mpr hindex,
      by rw [htrim]⟩
  have hform : Form.arrayAccess.read options line
      = .ok (some { statement := .arrayAccess t c n }) := by
    rw [Form.read, hstatement]
    rfl
  refine recognizes_of_read hform ?_
  have harithmetic : Form.arithmetic.Declines options line :=
    declines_arithmetic_of_quiet hb hquiet
  have hbare : Form.bareCall.Declines options line :=
    declines_bareCall (hasAssignment_of_ofText? hb)
  have hforms : Form.arrayAccess.earlier
      = [.arithmetic, .indexedCall, .callAssignment, .bareCall] := rfl
  simp [hforms, harithmetic, hcalls, hbare]

/-! ## 5. Expressions and values -/

theorem recognizes_arithmetic {b : Binding} (hb : Binding.ofText? line = some b)
    (h : hasOperator b.source = true) :
    Recognizes options line (.arithmetic b.target b.source) := by
  have hstatement := (readArithmetic_eq_some_iff line _).mpr ⟨b, hb, h, rfl⟩
  have hform : Form.arithmetic.read options line
      = .ok (some { statement := .arithmetic b.target b.source }) := by
    rw [Form.read, hstatement]
    rfl
  refine recognizes_of_read hform ?_
  have hforms : Form.arithmetic.earlier = [] := rfl
  simp [hforms]

/-- A source that no name starts is a value, when it has no operator. -/
theorem recognizes_assignment {b : Binding} (hb : Binding.ofText? line = some b)
    (hquiet : Quiet Place.isOperator b.source) {c : Char} {rest : Text}
    (hstart : b.source = c :: rest) (hc : startsIdentifier c = false) {value : Value}
    {skipped : List Text} (hvalue : Value.read options b.source = .ok (value, skipped)) :
    Recognizes options line (.assignment b.target value) := by
  have hform : Form.assignment.read options line
      = .ok (some ⟨.assignment b.target value, skipped⟩) := by
    simp only [Form.read, readAssignment, hb, hvalue]
    rfl
  exact ⟨.assignment, _, recognize_of_read hform (declines_of_value hb hquiet hstart hc), rfl⟩

/-! ## 6. What is read is written so -/

theorem exists_of_recognizes_indexedCall (hline : Text.Trimmed line) {t f : Text}
    {args : List Text} {n : Int64} (h : Recognizes options line (.indexedCall t f args n)) :
    ∃ call w index, IsBinding line t (call ++ w ++ index) ∧ IsCall call f args ∧
      Text.allBlank w = true ∧ IsIndex index n := by
  obtain ⟨r, hread, hr⟩ := h.exists_read
  obtain ⟨s, hs, rfl⟩ := (map_reading_eq_some_iff _ r).mp hread
  obtain ⟨b, c, m, args', hb, hc, hm, hargs, rfl⟩ := (readIndexedCall_eq_some_iff line s).mp hs
  cases hr
  obtain ⟨hbinding, hsource, _⟩ := Binding.isBinding_of_ofText? hline hb
  obtain ⟨call, w, hsplit, hw, hcall⟩ := Call.isCall_of_ofText? hsource hc hargs
  rw [hsplit] at hbinding
  exact ⟨call, w, c.suffix, hbinding, hcall, hw, (index?_eq_some_iff _ _).mp hm⟩

theorem exists_of_recognizes_callAssignment (hline : Text.Trimmed line) {t f : Text}
    {args : List Text} (h : Recognizes options line (.callAssignment t f args)) :
    ∃ call, IsBinding line t call ∧ IsCall call f args := by
  obtain ⟨r, hread, hr⟩ := h.exists_read
  obtain ⟨s, hs, rfl⟩ := (map_reading_eq_some_iff _ r).mp hread
  obtain ⟨b, c, args', hb, hc, hsuffix, hargs, rfl⟩ :=
    (readCallAssignment_eq_some_iff line s).mp hs
  cases hr
  obtain ⟨hbinding, hsource, _⟩ := Binding.isBinding_of_ofText? hline hb
  exact ⟨b.source, hbinding, Call.isCall_of_suffix_eq_nil hsource hc hsuffix hargs⟩

theorem isCall_of_recognizes_bareCall (hline : Text.Trimmed line) {f : Text} {args : List Text}
    (h : Recognizes options line (.bareCall f args)) : IsCall line f args := by
  obtain ⟨r, hread, hr⟩ := h.exists_read
  obtain ⟨s, hs, rfl⟩ := (map_reading_eq_some_iff _ r).mp hread
  obtain ⟨c, args', _, hc, hsuffix, hargs, rfl⟩ := (readBareCall_eq_some_iff line s).mp hs
  cases hr
  exact Call.isCall_of_suffix_eq_nil hline hc hsuffix hargs

theorem exists_of_recognizes_arrayAccess (hline : Text.Trimmed line) {t c : Text} {n : Int64}
    (h : Recognizes options line (.arrayAccess t c n)) :
    ∃ w index, IsBinding line t (c ++ w ++ index) ∧ c.isIdentifier = true ∧
      Text.allBlank w = true ∧ IsIndex index n := by
  obtain ⟨r, hread, hr⟩ := h.exists_read
  obtain ⟨s, hs, rfl⟩ := Option.map_eq_some_iff.mp (Except.ok.inj hread)
  obtain ⟨b, before, found, m, hb, hbreak, hname, hm, rfl⟩ :=
    (readArrayAccess_eq_some_iff line s).mp hs
  cases hr
  obtain ⟨hbinding, _, _⟩ := Binding.isBinding_of_ofText? hline hb
  obtain ⟨w, hw, hbefore⟩ := Text.exists_eq_trimEnd_append before
  refine ⟨w, found, ?_, hname, hw, (index?_eq_some_iff _ _).mp hm⟩
  rw [← hbefore, ← Text.append_of_breakAt hbreak]
  exact hbinding

/-- A line without white space at its ends is read as one of the four
structured forms exactly when it is written as one, whatever the options. -/
theorem recognizes_structured_iff (options : Options) (line : Text)
    (hline : Text.Trimmed line) :
    (∀ t f args n, Recognizes options line (.indexedCall t f args n) ↔
      ∃ call w index, IsBinding line t (call ++ w ++ index) ∧ IsCall call f args ∧
        Text.allBlank w = true ∧ IsIndex index n) ∧
    (∀ t f args, Recognizes options line (.callAssignment t f args) ↔
      ∃ call, IsBinding line t call ∧ IsCall call f args) ∧
    (∀ f args, Recognizes options line (.bareCall f args) ↔ IsCall line f args) ∧
    (∀ t c n, Recognizes options line (.arrayAccess t c n) ↔
      ∃ w index, IsBinding line t (c ++ w ++ index) ∧ c.isIdentifier = true ∧
        Text.allBlank w = true ∧ IsIndex index n) := by
  refine ⟨?_, ?_, ?_, ?_⟩
  · intro t f args n
    constructor
    · exact exists_of_recognizes_indexedCall hline
    · rintro ⟨call, w, index, hbinding, hcall, hw, hindex⟩
      exact recognizes_indexedCall hbinding hcall hw hindex
  · intro t f args
    constructor
    · exact exists_of_recognizes_callAssignment hline
    · rintro ⟨call, hbinding, hcall⟩
      exact recognizes_callAssignment hbinding hcall
  · intro f args
    constructor
    · exact isCall_of_recognizes_bareCall hline
    · intro hcall
      exact recognizes_bareCall hcall
  · intro t c n
    constructor
    · exact exists_of_recognizes_arrayAccess hline
    · rintro ⟨w, index, hbinding, hc, hw, hindex⟩
      exact recognizes_arrayAccess hbinding hc hw hindex

/-- An element of a call's result, with a negative index. -/
theorem recognizes_indexedCall_line :
    Text.Trimmed "x = f(1)[-2]".toList ∧
      Recognizes {} "x = f(1)[-2]".toList (.indexedCall ['x'] ['f'] [['1']] (-2)) := by
  have hline : Text.Trimmed "x = f(1)[-2]".toList := rfl
  have hcall : IsCall "f(1)".toList ['f'] [['1']] :=
    ⟨by decide, [], ['1'], [['1']], rfl, rfl, rfl, rfl, rfl⟩
  have hindex : IsIndex "[-2]".toList (-2) := (index?_eq_some_iff _ _).mp (by decide)
  have hbinding : IsBinding "x = f(1)[-2]".toList ['x'] "f(1)[-2]".toList :=
    ⟨by decide, [' '], [' '], rfl, rfl, rfl⟩
  refine ⟨hline, ((recognizes_structured_iff {} _ hline).1 _ _ _ _).mpr ?_⟩
  exact ⟨"f(1)".toList, [], "[-2]".toList, hbinding, hcall, rfl, hindex⟩

end PlanScript
