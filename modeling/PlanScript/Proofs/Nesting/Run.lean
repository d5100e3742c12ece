/-
PlanScript.Proofs.Nesting.Run — the state after a text.

`ScanState.after?` is the scan with its offsets left out: the state after a
text, or nothing when a closing bracket in it is unexpected. It describes the
scan with offsets: `runFrom` succeeds with the same state
(`runFrom_eq_ok_iff`), and fails at the first character after which there is
none (`runFrom_eq_error_iff`).

A text is `Balanced` when a scan of it ends where it began; these are the
texts that `checkNesting` passes (`checkNesting_eq_ok_iff`). A scan of a
balanced text can start at any depth: it comes back to that depth and is
never below it (`after?_above`).
-/
import PlanScript.Nesting.Scan

namespace PlanScript

/-! ## 1. Kinds of character -/

namespace Bracket

theorem ofOpener?_eq_some_iff (c : Char) (b : Bracket) : ofOpener? c = some b ↔ c = b.opener := by
  constructor
  · intro h
    unfold ofOpener? at h
    split at h
    · cases h; assumption
    · split at h
      · cases h; assumption
      · split at h
        · cases h; assumption
        · contradiction
  · rintro rfl
    exact ofOpener?_opener b

theorem ofCloser?_eq_some_iff (c : Char) (b : Bracket) : ofCloser? c = some b ↔ c = b.closer := by
  constructor
  · intro h
    unfold ofCloser? at h
    split at h
    · cases h; assumption
    · split at h
      · cases h; assumption
      · split at h
        · cases h; assumption
        · contradiction
  · rintro rfl
    exact ofCloser?_closer b

theorem utf8Size_opener (b : Bracket) : b.opener.utf8Size = 1 := by cases b <;> rfl

theorem utf8Size_closer (b : Bracket) : b.closer.utf8Size = 1 := by cases b <;> rfl

@[simp] theorem isQuote_opener (b : Bracket) : isQuote b.opener = false := by cases b <;> rfl

@[simp] theorem isQuote_closer (b : Bracket) : isQuote b.closer = false := by cases b <;> rfl

@[simp] theorem ofOpener?_closer (b : Bracket) : ofOpener? b.closer = none := by cases b <;> rfl

@[simp] theorem ofCloser?_opener (b : Bracket) : ofCloser? b.opener = none := by cases b <;> rfl

theorem opener_injective {a b : Bracket} (h : a.opener = b.opener) : a = b := by
  have ha := ofOpener?_opener a
  rw [h, ofOpener?_opener] at ha
  exact (Option.some.inj ha).symm

theorem closer_injective {a b : Bracket} (h : a.closer = b.closer) : a = b := by
  have ha := ofCloser?_closer a
  rw [h, ofCloser?_closer] at ha
  exact (Option.some.inj ha).symm

end Bracket

/-- A character that is neither a quote nor a bracket. -/
def isPlain (c : Char) : Bool :=
  !isQuote c && (Bracket.ofOpener? c).isNone && (Bracket.ofCloser? c).isNone

theorem isQuote_of_isPlain {c : Char} (hc : isPlain c = true) : isQuote c = false := by
  simp only [isPlain, Bool.and_eq_true, Bool.not_eq_true'] at hc
  exact hc.1.1

/-- The four kinds of character that a scan tells apart. -/
theorem char_cases (c : Char) :
    isPlain c = true ∨ isQuote c = true ∨ (∃ b : Bracket, c = b.opener) ∨
      ∃ b : Bracket, c = b.closer := by
  cases hq : isQuote c with
  | true => exact .inr (.inl rfl)
  | false =>
    cases ho : Bracket.ofOpener? c with
    | some b => exact .inr (.inr (.inl ⟨b, (Bracket.ofOpener?_eq_some_iff c b).mp ho⟩))
    | none =>
      cases hc : Bracket.ofCloser? c with
      | some b => exact .inr (.inr (.inr ⟨b, (Bracket.ofCloser?_eq_some_iff c b).mp hc⟩))
      | none => exact .inl (by simp [isPlain, hq, ho, hc])

/-- A property that no quote and no bracket has is one of plain characters. -/
theorem isPlain_of_holds {p : Char → Bool} (hquote : p '"' = false ∧ p '\x27' = false)
    (hbracket : ∀ b : Bracket, p b.opener = false ∧ p b.closer = false) {c : Char}
    (h : p c = true) : isPlain c = true := by
  rcases char_cases c with hc | hq | ⟨b, rfl⟩ | ⟨b, rfl⟩
  · exact hc
  · simp only [isQuote, Bool.or_eq_true, decide_eq_true_eq] at hq
    rcases hq with rfl | rfl
    · rw [hquote.1] at h
      contradiction
    · rw [hquote.2] at h
      contradiction
  · rw [(hbracket b).1] at h
    contradiction
  · rw [(hbracket b).2] at h
    contradiction

/-! ## 2. Depths -/

namespace Depth

instance : Add Depth := ⟨fun d e => ⟨d.round + e.round, d.square + e.square, d.curly + e.curly⟩⟩

theorem add_def (d e : Depth) :
    d + e = ⟨d.round + e.round, d.square + e.square, d.curly + e.curly⟩ := rfl

@[simp] theorem add_zero (d : Depth) : d + {} = d := rfl

@[simp] theorem count_add (d e : Depth) (b : Bracket) :
    (d + e).count b = d.count b + e.count b := by
  cases b <;> rfl

theorem raise_add (d e : Depth) (b : Bracket) : d + e.raise b = (d + e).raise b := by
  cases b <;> simp [add_def, raise, Nat.add_assoc]

theorem count_raise (d : Depth) (a b : Bracket) :
    (d.raise b).count a = d.count a + if a = b then 1 else 0 := by
  cases a <;> cases b <;> rfl

/-- Closing a bracket undoes opening one. -/
theorem lower?_eq_some_iff (d e : Depth) (b : Bracket) : d.lower? b = some e ↔ d = e.raise b := by
  constructor
  · intro h
    unfold lower? at h
    split at h
    · contradiction
    · next hpos =>
      obtain ⟨r, s, c⟩ := d
      cases b <;> simp only [Option.some.injEq, count] at h hpos <;> subst h <;>
        simp only [raise, Depth.mk.injEq, true_and, and_true] <;> omega
  · rintro rfl
    exact lower?_raise e b

theorem lower?_eq_none_iff (d : Depth) (b : Bracket) : d.lower? b = none ↔ d.count b = 0 := by
  unfold lower?
  split
  · next h => simp [h]
  · next h => cases b <;> simpa using h

theorem ext_count {d e : Depth} (h : ∀ b, d.count b = e.count b) : d = e := by
  obtain ⟨r, s, c⟩ := d
  obtain ⟨r', s', c'⟩ := e
  have hr := h .round
  have hs := h .square
  have hc := h .curly
  simp only [count] at hr hs hc
  rw [hr, hs, hc]

end Depth

/-! ## 3. One step -/

namespace ScanState

theorem step_of_plain {s : ScanState} (hs : s.quote = none) {c : Char} (hc : isPlain c = true) :
    s.step c = .ok s := by
  simp only [isPlain, Bool.and_eq_true, Bool.not_eq_true', Option.isNone_iff_eq_none] at hc
  obtain ⟨⟨hq, ho⟩, hcl⟩ := hc
  simp [step, hs, hq, ho, hcl]

theorem step_of_quote {s : ScanState} (hs : s.quote = none) {c : Char} (hc : isQuote c = true) :
    s.step c = .ok { s with quote := some c } := by
  simp [step, hs, hc]

theorem step_opener {s : ScanState} (hs : s.quote = none) (b : Bracket) :
    s.step b.opener = .ok { s with depth := s.depth.raise b } := by
  simp [step, hs]

theorem step_closer {s : ScanState} (hs : s.quote = none) (b : Bracket) :
    s.step b.closer = match s.depth.lower? b with
      | some d => .ok { s with depth := d }
      | none => .error b := by
  cases hd : s.depth.lower? b <;> simp [step, hs, hd]

/-- The only step that fails is a closing bracket, outside every literal, of
a kind that is not open. -/
theorem step_eq_error_iff (s : ScanState) (c : Char) (b : Bracket) :
    s.step c = .error b ↔ c = b.closer ∧ s.quote = none ∧ s.depth.count b = 0 := by
  rw [← Depth.lower?_eq_none_iff]
  constructor
  · intro h
    cases hquote : s.quote with
    | some q =>
      unfold step at h
      grind
    | none =>
      rcases char_cases c with hc | hc | ⟨a, rfl⟩ | ⟨a, rfl⟩
      · simp [step_of_plain hquote hc] at h
      · simp [step_of_quote hquote hc] at h
      · simp [step_opener hquote] at h
      · rw [step_closer hquote] at h
        cases hlow : s.depth.lower? a with
        | some d => simp [hlow] at h
        | none =>
          simp only [hlow, Except.error.injEq] at h
          rw [← h]
          exact ⟨rfl, rfl, hlow⟩
  · rintro ⟨rfl, hquote, hlow⟩
    rw [step_closer hquote, hlow]

theorem advance_of_step {s next : ScanState} {c : Char} (h : s.step c = .ok next)
    (offset : Nat) : s.advance c offset = .ok next := by
  rw [advance, h]
  rfl

theorem advance_of_step_error {s : ScanState} {c : Char} {b : Bracket} (h : s.step c = .error b)
    (offset : Nat) : s.advance c offset = .error (.unexpectedClose b offset) := by
  rw [advance, h]
  rfl

/-- A step leaves the quote alone, ends the literal or starts one; outside a
literal nothing is escaped. -/
theorem escaped_of_step {s next : ScanState} {c : Char} (h : s.step c = .ok next)
    (hs : s.quote = none → s.escaped = false) : next.quote = none → next.escaped = false := by
  unfold step at h
  intro hnext
  grind

/-- A step into a literal is made by a quote. -/
theorem isQuote_of_step {s next : ScanState} {c : Char} (h : s.step c = .ok next)
    (hs : ∀ q, s.quote = some q → isQuote q = true) :
    ∀ q, next.quote = some q → isQuote q = true := by
  intro q hq
  unfold step at h
  grind

/-- A scan on top of some more open brackets takes the same steps. -/
def above (base : Depth) (s : ScanState) : ScanState := { s with depth := base + s.depth }

theorem step_above {s next : ScanState} {c : Char} (h : s.step c = .ok next) (base : Depth) :
    (s.above base).step c = .ok (next.above base) := by
  cases hq : s.quote with
  | some q =>
    simp only [step, hq, above] at h ⊢
    grind
  | none =>
    have hover : (s.above base).quote = none := hq
    rcases char_cases c with hc | hc | ⟨b, rfl⟩ | ⟨b, rfl⟩
    · rw [step_of_plain hq hc] at h
      rw [step_of_plain hover hc]
      cases h; rfl
    · rw [step_of_quote hq hc] at h
      rw [step_of_quote hover hc]
      cases h; rfl
    · rw [step_opener hq] at h
      rw [step_opener hover]
      cases h
      simp [above, Depth.raise_add]
    · rw [step_closer hq] at h
      rw [step_closer hover]
      cases hd : s.depth.lower? b with
      | none => simp [hd] at h
      | some d =>
        have hbase : (s.above base).depth.lower? b = some (base + d) := by
          rw [Depth.lower?_eq_some_iff] at hd ⊢
          rw [← Depth.raise_add, ← hd, above]
        simp only [hd] at h
        simp only [hbase]
        cases h; rfl

/-! ## 4. The state after a text -/

/-- The state after a text, when every closing bracket of it finds an open
one. -/
def after? (s : ScanState) : Text → Option ScanState
  | [] => some s
  | c :: rest => match s.step c with
    | .ok next => next.after? rest
    | .error _ => none

theorem after?_cons_of_step {s next : ScanState} {c : Char} (h : s.step c = .ok next) (t : Text) :
    s.after? (c :: t) = next.after? t := by
  simp [after?, h]

theorem step_of_after?_cons {s last : ScanState} {c : Char} {t : Text}
    (h : s.after? (c :: t) = some last) :
    ∃ next, s.step c = .ok next ∧ next.after? t = some last := by
  cases hstep : s.step c with
  | ok next => exact ⟨next, rfl, by rwa [after?_cons_of_step hstep] at h⟩
  | error b => simp [after?, hstep] at h

theorem after?_append (s : ScanState) (u v : Text) :
    s.after? (u ++ v) = (s.after? u).bind (·.after? v) := by
  induction u generalizing s with
  | nil => rfl
  | cons c u ih =>
    cases hstep : s.step c with
    | ok next => rw [List.cons_append, after?_cons_of_step hstep, after?_cons_of_step hstep, ih]
    | error b => simp [after?, hstep]

theorem after?_append_of_eq {s m : ScanState} {u : Text} (h : s.after? u = some m) (v : Text) :
    s.after? (u ++ v) = m.after? v := by
  rw [after?_append, h, Option.bind_some]

theorem escaped_of_after? {s last : ScanState} {t : Text} (h : s.after? t = some last)
    (hs : s.quote = none → s.escaped = false) : last.quote = none → last.escaped = false := by
  induction t generalizing s with
  | nil => cases h; exact hs
  | cons c t ih =>
    obtain ⟨next, hstep, hrest⟩ := step_of_after?_cons h
    exact ih hrest (escaped_of_step hstep hs)

theorem isQuote_of_after? {s last : ScanState} {t : Text} (h : s.after? t = some last)
    (hs : ∀ q, s.quote = some q → isQuote q = true) :
    ∀ q, last.quote = some q → isQuote q = true := by
  induction t generalizing s with
  | nil => cases h; exact hs
  | cons c t ih =>
    obtain ⟨next, hstep, hrest⟩ := step_of_after?_cons h
    exact ih hrest (isQuote_of_step hstep hs)

theorem after?_above {s last : ScanState} {t : Text} (h : s.after? t = some last) (base : Depth) :
    (s.above base).after? t = some (last.above base) := by
  induction t generalizing s with
  | nil => cases h; rfl
  | cons c t ih =>
    obtain ⟨next, hstep, hrest⟩ := step_of_after?_cons h
    rw [after?_cons_of_step (step_above hstep base), ih hrest]

/-- Outside every literal and bracket there is only one state. -/
theorem eq_start_of_isTopLevel {s : ScanState} (h : s.isTopLevel = true)
    (hs : s.quote = none → s.escaped = false) : s = {} := by
  obtain ⟨d, q, e⟩ := s
  simp only [isTopLevel, Bool.and_eq_true, Option.isNone_iff_eq_none, decide_eq_true_eq] at h
  obtain ⟨rfl, rfl⟩ := h
  have he := hs rfl
  simp only at he
  rw [he]

theorem after?_of_plain {t : Text} (h : ∀ c ∈ t, isPlain c = true) {s : ScanState}
    (hs : s.quote = none) : s.after? t = some s := by
  induction t with
  | nil => rfl
  | cons c t ih =>
    rw [after?_cons_of_step (step_of_plain hs (h c (List.mem_cons_self ..)))]
    exact ih fun d hd => h d (List.mem_cons_of_mem _ hd)

end ScanState

/-! ## 5. The scans of the library -/

theorem runFrom_cons_of_step {s next : ScanState} {c : Char} (h : s.step c = .ok next)
    (offset : Nat) (t : Text) :
    runFrom s offset (c :: t) = runFrom next (offset + c.utf8Size) t := by
  rw [runFrom, ScanState.advance_of_step h]
  rfl

theorem runFrom_cons_of_step_error {s : ScanState} {c : Char} {b : Bracket}
    (h : s.step c = .error b) (offset : Nat) (t : Text) :
    runFrom s offset (c :: t) = .error (.unexpectedClose b offset) := by
  rw [runFrom, ScanState.advance_of_step_error h]
  rfl

theorem runFrom_eq_ok_iff (s last : ScanState) (offset : Nat) (t : Text) :
    runFrom s offset t = .ok last ↔ s.after? t = some last := by
  induction t generalizing s offset with
  | nil => simp [runFrom, ScanState.after?]
  | cons c t ih =>
    cases hstep : s.step c with
    | ok next =>
      rw [ScanState.after?_cons_of_step hstep, runFrom_cons_of_step hstep, ih]
    | error b =>
      rw [runFrom_cons_of_step_error hstep]
      simp [ScanState.after?, hstep]

/-- A scan fails at the first character that breaks the nesting, and the error
has the offset of that character. -/
theorem runFrom_eq_error_iff (s : ScanState) (offset : Nat) (t : Text) (e : NestingError) :
    runFrom s offset t = .error e ↔ ∃ left c right m b, t = left ++ c :: right ∧
      s.after? left = some m ∧ m.step c = .error b ∧
      e = .unexpectedClose b (offset + left.bytes) := by
  induction t generalizing s offset with
  | nil => simp [runFrom]
  | cons c t ih =>
    cases hstep : s.step c with
    | error a =>
      rw [runFrom_cons_of_step_error hstep]
      constructor
      · intro h
        exact ⟨[], c, t, s, a, rfl, rfl, hstep, (Except.error.inj h).symm⟩
      · rintro ⟨left, d, right, m, b, ht, hleft, hd, rfl⟩
        cases left with
        | nil =>
          cases ht
          cases hleft
          rw [hstep] at hd
          cases hd
          rfl
        | cons d' left =>
          obtain ⟨rfl, _⟩ := List.cons.inj ht
          simp [ScanState.after?, hstep] at hleft
    | ok next =>
      rw [runFrom_cons_of_step hstep, ih]
      constructor
      · rintro ⟨left, d, right, m, b, rfl, hleft, hd, rfl⟩
        refine ⟨c :: left, d, right, m, b, rfl, ?_, hd, ?_⟩
        · rw [ScanState.after?_cons_of_step hstep, hleft]
        · rw [Text.bytes_cons, Nat.add_assoc]
      · rintro ⟨left, d, right, m, b, ht, hleft, hd, rfl⟩
        cases left with
        | nil =>
          cases ht
          cases hleft
          rw [hstep] at hd
          contradiction
        | cons d' left =>
          obtain ⟨rfl, rfl⟩ := List.cons.inj ht
          rw [ScanState.after?_cons_of_step hstep] at hleft
          refine ⟨left, d, right, m, b, rfl, hleft, hd, ?_⟩
          rw [Text.bytes_cons, Nat.add_assoc]

/-! ## 6. Balanced texts -/

/-- A scan of the text ends where it began. -/
def Balanced (t : Text) : Prop := ({} : ScanState).after? t = some {}

theorem checkNesting_eq_ok_iff (t : Text) : checkNesting t = .ok () ↔ Balanced t := by
  rw [Balanced, ← runFrom_eq_ok_iff {} {} 0]
  constructor
  · intro h
    cases hrun : runFrom {} 0 t with
    | error e => simp [checkNesting, hrun, bind, Except.bind] at h
    | ok last =>
      simp only [checkNesting, hrun, bind, Except.bind] at h
      have hlast := (runFrom_eq_ok_iff _ _ _ _).mp hrun
      rw [ScanState.finish_eq_ok_iff] at h
      rw [ScanState.eq_start_of_isTopLevel h (ScanState.escaped_of_after? hlast fun _ => rfl)]
  · intro h
    simp only [checkNesting, h, bind, Except.bind]
    rfl

/-- The check names a closing bracket, with its own offset, when no bracket of
that kind is open before it. -/
theorem checkNesting_eq_unexpectedClose_iff (t : Text) (b : Bracket) (offset : Nat) :
    checkNesting t = .error (.unexpectedClose b offset) ↔
      ∃ left right m, t = left ++ b.closer :: right ∧ ({} : ScanState).after? left = some m ∧
        m.quote = none ∧ m.depth.count b = 0 ∧ left.bytes = offset := by
  have hrun : checkNesting t = .error (.unexpectedClose b offset) ↔
      runFrom {} 0 t = .error (.unexpectedClose b offset) := by
    cases h : runFrom {} 0 t with
    | error e => simp [checkNesting, h, bind, Except.bind]
    | ok last =>
      -- What is open at the end is no unexpected bracket.
      have hfinish : last.finish ≠ .error (.unexpectedClose b offset) := by
        unfold ScanState.finish
        grind
      simpa [checkNesting, h, bind, Except.bind] using hfinish
  rw [hrun, runFrom_eq_error_iff]
  constructor
  · rintro ⟨left, c, right, m, a, rfl, hleft, hstep, he⟩
    obtain ⟨rfl, rfl⟩ := NestingError.unexpectedClose.inj he
    obtain ⟨rfl, hquote, hcount⟩ := (ScanState.step_eq_error_iff m c b).mp hstep
    exact ⟨left, right, m, rfl, hleft, hquote, hcount, (Nat.zero_add _).symm⟩
  · rintro ⟨left, right, m, rfl, hleft, hquote, hcount, rfl⟩
    refine ⟨left, b.closer, right, m, b, rfl, hleft, ?_, by rw [Nat.zero_add]⟩
    exact (ScanState.step_eq_error_iff m _ b).mpr ⟨rfl, hquote, hcount⟩

/-- A balanced text can be scanned at any depth. -/
theorem Balanced.after? {t : Text} (h : Balanced t) (d : Depth) :
    ({ depth := d } : ScanState).after? t = some { depth := d } :=
  ScanState.after?_above h d

theorem balanced_nil : Balanced [] := rfl

theorem Balanced.append {u v : Text} (hu : Balanced u) (hv : Balanced v) : Balanced (u ++ v) := by
  rw [Balanced, ScanState.after?_append_of_eq hu, hv]

theorem balanced_of_plain {t : Text} (h : ∀ c ∈ t, isPlain c = true) : Balanced t :=
  ScanState.after?_of_plain h rfl

/-- The rest of a balanced text after a balanced one is balanced. -/
theorem Balanced.of_append {u v : Text} (hu : Balanced u) (h : Balanced (u ++ v)) :
    Balanced v := by
  rwa [Balanced, ScanState.after?_append_of_eq hu] at h

/-- A balanced text in brackets is balanced, at any depth. -/
theorem Balanced.group {body : Text} (h : Balanced body) (b : Bracket) :
    Balanced (b.opener :: body ++ [b.closer]) := by
  have hopen := ScanState.step_opener (s := {}) rfl b
  have hclose := ScanState.step_closer (s := { depth := Depth.inside b }) rfl b
  simp only [Depth.inside, Depth.lower?_raise] at hclose
  rw [Balanced, List.cons_append, ScanState.after?_cons_of_step hopen,
    ScanState.after?_append_of_eq (h.after? _), ScanState.after?_cons_of_step hclose]
  rfl

theorem Balanced.join {separator : Text} (hsep : Balanced separator) :
    ∀ {ts : List Text}, (∀ t ∈ ts, Balanced t) → Balanced (Text.join separator ts)
  | [], _ => balanced_nil
  | [t], h => h t (List.mem_cons_self ..)
  | t :: u :: rest, h => by
      have hrest : Balanced (Text.join separator (u :: rest)) :=
        join hsep fun v hv => h v (List.mem_cons_of_mem _ hv)
      exact ((h t (List.mem_cons_self ..)).append hsep).append hrest

end PlanScript
