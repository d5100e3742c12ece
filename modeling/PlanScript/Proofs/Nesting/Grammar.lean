/-
PlanScript.Proofs.Nesting.Grammar — the texts that the nesting check passes.

`WellNested kinds` is the grammar of texts whose literals end and whose
brackets of the given kinds are closed in order; brackets of other kinds are
characters like any other. With all kinds it is the grammar one expects of a
nesting check, with one kind it looks at that kind alone, and with none it
asks only that no literal is left open.

The check counts the open brackets of each kind, and the counts know nothing
of each other. So a text passes exactly when it is well nested for each kind
on its own, and `([)]` passes. `Interleaved` names what the counts cannot
see: a group, by its own kind, whose body taken alone does not pass. Texts
without such a group pass exactly when they are well nested.

`Closes` is the same grammar read from left to right, with the brackets that
are still to be closed on a stack. Each of its constructors reads the front
of the text, so proofs go by the first character; `wellNested_iff_closes`
goes back and forth.
-/
import PlanScript.Proofs.Value.Literal
import PlanScript.Plan.Parse

namespace PlanScript

/-! ## 1. The grammar -/

/-- The character is no quote and no bracket of the given kinds. -/
def IsOther (kinds : Bracket → Prop) (c : Char) : Prop :=
  isQuote c = false ∧ ∀ b, kinds b → c ≠ b.opener ∧ c ≠ b.closer

/-- Texts whose literals end and whose brackets of the given kinds are
closed in order, each by one of its own kind. -/
inductive WellNested (kinds : Bracket → Prop) : Text → Prop
  | nil : WellNested kinds []
  | other {c : Char} {t : Text} : IsOther kinds c → WellNested kinds t → WellNested kinds (c :: t)
  | literal {q : Char} {body t : Text} : isQuote q = true → Literal.Body q body →
      WellNested kinds t → WellNested kinds (q :: (body ++ q :: t))
  | group {b : Bracket} {body t : Text} : kinds b → WellNested kinds body → WellNested kinds t →
      WellNested kinds (b.opener :: (body ++ b.closer :: t))

/-- Every kind of bracket. -/
def allKinds : Bracket → Prop := fun _ => True

/-- No kind of bracket. -/
def noKind : Bracket → Prop := fun _ => False

/-- The same, after brackets that are still to be closed, the innermost one
first. -/
inductive Closes (kinds : Bracket → Prop) : List Bracket → Text → Prop
  | done : Closes kinds [] []
  | other {c : Char} {σ : List Bracket} {t : Text} : IsOther kinds c → Closes kinds σ t →
      Closes kinds σ (c :: t)
  | literal {q : Char} {σ : List Bracket} {body t : Text} : isQuote q = true →
      Literal.Body q body → Closes kinds σ t → Closes kinds σ (q :: (body ++ q :: t))
  | opens {b : Bracket} {σ : List Bracket} {t : Text} : kinds b → Closes kinds (b :: σ) t →
      Closes kinds σ (b.opener :: t)
  | closes {b : Bracket} {σ : List Bracket} {t : Text} : kinds b → Closes kinds σ t →
      Closes kinds (b :: σ) (b.closer :: t)

variable {kinds : Bracket → Prop}

theorem isOther_of_isPlain {c : Char} (h : isPlain c = true) : IsOther kinds c := by
  simp only [isPlain, Bool.and_eq_true, Bool.not_eq_true', Option.isNone_iff_eq_none] at h
  obtain ⟨⟨hq, ho⟩, hc⟩ := h
  refine ⟨hq, fun b _ => ⟨?_, ?_⟩⟩
  · rintro rfl
    simp at ho
  · rintro rfl
    simp at hc

theorem isOther_opener {a : Bracket} (h : ¬ kinds a) : IsOther kinds a.opener := by
  refine ⟨Bracket.isQuote_opener a, fun b hb => ⟨fun heq => ?_, fun heq => ?_⟩⟩
  · exact h (Bracket.opener_injective heq ▸ hb)
  · have := Bracket.ofCloser?_opener a
    rw [heq, Bracket.ofCloser?_closer] at this
    contradiction

theorem isOther_closer {a : Bracket} (h : ¬ kinds a) : IsOther kinds a.closer := by
  refine ⟨Bracket.isQuote_closer a, fun b hb => ⟨fun heq => ?_, fun heq => ?_⟩⟩
  · have := Bracket.ofOpener?_closer a
    rw [heq, Bracket.ofOpener?_opener] at this
    contradiction
  · exact h (Bracket.closer_injective heq ▸ hb)

/-! ## 2. Reading from left to right -/

theorem WellNested.closes_append {t : Text} (h : WellNested kinds t) {σ : List Bracket}
    {rest : Text} (hrest : Closes kinds σ rest) : Closes kinds σ (t ++ rest) := by
  induction h generalizing σ rest with
  | nil => exact hrest
  | other hc _ ih => exact .other hc (ih hrest)
  | literal hq hbody _ ih =>
    rw [List.cons_append, List.append_assoc, List.cons_append]
    exact .literal hq hbody (ih hrest)
  | group hb _ _ ihbody iht =>
    rw [List.cons_append, List.append_assoc, List.cons_append]
    exact .opens hb (ihbody (.closes hb (iht hrest)))

/-- A text that closes a stack is a well nested text before each of the
closing brackets, and one after the last. -/
inductive Chain (kinds : Bracket → Prop) : List Bracket → Text → Prop
  | last {t : Text} : WellNested kinds t → Chain kinds [] t
  | link {b : Bracket} {σ : List Bracket} {t rest : Text} : WellNested kinds t →
      Chain kinds σ rest → Chain kinds (b :: σ) (t ++ b.closer :: rest)

/-- What may stand before every well nested text may stand before a chain. -/
theorem Chain.extend {σ : List Bracket} {t : Text} (h : Chain kinds σ t) (front : Text)
    (hfront : ∀ u, WellNested kinds u → WellNested kinds (front ++ u)) :
    Chain kinds σ (front ++ t) := by
  cases h with
  | last ht => exact .last (hfront t ht)
  | link ht hrest =>
    rw [← List.append_assoc]
    exact .link (hfront _ ht) hrest

theorem Closes.chain {σ : List Bracket} {t : Text} (h : Closes kinds σ t) : Chain kinds σ t := by
  induction h with
  | done => exact .last .nil
  | other hc _ ih => exact ih.extend [_] fun u hu => .other hc hu
  | @literal q _ body _ hq hbody _ ih =>
    have hext := ih.extend (q :: (body ++ [q])) fun u hu => by
      simpa using WellNested.literal hq hbody hu
    simpa using hext
  | @opens b _ _ hb _ ih =>
    cases ih with
    | @link _ _ u rest hu hrest =>
      have hext := hrest.extend (b.opener :: (u ++ [b.closer])) fun v hv => by
        simpa using WellNested.group hb hu hv
      simpa using hext
  | closes hb _ ih => exact .link .nil ih

/-- The grammar and its reading from left to right agree. -/
theorem wellNested_iff_closes (t : Text) : WellNested kinds t ↔ Closes kinds [] t := by
  constructor
  · intro h
    simpa using h.closes_append .done
  · intro h
    cases h.chain with
    | last ht => exact ht

/-- What the first character of a text that closes a stack can be. -/
theorem Closes.cons_cases {σ : List Bracket} {c : Char} {t : Text} (h : Closes kinds σ (c :: t)) :
    (IsOther kinds c ∧ Closes kinds σ t) ∨
    (isQuote c = true ∧ ∃ body rest, t = body ++ c :: rest ∧ Literal.Body c body ∧
      Closes kinds σ rest) ∨
    (∃ b, kinds b ∧ c = b.opener ∧ Closes kinds (b :: σ) t) ∨
    (∃ b τ, kinds b ∧ c = b.closer ∧ σ = b :: τ ∧ Closes kinds τ t) := by
  cases h with
  | other hc ht => exact .inl ⟨hc, ht⟩
  | literal hq hbody ht => exact .inr (.inl ⟨hq, _, _, rfl, hbody, ht⟩)
  | opens hb ht => exact .inr (.inr (.inl ⟨_, hb, rfl, ht⟩))
  | closes hb ht => exact .inr (.inr (.inr ⟨_, _, hb, rfl, rfl, ht⟩))

theorem Closes.of_other {σ : List Bracket} {c : Char} {t : Text} (hc : IsOther kinds c)
    (h : Closes kinds σ (c :: t)) : Closes kinds σ t := by
  rcases h.cons_cases with ⟨_, ht⟩ | ⟨hq, _⟩ | ⟨b, hb, heq, _⟩ | ⟨b, _, hb, heq, _⟩
  · exact ht
  · rw [hc.1] at hq
    contradiction
  · exact absurd heq (hc.2 b hb).1
  · exact absurd heq (hc.2 b hb).2

theorem Closes.of_literal {σ : List Bracket} {q : Char} {body t : Text} (hq : isQuote q = true)
    (hbody : Literal.Body q body) (h : Closes kinds σ (q :: (body ++ q :: t))) :
    Closes kinds σ t := by
  rcases h.cons_cases with ⟨hc, _⟩ | ⟨_, _, _, heq, hbody', ht⟩ | ⟨b, _, heq, _⟩ |
    ⟨b, _, _, heq, _⟩
  · rw [hc.1] at hq
    contradiction
  · rwa [(Literal.Body.unique hq hbody hbody' heq).2]
  · simp [heq] at hq
  · simp [heq] at hq

theorem Closes.of_opener {σ : List Bracket} {b : Bracket} {t : Text} (hb : kinds b)
    (h : Closes kinds σ (b.opener :: t)) : Closes kinds (b :: σ) t := by
  rcases h.cons_cases with ⟨hc, _⟩ | ⟨hq, _⟩ | ⟨a, _, heq, ht⟩ | ⟨a, _, _, heq, _⟩
  · exact absurd rfl (hc.2 b hb).1
  · simp at hq
  · rwa [Bracket.opener_injective heq]
  · have := Bracket.ofOpener?_opener b
    simp [heq] at this

theorem Closes.of_closer {σ : List Bracket} {b : Bracket} {t : Text} (hb : kinds b)
    (h : Closes kinds σ (b.closer :: t)) : ∃ τ, σ = b :: τ ∧ Closes kinds τ t := by
  rcases h.cons_cases with ⟨hc, _⟩ | ⟨hq, _⟩ | ⟨a, _, heq, _⟩ | ⟨a, τ, _, heq, hσ, ht⟩
  · exact absurd rfl (hc.2 b hb).2
  · simp at hq
  · have := Bracket.ofCloser?_closer b
    simp [heq] at this
  · exact ⟨τ, by rw [hσ, Bracket.closer_injective heq], ht⟩

theorem Closes.exists_literal {σ : List Bracket} {q : Char} {t : Text} (hq : isQuote q = true)
    (h : Closes kinds σ (q :: t)) : ∃ body rest, t = body ++ q :: rest ∧ Literal.Body q body := by
  rcases h.cons_cases with ⟨hc, _⟩ | ⟨_, body, rest, heq, hbody, _⟩ | ⟨b, _, heq, _⟩ |
    ⟨b, _, _, heq, _⟩
  · rw [hc.1] at hq
    contradiction
  · exact ⟨body, rest, heq, hbody⟩
  · simp [heq] at hq
  · simp [heq] at hq

/-! ## 3. Counting one kind -/

/-- An opening bracket is counted by its own kind only. -/
theorem closes_opener_iff {a b : Bracket} {d : Depth} {t : Text} :
    Closes (· = b) (List.replicate (d.count b) b) (a.opener :: t) ↔
      Closes (· = b) (List.replicate ((d.raise a).count b) b) t := by
  rw [Depth.count_raise]
  by_cases hab : b = a
  · subst hab
    rw [if_pos rfl, List.replicate_succ]
    exact ⟨fun h => h.of_opener rfl, fun h => .opens rfl h⟩
  · have hother : IsOther (· = b) a.opener := isOther_opener fun h => hab h.symm
    rw [if_neg hab, Nat.add_zero]
    exact ⟨fun h => h.of_other hother, fun h => .other hother h⟩

theorem closes_closer_iff {a b : Bracket} {d : Depth} {t : Text} :
    Closes (· = b) (List.replicate ((d.raise a).count b) b) (a.closer :: t) ↔
      Closes (· = b) (List.replicate (d.count b) b) t := by
  rw [Depth.count_raise]
  by_cases hab : b = a
  · subst hab
    rw [if_pos rfl, List.replicate_succ]
    refine ⟨fun h => ?_, fun h => .closes rfl h⟩
    obtain ⟨τ, hτ, ht⟩ := h.of_closer (by rfl)
    rwa [(List.cons.inj hτ).2]
  · have hother : IsOther (· = b) a.closer := isOther_closer fun h => hab h.symm
    rw [if_neg hab, Nat.add_zero]
    exact ⟨fun h => h.of_other hother, fun h => .other hother h⟩

/-- A scan counts each kind: what it passes closes the brackets of that kind
that were open. -/
theorem closes_of_after? {b : Bracket} {d : Depth} {t : Text} {last : ScanState}
    (h : ({ depth := d } : ScanState).after? t = some last) (hquote : last.quote = none)
    (hlast : last.depth.count b = 0) : Closes (· = b) (List.replicate (d.count b) b) t := by
  match t with
  | [] =>
    cases h
    rw [hlast]
    exact .done
  | c :: t =>
    obtain ⟨next, hstep, hrest⟩ := ScanState.step_of_after?_cons h
    rcases char_cases c with hc | hc | ⟨a, rfl⟩ | ⟨a, rfl⟩
    · rw [ScanState.step_of_plain rfl hc] at hstep
      cases hstep
      exact .other (isOther_of_isPlain hc) (closes_of_after? hrest hquote hlast)
    · rw [ScanState.step_of_quote rfl hc] at hstep
      cases hstep
      obtain ⟨body, rest, rfl, hbody, hafter⟩ := Literal.exists_body_of_after? hrest hquote
      exact .literal hc hbody (closes_of_after? hafter hquote hlast)
    · rw [ScanState.step_opener rfl] at hstep
      cases hstep
      exact closes_opener_iff.mpr (closes_of_after? hrest hquote hlast)
    · rw [ScanState.step_closer rfl] at hstep
      cases hlow : d.lower? a with
      | none => simp [hlow] at hstep
      | some e =>
        simp only [hlow] at hstep
        cases hstep
        rw [(Depth.lower?_eq_some_iff d e a).mp hlow]
        exact closes_closer_iff.mpr (closes_of_after? hrest hquote hlast)
termination_by t.length
decreasing_by all_goals (subst_vars; simp only [List.length_cons, List.length_append]; omega)

/-- A text that closes the open brackets of each kind is passed by a scan,
which then is outside every bracket. -/
theorem after?_of_closes {d : Depth} {t : Text}
    (h : ∀ b, Closes (· = b) (List.replicate (d.count b) b) t) :
    ({ depth := d } : ScanState).after? t = some {} := by
  match t with
  | [] =>
    have hd : d = {} := Depth.ext_count fun b => by
      have hb := h b
      generalize hσ : List.replicate (d.count b) b = σ at hb
      cases hb
      have hlen := congrArg List.length hσ
      rw [List.length_replicate] at hlen
      cases b <;> exact hlen
    rw [hd]
    rfl
  | c :: t =>
    rcases char_cases c with hc | hc | ⟨a, rfl⟩ | ⟨a, rfl⟩
    · rw [ScanState.after?_cons_of_step (ScanState.step_of_plain rfl hc)]
      exact after?_of_closes fun b => (h b).of_other (isOther_of_isPlain hc)
    · obtain ⟨body, rest, rfl, hbody⟩ := (h .round).exists_literal hc
      rw [Literal.after?_literal_append hc hbody]
      exact after?_of_closes fun b => (h b).of_literal hc hbody
    · rw [ScanState.after?_cons_of_step (ScanState.step_opener rfl a)]
      exact after?_of_closes fun b => closes_opener_iff.mp (h b)
    · have hstep := ScanState.step_closer (s := { depth := d }) rfl a
      cases hlow : d.lower? a with
      | none =>
        obtain ⟨τ, hτ, _⟩ := (h a).of_closer (by rfl)
        rw [(Depth.lower?_eq_none_iff d a).mp hlow] at hτ
        contradiction
      | some e =>
        simp only [hlow] at hstep
        rw [ScanState.after?_cons_of_step hstep]
        rw [(Depth.lower?_eq_some_iff d e a).mp hlow] at h
        exact after?_of_closes fun b => closes_closer_iff.mp (h b)
termination_by t.length
decreasing_by all_goals (subst_vars; simp only [List.length_cons, List.length_append]; omega)

/-- A text is balanced when it is well nested for each kind on its own. -/
theorem balanced_iff_forall_wellNested (t : Text) : Balanced t ↔ ∀ b, WellNested (· = b) t := by
  constructor
  · intro h b
    rw [wellNested_iff_closes]
    have hcloses := closes_of_after? (b := b) h rfl (by cases b <;> rfl)
    cases b <;> exact hcloses
  · intro h
    refine after?_of_closes fun b => ?_
    have hcloses := (wellNested_iff_closes t).mp (h b)
    cases b <;> exact hcloses

/-! ## 4. What the counts cannot see -/

/-- Some bracket and the one that closes it by its own kind have a text
between them that does not pass by itself. The text before them leaves no
literal open. -/
def Interleaved (t : Text) : Prop :=
  ∃ before b body rest, t = before ++ b.opener :: (body ++ b.closer :: rest) ∧
    WellNested noKind before ∧ WellNested (· = b) body ∧ checkNesting body ≠ .ok ()

theorem WellNested.append {u v : Text} (hu : WellNested kinds u) (hv : WellNested kinds v) :
    WellNested kinds (u ++ v) :=
  (wellNested_iff_closes _).mpr (hu.closes_append ((wellNested_iff_closes v).mp hv))

/-- Without its brackets, a well nested text still has its literals. -/
theorem WellNested.forget {t : Text} (h : WellNested kinds t) : WellNested noKind t := by
  induction h with
  | nil => exact .nil
  | other hc _ ih => exact .other ⟨hc.1, fun _ hb => hb.elim⟩ ih
  | literal hq hbody _ ih => exact .literal hq hbody ih
  | group _ _ _ ihbody iht =>
    exact .other (isOther_opener id) (ihbody.append (.other (isOther_closer id) iht))

/-- Behind a text that leaves no literal open, the brackets are read as such. -/
theorem Closes.drop {before : Text} (hbefore : WellNested noKind before)
    {σ : List Bracket} {rest : Text} (h : Closes allKinds σ (before ++ rest)) :
    ∃ τ, Closes allKinds τ rest := by
  induction hbefore generalizing σ with
  | nil => exact ⟨σ, h⟩
  | other hc _ ih =>
    rcases h.cons_cases with ⟨_, ht⟩ | ⟨hq, _⟩ | ⟨b, _, _, ht⟩ | ⟨b, τ, _, _, _, ht⟩
    · exact ih ht
    · rw [hc.1] at hq
      contradiction
    · exact ih ht
    · exact ih ht
  | literal hq hbody _ ih =>
    rw [List.cons_append, List.append_assoc, List.cons_append] at h
    exact ih (h.of_literal hq hbody)
  | group hb _ _ _ _ => exact hb.elim

/-- The body of a group, by its own kind, closes what it opens of the other
kinds too. `ρ` holds what is open since the group began. -/
theorem Closes.body {b : Bracket} {σ : List Bracket} {body : Text} (hbody : Closes (· = b) σ body)
    {ρ τ : List Bracket} {rest : Text} (hcount : σ.length = ρ.count b)
    (h : Closes allKinds (ρ ++ b :: τ) (body ++ b.closer :: rest)) : Closes allKinds ρ body := by
  induction hbody generalizing ρ with
  | done =>
    obtain ⟨υ, hυ, _⟩ := h.of_closer trivial
    cases ρ with
    | nil => exact .done
    | cons a ρ =>
      obtain rfl : a = b := (List.cons.inj hυ).1
      simp at hcount
  | other hc _ ih =>
    rcases h.cons_cases with ⟨hall, ht⟩ | ⟨hq, _⟩ | ⟨a, _, rfl, ht⟩ | ⟨a, υ, _, rfl, hυ, ht⟩
    · exact .other hall (ih hcount ht)
    · rw [hc.1] at hq
      contradiction
    · have hab : a ≠ b := fun h => (hc.2 b rfl).1 (by rw [h])
      exact .opens trivial (ih (by rwa [List.count_cons_of_ne hab]) ht)
    · have hab : a ≠ b := fun h => (hc.2 b rfl).2 (by rw [h])
      cases ρ with
      | nil => exact absurd (List.cons.inj hυ).1.symm hab
      | cons a' ρ =>
        obtain ⟨rfl, rfl⟩ := List.cons.inj hυ
        exact .closes trivial (ih (by rwa [List.count_cons_of_ne hab] at hcount) ht)
  | literal hq hbody _ ih =>
    rw [List.cons_append, List.append_assoc, List.cons_append] at h
    exact .literal hq hbody (ih hcount (h.of_literal hq hbody))
  | opens hb _ ih =>
    subst hb
    exact .opens trivial (ih (by rw [List.count_cons_self, ← hcount]; rfl) (h.of_opener trivial))
  | closes hb _ ih =>
    subst hb
    obtain ⟨υ, hυ, ht⟩ := h.of_closer trivial
    cases ρ with
    | nil => simp at hcount
    | cons a ρ =>
      obtain ⟨rfl, rfl⟩ := List.cons.inj hυ
      rw [List.count_cons_self, List.length_cons] at hcount
      exact .closes trivial (ih (by omega) ht)

/-- A well nested text is balanced. -/
theorem WellNested.balanced {t : Text} (h : WellNested allKinds t) : Balanced t := by
  induction h with
  | nil => exact balanced_nil
  | @other c _ hc _ ih =>
    have hplain : isPlain c = true := by
      rcases char_cases c with hp | hq | ⟨b, rfl⟩ | ⟨b, rfl⟩
      · exact hp
      · rw [hc.1] at hq
        contradiction
      · exact absurd rfl (hc.2 b trivial).1
      · exact absurd rfl (hc.2 b trivial).2
    rwa [Balanced, ScanState.after?_cons_of_step (ScanState.step_of_plain rfl hplain)]
  | @literal q body t hq hbody _ ih =>
    have h := (Literal.balanced_literal hq hbody).append ih
    simpa using h
  | @group b body t _ _ _ ihbody iht =>
    have h := (ihbody.group b).append iht
    simpa using h

/-- The groups of a well nested text have well nested bodies. -/
theorem WellNested.not_interleaved {t : Text} (h : WellNested allKinds t) : ¬ Interleaved t := by
  rintro ⟨before, b, body, rest, rfl, hbefore, hbody, hfail⟩
  obtain ⟨τ, hτ⟩ := ((wellNested_iff_closes _).mp h).drop hbefore
  have hcloses := (wellNested_iff_closes body).mp hbody
  have hall : Closes allKinds [] body := hcloses.body rfl (hτ.of_opener trivial)
  exact hfail ((checkNesting_eq_ok_iff body).mpr ((wellNested_iff_closes body).mpr hall).balanced)

/-- The first bracket of a well nested text is closed, around a well nested
body and before a well nested rest. -/
theorem WellNested.exists_group {b : Bracket} (hb : kinds b) {t : Text}
    (h : WellNested kinds (b.opener :: t)) :
    ∃ body rest, t = body ++ b.closer :: rest ∧ WellNested kinds body ∧ WellNested kinds rest := by
  generalize hu : b.opener :: t = u at h
  cases h with
  | nil => contradiction
  | other hc _ =>
    obtain ⟨rfl, rfl⟩ := List.cons.inj hu
    exact absurd rfl (hc.2 b hb).1
  | literal hq _ _ =>
    obtain ⟨rfl, rfl⟩ := List.cons.inj hu
    simp at hq
  | group _ hbody hrest =>
    obtain ⟨hopen, rfl⟩ := List.cons.inj hu
    obtain rfl := Bracket.opener_injective hopen
    exact ⟨_, _, rfl, hbody, hrest⟩

/-- The body of the group that a balanced text starts with. -/
theorem Balanced.exists_group {b : Bracket} {t : Text} (h : Balanced (b.opener :: t)) :
    ∃ body rest, t = body ++ b.closer :: rest ∧ WellNested (· = b) body := by
  have hnested := (balanced_iff_forall_wellNested _).mp h b
  obtain ⟨body, rest, ht, hbody, _⟩ := hnested.exists_group (by rfl)
  exact ⟨body, rest, ht, hbody⟩

/-- A balanced text whose groups all pass by themselves is well nested. -/
theorem Balanced.wellNested {t : Text} (h : Balanced t) (hno : ¬ Interleaved t) :
    WellNested allKinds t := by
  match t with
  | [] => exact .nil
  | c :: t =>
    -- A group further on is a group of the whole text, with more before it.
    have hlater : ∀ front u after, c :: t = front ++ u ++ after → WellNested noKind front →
        ¬ Interleaved u := by
      rintro front _ after heq hfront ⟨before, b, body, rest, rfl, hbefore, hbody, hfail⟩
      refine hno ⟨front ++ before, b, body, rest ++ after, ?_, hfront.append hbefore, hbody, hfail⟩
      simp [heq]
    rcases char_cases c with hc | hc | ⟨b, rfl⟩ | ⟨b, rfl⟩
    · have ht : Balanced t := by
        rwa [Balanced, ScanState.after?_cons_of_step (ScanState.step_of_plain rfl hc)] at h
      refine .other (isOther_of_isPlain hc) (ht.wellNested (hlater [c] t [] (by simp) ?_))
      exact .other (isOther_of_isPlain hc) .nil
    · have hrest := h
      rw [Balanced, ScanState.after?_cons_of_step (ScanState.step_of_quote rfl hc)] at hrest
      obtain ⟨body, rest, rfl, hbody, hafter⟩ := Literal.exists_body_of_after? hrest rfl
      have hfront : WellNested noKind (c :: (body ++ c :: [])) := .literal hc hbody .nil
      exact .literal hc hbody
        (Balanced.wellNested hafter (hlater (c :: (body ++ [c])) rest [] (by simp) hfront))
    · obtain ⟨body, rest, rfl, hbody⟩ := h.exists_group
      have hbal : Balanced body := by
        by_cases hpass : checkNesting body = .ok ()
        · exact (checkNesting_eq_ok_iff body).mp hpass
        · exact absurd ⟨[], b, body, rest, rfl, .nil, hbody, hpass⟩ hno
      have hrest : Balanced rest := (hbal.group b).of_append (by simpa using h)
      have hopen : WellNested noKind [b.opener] := .other (isOther_opener id) .nil
      have hclose : WellNested noKind [b.closer] := .other (isOther_closer id) .nil
      have hfront : WellNested noKind ([b.opener] ++ body ++ [b.closer]) :=
        (hopen.append hbody.forget).append hclose
      exact .group trivial
        (hbal.wellNested (hlater [b.opener] body (b.closer :: rest) (by simp) hopen))
        (hrest.wellNested (hlater _ rest [] (by simp) hfront))
    · have hstep := ScanState.step_closer (s := {}) rfl b
      obtain ⟨next, hnext, _⟩ := ScanState.step_of_after?_cons h
      cases b <;> simp [hstep, Depth.lower?, Depth.count] at hnext
termination_by t.length
decreasing_by all_goals (subst_vars; simp only [List.length_cons, List.length_append]; omega)

/-- What the nesting check passes: the texts that are well nested for each
kind of bracket on its own. Among them the well nested ones are those with
no interleaved group. -/
theorem checkNesting_eq_ok_iff_forall_wellNested (t : Text) :
    (checkNesting t = .ok () ↔ ∀ b, WellNested (· = b) t) ∧
      (WellNested allKinds t ↔ checkNesting t = .ok () ∧ ¬ Interleaved t) := by
  rw [checkNesting_eq_ok_iff]
  refine ⟨balanced_iff_forall_wellNested t, ?_⟩
  constructor
  · intro h
    exact ⟨h.balanced, h.not_interleaved⟩
  · rintro ⟨hbal, hno⟩
    exact hbal.wellNested hno

/-- Two kinds of bracket that cross: the check passes the text, and a line
with it reaches the statement forms. -/
theorem checkNesting_crossing_brackets :
    ¬ (checkNesting ['(', '[', ')', ']'] = .ok () ↔ WellNested allKinds ['(', '[', ')', ']']) ∧
      readLine {} ['x', '=', '(', '[', ')', ']'] = .ok (.assignment,
        { statement := .assignment ['x'] (.plain ['(', '[', ')', ']']) }) := by
  refine ⟨fun hiff => ?_, rfl⟩
  have h := (wellNested_iff_closes _).mp (hiff.mp rfl)
  have h₁ := h.of_opener (b := .round) trivial
  have h₂ := h₁.of_opener (b := .square) trivial
  obtain ⟨τ, hτ, _⟩ := h₂.of_closer (b := .round) trivial
  simp at hτ

end PlanScript
