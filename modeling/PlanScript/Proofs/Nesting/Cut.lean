/-
PlanScript.Proofs.Nesting.Cut — where a cut is made, and where it is not.

`Avoids wanted s t` says that no place of `t`, scanned from `s`, has the
property, whatever stands before and after `t`. A cut runs over such a text
(`cutFrom_append`) and finds nothing in it (`cutFrom_eq_none`).

Properties of top-level places are avoided by everything that is nested:
by the body of a literal (`avoids_literal`) and by the body of a group
(`avoids_group`), however it is nested itself. The bracket that closes a
group is avoided by every balanced body, so the group that a text starts
with is cut off at the right place (`ofText?_group`).
-/
import PlanScript.Proofs.Value.Literal
import PlanScript.Nesting.Cut

namespace PlanScript

/-! ## 1. Texts without a place to cut at -/

/-- No place of the text has the property, whatever its neighbours are. -/
def Avoids (wanted : Place → Bool) : ScanState → Text → Prop
  | _, [] => True
  | s, c :: t => (∀ previous next, wanted ⟨s, previous, c, next⟩ = false) ∧
      ∀ next, s.step c = .ok next → Avoids wanted next t

variable {wanted : Place → Bool}

theorem avoids_cons_of_step {s next : ScanState} {c : Char} {t : Text}
    (hc : ∀ previous following, wanted ⟨s, previous, c, following⟩ = false)
    (hstep : s.step c = .ok next) (ht : Avoids wanted next t) : Avoids wanted s (c :: t) := by
  refine ⟨hc, fun other hother => ?_⟩
  rw [hstep] at hother
  cases hother
  exact ht

/-- A text avoids a property when both its parts do, the second one from
where the first one ends. -/
theorem avoids_append_iff {s : ScanState} {u v : Text} :
    Avoids wanted s (u ++ v) ↔
      Avoids wanted s u ∧ ∀ m, s.after? u = some m → Avoids wanted m v := by
  induction u generalizing s with
  | nil => simp [Avoids, ScanState.after?]
  | cons c u ih =>
    rw [List.cons_append, Avoids, Avoids, and_assoc]
    refine and_congr_right fun _ => ?_
    cases hstep : s.step c with
    | error b => simp [ScanState.after?, hstep]
    | ok next => simp [ScanState.after?_cons_of_step hstep, ih]

theorem Avoids.append {s m : ScanState} {u v : Text} (hu : Avoids wanted s u)
    (hm : s.after? u = some m) (hv : Avoids wanted m v) : Avoids wanted s (u ++ v) := by
  refine avoids_append_iff.mpr ⟨hu, ?_⟩
  intro other hother
  rw [hm] at hother
  cases hother
  exact hv

theorem avoids_of_forall_mem {t : Text}
    (h : ∀ c ∈ t, ∀ s previous next, wanted ⟨s, previous, c, next⟩ = false) (s : ScanState) :
    Avoids wanted s t := by
  induction t generalizing s with
  | nil => trivial
  | cons c t ih =>
    exact ⟨fun p n => h c (List.mem_cons_self ..) s p n,
      fun next _ => ih (fun d hd => h d (List.mem_cons_of_mem _ hd)) next⟩

/-! ## 2. Cutting -/

/-- The character before a place, when the text before it has grown in front. -/
theorem getLast?_cons_or (c : Char) (u : Text) (previous : Option Char) :
    (c :: u).getLast?.or previous = u.getLast?.or (some c) := by
  rw [List.getLast?_cons]
  cases u.getLast? <;> rfl

/-- A cut runs over a text that has no place for it. -/
theorem cutFrom_append {s m : ScanState} {u : Text} (hu : Avoids wanted s u)
    (hm : s.after? u = some m) (previous : Option Char) (v : Text) :
    cutFrom wanted s previous (u ++ v)
      = (cutFrom wanted m (u.getLast?.or previous) v).map fun (left, right) =>
          (u ++ left, right) := by
  induction u generalizing s previous with
  | nil =>
    cases hm
    simp
  | cons c u ih =>
    obtain ⟨next, hstep, hrest⟩ := ScanState.step_of_after?_cons hm
    rw [List.cons_append, cutFrom, hu.1, hstep, getLast?_cons_or]
    simp [ih (hu.2 next hstep) hrest, Function.comp_def]

theorem cutFrom_eq_none {s : ScanState} {t : Text} (h : Avoids wanted s t)
    (previous : Option Char) : cutFrom wanted s previous t = none := by
  induction t generalizing s previous with
  | nil => rfl
  | cons c t ih =>
    rw [cutFrom, h.1]
    cases hstep : s.step c with
    | error b => rfl
    | ok next => simp [ih (h.2 next hstep)]

theorem hasPlace_eq_false {t : Text} (h : Avoids wanted {} t) : hasPlace wanted t = false := by
  rw [hasPlace, cut, cutFrom_eq_none h]
  rfl

/-- A cut is made at a place of the scan that has the property. -/
theorem place_of_cutFrom {s : ScanState} {previous : Option Char} {t left right : Text}
    (h : cutFrom wanted s previous t = some (left, right)) :
    ∃ m c, t = left ++ c :: right ∧ s.after? left = some m ∧
      wanted ⟨m, left.getLast?.or previous, c, right.head?⟩ = true := by
  induction t generalizing s previous left with
  | nil => simp [cutFrom] at h
  | cons c t ih =>
    rw [cutFrom] at h
    split at h
    · next hc =>
      cases h
      exact ⟨s, c, rfl, rfl, hc⟩
    · cases hstep : s.step c with
      | error b => simp [hstep] at h
      | ok next =>
        simp only [hstep, Option.map_eq_some_iff, Prod.exists, Prod.mk.injEq] at h
        obtain ⟨before, after, hrest, rfl, rfl⟩ := h
        obtain ⟨m, d, rfl, hm, hd⟩ := ih hrest
        refine ⟨m, d, rfl, ?_, ?_⟩
        · rw [ScanState.after?_cons_of_step hstep, hm]
        · rwa [getLast?_cons_or]

/-- A property that looks at the character and the state before it, and not
at its neighbours. -/
def IsLocal (wanted : Place → Bool) : Prop :=
  ∀ s c previous next, wanted ⟨s, previous, c, next⟩ = wanted ⟨s, none, c, none⟩

/-- A text avoids a local property when no place of its scan has it. -/
theorem avoids_iff_forall_mem_scanFrom (hlocal : IsLocal wanted) (s : ScanState) (offset : Nat)
    (t : Text) :
    Avoids wanted s t ↔
      ∀ v ∈ scanFrom s offset t, wanted ⟨v.before, none, v.char, none⟩ = false := by
  induction t generalizing s offset with
  | nil => simp [Avoids, scanFrom]
  | cons c t ih =>
    rw [Avoids, scanFrom, List.forall_mem_cons]
    refine and_congr ⟨fun h => h none none, fun h p n => by rw [hlocal, h]⟩ ?_
    cases hstep : s.step c with
    | error b => simp
    | ok next =>
      rw [← ih next (offset + c.utf8Size)]
      exact ⟨fun h => h next rfl, fun h other hother => by cases hother; exact h⟩

/-- A cut for a local property finds nothing only where there is nothing. -/
theorem avoids_of_cutFrom_eq_none (hlocal : IsLocal wanted) {s : ScanState}
    {previous : Option Char} {t : Text} (h : cutFrom wanted s previous t = none) :
    Avoids wanted s t := by
  induction t generalizing s previous with
  | nil => trivial
  | cons c t ih =>
    rw [cutFrom] at h
    split at h
    · contradiction
    · next hc =>
      refine ⟨fun p n => ?_, fun next hstep => ?_⟩
      · rw [hlocal] at hc ⊢
        simpa using hc
      · rw [hstep] at h
        exact ih (Option.map_eq_none_iff.mp h)

/-- What stands before a cut for a local property has no place for it. -/
theorem avoids_of_cutFrom (hlocal : IsLocal wanted) {s : ScanState} {previous : Option Char}
    {t left right : Text} (h : cutFrom wanted s previous t = some (left, right)) :
    Avoids wanted s left := by
  induction t generalizing s previous left with
  | nil => simp [cutFrom] at h
  | cons c t ih =>
    rw [cutFrom] at h
    split at h
    · cases h
      trivial
    · next hc =>
      cases hstep : s.step c with
      | error b => simp [hstep] at h
      | ok next =>
        simp only [hstep, Option.map_eq_some_iff, Prod.exists, Prod.mk.injEq] at h
        obtain ⟨before, after, hrest, rfl, rfl⟩ := h
        refine avoids_cons_of_step (fun p n => ?_) hstep (ih hrest)
        rw [hlocal] at hc ⊢
        simpa using hc

/-! ## 3. Nested places -/

/-- Only places outside every literal and bracket have the property. -/
def OnlyTopLevel (wanted : Place → Bool) : Prop :=
  ∀ p : Place, p.before.isTopLevel = false → wanted p = false

theorem isTopLevel_of_quote {s : ScanState} {q : Char} (h : s.quote = some q) :
    s.isTopLevel = false := by
  simp [ScanState.isTopLevel, h]

theorem isTopLevel_above_inside (b : Bracket) (s : ScanState) :
    (s.above (Depth.inside b)).isTopLevel = false := by
  cases b <;> simp [ScanState.isTopLevel, ScanState.above, Depth.inside, Depth.raise, Depth.add_def]

theorem avoids_body {q : Char} {body : Text} (hbody : Literal.Body q body)
    (h : OnlyTopLevel wanted) (d : Depth) :
    Avoids wanted { depth := d, quote := some q } body := by
  induction hbody with
  | nil => trivial
  | escaped c _ ih =>
    refine avoids_cons_of_step (fun _ _ => h _ (isTopLevel_of_quote rfl)) rfl ?_
    exact avoids_cons_of_step (fun _ _ => h _ (isTopLevel_of_quote rfl)) rfl ih
  | plain hc hcq _ ih =>
    exact avoids_cons_of_step (fun _ _ => h _ (isTopLevel_of_quote rfl))
      (by simp [ScanState.step, hc, hcq]) ih

/-- A literal has no place that its opening quote is not. -/
theorem avoids_literal {q : Char} (hq : isQuote q = true) {body : Text}
    (hbody : Literal.Body q body) (h : OnlyTopLevel wanted)
    (hquote : ∀ s previous next, wanted ⟨s, previous, q, next⟩ = false) :
    Avoids wanted {} (q :: body ++ [q]) := by
  have hstep := ScanState.step_of_quote (s := {}) rfl hq
  refine avoids_cons_of_step (fun p n => hquote _ p n) hstep ?_
  exact (avoids_body hbody h {}).append (Literal.after?_body hbody {})
    ⟨fun p n => hquote _ p n, fun _ _ => trivial⟩

theorem avoids_above_inside {s last : ScanState} {body : Text} (h : OnlyTopLevel wanted)
    (b : Bracket) (hbody : s.after? body = some last) :
    Avoids wanted (s.above (Depth.inside b)) body := by
  induction body generalizing s with
  | nil => trivial
  | cons c body ih =>
    obtain ⟨next, hstep, hrest⟩ := ScanState.step_of_after?_cons hbody
    exact avoids_cons_of_step (fun _ _ => h _ (isTopLevel_above_inside b s))
      (ScanState.step_above hstep _) (ih hrest)

/-- A group has no place that its opening bracket is not. -/
theorem avoids_group {b : Bracket} {body : Text} (hbody : Balanced body)
    (h : OnlyTopLevel wanted)
    (hopen : ∀ s previous next, wanted ⟨s, previous, b.opener, next⟩ = false) :
    Avoids wanted {} (b.opener :: body ++ [b.closer]) := by
  have hstep := ScanState.step_opener (s := {}) rfl b
  refine avoids_cons_of_step (fun p n => hopen _ p n) hstep ?_
  refine (avoids_above_inside h b hbody).append (hbody.after? _) ?_
  have hin : ({ depth := Depth.inside b } : ScanState).isTopLevel = false :=
    isTopLevel_above_inside b {}
  exact ⟨fun _ _ => h _ hin, fun _ _ => trivial⟩

/-- A balanced text without a place to cut at. -/
def Quiet (wanted : Place → Bool) (t : Text) : Prop := Balanced t ∧ Avoids wanted {} t

theorem Quiet.append {u v : Text} (hu : Quiet wanted u) (hv : Quiet wanted v) :
    Quiet wanted (u ++ v) :=
  ⟨hu.1.append hv.1, hu.2.append hu.1 hv.2⟩

theorem quiet_of_plain {t : Text} (hplain : ∀ c ∈ t, isPlain c = true)
    (h : ∀ c ∈ t, ∀ s previous next, wanted ⟨s, previous, c, next⟩ = false) : Quiet wanted t :=
  ⟨balanced_of_plain hplain, avoids_of_forall_mem h {}⟩

/-! ## 4. Groups -/

/-- Inside a group, a closing bracket of its kind that belongs to the body
finds the kind open more than once. -/
theorem avoids_closes {s last : ScanState} {body : Text} (b : Bracket)
    (hbody : s.after? body = some last) :
    Avoids (·.closes b) (s.above (Depth.inside b)) body := by
  induction body generalizing s with
  | nil => trivial
  | cons c body ih =>
    obtain ⟨next, hstep, hrest⟩ := ScanState.step_of_after?_cons hbody
    refine avoids_cons_of_step (fun p n => ?_) (ScanState.step_above hstep _) (ih hrest)
    cases hcloses : Place.closes b ⟨s.above (Depth.inside b), p, c, n⟩ with
    | false => rfl
    | true =>
      simp only [Place.closes, Bool.and_eq_true, decide_eq_true_eq, Option.isNone_iff_eq_none,
        ScanState.above] at hcloses
      obtain ⟨⟨rfl, hquote⟩, hdepth⟩ := hcloses
      rw [ScanState.step_closer hquote] at hstep
      cases hlow : s.depth.lower? b with
      | none => simp [hlow] at hstep
      | some d =>
        have hcount := congrArg (Depth.count · b) (of_decide_eq_true hdepth)
        rw [(Depth.lower?_eq_some_iff _ _ _).mp hlow] at hcount
        simp [Depth.count_raise] at hcount

/-- The group that a text starts with is found, whatever follows it. -/
theorem ofText?_group {body : Text} (hbody : Balanced body) (b : Bracket) (rest : Text) :
    Group.ofText? (b.opener :: (body ++ b.closer :: rest)) = some ⟨b, body, rest⟩ := by
  have hclose : Place.closes b
      ⟨{ depth := Depth.inside b }, body.getLast?.or (some b.opener), b.closer, rest.head?⟩
        = true := by
    simp [Place.closes]
  have havoid : Avoids (·.closes b) { depth := Depth.inside b } body := avoids_closes b hbody
  have hcut := cutFrom_append havoid (hbody.after? _) (some b.opener) (b.closer :: rest)
  rw [cutFrom, if_pos hclose] at hcut
  simp [Group.ofText?, hcut]

/-- What is cut off a text is a group of it. -/
theorem eq_append_of_ofText? {t : Text} {g : Group} (h : Group.ofText? t = some g) :
    t = g.bracket.opener :: (g.body ++ g.bracket.closer :: g.rest) := by
  cases t with
  | nil => simp [Group.ofText?] at h
  | cons c t =>
    simp only [Group.ofText?, Option.bind_eq_some_iff, Option.map_eq_some_iff] at h
    obtain ⟨b, hopen, ⟨body, rest⟩, hcut, rfl⟩ := h
    obtain ⟨p, hp, rfl⟩ := append_of_cutFrom hcut
    simp only [Place.closes, Bool.and_eq_true, decide_eq_true_eq] at hp
    rw [(Bracket.ofOpener?_eq_some_iff c b).mp hopen, hp.1.1]

/-- A text that is one group is the group that is cut off it. -/
theorem group_of_enclosed? {b : Bracket} {t body : Text} (h : enclosed? b t = some body) :
    Group.ofText? t = some ⟨b, body, []⟩ := by
  unfold enclosed? at h
  obtain ⟨⟨kind, inner, rest⟩, hg, hif⟩ := Option.bind_eq_some_iff.mp h
  obtain ⟨hwhole, hbody⟩ := Option.ite_none_right_eq_some.mp hif
  simp only [Bool.and_eq_true, decide_eq_true_eq, List.isEmpty_iff] at hwhole
  obtain ⟨rfl, rfl⟩ := hwhole
  rw [hg, ← Option.some.inj hbody]

/-- A text that is one group is its body between the brackets. -/
theorem eq_append_of_enclosed? {b : Bracket} {t body : Text} (h : enclosed? b t = some body) :
    t = b.opener :: body ++ [b.closer] := eq_append_of_ofText? (group_of_enclosed? h)

theorem enclosed?_group {body : Text} (hbody : Balanced body) (b : Bracket) :
    enclosed? b (b.opener :: body ++ [b.closer]) = some body := by
  have h := ofText?_group hbody b []
  rw [enclosed?, List.cons_append, h]
  simp

theorem enclosed?_group_of_ne {body : Text} (hbody : Balanced body) {a b : Bracket} (h : b ≠ a) :
    enclosed? a (b.opener :: body ++ [b.closer]) = none := by
  have hgroup := ofText?_group hbody b []
  rw [enclosed?, List.cons_append, hgroup]
  simp [h]

end PlanScript
