/-
PlanScript.Proofs.Text.Search — finding a character, a pattern or a line.

Each search comes with the cut that it makes: `breakAt` stops at the first
character with a property (`breakAt_append`, `head_of_breakAt`), and a
prefix or suffix that was put on can be dropped again. `breakOn` stops at the
first occurrence of a pattern (`breakOn_eq_some_iff`). A pattern without a
line feed that occurs in a joined text occurs in one of its lines
(`hasInfix_join_lineFeed`), and `lines_join` reads the lines back.
-/
import PlanScript.Text.Basic

namespace PlanScript.Text

/-! ## 1. The first character with a property -/

theorem breakAt_append {p : Char → Bool} {before : Text} (hbefore : ∀ c ∈ before, p c = false)
    {c : Char} (hc : p c = true) (rest : Text) :
    breakAt p (before ++ c :: rest) = some (before, c :: rest) := by
  induction before with
  | nil => simp [breakAt, hc]
  | cons d before ih =>
    have hd := hbefore d (List.mem_cons_self ..)
    simp [breakAt, hd, ih fun e he => hbefore e (List.mem_cons_of_mem _ he)]

/-- The search goes on behind a text without such a character. -/
theorem breakAt_append_of_forall {p : Char → Bool} {u : Text} (hu : ∀ c ∈ u, p c = false)
    (t : Text) :
    breakAt p (u ++ t) = (breakAt p t).map fun (before, found) => (u ++ before, found) := by
  induction u with
  | nil => cases h : breakAt p t <;> simp [h]
  | cons c u ih =>
    have hrest := ih fun d hd => hu d (List.mem_cons_of_mem _ hd)
    rw [List.cons_append, breakAt, hu c (List.mem_cons_self ..), hrest]
    cases breakAt p t <;> simp

theorem breakAt_eq_none {p : Char → Bool} {t : Text} (h : ∀ c ∈ t, p c = false) :
    breakAt p t = none := by
  induction t with
  | nil => rfl
  | cons c t ih =>
    have hc := h c (List.mem_cons_self ..)
    simp [breakAt, hc, ih fun d hd => h d (List.mem_cons_of_mem _ hd)]

theorem head_of_breakAt {p : Char → Bool} {t before found : Text}
    (h : breakAt p t = some (before, found)) : ∃ c rest, found = c :: rest ∧ p c = true := by
  induction t generalizing before with
  | nil => simp [breakAt] at h
  | cons c t ih =>
    simp only [breakAt] at h
    split at h
    · next hc =>
      cases h
      exact ⟨c, t, rfl, hc⟩
    · obtain ⟨⟨b, f⟩, hbf, heq⟩ := Option.map_eq_some_iff.mp h
      cases heq
      exact ih hbf

/-- A character without the property stays when those with it are dropped at
the start. -/
theorem mem_dropWhile {p : Char → Bool} {c : Char} (hc : p c = false) {t : Text} (h : c ∈ t) :
    c ∈ t.dropWhile p := by
  have hcut : t.takeWhile p ++ t.dropWhile p = t := List.takeWhile_append_dropWhile
  rw [← hcut, List.mem_append] at h
  refine h.resolve_left fun htaken => ?_
  rw [List.all_eq_true.mp List.all_takeWhile c htaken] at hc
  contradiction

/-- Dropping characters with a property at the end leaves one without it last. -/
theorem getLast?_reverse_dropWhile (p : Char → Bool) (t : Text) :
    ∀ c ∈ (t.reverse.dropWhile p).reverse.getLast?, p c = false := by
  intro c hc
  rw [List.getLast?_reverse] at hc
  have hnot := List.head?_dropWhile_not p t.reverse
  rw [Option.mem_def.mp hc] at hnot
  simpa using hnot

/-! ## 2. Prefixes and suffixes -/

theorem dropPrefix?_append (p t : Text) : dropPrefix? p (p ++ t) = some t := by
  induction p with
  | nil => rfl
  | cons c p ih => simp [dropPrefix?, ih]

theorem dropSuffix?_append (t p : Text) : dropSuffix? p (t ++ p) = some t := by
  rw [dropSuffix?, List.reverse_append, dropPrefix?_append]
  simp

theorem eq_append_of_dropSuffix? {p t rest : Text} (h : dropSuffix? p t = some rest) :
    t = rest ++ p := by
  obtain ⟨r, hr, rfl⟩ := Option.map_eq_some_iff.mp h
  have hrev := congrArg List.reverse (eq_append_of_dropPrefix? hr)
  simpa using hrev

/-- Of two cuts of a text, the later one takes up some of what is behind the
earlier one. -/
theorem exists_between_cuts {before after s rest : Text} (h : before ++ after = s ++ rest)
    (hlt : s.length < before.length) :
    ∃ u, u ≠ [] ∧ before = s ++ u ∧ rest = u ++ after := by
  rcases List.append_eq_append_iff.mp h with ⟨u, rfl, _⟩ | ⟨u, hbefore, hrest⟩
  · rw [List.length_append] at hlt
    omega
  · refine ⟨u, ?_, hbefore, hrest⟩
    rintro rfl
    rw [hbefore, List.append_nil] at hlt
    exact Nat.lt_irrefl _ hlt

/-! ## 3. Occurrences -/

theorem startsWith_iff (p t : Text) : startsWith p t = true ↔ p <+: t := by
  rw [startsWith, Option.isSome_iff_exists]
  constructor
  · rintro ⟨rest, hrest⟩
    exact ⟨rest, (eq_append_of_dropPrefix? hrest).symm⟩
  · rintro ⟨rest, rfl⟩
    exact ⟨rest, dropPrefix?_append p rest⟩

/-- A pattern is found in a text exactly when it stands somewhere in it. -/
theorem hasInfix_iff (p t : Text) : hasInfix p t = true ↔ p <:+: t := by
  induction t with
  | nil => cases p <;> simp [hasInfix, breakOn]
  | cons c t ih =>
    rw [List.infix_cons_iff, ← startsWith_iff, ← ih, hasInfix, breakOn]
    split
    · next h => simp [h]
    · next h => simp [h, hasInfix]

/-- A prefix that does not hold a character ends before it. -/
theorem prefix_of_prefix_append_cons {p s t : Text} {c : Char} (hc : c ∉ p)
    (h : p <+: s ++ c :: t) : p <+: s := by
  obtain ⟨rest, hrest⟩ := h
  rcases List.append_eq_append_iff.mp hrest with ⟨u, hu, _⟩ | ⟨u, hu, hcu⟩
  · exact ⟨u, hu.symm⟩
  · cases u with
    | nil => exact ⟨[], by simpa using hu⟩
    | cons e u =>
      obtain ⟨rfl, _⟩ := List.cons.inj hcu
      exact absurd (hu ▸ List.mem_append_right _ (List.mem_cons_self ..)) hc

/-- A pattern that does not hold a character occurs on one side of it. -/
theorem infix_of_infix_append_cons {p s t : Text} {c : Char} (hc : c ∉ p)
    (h : p <:+: s ++ c :: t) : p <:+: s ∨ p <:+: t := by
  induction s with
  | nil =>
    rcases List.infix_cons_iff.mp h with hp | hp
    · exact .inl (prefix_of_prefix_append_cons (s := []) hc hp).isInfix
    · exact .inr hp
  | cons d s ih =>
    rcases List.infix_cons_iff.mp h with hp | hp
    · exact .inl (prefix_of_prefix_append_cons (s := d :: s) hc hp).isInfix
    · exact (ih hp).imp_left fun hs => List.infix_cons_iff.mpr (.inr hs)

theorem length_le_of_breakOn {p t before found : Text} (h : breakOn p t = some (before, found))
    {s rest : Text} (ht : t = s ++ rest) (hp : p <+: rest) : before.length ≤ s.length := by
  induction s generalizing t before with
  | nil =>
    -- The pattern stands at the very start, and the search does not go past it.
    obtain rfl : t = rest := ht
    cases t with
    | nil =>
      rw [List.prefix_nil.mp hp, breakOn, if_pos List.isEmpty_nil] at h
      cases h
      exact Nat.le_refl _
    | cons c t =>
      rw [breakOn, if_pos ((startsWith_iff _ _).mpr hp)] at h
      cases h
      exact Nat.le_refl _
  | cons c s ih =>
    rw [ht, List.cons_append, breakOn] at h
    split at h
    · cases h
      exact Nat.zero_le _
    · obtain ⟨⟨b, f⟩, hbreak, heq⟩ := Option.map_eq_some_iff.mp h
      cases heq
      exact Nat.succ_le_succ (ih hbreak rfl)

theorem prefix_of_breakOn {p t before found : Text} (h : breakOn p t = some (before, found)) :
    p <+: found := by
  induction t generalizing before with
  | nil =>
    rw [breakOn] at h
    split at h
    · next hempty =>
      obtain rfl : p = [] := List.isEmpty_iff.mp hempty
      exact List.nil_prefix
    · contradiction
  | cons c t ih =>
    rw [breakOn] at h
    split at h
    · next hstarts =>
      cases h
      exact (startsWith_iff _ _).mp hstarts
    · obtain ⟨⟨b, f⟩, hbreak, heq⟩ := Option.map_eq_some_iff.mp h
      cases heq
      exact ih hbreak

/-- The search cuts before the first occurrence. -/
theorem breakOn_eq_some_iff {p t before found : Text} :
    breakOn p t = some (before, found) ↔ t = before ++ found ∧ p <+: found ∧
      ∀ s rest, t = s ++ rest → p <+: rest → before.length ≤ s.length := by
  constructor
  · intro h
    exact ⟨append_of_breakOn h, prefix_of_breakOn h, fun _ _ => length_le_of_breakOn h⟩
  · rintro ⟨ht, hp, hfirst⟩
    have hoccurs : hasInfix p t = true :=
      (hasInfix_iff p t).mpr (ht ▸ hp.isInfix.trans (List.suffix_append before found).isInfix)
    obtain ⟨⟨b, f⟩, hbreak⟩ := Option.isSome_iff_exists.mp hoccurs
    have hle := length_le_of_breakOn hbreak ht hp
    have hge := hfirst b f (append_of_breakOn hbreak) (prefix_of_breakOn hbreak)
    have hsplit : before ++ found = b ++ f := ht ▸ append_of_breakOn hbreak
    obtain ⟨rfl, rfl⟩ := List.append_inj hsplit (Nat.le_antisymm hge hle)
    exact hbreak

/-- What comes behind a text makes no difference to an occurrence in it. -/
theorem breakOn_append {p t before found : Text} (h : breakOn p t = some (before, found))
    (u : Text) : breakOn p (t ++ u) = some (before, found ++ u) := by
  obtain ⟨rfl, hp, hfirst⟩ := breakOn_eq_some_iff.mp h
  refine breakOn_eq_some_iff.mpr ⟨List.append_assoc .., hp.trans (List.prefix_append found u), ?_⟩
  intro s rest hsplit hrest
  refine Nat.le_of_not_lt fun hshort => ?_
  -- An earlier occurrence would end before the one that was found does.
  rw [List.append_assoc] at hsplit
  obtain ⟨v, _, rfl, rfl⟩ := exists_between_cuts hsplit hshort
  have hinside : p <+: v ++ found := by
    have hlonger : v ++ found <+: v ++ (found ++ u) := ⟨u, List.append_assoc ..⟩
    exact List.prefix_of_prefix_length_le hrest hlonger (Nat.le_trans hp.length_le (by simp))
  exact Nat.not_le.mpr hshort (hfirst s (v ++ found) (List.append_assoc ..) hinside)

/-- A pattern within a line occurs in a text only if it does in a line. -/
theorem hasInfix_join_lineFeed {p : Text} (hp : '\n' ∉ p) (hne : p ≠ []) :
    ∀ (ls : List Text), (∀ l ∈ ls, hasInfix p l = false) → hasInfix p (join ['\n'] ls) = false
  | [], _ => by
      cases p with
      | nil => contradiction
      | cons c p => rfl
  | [l], h => h l (List.mem_cons_self ..)
  | l :: m :: ls, h => by
      have hrest := hasInfix_join_lineFeed hp hne (m :: ls) fun k hk =>
        h k (List.mem_cons_of_mem _ hk)
      cases hfound : hasInfix p (join ['\n'] (l :: m :: ls)) with
      | false => rfl
      | true =>
        rw [hasInfix_iff, join, List.append_assoc, List.singleton_append] at hfound
        · rcases infix_of_infix_append_cons hp hfound with hl | hr
          · rw [← hasInfix_iff, h l (List.mem_cons_self ..)] at hl
            contradiction
          · rw [← hasInfix_iff, hrest] at hr
            contradiction
        · simp

/-! ## 4. Lines -/

theorem lines_append_lineFeed {l : Text} (hl : '\n' ∉ l) (rest : Text) :
    lines (l ++ '\n' :: rest) = (l ++ ['\n']) :: lines rest := by
  induction l with
  | nil => simp [lines]
  | cons c l ih =>
    have hc : c ≠ '\n' := fun h => hl (h ▸ List.mem_cons_self ..)
    simp [lines, hc, ih fun h => hl (List.mem_cons_of_mem _ h)]

theorem lines_of_no_lineFeed {l : Text} (hl : '\n' ∉ l) (hne : l ≠ []) : lines l = [l] := by
  induction l with
  | nil => contradiction
  | cons c l ih =>
    have hc : c ≠ '\n' := fun h => hl (h ▸ List.mem_cons_self ..)
    cases l with
    | nil => simp [lines, hc]
    | cons d l =>
      have hrest := ih (fun h => hl (List.mem_cons_of_mem _ h)) (List.cons_ne_nil d l)
      rw [lines, if_neg hc, hrest]

/-- A text is a line after which nothing follows, or a line, a line feed and
the text after it. -/
@[elab_as_elim]
theorem line_induction {motive : Text → Prop} (last : ∀ l, '\n' ∉ l → motive l)
    (cons : ∀ l rest, '\n' ∉ l → motive rest → motive (l ++ '\n' :: rest)) (t : Text) :
    motive t := by
  by_cases hfeed : '\n' ∈ t
  · obtain ⟨l, rest, hsplit, hl⟩ := List.eq_append_cons_of_mem hfeed
    have hshorter : rest.length < t.length := by
      rw [hsplit, List.length_append, List.length_cons]
      omega
    rw [hsplit]
    exact cons l rest hl (line_induction last cons rest)
  · exact last t hfeed
termination_by t.length

/-- The lines of a joined text are the texts, each but the last with the
line feed that ends it. -/
theorem lines_join : ∀ (ls : List Text), (∀ l ∈ ls, '\n' ∉ l ∧ l ≠ []) →
    ∃ endings : List Text, endings.length = ls.length ∧ (∀ e ∈ endings, e = [] ∨ e = ['\n']) ∧
      lines (join ['\n'] ls) = List.zipWith (· ++ ·) ls endings
  | [], _ => ⟨[], rfl, by simp, rfl⟩
  | [l], h => by
      obtain ⟨hl, hne⟩ := h l (List.mem_cons_self ..)
      refine ⟨[[]], rfl, by simp, ?_⟩
      rw [join, lines_of_no_lineFeed hl hne]
      simp
  | l :: m :: ls, h => by
      obtain ⟨hl, _⟩ := h l (List.mem_cons_self ..)
      obtain ⟨endings, hlen, hends, hlines⟩ := lines_join (m :: ls) fun k hk =>
        h k (List.mem_cons_of_mem _ hk)
      refine ⟨['\n'] :: endings, by simp [hlen], ?_, ?_⟩
      · intro e he
        rcases List.mem_cons.mp he with rfl | he
        · exact .inr rfl
        · exact hends e he
      · rw [join, List.append_assoc, List.singleton_append, lines_append_lineFeed hl, hlines]
        · rfl
        · simp

end PlanScript.Text
