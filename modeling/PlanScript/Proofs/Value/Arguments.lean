/-
PlanScript.Proofs.Value.Arguments — splitting at top-level commas.

Splitting and checking the nesting are one scan: they fail on the same texts
and with the same error (`map_splitArguments`). `IsSplit t ts` says that `t`
is the texts `ts` joined by commas, each balanced and without a comma of its
own outside a literal or bracket; this is what the splitter computes
(`pieces_eq_ok_iff`), and its pieces are then trimmed and the blank ones left
out (`splitArguments_eq_ok_iff`). So texts that were joined come back
(`splitArguments_join`). A dict entry is cut at its colon in the same way
(`splitEntry?_colon`).
-/
import PlanScript.Proofs.Nesting.Cut
import PlanScript.Proofs.Text.Trim
import PlanScript.Value.Basic

namespace PlanScript

/-! ## 1. Places that are characters -/

theorem isLocal_isTopLevelChar (c : Char) : IsLocal (·.isTopLevelChar c) := fun _ _ _ _ => rfl

theorem isTopLevelChar_of_ne {c d : Char} (h : d ≠ c) (s : ScanState)
    (previous next : Option Char) : Place.isTopLevelChar c ⟨s, previous, d, next⟩ = false := by
  simp [Place.isTopLevelChar, h]

/-- A text without a character at its top level. -/
def TopLevelFree (c : Char) (t : Text) : Prop := ∀ v ∈ topLevel t, v.char ≠ c

instance (c : Char) (t : Text) : Decidable (TopLevelFree c t) :=
  inferInstanceAs (Decidable (∀ v ∈ topLevel t, v.char ≠ c))

theorem topLevelFree_iff_avoids (c : Char) (t : Text) :
    TopLevelFree c t ↔ Avoids (·.isTopLevelChar c) {} t := by
  rw [avoids_iff_forall_mem_scanFrom (isLocal_isTopLevelChar c) {} 0]
  simp only [TopLevelFree, topLevel, scan, List.mem_filter, Place.isTopLevelChar,
    Bool.and_eq_false_imp, decide_eq_false_iff_not]
  exact ⟨fun h v hv htop => h v ⟨hv, htop⟩, fun h v hv => h v hv.1 hv.2⟩

/-! ## 2. Splitting is checking -/

/-- Changing a result leaves an error as it is. -/
theorem map_eq_error_iff {ε α β : Type} (x : Except ε α) (f : α → β) (e : ε) :
    x.map f = .error e ↔ x = .error e := by
  cases x <;> simp [Except.map]

theorem map_piecesFrom (s : ScanState) (offset : Nat) (t : Text) :
    (piecesFrom s offset t).map (fun _ => ()) =
      (runFrom s offset t).bind ScanState.finish := by
  induction t generalizing s offset with
  | nil =>
    simp only [piecesFrom, runFrom, bind, Except.bind]
    cases s.finish <;> rfl
  | cons c t ih =>
    simp only [piecesFrom, runFrom, bind, Except.bind] at ih ⊢
    cases s.advance c offset with
    | error e => rfl
    | ok next =>
      simp only
      rw [← ih]
      cases piecesFrom next (offset + c.utf8Size) t with
      | error e => rfl
      | ok r => simp only; split <;> rfl

/-- Splitting fails where the nesting check fails, with the same error. -/
theorem map_splitArguments (t : Text) : (splitArguments t).map (fun _ => ()) = checkNesting t := by
  rw [show checkNesting t = (runFrom {} 0 t).bind ScanState.finish from rfl, ← map_piecesFrom]
  simp only [splitArguments, pieces, bind, Except.bind]
  cases piecesFrom {} 0 t <;> rfl

theorem exists_splitArguments_iff (t : Text) :
    (∃ args, splitArguments t = .ok args) ↔ checkNesting t = .ok () := by
  rw [← map_splitArguments]
  cases splitArguments t <;> simp [Except.map]

theorem splitArguments_eq_error_iff (t : Text) (e : NestingError) :
    splitArguments t = .error e ↔ checkNesting t = .error e := by
  rw [← map_splitArguments, map_eq_error_iff]

/-! ## 3. The pieces of a text -/

/-- The top-level commas of a text cut it into the pieces. -/
structure IsSplit (t : Text) (ts : List Text) : Prop where
  ne_nil : ts ≠ []
  join : t = Text.join [','] ts
  pieces : ∀ u ∈ ts, Balanced u ∧ TopLevelFree ',' u

theorem join_cons_head (separator : Text) (c : Char) (piece : Text) (more : List Text) :
    Text.join separator ((c :: piece) :: more) = c :: Text.join separator (piece :: more) := by
  cases more <;> simp [Text.join]

/-- What is split off: the first piece goes on where the scan began, and
every later one starts outside all literals and brackets. -/
theorem of_piecesFrom {s : ScanState} {offset : Nat} {t piece : Text} {more : List Text}
    (hs : s.quote = none → s.escaped = false)
    (h : piecesFrom s offset t = .ok (piece, more)) :
    t = Text.join [','] (piece :: more) ∧ s.after? piece = some {} ∧
      Avoids (·.isTopLevelChar ',') s piece ∧ ∀ u ∈ more, Balanced u ∧ TopLevelFree ',' u := by
  induction t generalizing s offset piece more with
  | nil =>
    simp only [piecesFrom, bind, Except.bind, pure, Except.pure] at h
    cases hfinish : s.finish with
    | error e => simp [hfinish] at h
    | ok u =>
      simp only [hfinish, Except.ok.injEq, Prod.mk.injEq] at h
      obtain ⟨rfl, rfl⟩ := h
      obtain rfl := ScanState.eq_start_of_isTopLevel ((ScanState.finish_eq_ok_iff s).mp hfinish) hs
      exact ⟨rfl, rfl, trivial, by simp⟩
  | cons c t ih =>
    cases hstep : s.step c with
    | error b =>
      simp [piecesFrom, ScanState.advance_of_step_error hstep, bind, Except.bind] at h
    | ok next =>
      simp only [piecesFrom, ScanState.advance_of_step hstep, bind, Except.bind] at h
      cases hrest : piecesFrom next (offset + c.utf8Size) t with
      | error e => simp [hrest] at h
      | ok r =>
        obtain ⟨first, others⟩ := r
        obtain ⟨rfl, hafter, havoid, hothers⟩ := ih (ScanState.escaped_of_step hstep hs) hrest
        simp only [hrest, pure, Except.pure] at h
        split at h
        · next hcomma =>
          -- A comma outside everything: the scan starts afresh behind it.
          simp only [Bool.and_eq_true, decide_eq_true_eq] at hcomma
          obtain ⟨rfl, htop⟩ := hcomma
          cases h
          obtain rfl := ScanState.eq_start_of_isTopLevel htop hs
          rw [ScanState.step_of_plain rfl (by rfl)] at hstep
          cases hstep
          refine ⟨rfl, rfl, trivial, ?_⟩
          intro u hu
          rcases List.mem_cons.mp hu with rfl | hu
          · exact ⟨hafter, (topLevelFree_iff_avoids ',' _).mpr havoid⟩
          · exact hothers u hu
        · next hcomma =>
          cases h
          refine ⟨(join_cons_head _ c first _).symm, ?_, ?_, hothers⟩
          · rw [ScanState.after?_cons_of_step hstep, hafter]
          · refine avoids_cons_of_step (fun _ _ => ?_) hstep havoid
            simpa [Place.isTopLevelChar, Bool.and_comm] using hcomma

theorem piecesFrom_append {s m : ScanState} {u : Text} (hu : Avoids (·.isTopLevelChar ',') s u)
    (hm : s.after? u = some m) (offset : Nat) (v : Text) :
    piecesFrom s offset (u ++ v)
      = (piecesFrom m (offset + u.bytes) v).map fun (piece, more) => (u ++ piece, more) := by
  induction u generalizing s offset with
  | nil =>
    cases hm
    cases h : piecesFrom m offset v <;> simp [h, Except.map]
  | cons c u ih =>
    obtain ⟨next, hstep, hrest⟩ := ScanState.step_of_after?_cons hm
    have hcomma : (decide (c = ',') && s.isTopLevel) = false := by
      rw [Bool.and_comm]
      exact hu.1 none none
    rw [List.cons_append, piecesFrom, ScanState.advance_of_step hstep]
    simp only [bind, Except.bind, hcomma]
    rw [ih (hu.2 next hstep) hrest, Text.bytes_cons, Nat.add_assoc]
    cases piecesFrom m (offset + (c.utf8Size + Text.bytes u)) v <;>
      simp [Except.map, pure, Except.pure]

theorem piecesFrom_comma (offset : Nat) (t : Text) :
    piecesFrom {} offset (',' :: t)
      = (piecesFrom {} (offset + 1) t).map fun (piece, more) => ([], piece :: more) := by
  have hstep := ScanState.step_of_plain (s := {}) rfl (show isPlain ',' = true from rfl)
  rw [piecesFrom, ScanState.advance_of_step hstep, show ','.utf8Size = 1 from rfl]
  simp only [bind, Except.bind]
  cases piecesFrom {} (offset + 1) t <;> rfl

/-- The pieces of a joined text are the texts. -/
theorem piecesFrom_join (offset : Nat) (t : Text) (ts : List Text)
    (h : ∀ u ∈ t :: ts, Balanced u ∧ TopLevelFree ',' u) :
    piecesFrom {} offset (Text.join [','] (t :: ts)) = .ok (t, ts) := by
  obtain ⟨hbal, hfree⟩ := h t (List.mem_cons_self ..)
  have havoid := (topLevelFree_iff_avoids ',' t).mp hfree
  induction ts generalizing offset t with
  | nil =>
    have happ := piecesFrom_append havoid hbal offset []
    rw [List.append_nil] at happ
    rw [Text.join, happ]
    simp [piecesFrom, ScanState.finish, Depth.firstOpen?, bind, Except.bind, Except.map, pure,
      Except.pure]
  | cons u us ih =>
    have hrest : ∀ v ∈ u :: us, Balanced v ∧ TopLevelFree ',' v := fun v hv =>
      h v (List.mem_cons_of_mem _ hv)
    obtain ⟨hubal, hufree⟩ := hrest u (List.mem_cons_self ..)
    have hjoin : Text.join [','] (t :: u :: us) = t ++ ',' :: Text.join [','] (u :: us) := by
      simp [Text.join]
    rw [hjoin, piecesFrom_append havoid hbal, piecesFrom_comma,
      ih _ u hrest hubal hufree ((topLevelFree_iff_avoids ',' u).mp hufree)]
    simp [Except.map]

/-- Splitting gives the pieces between the top-level commas, and fails where
there is no such split. -/
theorem pieces_eq_ok_iff (t : Text) (ts : List Text) : pieces t = .ok ts ↔ IsSplit t ts := by
  constructor
  · intro h
    simp only [pieces, bind, Except.bind, pure, Except.pure] at h
    cases hfrom : piecesFrom {} 0 t with
    | error e => simp [hfrom] at h
    | ok r =>
      obtain ⟨piece, more⟩ := r
      obtain ⟨hjoin, hafter, havoid, hmore⟩ := of_piecesFrom (fun _ => rfl) hfrom
      simp only [hfrom, Except.ok.injEq] at h
      subst h
      refine ⟨List.cons_ne_nil _ _, hjoin, ?_⟩
      intro u hu
      rcases List.mem_cons.mp hu with rfl | hu
      · exact ⟨hafter, (topLevelFree_iff_avoids ',' _).mpr havoid⟩
      · exact hmore u hu
  · rintro ⟨hne, rfl, hpieces⟩
    cases ts with
    | nil => contradiction
    | cons u us =>
      simp [pieces, piecesFrom_join 0 u us hpieces, bind, Except.bind, pure, Except.pure]

/-- The arguments of a list are its pieces, trimmed and without the blank
ones. -/
theorem splitArguments_eq_ok_iff (t : Text) (args : List Text) :
    splitArguments t = .ok args ↔
      ∃ ts, IsSplit t ts ∧ args = (ts.map Text.trim).filter (!·.isEmpty) := by
  simp only [← pieces_eq_ok_iff, splitArguments, bind, Except.bind, pure, Except.pure]
  cases pieces t with
  | error e => simp
  | ok ts => simp [eq_comm]

/-- A property that the cut at a comma behind a balanced text preserves holds
of all pieces. -/
theorem IsSplit.forall_mem {P : Text → Prop}
    (hcut : ∀ {u v : Text}, P (u ++ ',' :: v) → Balanced u → P u ∧ P v) {t : Text}
    {ts : List Text} (hsplit : IsSplit t ts) (h : P t) : ∀ u ∈ ts, P u := by
  obtain ⟨-, rfl, hpieces⟩ := hsplit
  induction ts with
  | nil => simp
  | cons u us ih =>
    cases us with
    | nil =>
      intro v hv
      rwa [List.mem_singleton.mp hv]
    | cons v vs =>
      have hjoin : P (u ++ ',' :: Text.join [','] (v :: vs)) := by simpa [Text.join] using h
      obtain ⟨hu, hrest⟩ := hcut hjoin (hpieces u (List.mem_cons_self ..)).1
      intro w hw
      rcases List.mem_cons.mp hw with rfl | hw
      · exact hu
      · exact ih (fun x hx => hpieces x (List.mem_cons_of_mem _ hx)) hrest w hw

/-- If trimming preserves it as well, it holds of all arguments. -/
theorem forall_mem_splitArguments {P : Text → Prop}
    (hcut : ∀ {u v : Text}, P (u ++ ',' :: v) → Balanced u → P u ∧ P v)
    (htrim : ∀ {u : Text}, P u → P u.trim) {t : Text} {args : List Text}
    (hargs : splitArguments t = .ok args) (h : P t) : ∀ a ∈ args, P a := by
  obtain ⟨ts, hsplit, rfl⟩ := (splitArguments_eq_ok_iff t args).mp hargs
  intro a ha
  obtain ⟨u, hu, rfl⟩ := List.mem_map.mp (List.mem_filter.mp ha).1
  exact htrim (hsplit.forall_mem hcut h u hu)

/-! ## 4. Splitting a joined text -/

theorem join_comma_space (t : Text) (ts : List Text) :
    Text.join [',', ' '] (t :: ts) = Text.join [','] (t :: ts.map (' ' :: ·)) := by
  induction ts generalizing t with
  | nil => rfl
  | cons u us ih => simp [Text.join, ih, join_cons_head]

/-- Splitting a joined text gives the texts back, without the blank ones. -/
theorem splitArguments_join {ts : List Text} (h : ∀ t ∈ ts, Balanced t ∧ TopLevelFree ',' t) :
    splitArguments (Text.join [',', ' '] ts)
      = .ok ((ts.map Text.trim).filter (!·.isEmpty)) := by
  cases ts with
  | nil => rfl
  | cons t ts =>
    have hblank : Text.allBlank [' '] = true := rfl
    have htrim : ∀ u : Text, Text.trim (' ' :: u) = u.trim := fun u => by
      simpa using Text.trim_append_blanks hblank Text.allBlank_nil u
    have hspace : Quiet (·.isTopLevelChar ',') [' '] := by
      refine ⟨rfl, avoids_of_forall_mem (fun c hc => isTopLevelChar_of_ne ?_) {}⟩
      rw [List.mem_singleton.mp hc]
      decide
    refine (splitArguments_eq_ok_iff _ _).mpr ⟨t :: ts.map (' ' :: ·), ⟨List.cons_ne_nil _ _,
      join_comma_space t ts, ?_⟩, by simp [Function.comp_def, htrim]⟩
    intro u hu
    rcases List.mem_cons.mp hu with rfl | hu
    · exact h u (List.mem_cons_self ..)
    · obtain ⟨v, hv, rfl⟩ := List.mem_map.mp hu
      obtain ⟨hbal, hfree⟩ := h v (List.mem_cons_of_mem _ hv)
      have hquiet := hspace.append ⟨hbal, (topLevelFree_iff_avoids ',' v).mp hfree⟩
      exact ⟨hquiet.1, (topLevelFree_iff_avoids ',' _).mpr hquiet.2⟩

/-- Trimmed arguments come back as they are. -/
theorem splitArguments_join_trimmed {ts : List Text}
    (h : ∀ t ∈ ts, Balanced t ∧ TopLevelFree ',' t) (htrim : ∀ t ∈ ts, Text.Trimmed t)
    (hne : ∀ t ∈ ts, t ≠ []) : splitArguments (Text.join [',', ' '] ts) = .ok ts := by
  have hmap : ts.map Text.trim = ts := by
    rw [List.map_congr_left htrim, List.map_id']
  rw [splitArguments_join h, hmap, List.filter_eq_self.mpr]
  intro t ht
  simpa using hne t ht

/-! ## 5. Dict entries -/

/-- An entry is cut at its first top-level colon. -/
theorem splitEntry?_colon {key : Text} (hbal : Balanced key) (hfree : TopLevelFree ':' key)
    (value : Text) : splitEntry? (key ++ ':' :: value) = some (key.trim, value.trim) := by
  have hcut := cutFrom_append ((topLevelFree_iff_avoids ':' key).mp hfree) hbal none (':' :: value)
  rw [cutFrom, if_pos (by rfl)] at hcut
  unfold splitEntry?
  simp [cut, hcut]

end PlanScript
