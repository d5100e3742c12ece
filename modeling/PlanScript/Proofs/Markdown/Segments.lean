/-
PlanScript.Proofs.Markdown.Segments — what a document is cut into.

No line feed stands in the text of a segment, and only the last segment may
go without a line ending (`segmented_segments`). A document may be cut at any
line feed, and its segments are those of the two parts
(`segments_append_lineFeed`).
-/
import PlanScript.Markdown.Segment

namespace PlanScript.Markdown

/-! ## 1. Texts and endings -/

/-- The text has no line feed, and only the last segment has no ending. -/
inductive Segmented : List Segment → Prop
  | nil : Segmented []
  | last {text : Text} : '\n' ∉ text → Segmented [⟨text, []⟩]
  | cons {text ending : Text} {more : List Segment} : '\n' ∉ text →
    ending = ['\n'] ∨ ending = ['\r'] ∨ ending = ['\r', '\n'] → Segmented more →
    Segmented (⟨text, ending⟩ :: more)

theorem segmented_segments (t : Text) : Segmented (segments t) := by
  fun_induction segments t with
  | case1 => exact .nil
  | case2 rest ih => exact .cons List.not_mem_nil (.inr (.inr rfl)) ih
  | case3 c rest _ h ih =>
    refine .cons List.not_mem_nil ?_ ih
    rcases h with rfl | rfl
    · exact .inl rfl
    · exact .inr (.inl rfl)
  | case4 c rest _ h hnil ih =>
    refine .last ?_
    rw [List.mem_singleton]
    exact fun hc => h (.inl hc.symm)
  | case5 c rest _ h s more hs ih =>
    have htext : ∀ {text : Text}, '\n' ∉ text → '\n' ∉ c :: text := by
      intro text hno
      rw [List.mem_cons, not_or]
      exact ⟨fun hc => h (.inl hc.symm), hno⟩
    rw [hs] at ih
    cases ih with
    | last hno => exact .last (htext hno)
    | cons hno hending hmore => exact .cons (htext hno) hending hmore

theorem text_infix_of_mem_segments {t : Text} {s : Segment} (hs : s ∈ segments t) :
    s.text <:+: t := by
  have hfull : s.full <:+: (segments t).flatMap Segment.full :=
    List.infix_of_mem_flatten (List.mem_map_of_mem hs)
  rw [flatMap_full_segments] at hfull
  exact (List.prefix_append s.text s.ending).isInfix.trans hfull

/-! ## 2. Cutting a document -/

theorem segments_lineFeed (rest : Text) :
    segments ('\n' :: rest) = ⟨[], ['\n']⟩ :: segments rest := by
  simp [segments]

theorem segments_return {c : Char} (hc : c ≠ '\n') (rest : Text) :
    segments ('\r' :: c :: rest) = ⟨[], ['\r']⟩ :: segments (c :: rest) := by
  rw [segments.eq_3 '\r' (c :: rest) (by simp [hc])]
  simp

theorem segments_cons_of_segments {c : Char} (hc : ¬ (c = '\n' ∨ c = '\r')) {rest : Text}
    {s : Segment} {more : List Segment} (h : segments rest = s :: more) :
    segments (c :: rest) = ⟨c :: s.text, s.ending⟩ :: more := by
  rw [segments.eq_3 c rest (by rintro _ rfl; simp at hc), if_neg hc, h]

theorem segments_ne_nil {t : Text} (h : t ≠ []) : segments t ≠ [] := by
  intro hnil
  have hflat := flatMap_full_segments t
  rw [hnil] at hflat
  exact h hflat.symm

/-- A document may be cut at any line feed. -/
theorem segments_append_lineFeed (t u : Text) :
    segments (t ++ '\n' :: u) = segments (t ++ ['\n']) ++ segments u := by
  fun_induction segments t with
  | case1 => exact segments_lineFeed u
  | case2 rest ih => simp [segments, ih]
  | case3 c rest hcrlf h ih =>
    rcases h with rfl | rfl
    · simpa [segments] using ih
    · cases rest with
      | nil => rfl
      | cons d rest =>
        have hd : d ≠ '\n' := by
          rintro rfl
          exact hcrlf rest rfl rfl
        rw [List.cons_append, List.cons_append, List.cons_append, List.cons_append,
          segments_return hd, segments_return hd, ← List.cons_append, ih]
        rfl
  | case4 c rest hcrlf h hnil ih =>
    obtain rfl : rest = [] := Classical.byContradiction fun hne => segments_ne_nil hne hnil
    rw [List.singleton_append, List.singleton_append,
      segments_cons_of_segments h (segments_lineFeed u),
      segments_cons_of_segments h (segments_lineFeed [])]
    rfl
  | case5 c rest hcrlf h s more hs ih =>
    have hne : segments (rest ++ ['\n']) ≠ [] := segments_ne_nil (by simp)
    obtain ⟨s', more', hs'⟩ := List.exists_cons_of_ne_nil hne
    rw [hs'] at ih
    rw [List.cons_append, List.cons_append, segments_cons_of_segments h ih,
      segments_cons_of_segments h hs']
    rfl

/-- A line feed ends the row before it. -/
theorem exists_segments_append_lineFeed (t : Text) :
    ∃ front last, segments (t ++ ['\n']) = front ++ [last] ∧ last.endsRow = true := by
  have hne : segments (t ++ ['\n']) ≠ [] := segments_ne_nil (by simp)
  have hsplit := List.dropLast_concat_getLast hne
  generalize (segments (t ++ ['\n'])).dropLast = front at hsplit
  generalize (segments (t ++ ['\n'])).getLast hne = last at hsplit
  refine ⟨front, last, hsplit.symm, decide_eq_true fun hreturn => ?_⟩
  have hflat := flatMap_full_segments (t ++ ['\n'])
  rw [← hsplit, List.flatMap_append, List.flatMap_singleton, Segment.full, hreturn,
    ← List.append_assoc] at hflat
  exact absurd (List.append_inj_right' hflat rfl) (by decide)

theorem segments_cons_lineFeed {l : Text} (h : ∀ c ∈ l, c ≠ '\n' ∧ c ≠ '\r') (rest : Text) :
    segments (l ++ '\n' :: rest) = ⟨l, ['\n']⟩ :: segments rest := by
  induction l with
  | nil => exact segments_lineFeed rest
  | cons c l ih =>
    have hc := h c (List.mem_cons_self ..)
    have hl := ih fun d hd => h d (List.mem_cons_of_mem _ hd)
    exact segments_cons_of_segments (not_or.mpr hc) hl

end PlanScript.Markdown
