/-
PlanScript.Proofs.Source.Lines — sources whose lines are read as they stand.

A source without a fence marker is its own statement region, whatever a
Markdown reader makes of it (`statementRegion_of_no_marker`), and no line of
it is cut at one (`stripFence?_of_no_marker`). If its lines are trimmed and
say something, the statement lines are these lines
(`map_text_statementLines_join`).
-/
import PlanScript.Proofs.Text.Search
import PlanScript.Proofs.Text.Slice
import PlanScript.Proofs.Text.Trim
import PlanScript.Source.Lines

namespace PlanScript

open Markdown (EventReader)

/-! ## 1. Markers -/

theorem FenceKind.isBlank_char (kind : FenceKind) : isBlank kind.char = false := by
  cases kind <;> decide

/-- A run of three or more starts with the marker. -/
theorem marker_prefix_replicate (kind : FenceKind) {length : Nat} (h : 3 ≤ length) :
    kind.marker <+: List.replicate length kind.char := by
  refine ⟨List.replicate (length - 3) kind.char, ?_⟩
  have hmarker : kind.marker = List.replicate 3 kind.char := rfl
  rw [hmarker, List.replicate_append_replicate, Nat.add_sub_cancel' h]

theorem startsWithMarker_of_prefix_marker {kind : FenceKind} {t : Text} (h : kind.marker <+: t) :
    startsWithMarker t = true := by
  rw [← Text.startsWith_iff] at h
  cases kind with
  | backtick => rw [startsWithMarker, h, Bool.true_or]
  | tilde => rw [startsWithMarker, h, Bool.or_true]

theorem hasMarker_of_prefix_marker {kind : FenceKind} {t : Text} (h : kind.marker <+: t) :
    hasMarker t = true := by
  have hinfix := (Text.hasInfix_iff _ _).mpr h.isInfix
  cases kind with
  | backtick => rw [hasMarker, hinfix, Bool.true_or]
  | tilde => rw [hasMarker, hinfix, Bool.or_true]

/-! ## 2. Texts without a marker -/

theorem hasMarker_eq_false_iff (t : Text) :
    hasMarker t = false ↔ ∀ kind : FenceKind, Text.hasInfix kind.marker t = false := by
  rw [hasMarker, Bool.or_eq_false_iff]
  constructor
  · rintro ⟨hback, htilde⟩ kind
    cases kind with
    | backtick => exact hback
    | tilde => exact htilde
  · intro h
    exact ⟨h .backtick, h .tilde⟩

theorem hasMarker_join {ls : List Text} (h : ∀ l ∈ ls, hasMarker l = false) :
    hasMarker (Text.join ['\n'] ls) = false := by
  rw [hasMarker_eq_false_iff]
  intro kind
  have hfeed : '\n' ∉ kind.marker := by cases kind <;> decide
  have hne : kind.marker ≠ [] := List.cons_ne_nil _ _
  exact Text.hasInfix_join_lineFeed hfeed hne ls fun l hl =>
    (hasMarker_eq_false_iff l).mp (h l hl) kind

/-- A part of a text without a marker has none either. -/
theorem hasMarker_of_infix {t l : Text} (h : t <:+: l) (hl : hasMarker l = false) :
    hasMarker t = false := by
  rw [hasMarker_eq_false_iff] at hl ⊢
  intro kind
  have hnot := hl kind
  rw [← Bool.not_eq_true, Text.hasInfix_iff] at hnot ⊢
  exact fun hkind => hnot (hkind.trans h)

/-- Where no marker stands, the reader is not asked. -/
theorem statementRegion_of_no_marker {source : Text} (h : hasMarker source = false)
    (markdown : EventReader) : statementRegion source markdown = ⟨0, source⟩ := by
  simp [statementRegion, statementRange, h, Markdown.Span.text, Text.slice?_whole]

theorem stripMarker?_of_no_marker {kind : FenceKind} {l : Text}
    (h : Text.hasInfix kind.marker l = false) : stripMarker? kind l = none := by
  have hstart : Text.startsWith kind.marker l = false := by
    rw [← Bool.not_eq_true, Text.startsWith_iff]
    intro hprefix
    rw [← Bool.not_eq_true, Text.hasInfix_iff] at h
    exact h hprefix.isInfix
  have hbreak : Text.breakOn kind.marker l = none :=
    Option.isNone_iff_eq_none.mp (Option.isSome_eq_false_iff.mp h)
  simp [stripMarker?, hstart, hbreak]

theorem stripFence?_of_no_marker {l : Text} (h : hasMarker l = false) :
    stripFence? l = none := by
  rw [hasMarker_eq_false_iff] at h
  rw [stripFence?, stripMarker?_of_no_marker (h .backtick), stripMarker?_of_no_marker (h .tilde)]
  rfl

/-! ## 3. Lines that are read as they stand -/

/-- A line that nothing is dropped from: it has no marker and no white space
at its ends, and it says something. -/
structure IsVerbatim (l : Text) : Prop where
  trimmed : Text.Trimmed l
  notSilent : isSilent l = false
  noMarker : hasMarker l = false
  noLineFeed : '\n' ∉ l

theorem IsVerbatim.ne_nil {l : Text} (h : IsVerbatim l) : l ≠ [] := by
  rintro rfl
  exact absurd h.notSilent (by decide)

theorem Line.ofRaw?_of_verbatim {l ending : Text} (h : IsVerbatim l)
    (hending : ending.allBlank = true) (offset : Nat) :
    ∃ line, Line.ofRaw? offset (l ++ ending) = some line ∧ line.text = l := by
  have htrim : Text.trim (l ++ ending) = l := h.trimmed.trim_surround Text.allBlank_nil hending
  refine ⟨⟨l, offset + Text.bytes ((l ++ ending).takeWhile isBlank)⟩, ?_, rfl⟩
  rw [Line.ofRaw?, htrim, stripFence?_of_no_marker h.noMarker]
  simp [h.notSilent]

theorem map_text_linesFrom {ls : List Text} (h : ∀ l ∈ ls, IsVerbatim l) (offset : Nat)
    {endings : List Text} (hlength : endings.length = ls.length)
    (hendings : ∀ e ∈ endings, Text.allBlank e = true) :
    (linesFrom offset (List.zipWith (· ++ ·) ls endings)).map Line.text = ls := by
  induction ls generalizing offset endings with
  | nil => rfl
  | cons l ls ih =>
    cases endings with
    | nil => contradiction
    | cons ending endings =>
      obtain ⟨line, hline, htext⟩ := Line.ofRaw?_of_verbatim (h l (List.mem_cons_self ..))
        (hendings ending (List.mem_cons_self ..)) offset
      have hrest := ih (fun k hk => h k (List.mem_cons_of_mem _ hk))
        (offset + Text.bytes (l ++ ending)) (Nat.succ.inj hlength)
        fun e he => hendings e (List.mem_cons_of_mem _ he)
      rw [List.zipWith_cons_cons, linesFrom, hline]
      simp only [Option.toList_some, List.singleton_append, List.map_cons, htext, hrest]

/-- The statement lines of verbatim lines are these lines. -/
theorem map_text_statementLines_join {ls : List Text} (h : ∀ l ∈ ls, IsVerbatim l)
    (markdown : EventReader) :
    (statementLines (Text.join ['\n'] ls) markdown).map Line.text = ls := by
  obtain ⟨endings, hlength, hendings, hlines⟩ :=
    Text.lines_join ls fun l hl => ⟨(h l hl).noLineFeed, (h l hl).ne_nil⟩
  have hmarker := hasMarker_join fun l hl => (h l hl).noMarker
  rw [statementLines, statementRegion_of_no_marker hmarker]
  simp only [hlines]
  refine map_text_linesFrom h 0 hlength fun e he => ?_
  rcases hendings e he with rfl | rfl
  · rfl
  · rfl

end PlanScript
