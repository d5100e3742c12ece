/-
PlanScript.Proofs.Source.Quoted — fence markers in string literals.

Markers are searched for in the plain text, and nothing there knows of
literals. What saves a marker in a literal is the closing quote: in a text
that passes the nesting check it stands somewhere behind the marker
(`exists_quote_of_openQuote?`), no info string holds it, and so the first
marker is no fence (`stripMarker?_of_quoted`), whatever comes behind the text.

A line with no other markers is therefore read as it stands
(`quoted_markers_are_left`). The same holds of such a line with a bare run at
its end: if a marker of that kind is quoted before the run, the quoted one is
found first, and the run is not cut off (`trailing_run_is_cut_off`).
-/
import PlanScript.Proofs.Nesting.Culprit
import PlanScript.Proofs.Source.Marker

namespace PlanScript

/-! ## 1. Markers in literals -/

/-- Every marker in the line stands in a string literal: one is open where the
marker starts, and no marker holds the quote that would end it. -/
def MarkersQuoted (line : Text) : Prop :=
  ∀ (kind : FenceKind) (before after : Text), line = before ++ kind.marker ++ after →
    Text.openQuote? before ≠ none

/-- The scan of a line finds out whether its markers are quoted. -/
theorem markersQuoted_of_scan {line : Text}
    (h : ∀ kind : FenceKind, ∀ i < line.length, kind.marker <+: line.drop i →
      ((({} : ScanState).after? (line.take i)).bind ScanState.quote).isSome = true) :
    MarkersQuoted line := by
  rintro kind before after rfl
  have hopen := h kind before.length (by simp [FenceKind.marker]) (by simp)
  rw [List.append_assoc, List.take_left] at hopen
  cases hm : ({} : ScanState).after? before with
  | none =>
    rw [hm] at hopen
    contradiction
  | some m =>
    rw [hm, Option.bind_some, (after?_outside_start hm).1] at hopen
    exact Option.isSome_iff_ne_none.mp hopen

/-- A literal that is open inside a balanced text is closed in the rest. -/
theorem exists_quote_of_openQuote? {u v : Text} (h : Balanced (u ++ v))
    (hopen : Text.openQuote? u ≠ none) : ∃ q ∈ v, isQuote q = true := by
  rw [Balanced, ScanState.after?_append] at h
  obtain ⟨⟨d, quote, escaped⟩, hu, hv⟩ := Option.bind_eq_some_iff.mp h
  obtain ⟨q, hq⟩ := Option.ne_none_iff_exists'.mp hopen
  obtain rfl : quote = some q := (after?_outside_start hu).1.trans hq
  obtain ⟨body, rest, rfl, _, _⟩ := Literal.exists_body_of_after? hv rfl
  exact ⟨q, by simp, ScanState.isQuote_of_after? hu (by simp) q rfl⟩

/-- A quote is no white space, and it stands in no info string and no fence. -/
theorem isBlank_isInfoChar_of_isQuote {q : Char} (hq : isQuote q = true) :
    isBlank q = false ∧ isInfoChar q = false ∧ ∀ kind : FenceKind, q ≠ kind.char := by
  rw [isQuote, Bool.or_eq_true, decide_eq_true_eq, decide_eq_true_eq] at hq
  rcases hq with rfl | rfl
  · exact ⟨by decide, by decide, fun kind => by cases kind <;> decide⟩
  · exact ⟨by decide, by decide, fun kind => by cases kind <;> decide⟩

/-- A text with a quoted marker of a kind has no fence of that kind, and no line
has one that starts with the text. -/
theorem stripMarker?_of_quoted {kind : FenceKind} {c : Text} (hbalanced : Balanced c)
    (hquoted : MarkersQuoted c) (hmarker : Text.hasInfix kind.marker c = true) (rest : Text) :
    stripMarker? kind (c ++ rest) = none := by
  obtain ⟨⟨before, found⟩, hbreak⟩ := Option.isSome_iff_exists.mp hmarker
  obtain ⟨rfl, ⟨after, rfl⟩, _⟩ := Text.breakOn_eq_some_iff.mp hbreak
  have hopen := hquoted kind before after (List.append_assoc ..).symm
  obtain ⟨q, hmem, hq⟩ := exists_quote_of_openQuote? hbalanced hopen
  obtain ⟨hblank, hinfo, hchar⟩ := isBlank_isInfoChar_of_isQuote hq
  have hlater := Text.breakOn_append hbreak rest
  have hstart : Text.startsWith kind.marker (before ++ (kind.marker ++ after) ++ rest) = false := by
    rw [← Bool.not_eq_true, Text.startsWith_iff]
    intro hprefix
    have hfirst := Text.length_le_of_breakOn hlater (List.nil_append _).symm hprefix
    rw [List.eq_nil_of_length_eq_zero (Nat.le_zero.mp hfirst)] at hopen
    exact hopen (by rw [Text.openQuote?, Text.sweep_nil])
  -- The closing quote is still there when the run and the white space are gone.
  have hkept : q ∈ Text.trim ((kind.marker ++ after ++ rest).dropWhile (· = kind.char)) :=
    Text.mem_trim hblank (Text.mem_dropWhile (by simpa using hchar kind)
      (List.mem_append_left _ hmem))
  simp only [stripMarker?, hstart, hlater, Option.bind_some]
  generalize Text.trim _ = info at hkept
  have hfull := List.isEmpty_eq_false_iff.mpr (List.ne_nil_of_mem hkept)
  have hnoInfo : info.all isInfoChar = false := List.all_eq_false.mpr ⟨q, hkept, by simp [hinfo]⟩
  simp only [hfull, hnoInfo, Bool.false_eq_true, if_false]

/-! ## 2. Lines that are read as they stand -/

/-- A line that passes the nesting check and has its markers in string literals,
if it has any, is not cut. So it comes out as it is wherever the region holds
it, unless it says nothing. -/
theorem quoted_markers_are_left {line : Text} (hnesting : checkNesting line = .ok ())
    (hquoted : MarkersQuoted line) :
    stripFence? line = none ∧ (isSilent line = false → ∀ source raw : Text, raw.trim = line →
      LeavesInPlace source raw (some line)) := by
  have hbalanced := (checkNesting_eq_ok_iff line).mp hnesting
  have hkind : ∀ kind, stripMarker? kind line = none := by
    intro kind
    cases hmarker : Text.hasInfix kind.marker line with
    | false => exact stripMarker?_of_no_marker hmarker
    | true => simpa using stripMarker?_of_quoted hbalanced hquoted hmarker []
  have hstrip : stripFence? line = none := by
    rw [stripFence?, hkind, hkind]
    rfl
  exact ⟨hstrip, fun hspoken source raw hraw => leavesInPlace_of_uncut hstrip hspoken hraw source⟩

/-- Two literals in brackets, an escaped quote before the marker in the first
one, and a bare marker at the end of the second. -/
theorem quoted_markers_are_left_nested :
    let line := "x = f(\"\\\"```py\", ['~~~'])".toList
    stripFence? line = none ∧ LeavesInPlace line line (some line) := by
  intro line
  have hquoted : MarkersQuoted line := markersQuoted_of_scan fun kind => by cases kind <;> decide
  have hnesting : checkNesting line = .ok () := rfl
  obtain ⟨hstrip, hleft⟩ := quoted_markers_are_left hnesting hquoted
  have hspoken : isSilent line = false := by decide
  have htrimmed : Text.trim line = line := by decide
  exact ⟨hstrip, hleft hspoken line line htrimmed⟩

/-! ## 3. A bare run at the end -/

/-- No marker reaches over white space. -/
theorem hasInfix_append_blank {kind : FenceKind} {t w u : Text}
    (ht : Text.hasInfix kind.marker t = false) (hw : w.allBlank = true) (hne : w ≠ [])
    (hu : kind.char ∉ u) : Text.hasInfix kind.marker (t ++ w ++ u) = false := by
  rw [← Bool.not_eq_true, Text.hasInfix_iff] at ht ⊢
  intro hinfix
  have hblank : ∀ d ∈ w, d ≠ kind.char := fun d hd =>
    kind.ne_char_of_isBlank ((Text.allBlank_iff w).mp hw d hd)
  cases w with
  | nil => contradiction
  | cons d w =>
    rw [List.append_assoc, List.cons_append] at hinfix
    have hd := not_mem_marker (hblank d (List.mem_cons_self ..))
    rcases Text.infix_of_infix_append_cons hd hinfix with h | h
    · exact ht h
    · rcases List.mem_append.mp (h.subset (List.mem_cons_self ..)) with hc | hc
      · exact hblank _ (List.mem_cons_of_mem _ hc) rfl
      · exact hu hc

theorem endsInBareRun_append_blank {kind : FenceKind} {c w : Text}
    (hc : Text.hasInfix kind.marker c = false) (hw : w.allBlank = true) (hne : w ≠ []) {n : Nat}
    (hn : 3 ≤ n) : EndsInBareRun kind (c ++ w ++ List.replicate n kind.char) (c ++ w) := by
  refine ⟨⟨n, hn, rfl⟩, ?_, ?_⟩
  · simpa using hasInfix_append_blank hc hw hne (u := []) List.not_mem_nil
  · obtain ⟨d, hd⟩ := Option.ne_none_iff_exists'.mp (mt List.getLast?_eq_none_iff.mp hne)
    have hblank := (Text.allBlank_iff w).mp hw d (List.mem_of_getLast? hd)
    rw [List.getLast?_append, hd, Option.some_or, ne_eq, Option.some.injEq]
    exact kind.ne_char_of_isBlank hblank

theorem stripFence?_of_other {kind : FenceKind} {l : Text}
    (h : ∀ other, other ≠ kind → stripMarker? other l = none) :
    stripFence? l = stripMarker? kind l := by
  cases kind with
  | backtick =>
    rw [stripFence?, h .tilde (by decide)]
    cases stripMarker? .backtick l <;> rfl
  | tilde =>
    rw [stripFence?, h .backtick (by decide)]
    rfl

/-- The marker of the other kind makes no difference to a bare run at the end. -/
theorem stripFence?_trailing_run {c w : Text} {kind : FenceKind} (hbalanced : Balanced c)
    (hquoted : MarkersQuoted c) (hw : w.allBlank = true) (hne : w ≠ []) (n : Nat) :
    stripFence? (c ++ w ++ List.replicate n kind.char)
      = stripMarker? kind (c ++ w ++ List.replicate n kind.char) := by
  refine stripFence?_of_other fun other hother => ?_
  cases hmarker : Text.hasInfix other.marker c with
  | true =>
    rw [List.append_assoc]
    exact stripMarker?_of_quoted hbalanced hquoted hmarker _
  | false =>
    refine stripMarker?_of_no_marker (hasInfix_append_blank hmarker hw hne fun hmem => ?_)
    exact hother (FenceKind.char_injective (List.eq_of_mem_replicate hmem))

/-- A bare run at the end of a line is cut off, with the white space before it,
if no marker of its kind is quoted in the code before it: then the code comes
out. If one is quoted, the whole line comes out, the run with it. -/
theorem trailing_run_is_cut_off {c w : Text} {kind : FenceKind} {n : Nat}
    (htrimmed : Text.Trimmed c) (hne : c ≠ []) (hcomment : c.head? ≠ some '#')
    (hnesting : checkNesting c = .ok ()) (hquoted : MarkersQuoted c) (hblank : w.allBlank = true)
    (hgap : w ≠ []) (hn : 3 ≤ n) :
    let line := c ++ w ++ List.replicate n kind.char
    (¬ kind.marker <:+: c → stripFence? line = some c ∧
      ∀ source raw : Text, raw.trim = line → LeavesInPlace source raw (some c)) ∧
    (kind.marker <:+: c → stripFence? line = none ∧
      ∀ source raw : Text, raw.trim = line → LeavesInPlace source raw (some line)) := by
  intro line
  have hline : line = c ++ (w ++ List.replicate n kind.char) := List.append_assoc ..
  have hbalanced := (checkNesting_eq_ok_iff c).mp hnesting
  have honly : stripFence? line = stripMarker? kind line :=
    stripFence?_trailing_run hbalanced hquoted hblank hgap n
  have hspoken : ∀ u, isSilent (c ++ u) = false := by
    intro u
    cases c with
    | nil => contradiction
    | cons d c => simpa [isSilent] using hcomment
  constructor
  · intro hmarker
    rw [← Text.hasInfix_iff, Bool.not_eq_true] at hmarker
    have hstrip : stripFence? line = some c := by
      rw [honly, (endsInBareRun_append_blank hmarker hblank hgap hn).stripMarker?,
        htrimmed.trimEnd_append hblank]
    refine ⟨hstrip, fun source raw hraw => leavesInPlace_of_spoken ?_ ?_ source⟩
    · rw [hraw, hstrip]
      rfl
    · simpa using hspoken []
  · intro hmarker
    have hstrip : stripFence? line = none := by
      rw [honly, hline]
      exact stripMarker?_of_quoted hbalanced hquoted ((Text.hasInfix_iff _ _).mpr hmarker) _
    have hkept : isSilent line = false := hline ▸ hspoken _
    exact ⟨hstrip, fun source raw hraw => leavesInPlace_of_uncut hstrip hkept hraw source⟩

/-- Backticks behind quoted tildes are cut off, those behind quoted backticks
are not. -/
theorem trailing_run_is_cut_off_calls :
    let tildes := "f(\"~~~\", 'it\\'s')".toList
    let backticks := "f('```')".toList
    let line := tildes ++ " \t".toList ++ List.replicate 4 FenceKind.backtick.char
    stripFence? line = some tildes ∧
      LeavesInPlace (line ++ ['\r']) (line ++ ['\r']) (some tildes) ∧
      stripFence? (backticks ++ [' '] ++ List.replicate 3 FenceKind.backtick.char) = none := by
  intro tildes backticks line
  have hquoted : MarkersQuoted tildes := markersQuoted_of_scan fun kind => by cases kind <;> decide
  have hquoted' : MarkersQuoted backticks :=
    markersQuoted_of_scan fun kind => by cases kind <;> decide
  have hnesting : checkNesting tildes = .ok () := rfl
  have hnesting' : checkNesting backticks = .ok () := rfl
  have htrimmed : Text.trim tildes = tildes := by decide
  have htrimmed' : Text.trim backticks = backticks := by decide
  have hmarker : ¬ FenceKind.backtick.marker <:+: tildes :=
    mt (Text.hasInfix_iff _ _).mpr (by decide)
  have hmarker' : FenceKind.backtick.marker <:+: backticks := (Text.hasInfix_iff _ _).mp (by decide)
  have hraw : Text.trim (line ++ ['\r']) = line := by decide
  obtain ⟨hcut, hleft⟩ := (@trailing_run_is_cut_off tildes " \t".toList .backtick 4 htrimmed
    (by decide) (by decide) hnesting hquoted (by decide) (by decide) (by decide)).1 hmarker
  obtain ⟨hkept, -⟩ := (@trailing_run_is_cut_off backticks [' '] .backtick 3 htrimmed'
    (by decide) (by decide) hnesting' hquoted' (by decide) (by decide) (by decide)).2 hmarker'
  exact ⟨hcut, hleft _ _ hraw, hkept⟩

/-- Code that quotes backticks is not freed of the run behind it. -/
theorem run_behind_quoted_marker_stays :
    let code := "x = \"```\"".toList
    Text.Trimmed code ∧ code ≠ [] ∧ code.head? ≠ some '#' ∧ checkNesting code = .ok () ∧
      MarkersQuoted code ∧ stripFence? (code ++ [' '] ++ FenceKind.backtick.marker) = none ∧
      statementLines (code ++ [' '] ++ FenceKind.backtick.marker) Markdown.events
        = [⟨code ++ [' '] ++ FenceKind.backtick.marker, 0⟩] := by
  intro code
  have htrimmed : Text.trim code = code := by decide
  have hquoted : MarkersQuoted code := markersQuoted_of_scan fun kind => by cases kind <;> decide
  exact ⟨htrimmed, by decide, by decide, rfl, hquoted, by decide, by decide⟩

end PlanScript
