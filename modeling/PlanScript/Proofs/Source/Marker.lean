/-
PlanScript.Proofs.Source.Marker — what a fence marker leaves of its line.

A marker counts where it first stands in a line. At the start it makes the
whole line a fence (`stripMarker?_of_prefix_marker`); as a bare run at the end
it is cut off (`EndsInBareRun.stripMarker?`), and nothing else leaves a text
(`stripMarker?_eq_some_cases`). What a raw line leaves comes out at its place
among the statement lines (`LeavesInPlace`).

The two kinds are tried one after the other, and backticks come first. So the
backticks at the end of a line are cut off even if the line is a fence of
tildes, and these then come out as a statement (`marker_lines_come_out`).
-/
import PlanScript.Proofs.Source.Shift

namespace PlanScript

open Markdown (EventReader)

/-! ## 1. A bare run at the end -/

/-- The line ends in a bare run of three or more characters of a kind, and no
marker of the kind stands further on the left. -/
structure EndsInBareRun (kind : FenceKind) (line before : Text) : Prop where
  run : ∃ n, 3 ≤ n ∧ line = before ++ List.replicate n kind.char
  noMarker : Text.hasInfix kind.marker before = false
  noRun : before.getLast? ≠ some kind.char

theorem not_mem_marker {kind : FenceKind} {c : Char} (h : c ≠ kind.char) : c ∉ kind.marker := by
  simp [FenceKind.marker, h]

/-- The marker is first found where the run starts. -/
theorem EndsInBareRun.breakOn {kind : FenceKind} {line before : Text}
    (h : EndsInBareRun kind line before) :
    ∃ n, Text.breakOn kind.marker line = some (before, List.replicate n kind.char) := by
  obtain ⟨⟨n, hn, rfl⟩, hmarker, hrun⟩ := h
  refine ⟨n, Text.breakOn_eq_some_iff.mpr ⟨rfl, marker_prefix_replicate kind hn, ?_⟩⟩
  intro s rest hsplit hrest
  refine Nat.le_of_not_lt fun hshort => ?_
  obtain ⟨u, hu, hbefore, hfound⟩ := Text.exists_between_cuts hsplit hshort
  -- The last character before the run is no part of a marker.
  obtain ⟨d, hlast⟩ := Option.ne_none_iff_exists'.mp (mt List.getLast?_eq_none_iff.mp hu)
  obtain ⟨v, rfl⟩ := List.getLast?_eq_some_iff.mp hlast
  have hd : d ≠ kind.char := fun heq => hrun (by simp [hbefore, heq])
  rw [hfound, List.append_assoc, List.singleton_append] at hrest
  have hv : kind.marker <+: v := Text.prefix_of_prefix_append_cons (not_mem_marker hd) hrest
  rw [← Bool.not_eq_true, Text.hasInfix_iff, hbefore] at hmarker
  exact hmarker (hv.isInfix.trans ⟨s, [d], by simp⟩)

/-! ## 2. What one kind of marker leaves -/

theorem stripMarker?_of_prefix_marker {kind : FenceKind} {l : Text} (h : kind.marker <+: l) :
    stripMarker? kind l = some [] := by
  rw [stripMarker?, if_pos ((Text.startsWith_iff _ _).mpr h)]

theorem EndsInBareRun.stripMarker? {kind : FenceKind} {line before : Text}
    (h : EndsInBareRun kind line before) :
    PlanScript.stripMarker? kind line = some before.trimEnd := by
  obtain ⟨n, hbreak⟩ := h.breakOn
  by_cases hstart : kind.marker <+: line
  · have hfirst := Text.length_le_of_breakOn hbreak (List.nil_append line).symm hstart
    have hnil : before = [] := List.eq_nil_of_length_eq_zero (Nat.le_zero.mp hfirst)
    rw [stripMarker?_of_prefix_marker hstart, hnil]
    rfl
  · have hnot : Text.startsWith kind.marker line = false := by
      rwa [← Bool.not_eq_true, Text.startsWith_iff]
    have hbare : (List.replicate n kind.char).dropWhile (· = kind.char) = [] := by simp
    simp only [PlanScript.stripMarker?, hnot, hbreak, Option.bind_some, hbare]
    rfl

/-- A first marker with nothing but white space behind its run is a bare run at
the end of a trimmed line. -/
theorem endsInBareRun_of_breakOn {kind : FenceKind} {l before found : Text}
    (hl : Text.Trimmed l) (hbreak : Text.breakOn kind.marker l = some (before, found))
    (hbare : Text.trim (found.dropWhile (· = kind.char)) = []) :
    EndsInBareRun kind l before := by
  obtain ⟨hsplit, hmarker, hfirst⟩ := Text.breakOn_eq_some_iff.mp hbreak
  have hrun : found = List.replicate found.length kind.char := by
    have hcut : found.takeWhile (· = kind.char) ++ found.dropWhile (· = kind.char) = found :=
      List.takeWhile_append_dropWhile
    rw [hsplit, ← hcut, ← List.append_assoc] at hl
    rw [hl.eq_nil_of_append_blank ((Text.trim_eq_nil_iff _).mp hbare), List.append_nil] at hcut
    refine List.eq_replicate_of_mem fun c hc => ?_
    rw [← hcut] at hc
    exact of_decide_eq_true (List.all_eq_true.mp List.all_takeWhile c hc)
  refine ⟨⟨found.length, hmarker.length_le, hrun ▸ hsplit⟩, ?_, ?_⟩
  · rw [← Bool.not_eq_true, Text.hasInfix_iff]
    rintro ⟨s, u, rfl⟩
    have hle := hfirst s (kind.marker ++ u ++ found) (by simp [hsplit]) (by simp)
    simp only [FenceKind.marker, List.length_append, List.length_cons] at hle
    omega
  · intro hlast
    obtain ⟨s, rfl⟩ := List.getLast?_eq_some_iff.mp hlast
    have hlonger : kind.marker <+: kind.char :: found := by
      rw [hrun]
      exact marker_prefix_replicate kind (Nat.le_succ_of_le hmarker.length_le)
    have hle := hfirst s (kind.char :: found) (by simp [hsplit]) hlonger
    rw [List.length_append, List.length_singleton] at hle
    omega

/-- What is left of a trimmed line is nothing, or what stands before a bare
run at its end. -/
theorem stripMarker?_eq_some_cases {kind : FenceKind} {l t : Text} (hl : Text.Trimmed l)
    (h : stripMarker? kind l = some t) :
    t = [] ∨ ∃ before, EndsInBareRun kind l before ∧ t = before.trimEnd := by
  rw [stripMarker?] at h
  split at h
  · cases h
    exact .inl rfl
  · obtain ⟨⟨before, found⟩, hbreak, hinfo⟩ := Option.bind_eq_some_iff.mp h
    simp only at hinfo
    split at hinfo
    · next hbare =>
      cases hinfo
      exact .inr ⟨before, endsInBareRun_of_breakOn hl hbreak (List.isEmpty_iff.mp hbare), rfl⟩
    · split at hinfo
      · cases hinfo
        exact .inl rfl
      · contradiction

theorem prefix_of_stripMarker? {kind : FenceKind} {l t : Text} (hl : Text.Trimmed l)
    (h : stripMarker? kind l = some t) : t <+: l ∧ Text.Trimmed t := by
  rcases stripMarker?_eq_some_cases hl h with rfl | ⟨before, ⟨⟨n, _, hsplit⟩, _, _⟩, rfl⟩
  · exact ⟨List.nil_prefix, Text.trimmed_nil⟩
  · obtain ⟨w, _, hbefore⟩ := Text.exists_eq_trimEnd_append before
    have hstarts : Text.trimEnd before <+: l := by
      refine ⟨w ++ List.replicate n kind.char, ?_⟩
      rw [← List.append_assoc, ← hbefore, ← hsplit]
    exact ⟨hstarts, hl.trimEnd_of_prefix hstarts⟩

/-! ## 3. What is left of a raw line -/

theorem prefix_of_stripFence? {l t : Text} (hl : Text.Trimmed l) (h : stripFence? l = some t) :
    t <+: l ∧ Text.Trimmed t := by
  simp only [stripFence?, Option.orElse_eq_orElse, Option.orElse_eq_or] at h
  rcases Option.or_eq_some_iff.mp h with h | ⟨_, h⟩
  · exact prefix_of_stripMarker? hl h
  · exact prefix_of_stripMarker? hl h

/-- What is left of a trimmed line, a marker or not, is trimmed and starts the
line. -/
theorem prefix_of_getD_stripFence? {l : Text} (hl : Text.Trimmed l) :
    (stripFence? l).getD l <+: l ∧ Text.Trimmed ((stripFence? l).getD l) := by
  cases hstrip : stripFence? l with
  | none => exact ⟨List.prefix_refl _, hl⟩
  | some t => exact prefix_of_stripFence? hl hstrip

theorem Line.ofRaw?_eq_some_iff {offset : Nat} {raw : Text} {line : Line} :
    Line.ofRaw? offset raw = some line ↔ (stripFence? raw.trim).getD raw.trim = line.text ∧
      isSilent line.text = false ∧ line.start = offset + Text.bytes (raw.takeWhile isBlank) := by
  obtain ⟨text, start⟩ := line
  simp only [ofRaw?, Option.ite_none_left_eq_some, Option.some.injEq, Line.mk.injEq,
    Bool.not_eq_true]
  constructor
  · rintro ⟨hspoken, rfl, rfl⟩
    exact ⟨rfl, hspoken, rfl⟩
  · rintro ⟨rfl, hspoken, rfl⟩
    exact ⟨hspoken, rfl, rfl⟩

/-- What a raw line leaves, wherever the region of a source holds it: nothing,
or a text that starts where the raw line does, behind its white space. The
statement lines before and after it are those of the other raw lines. How the
region is found makes no difference. -/
def LeavesInPlace (source raw : Text) (left : Option Text) : Prop :=
  ∀ markdown before after,
    Text.lines (statementRegion source markdown).text = before ++ raw :: after →
    let offset := (statementRegion source markdown).start
    statementLines source markdown = linesFrom offset before
      ++ (left.map (⟨·, offset + Text.bytes (before.flatten ++ raw.takeWhile isBlank)⟩)).toList
      ++ linesFrom (offset + Text.bytes (before.flatten ++ raw)) after

theorem leavesInPlace_of_ofRaw? {raw : Text} {left : Option Text}
    (h : ∀ offset, Line.ofRaw? offset raw
      = left.map (⟨·, offset + Text.bytes (raw.takeWhile isBlank)⟩)) (source : Text) :
    LeavesInPlace source raw left := by
  intro markdown before after hlines
  simp only [statementLines, hlines, linesFrom_append_raws, linesFrom, h, Text.bytes_append,
    Nat.add_assoc, List.append_assoc]

theorem leavesInPlace_of_spoken {raw text : Text}
    (htext : (stripFence? raw.trim).getD raw.trim = text) (hspoken : isSilent text = false)
    (source : Text) : LeavesInPlace source raw (some text) :=
  leavesInPlace_of_ofRaw? (fun _ => Line.ofRaw?_eq_some_iff.mpr ⟨htext, hspoken, rfl⟩) source

theorem leavesInPlace_of_uncut {line raw : Text} (hstrip : stripFence? line = none)
    (hspoken : isSilent line = false) (hraw : raw.trim = line) (source : Text) :
    LeavesInPlace source raw (some line) :=
  leavesInPlace_of_spoken (by rw [hraw, hstrip]; rfl) hspoken source

theorem leavesInPlace_of_silent {raw : Text}
    (h : isSilent ((stripFence? raw.trim).getD raw.trim) = true) (source : Text) :
    LeavesInPlace source raw none :=
  leavesInPlace_of_ofRaw? (fun offset => by rw [Line.ofRaw?, if_pos h]; rfl) source

/-! ## 4. Lines that start with a marker -/

theorem isSilent_of_prefix_marker {kind : FenceKind} {t : Text} (h : kind.marker <+: t) :
    isSilent t = false := by
  obtain ⟨rest, rfl⟩ := h
  cases kind <;> rfl

theorem FenceKind.char_injective {kind other : FenceKind} (h : kind.char = other.char) :
    kind = other := by
  cases kind with
  | backtick =>
    cases other with
    | backtick => rfl
    | tilde => exact absurd h (by decide)
  | tilde =>
    cases other with
    | backtick => exact absurd h (by decide)
    | tilde => rfl

theorem kind_eq_of_prefix_marker {kind other : FenceKind} {t : Text} (h : kind.marker <+: t)
    (hother : other.marker <+: t) : kind = other := by
  obtain ⟨rest, rfl⟩ := h
  exact FenceKind.char_injective (List.cons_prefix_cons.mp hother).1.symm

theorem FenceKind.ne_char_of_isBlank {c : Char} (hc : isBlank c = true) (kind : FenceKind) :
    c ≠ kind.char := by
  rintro rfl
  rw [kind.isBlank_char] at hc
  contradiction

/-- No marker ends in white space. -/
theorem marker_prefix_trimEnd {kind : FenceKind} {t : Text} (h : kind.marker <+: t) :
    kind.marker <+: t.trimEnd := by
  obtain ⟨w, hw, ht⟩ := Text.exists_eq_trimEnd_append t
  cases w with
  | nil =>
    rw [List.append_nil] at ht
    exact ht ▸ h
  | cons d w =>
    have hd := kind.ne_char_of_isBlank ((Text.allBlank_iff _).mp hw d (List.mem_cons_self ..))
    rw [ht] at h
    exact Text.prefix_of_prefix_append_cons (not_mem_marker hd) h

/-- A line that starts with tildes and keeps them: its first backtick marker is
a bare run at its end, and the text is what stands before that run. -/
structure KeepsTildes (line text : Text) : Prop where
  tildes : FenceKind.tilde.marker <+: line
  run : ∃ before, EndsInBareRun .backtick line before ∧ text = before.trimEnd

theorem KeepsTildes.prefix_text {line text : Text} (h : KeepsTildes line text) :
    FenceKind.tilde.marker <+: text := by
  obtain ⟨htildes, before, ⟨⟨n, hn, hline⟩, _, _⟩, rfl⟩ := h
  obtain ⟨m, rfl⟩ : ∃ m, n = m + 1 := ⟨n - 1, by omega⟩
  have hback : FenceKind.backtick.char ∉ FenceKind.tilde.marker := by decide
  rw [hline, List.replicate_succ] at htildes
  exact marker_prefix_trimEnd (Text.prefix_of_prefix_append_cons hback htildes)

theorem getD_stripFence?_of_startsWithMarker {l text : Text} (hl : Text.Trimmed l)
    (hstart : startsWithMarker l = true) (hne : text ≠ []) :
    (stripFence? l).getD l = text ↔ KeepsTildes l text := by
  by_cases hbackticks : FenceKind.backtick.marker <+: l
  · have hdropped : (stripFence? l).getD l = [] := by
      rw [stripFence?, stripMarker?_of_prefix_marker hbackticks]
      rfl
    rw [hdropped]
    refine ⟨fun h => absurd h.symm hne, fun h => ?_⟩
    have hkind := kind_eq_of_prefix_marker hbackticks h.tildes
    contradiction
  · have htildes : FenceKind.tilde.marker <+: l := by
      rw [startsWithMarker, Bool.or_eq_true, Text.startsWith_iff, Text.startsWith_iff] at hstart
      exact hstart.resolve_left hbackticks
    -- The tildes alone drop the line, but they are asked last.
    have hstrip : (stripFence? l).getD l = (stripMarker? .backtick l).getD [] := by
      rw [stripFence?, stripMarker?_of_prefix_marker htildes]
      cases stripMarker? .backtick l <;> rfl
    rw [hstrip]
    constructor
    · intro h
      cases hback : stripMarker? .backtick l with
      | none => exact absurd (by rwa [hback] at h) (Ne.symm hne)
      | some t =>
        obtain rfl : t = text := by rwa [hback] at h
        exact ⟨htildes, (stripMarker?_eq_some_cases hl hback).resolve_left hne⟩
    · rintro ⟨_, before, hrun, rfl⟩
      rw [hrun.stripMarker?]
      rfl

theorem keepsTildes_of_mem_statementLines {source : Text} {markdown : EventReader} {line : Line}
    (hline : line ∈ statementLines source markdown) {kind : FenceKind}
    (hmarker : kind.marker <+: line.text) :
    ∃ raw ∈ Text.lines (statementRegion source markdown).text, kind.marker <+: raw.trim ∧
      KeepsTildes raw.trim line.text := by
  obtain ⟨before, raw, after, hraws, hraw⟩ := (mem_linesFrom_iff _ _ line).mp hline
  obtain ⟨htext, hspoken, _⟩ := Line.ofRaw?_eq_some_iff.mp hraw
  have hprefix : kind.marker <+: raw.trim :=
    hmarker.trans (htext ▸ (prefix_of_getD_stripFence? (Text.trimmed_trim raw)).1)
  have hne : line.text ≠ [] := by
    intro hnil
    rw [hnil] at hspoken
    contradiction
  refine ⟨raw, by simp [hraws], hprefix, ?_⟩
  exact (getD_stripFence?_of_startsWithMarker (Text.trimmed_trim raw)
    (startsWithMarker_of_prefix_marker hprefix) hne).mp htext

/-- What comes out of the lines that start with a marker. A raw line that
starts with one is dropped, whatever follows the marker, unless it starts with
tildes and a bare run of backticks ends it, with no backtick marker before the
run. Then the run alone is cut off, and the rest comes out, tildes and all. No
statement line starts with a marker but these, and none with backticks. -/
theorem marker_lines_come_out (source : Text) (markdown : EventReader) :
    (∀ line ∈ statementLines source markdown, ¬ FenceKind.backtick.marker <+: line.text) ∧
    (∀ line ∈ statementLines source markdown, FenceKind.tilde.marker <+: line.text →
      ∃ raw ∈ Text.lines (statementRegion source markdown).text, KeepsTildes raw.trim line.text) ∧
    ∀ raw, startsWithMarker raw.trim = true →
      (∀ text, KeepsTildes raw.trim text →
        LeavesInPlace source raw (some text) ∧ FenceKind.tilde.marker <+: text) ∧
      ((∀ text, ¬ KeepsTildes raw.trim text) → LeavesInPlace source raw none) := by
  refine ⟨fun line hline hmarker => ?_, fun line hline hmarker => ?_, fun raw hstart => ?_⟩
  · obtain ⟨raw, _, hprefix, hkeeps⟩ := keepsTildes_of_mem_statementLines hline hmarker
    have hkind := kind_eq_of_prefix_marker hprefix hkeeps.tildes
    contradiction
  · obtain ⟨raw, hraw, _, hkeeps⟩ := keepsTildes_of_mem_statementLines hline hmarker
    exact ⟨raw, hraw, hkeeps⟩
  · have hleft := fun {text : Text} (hne : text ≠ []) =>
      getD_stripFence?_of_startsWithMarker (Text.trimmed_trim raw) hstart hne
    constructor
    · intro text hkeeps
      have hmarker := hkeeps.prefix_text
      have hne : text ≠ [] := by
        rintro rfl
        exact absurd (List.prefix_nil.mp hmarker) (List.cons_ne_nil _ _)
      exact ⟨leavesInPlace_of_spoken ((hleft hne).mpr hkeeps) (isSilent_of_prefix_marker hmarker)
        source, hmarker⟩
    · intro hnone
      refine leavesInPlace_of_silent ?_ source
      by_cases hnil : (stripFence? raw.trim).getD raw.trim = []
      · rw [hnil]
        rfl
      · exact absurd ((hleft hnil).mp rfl) (hnone _)

/-- Of two lines of tildes, one ends in a run of backticks and comes out. The
other one is dropped. -/
theorem marker_lines_come_out_tildes :
    let source := "~~~ a ```\n~~~ b\nx = 1".toList
    (∃ raw ∈ Text.lines (statementRegion source Markdown.events).text,
      KeepsTildes raw.trim "~~~ a".toList) ∧
    LeavesInPlace source "~~~ a ```\n".toList (some "~~~ a".toList) ∧
    LeavesInPlace source "~~~ b\n".toList none := by
  intro source
  obtain ⟨-, htildes, hmarker⟩ := marker_lines_come_out source Markdown.events
  have hkeeps : KeepsTildes (Text.trim "~~~ a ```\n".toList) "~~~ a".toList :=
    ⟨by decide, "~~~ a ".toList, ⟨⟨3, Nat.le_refl 3, by decide⟩, by decide, by decide⟩, by decide⟩
  have hdropped : ∀ text, ¬ KeepsTildes (Text.trim "~~~ b\n".toList) text := by
    rintro text ⟨_, before, ⟨⟨n, hn, hline⟩, _, _⟩, _⟩
    have hmem : FenceKind.backtick.char ∈ Text.trim "~~~ b\n".toList := by
      rw [hline]
      exact List.mem_append_right _ (List.mem_replicate.mpr ⟨by omega, rfl⟩)
    exact absurd hmem (by decide)
  exact ⟨htildes ⟨"~~~ a".toList, 0⟩ (by decide) (by decide),
    ((hmarker _ (by decide)).1 _ hkeeps).1, (hmarker _ (by decide)).2 hdropped⟩

/-- A line that starts with tildes reaches the statements. -/
theorem tildes_before_backticks_come_out :
    startsWithMarker "~~~ x ```".toList = true ∧
    statementLines "~~~ x ```".toList Markdown.events = [⟨"~~~ x".toList, 0⟩] ∧
    startsWithMarker "~~~ x".toList = true := by
  decide

end PlanScript
