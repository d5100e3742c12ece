/-
PlanScript.Proofs.Plan.Span — the span of a line in its source.

A line keeps the byte offset of its text, and `Text.slice?` reads a text back
from two byte offsets. Whatever has been dropped from a line, what is left is
a stretch of it (`stands_of_ofRaw?`), the lines follow one another with a line
feed between them (`pairwise_linesFrom`), and they are the lines of a stretch
of the source (`exists_statementLines_eq`). So the span of a line, and of the
line an error names, selects its text and nothing else (`spans_select_lines`).
-/
import PlanScript.Proofs.Plan.Run
import PlanScript.Proofs.Source.Marker
import PlanScript.Proofs.Source.Region
import PlanScript.Proofs.Text.Slice

namespace PlanScript

open Markdown (EventReader)

/-! ## 1. What is left of a line -/

/-- What a statement line holds. -/
structure IsStatementText (t : Text) : Prop where
  ne_nil : t ≠ []
  trimmed : Text.Trimmed t
  noLineFeed : '\n' ∉ t
  noComment : t.head? ≠ some '#'

/-- What is left of a line stands in it, behind the white space that it starts
with. -/
theorem stands_of_ofRaw? {offset : Nat} {raw : Text} {line : Line} (hraw : '\n' ∉ raw)
    (h : Line.ofRaw? offset raw = some line) :
    IsStatementText line.text ∧ ∃ before after, raw = before ++ line.text ++ after ∧
      line.start = offset + Text.bytes before := by
  obtain ⟨htext, hspoken, hstart⟩ := Line.ofRaw?_eq_some_iff.mp h
  obtain ⟨⟨rest, hrest⟩, htrimmed⟩ := prefix_of_getD_stripFence? (Text.trimmed_trim raw)
  rw [htext] at hrest htrimmed
  have hpart : line.text <:+: raw :=
    (List.prefix_append line.text rest).isInfix.trans (hrest ▸ Text.trim_infix raw)
  rw [isSilent, Bool.or_eq_false_iff, List.isEmpty_eq_false_iff, decide_eq_false_iff_not] at hspoken
  refine ⟨⟨hspoken.1, htrimmed, fun hfeed => hraw (hpart.subset hfeed), hspoken.2⟩, ?_⟩
  obtain ⟨w, _, hend⟩ := Text.exists_eq_trimEnd_append raw.trimStart
  refine ⟨raw.takeWhile isBlank, rest ++ w, ?_, hstart⟩
  calc raw = raw.takeWhile isBlank ++ raw.trimStart := (Text.takeWhile_append_trimStart raw).symm
    _ = raw.takeWhile isBlank ++ (raw.trim ++ w) := by rw [Text.trim, ← hend]
    _ = raw.takeWhile isBlank ++ line.text ++ (rest ++ w) := by simp [← hrest]

/-! ## 2. The lines of a text -/

/-- A statement line stands in the text that it is read off. -/
theorem stands_of_mem_linesFrom (t : Text) (offset : Nat) :
    ∀ line ∈ linesFrom offset (Text.lines t), IsStatementText line.text ∧
      ∃ before after, t = before ++ line.text ++ after ∧
        line.start = offset + Text.bytes before := by
  induction t using Text.line_induction generalizing offset with
  | last l hl =>
    intro line hline
    rw [linesFrom_of_last hl, Option.mem_toList] at hline
    exact stands_of_ofRaw? hl hline
  | cons l rest hl ih =>
    intro line hline
    rw [linesFrom_append_lineFeed hl, List.mem_append, Option.mem_toList] at hline
    rcases hline with hline | hline
    · obtain ⟨htext, before, after, hsplit, hstart⟩ := stands_of_ofRaw? hl hline
      exact ⟨htext, before, after ++ '\n' :: rest, by simp [hsplit], hstart⟩
    · obtain ⟨htext, before, after, hsplit, hstart⟩ := ih _ line hline
      refine ⟨htext, l ++ '\n' :: before, after, by simp [hsplit], ?_⟩
      have hfeed : Char.utf8Size '\n' = 1 := rfl
      rw [hstart, Text.bytes_append, Text.bytes_cons, hfeed]
      omega

/-- The second line comes after the first one, with a line feed between their
texts. -/
def ComeApart (t : Text) (offset : Nat) (l m : Line) : Prop :=
  ∃ before gap after, t = before ++ l.text ++ gap ++ m.text ++ after ∧
    l.start = offset + Text.bytes before ∧
    m.start = offset + Text.bytes (before ++ l.text ++ gap) ∧ '\n' ∈ gap

theorem pairwise_linesFrom (t : Text) (offset : Nat) :
    (linesFrom offset (Text.lines t)).Pairwise (ComeApart t offset) := by
  have hfeed : Char.utf8Size '\n' = 1 := rfl
  induction t using Text.line_induction generalizing offset with
  | last l hl =>
    rw [linesFrom_of_last hl]
    cases Line.ofRaw? offset l with
    | none => exact .nil
    | some line => exact List.pairwise_singleton _ line
  | cons l rest hl ih =>
    rw [linesFrom_append_lineFeed hl, List.pairwise_append]
    refine ⟨?_, (ih _).imp ?_, ?_⟩
    · cases Line.ofRaw? offset l with
      | none => exact .nil
      | some line => exact List.pairwise_singleton _ line
    · rintro x y ⟨before, gap, after, hsplit, hx, hy, hgap⟩
      refine ⟨l ++ '\n' :: before, gap, after, by simp [hsplit], ?_, ?_, hgap⟩
      · rw [hx, Text.bytes_append, Text.bytes_cons, hfeed]
        omega
      · rw [hy]
        simp only [Text.bytes_append, Text.bytes_cons, hfeed]
        omega
    · intro x hx y hy
      rw [Option.mem_toList] at hx
      obtain ⟨_, before, after, hl', hstart⟩ := stands_of_ofRaw? hl hx
      obtain ⟨_, before', after', hrest, hstart'⟩ := stands_of_mem_linesFrom rest _ y hy
      refine ⟨before, after ++ '\n' :: before', after', by simp [hl', hrest], hstart, ?_,
        by simp⟩
      rw [hstart', hl']
      simp only [Text.bytes_append, Text.bytes_cons, hfeed]
      omega

/-! ## 3. The lines of a source -/

/-- The span of a line in a stretch of a source selects its text. -/
theorem slice?_of_stands {source outside t beyond before after : Text} {line : Line}
    (hsource : source = outside ++ t ++ beyond) (ht : t = before ++ line.text ++ after)
    (hstart : line.start = Text.bytes outside + Text.bytes before) :
    Text.slice? line.start line.stop source = some line.text := by
  refine Text.slice?_eq_some_iff.mpr ⟨outside ++ before, after ++ beyond, ?_, ?_, rfl⟩
  · rw [hsource, ht]
    simp
  · rw [hstart, Text.bytes_append]

/-- A line feed stands between the spans of lines that come apart. -/
theorem ComeApart.exists_gap {source outside t beyond : Text} {l m : Line}
    (hsource : source = outside ++ t ++ beyond) (h : ComeApart t (Text.bytes outside) l m) :
    l.stop < m.start ∧ ∃ gap, Text.slice? l.stop m.start source = some gap ∧ '\n' ∈ gap := by
  obtain ⟨before, gap, after, ht, hl, hm, hfeed⟩ := h
  have hpos : 0 < Text.bytes gap := by
    cases gap with
    | nil => contradiction
    | cons c gap =>
      have hc := c.utf8Size_pos
      rw [Text.bytes_cons]
      omega
  have hstop : l.stop = Text.bytes (outside ++ before ++ l.text) := by
    simp only [Line.stop, hl, Text.bytes_append]
  have hnext : m.start = l.stop + Text.bytes gap := by
    simp only [hstop, hm, Text.bytes_append]
    omega
  refine ⟨by omega, gap, Text.slice?_eq_some_iff.mpr
    ⟨outside ++ before ++ l.text, m.text ++ after ++ beyond, ?_, hstop.symm, hnext.symm⟩, hfeed⟩
  rw [hsource, ht]
  simp

/-- The span of every statement line selects its text, which is a statement
text: not empty, trimmed, on one line and no comment. The spans follow one
another in different lines of the source. So an error names the span of one of
the lines, and the span selects the line that the error shows. All this holds
whatever a Markdown reader makes of the source: a range that the source does
not have selects nothing, and then there are no lines. -/
theorem spans_select_lines (source : Text) (markdown : EventReader) :
    (∀ line ∈ statementLines source markdown,
      Text.slice? line.start line.stop source = some line.text ∧ IsStatementText line.text) ∧
    (statementLines source markdown).Pairwise (fun l m => l.stop < m.start ∧
      ∃ gap, Text.slice? l.stop m.start source = some gap ∧ '\n' ∈ gap) ∧
    ∀ options fileId e, parse options fileId source markdown = .error e →
      e.line ∈ statementLines source markdown ∧
        Text.slice? e.line.start e.line.stop source = some e.line.text := by
  obtain ⟨outside, t, beyond, hsource, hread⟩ := exists_statementLines_eq source markdown
  have hlines : ∀ line ∈ statementLines source markdown,
      Text.slice? line.start line.stop source = some line.text ∧ IsStatementText line.text := by
    intro line hline
    rw [hread] at hline
    obtain ⟨htext, before, after, ht, hstart⟩ := stands_of_mem_linesFrom t _ line hline
    exact ⟨slice?_of_stands hsource ht hstart, htext⟩
  refine ⟨hlines, ?_, ?_⟩
  · rw [hread]
    exact (pairwise_linesFrom t _).imp fun happart => happart.exists_gap hsource
  · intro options fileId e herror
    obtain ⟨line, hline, rfl, _⟩ := fault_of_parse herror
    exact ⟨hline, (hlines _ hline).1⟩

end PlanScript
