/-
PlanScript.Proofs.Source.Shift — the lines of a text that stands further on
in a source.

The statement lines of a text are read off line by line
(`linesFrom_of_last`, `linesFrom_append_lineFeed`), each on its own: neither
the line feed after it nor the other lines make a difference to it, and white
space at either end of a text has no lines (`linesFrom_blank_append`,
`linesFrom_append_blank`). So they are the same wherever the text stands, but
for their offsets (`linesFrom_shift`), a statement line is what some raw line
holds at its place (`mem_linesFrom_iff`), and sources without a marker can be
put together line by line (`statementLines_append`).
-/
import PlanScript.Proofs.Source.Lines

namespace PlanScript

open Markdown (EventReader)

/-! ## 1. One line -/

/-- The line, in a text that has some more bytes in front of it. -/
def Line.shift (bytes : Nat) (line : Line) : Line := { line with start := line.start + bytes }

@[simp] theorem Line.text_shift (bytes : Nat) (line : Line) : (line.shift bytes).text = line.text :=
  rfl

theorem stripFence?_nil : stripFence? [] = none := rfl

theorem Line.ofRaw?_of_allBlank {raw : Text} (h : raw.allBlank = true) (offset : Nat) :
    Line.ofRaw? offset raw = none := by
  rw [Line.ofRaw?, (Text.trim_eq_nil_iff raw).mpr h, stripFence?_nil]
  rfl

/-- White space after a line says nothing. -/
theorem Line.ofRaw?_append_blank (raw : Text) {w : Text} (hw : w.allBlank = true) (offset : Nat) :
    Line.ofRaw? offset (raw ++ w) = Line.ofRaw? offset raw := by
  by_cases hraw : raw.allBlank = true
  · have hboth : Text.allBlank (raw ++ w) = true := Text.allBlank_append_iff.mpr ⟨hraw, hw⟩
    rw [ofRaw?_of_allBlank hraw, ofRaw?_of_allBlank hboth]
  · have htrim : Text.trim (raw ++ w) = Text.trim raw := by
      simpa using Text.trim_append_blanks Text.allBlank_nil hw raw
    -- The white space in front ends inside the line, since the line is not blank.
    have hfront : (raw ++ w).takeWhile isBlank = raw.takeWhile isBlank := by
      rw [List.takeWhile_append, if_neg]
      intro hlength
      apply hraw
      rw [← (List.takeWhile_prefix isBlank).eq_of_length hlength]
      exact List.all_takeWhile
    rw [ofRaw?, ofRaw?, htrim, hfront]

/-- White space in front of a line moves it. -/
theorem Line.ofRaw?_blank_append {w : Text} (hw : w.allBlank = true) (raw : Text) (offset : Nat) :
    Line.ofRaw? offset (w ++ raw) = Line.ofRaw? (offset + w.bytes) raw := by
  have htrim : Text.trim (w ++ raw) = Text.trim raw := by
    simpa using Text.trim_append_blanks hw Text.allBlank_nil raw
  have hfront : (w ++ raw).takeWhile isBlank = w ++ raw.takeWhile isBlank :=
    List.takeWhile_append_of_pos (List.all_eq_true.mp hw)
  rw [ofRaw?, ofRaw?, htrim, hfront, Text.bytes_append, Nat.add_assoc]

theorem Line.ofRaw?_shift (offset bytes : Nat) (raw : Text) :
    Line.ofRaw? (offset + bytes) raw = (Line.ofRaw? offset raw).map (Line.shift bytes) := by
  simp only [ofRaw?]
  split
  · rfl
  · rw [Option.map_some, shift, Nat.add_right_comm]

/-! ## 2. Line by line -/

theorem allBlank_append_lineFeed_iff {l rest : Text} :
    Text.allBlank (l ++ '\n' :: rest) = true ↔ l.allBlank = true ∧ rest.allBlank = true := by
  rw [Text.allBlank_append_iff]
  rfl

theorem linesFrom_of_last {l : Text} (hl : '\n' ∉ l) (offset : Nat) :
    linesFrom offset (Text.lines l) = (Line.ofRaw? offset l).toList := by
  by_cases hnil : l = []
  · rw [hnil, Line.ofRaw?_of_allBlank Text.allBlank_nil]
    rfl
  · rw [Text.lines_of_no_lineFeed hl hnil, linesFrom, linesFrom, List.append_nil]

theorem linesFrom_append_lineFeed {l : Text} (hl : '\n' ∉ l) (rest : Text) (offset : Nat) :
    linesFrom offset (Text.lines (l ++ '\n' :: rest))
      = (Line.ofRaw? offset l).toList ++ linesFrom (offset + (l.bytes + 1)) (Text.lines rest) := by
  rw [Text.lines_append_lineFeed hl, linesFrom, Line.ofRaw?_append_blank l rfl, Text.bytes_append]
  rfl

/-- A text may be cut at any line feed. -/
theorem linesFrom_append (a b : Text) (offset : Nat) :
    linesFrom offset (Text.lines (a ++ '\n' :: b))
      = linesFrom offset (Text.lines a) ++ linesFrom (offset + (a.bytes + 1)) (Text.lines b) := by
  induction a using Text.line_induction generalizing offset with
  | last l hl => rw [linesFrom_append_lineFeed hl, linesFrom_of_last hl]
  | cons l rest hl ih =>
    have hbytes : offset + (l.bytes + 1) + (rest.bytes + 1)
        = offset + (Text.bytes (l ++ '\n' :: rest) + 1) := by
      have hfeed : Char.utf8Size '\n' = 1 := rfl
      rw [Text.bytes_append, Text.bytes_cons, hfeed]
      omega
    rw [List.append_assoc, List.cons_append, linesFrom_append_lineFeed hl,
      linesFrom_append_lineFeed hl, ih, hbytes, List.append_assoc]

theorem linesFrom_of_allBlank {w : Text} (hw : w.allBlank = true) (offset : Nat) :
    linesFrom offset (Text.lines w) = [] := by
  induction w using Text.line_induction generalizing offset with
  | last l hl => rw [linesFrom_of_last hl, Line.ofRaw?_of_allBlank hw, Option.toList_none]
  | cons l rest hl ih =>
    obtain ⟨hl', hrest⟩ := allBlank_append_lineFeed_iff.mp hw
    rw [linesFrom_append_lineFeed hl, Line.ofRaw?_of_allBlank hl', ih hrest, Option.toList_none,
      List.append_nil]

/-- White space in front of a text moves its lines. -/
theorem linesFrom_blank_append {w : Text} (hw : w.allBlank = true) (t : Text) (offset : Nat) :
    linesFrom offset (Text.lines (w ++ t)) = linesFrom (offset + w.bytes) (Text.lines t) := by
  induction w using Text.line_induction generalizing offset with
  | last w hno =>
    cases t using Text.line_induction with
    | last _ hl =>
      have hboth : '\n' ∉ w ++ t := by simp [hno, hl]
      rw [linesFrom_of_last hboth, linesFrom_of_last hl, Line.ofRaw?_blank_append hw]
    | cons l rest hl =>
      have hboth : '\n' ∉ w ++ l := by simp [hno, hl]
      rw [← List.append_assoc, linesFrom_append_lineFeed hboth, linesFrom_append_lineFeed hl,
        Line.ofRaw?_blank_append hw, Text.bytes_append, Nat.add_assoc, Nat.add_assoc]
  | cons l rest hl ih =>
    obtain ⟨hl', hrest⟩ := allBlank_append_lineFeed_iff.mp hw
    have hbytes : offset + (l.bytes + 1) + rest.bytes
        = offset + Text.bytes (l ++ '\n' :: rest) := by
      have hfeed : Char.utf8Size '\n' = 1 := rfl
      rw [Text.bytes_append, Text.bytes_cons, hfeed]
      omega
    rw [List.append_assoc, List.cons_append, linesFrom_append_lineFeed hl,
      Line.ofRaw?_of_allBlank hl', ih hrest, hbytes, Option.toList_none, List.nil_append]

/-- White space behind a text has no lines. -/
theorem linesFrom_append_blank (t : Text) {w : Text} (hw : w.allBlank = true) (offset : Nat) :
    linesFrom offset (Text.lines (t ++ w)) = linesFrom offset (Text.lines t) := by
  induction t using Text.line_induction generalizing offset with
  | last l hl =>
    cases w using Text.line_induction with
    | last _ hno =>
      have hboth : '\n' ∉ l ++ w := by simp [hl, hno]
      rw [linesFrom_of_last hboth, linesFrom_of_last hl, Line.ofRaw?_append_blank l hw]
    | cons w rest hno =>
      obtain ⟨hw', hrest⟩ := allBlank_append_lineFeed_iff.mp hw
      have hboth : '\n' ∉ l ++ w := by simp [hl, hno]
      rw [← List.append_assoc, linesFrom_append_lineFeed hboth, linesFrom_of_last hl,
        Line.ofRaw?_append_blank l hw', linesFrom_of_allBlank hrest, List.append_nil]
  | cons l rest hl ih =>
    rw [List.append_assoc, List.cons_append, linesFrom_append_lineFeed hl,
      linesFrom_append_lineFeed hl, ih]

/-- The lines of a text do not depend on what stands in front of it, but for
their offsets. -/
theorem linesFrom_shift (raws : List Text) (offset bytes : Nat) :
    linesFrom (offset + bytes) raws = (linesFrom offset raws).map (Line.shift bytes) := by
  induction raws generalizing offset with
  | nil => rfl
  | cons raw raws ih =>
    rw [linesFrom, linesFrom, Line.ofRaw?_shift, Nat.add_right_comm, ih, List.map_append]
    cases Line.ofRaw? offset raw with
    | none => rfl
    | some line => rfl

/-! ## 3. A raw line and its place -/

/-- The lines after some others have these in front of them. -/
theorem linesFrom_append_raws (offset : Nat) (before after : List Text) :
    linesFrom offset (before ++ after)
      = linesFrom offset before ++ linesFrom (offset + Text.bytes before.flatten) after := by
  induction before generalizing offset with
  | nil => rfl
  | cons raw before ih =>
    rw [List.cons_append, linesFrom, linesFrom, ih, List.append_assoc, List.flatten_cons,
      Text.bytes_append, Nat.add_assoc]

theorem mem_linesFrom_iff (offset : Nat) (raws : List Text) (line : Line) :
    line ∈ linesFrom offset raws ↔ ∃ before raw after, raws = before ++ raw :: after ∧
      Line.ofRaw? (offset + Text.bytes before.flatten) raw = some line := by
  constructor
  · induction raws generalizing offset with
    | nil => intro h; contradiction
    | cons raw raws ih =>
      intro h
      rw [linesFrom, List.mem_append, Option.mem_toList] at h
      rcases h with h | h
      · exact ⟨[], raw, raws, rfl, h⟩
      · obtain ⟨before, found, after, rfl, hfound⟩ := ih _ h
        refine ⟨raw :: before, found, after, rfl, ?_⟩
        rwa [List.flatten_cons, Text.bytes_append, ← Nat.add_assoc]
  · rintro ⟨before, raw, after, rfl, hraw⟩
    rw [linesFrom_append_raws, linesFrom, hraw]
    simp

/-! ## 4. Sources without a marker -/

theorem hasMarker_append_lineFeed {a b : Text} (ha : hasMarker a = false)
    (hb : hasMarker b = false) : hasMarker (a ++ '\n' :: b) = false := by
  have hjoin := @hasMarker_join [a, b] (by simp [ha, hb])
  simpa [Text.join] using hjoin

theorem statementLines_of_no_marker {source : Text} (h : hasMarker source = false)
    (markdown : EventReader) :
    statementLines source markdown = linesFrom 0 (Text.lines source) := by
  rw [statementLines, statementRegion_of_no_marker h]

/-- The statement lines of two sources, one after the other. -/
theorem statementLines_append {a b : Text} (ha : hasMarker a = false) (hb : hasMarker b = false)
    (markdown : EventReader) :
    statementLines (a ++ '\n' :: b) markdown
      = statementLines a markdown
        ++ (statementLines b markdown).map (Line.shift (a.bytes + 1)) := by
  rw [statementLines_of_no_marker (hasMarker_append_lineFeed ha hb),
    statementLines_of_no_marker ha, statementLines_of_no_marker hb, linesFrom_append,
    linesFrom_shift]

end PlanScript
