/-
PlanScript.Proofs.Plan.Leading — a plan in a fenced block, with prose after
it.

A `LeadingBlock` starts its source and is closed by its own fence. Of the
Markdown reader it is asked that it reports the block first, whatever comes
after it, and that the texts cover the contents but for white space at their
ends (`LeadingBlock.IsFoundBy`). Then the contents hold the statements: the
statement lines are those of the contents, moved behind the row with the fence
(`statementLines_source`). What comes after the block has no part in that:
`parse_leadingBlock` gives the result from the contents alone.

The reader of this library is one that finds every such block
(`isFoundBy_events`).
-/
import PlanScript.Proofs.Markdown.Leading
import PlanScript.Proofs.Plan.Append
import PlanScript.Proofs.Source.Region

namespace PlanScript

open Markdown (EventReader Span Stretch FencedBlock Reports)

/-! ## 1. Rows that are a fence -/

theorem FenceKind.isFenceChar_char (kind : FenceKind) : Markdown.IsFenceChar kind.char := by
  cases kind with
  | backtick => exact .inl rfl
  | tilde => exact .inr rfl

/-- A text that ends with a row that is a fence looks closed. -/
theorem looksClosed_append_fence (kind : FenceKind) {length : Nat} (hlength : 3 ≤ length)
    (t : Text) : looksClosed (t ++ '\n' :: List.replicate length kind.char) = true := by
  have hfeed : '\n' ∉ List.replicate length kind.char := by
    intro hmem
    exact kind.isFenceChar_char.ne (by decide) (List.eq_of_mem_replicate hmem).symm
  have hend : Text.trimEnd (t ++ '\n' :: List.replicate length kind.char)
      = t ++ '\n' :: List.replicate length kind.char := by
    refine Text.trimEnd_eq_self fun c hc => ?_
    rw [List.getLast?_append, List.getLast?_cons, List.getLast?_replicate, if_neg (by omega)] at hc
    obtain rfl := Option.some.inj hc
    exact kind.isBlank_char
  have hstart : Text.trimStart (List.replicate length kind.char)
      = List.replicate length kind.char := by
    refine Text.trimStart_eq_self fun c hc => ?_
    obtain rfl := List.eq_of_mem_replicate (List.mem_of_mem_head? hc)
    exact kind.isBlank_char
  have hlast : startsWithMarker (List.replicate length kind.char) = true :=
    startsWithMarker_of_prefix_marker (marker_prefix_replicate kind hlength)
  simp only [looksClosed, hend, lastLine_append_lineFeed, lastLine_of_no_lineFeed hfeed, hstart,
    hlast]
  simp

theorem looksClosed_append_blank (t : Text) {w : Text} (hw : w.allBlank = true) :
    looksClosed (t ++ w) = looksClosed t := by
  rw [looksClosed, looksClosed, Text.trimEnd_append_blank t hw]

/-! ## 2. The first block -/

/-- A fenced block that starts its source and is closed by its own fence. Its
contents say something and have no marker. -/
structure LeadingBlock where
  kind : FenceKind
  /-- The length of the opening fence. -/
  opening : Nat
  info : Text
  contents : Text
  /-- The length of the closing fence. -/
  closing : Nat
  three_le_opening : 3 ≤ opening
  opening_le_closing : opening ≤ closing
  info_row : ∀ c ∈ info, c ≠ '\n' ∧ c ≠ '\r' ∧ c ≠ '\x60'
  info_head : info.head? ≠ some kind.char
  not_blank : contents.allBlank = false
  no_marker : hasMarker contents = false

namespace LeadingBlock

/-- The row with the opening fence. -/
def row (b : LeadingBlock) : Text := List.replicate b.opening b.kind.char ++ b.info

/-- The source that starts with the block and goes on with some text in the
next row. -/
def source (b : LeadingBlock) (rest : Text) : Text :=
  b.row ++ '\n' :: (b.contents ++ '\n' :: (List.replicate b.closing b.kind.char ++ '\n' :: rest))

/-- The block starts the source and ends with its closing fence, or with white
space behind that. -/
def IsCovered (b : LeadingBlock) (rest : Text) (block : FencedBlock) : Prop :=
  ∃ after more : Text, '\n' :: rest = after ++ more ∧ after.allBlank = true ∧ block.start = 0 ∧
    block.source
      = b.row ++ '\n' :: (b.contents ++ '\n' :: List.replicate b.closing b.kind.char) ++ after

/-- The body of the block is the contents and the line feed behind them, but
for white space at either end. -/
def IsBody (b : LeadingBlock) (block : FencedBlock) : Prop :=
  ∃ lead body trail : Text, b.contents ++ ['\n'] = lead ++ body ++ trail ∧
    lead.allBlank = true ∧ trail.allBlank = true ∧
    block.body = some ⟨Text.bytes (b.row ++ '\n' :: lead), body⟩

/-- The reader reports the block first, whatever comes after it. -/
def IsFoundBy (b : LeadingBlock) (markdown : EventReader) : Prop :=
  ∀ rest, ∃ block later, Reports (markdown (b.source rest)) (block :: later) ∧
    b.IsCovered rest block ∧ b.IsBody block

theorem hasMarker_source (b : LeadingBlock) (rest : Text) : hasMarker (b.source rest) = true := by
  have hmarker : b.kind.marker <+: b.source rest := by
    refine (marker_prefix_replicate b.kind b.three_le_opening).trans ?_
    rw [source, row, List.append_assoc]
    exact List.prefix_append _ _
  exact hasMarker_of_prefix_marker hmarker

/-- The body that is reported is the one that holds the statements. -/
theorem statementBody?_of_isBody {b : LeadingBlock} {rest lead body trail : Text}
    {block : FencedBlock} (hcovered : b.IsCovered rest block)
    (hcontents : b.contents ++ ['\n'] = lead ++ body ++ trail) (hlead : lead.allBlank = true)
    (htrail : trail.allBlank = true) {start : Nat}
    (hstart : start = Text.bytes (b.row ++ '\n' :: lead)) :
    let range : Span := ⟨start, start + body.bytes⟩
    range.text (b.source rest) = body ∧
      statementBody? (b.source rest) (some range) block.range = some range := by
  obtain ⟨after, more, hrest, hafter, hzero, hsource⟩ := hcovered
  have hwhole : b.source rest = b.row ++ '\n' :: (b.contents ++ ['\n'])
      ++ List.replicate b.closing b.kind.char ++ '\n' :: rest := by
    simp [source]
  have hbody : Span.text ⟨start, start + body.bytes⟩ (b.source rest) = body := by
    refine Span.text_of_slice? (Text.slice?_eq_some_iff.mpr ⟨b.row ++ '\n' :: lead,
      trail ++ List.replicate b.closing b.kind.char ++ '\n' :: rest, ?_, hstart.symm, rfl⟩)
    rw [hwhole, hcontents]
    simp
  have hblock : block.range.text (b.source rest) = block.source := by
    refine Span.text_of_slice? (Text.slice?_eq_some_iff.mpr ⟨[], more, ?_, hzero.symm, rfl⟩)
    rw [hsource, List.nil_append, List.append_assoc, ← hrest]
    simp [source]
  have hfilled : body.allBlank = false := by
    refine Bool.eq_false_iff.mpr fun hblank => Bool.eq_false_iff.mp b.not_blank ?_
    have hall : Text.allBlank (b.contents ++ ['\n']) = true := by
      rw [hcontents]
      exact Text.allBlank_append_iff.mpr ⟨Text.allBlank_append_iff.mpr ⟨hlead, hblank⟩, htrail⟩
    exact (Text.allBlank_append_iff.mp hall).1
  have hclosed : looksClosed block.source = true := by
    rw [hsource, looksClosed_append_blank _ hafter]
    have hends := looksClosed_append_fence b.kind
      (Nat.le_trans b.three_le_opening b.opening_le_closing) (b.row ++ '\n' :: b.contents)
    rwa [List.append_assoc] at hends
  refine ⟨hbody, ?_⟩
  rw [statementBody?, Option.filter_some, hbody, hblock, hfilled, hclosed]
  rfl

/-- The statement lines are those of the contents, behind the opening fence. -/
theorem statementLines_source {b : LeadingBlock} {markdown : EventReader}
    (hfound : b.IsFoundBy markdown) (rest : Text) :
    statementLines (b.source rest) markdown
      = (statementLines b.contents markdown).map (Line.shift (Text.bytes (b.row ++ ['\n']))) := by
  obtain ⟨block, later, hreports, hcovered, lead, body, trail, hcontents, hlead, htrail, hbody⟩ :=
    hfound rest
  obtain ⟨htext, hchosen⟩ := statementBody?_of_isBody hcovered hcontents hlead htrail rfl
  have hregion : statementRegion (b.source rest) markdown
      = ⟨Text.bytes (b.row ++ '\n' :: lead), body⟩ := by
    rw [statementRegion, statementRange, if_pos (b.hasMarker_source rest),
      regionFrom_of_reports hreports, List.findSome?_cons, hbody]
    simp only [Option.map_some, Stretch.range, hchosen, Option.getD_some, htext]
  have hoffset : Text.bytes (b.row ++ '\n' :: lead)
      = Text.bytes (b.row ++ ['\n']) + lead.bytes := by
    rw [← Text.bytes_append, List.append_assoc]
    rfl
  -- White space at the ends of the contents has no lines, so all of them may be read.
  rw [statementLines, hregion, statementLines_of_no_marker b.no_marker, hoffset,
    ← linesFrom_blank_append hlead, ← linesFrom_append_blank _ htrail, ← hcontents,
    linesFrom_append, ← linesFrom_shift, Nat.zero_add]
  exact List.append_nil _

end LeadingBlock

/-! ## 3. The reader of this library -/

/-- No line without a marker closes a fence. -/
theorem closedBy_eq_false {kind : FenceKind} {length : Nat} (hlength : 3 ≤ length) {t : Text}
    (ht : hasMarker t = false) :
    (⟨kind.char, length⟩ : Markdown.FenceRun).closedBy t = false := by
  refine Bool.eq_false_iff.mpr fun hcloses => ?_
  simp only [Markdown.FenceRun.closedBy, Bool.and_eq_true, decide_eq_true_eq] at hcloses
  have hmarker : kind.marker <+: t :=
    (marker_prefix_replicate kind (Nat.le_trans hlength hcloses.1)).trans
      ⟨_, Markdown.replicate_append_drop kind.char t⟩
  rw [hasMarker_of_prefix_marker hmarker] at ht
  contradiction

namespace LeadingBlock

theorem row_noLineEnding (b : LeadingBlock) : ∀ c ∈ b.row, c ≠ '\n' ∧ c ≠ '\r' := by
  intro c hc
  rcases List.mem_append.mp hc with hfence | hinfo
  · obtain rfl := List.eq_of_mem_replicate hfence
    have hchar := b.kind.isFenceChar_char
    exact ⟨hchar.ne (by decide), hchar.ne (by decide)⟩
  · exact ⟨(b.info_row c hinfo).1, (b.info_row c hinfo).2.1⟩

theorem openingFence?_row (b : LeadingBlock) :
    Markdown.openingFence? b.row [] = some ⟨b.kind.char, b.opening⟩ := by
  have htake : b.row.takeWhile (· = b.kind.char) = List.replicate b.opening b.kind.char := by
    rw [row, List.takeWhile_append_of_pos (by simp)]
    have hinfo := b.info_head
    cases hcases : b.info with
    | nil => simp
    | cons c info =>
      rw [hcases, List.head?_cons, Ne, Option.some.injEq] at hinfo
      simp [hinfo]
  have hdrop : b.row.drop b.opening = b.info := by simp [row]
  have hno : '\x60' ∉ b.info := fun h => (b.info_row _ h).2.2 rfl
  have hchar := b.kind.isFenceChar_char
  have hcons : ∃ more, b.row = b.kind.char :: more := by
    obtain ⟨more, hmore⟩ := marker_prefix_replicate b.kind b.three_le_opening
    rw [row, ← hmore]
    exact ⟨_, rfl⟩
  obtain ⟨more, hmore⟩ := hcons
  rw [hmore] at htake hdrop ⊢
  simp only [Markdown.openingFence?, htake, List.length_replicate, hdrop, List.append_nil]
  rw [if_pos (by simpa using ⟨hchar, b.three_le_opening⟩), if_neg (by simp [hno])]

/-- The reader of this library finds the block. -/
theorem isFoundBy_events (b : LeadingBlock) : b.IsFoundBy Markdown.events := by
  intro rest
  have hopen : ∀ t, t <:+: b.contents ++ ['\n'] →
      (⟨b.kind.char, b.opening⟩ : Markdown.FenceRun).closedBy t = false := by
    intro t ht
    have hnone := hasMarker_of_infix ht (hasMarker_append_lineFeed b.no_marker rfl)
    exact closedBy_eq_false b.three_le_opening hnone
  obtain ⟨later, hblocks⟩ := Markdown.fencedBlocks_leading b.row_noLineEnding b.openingFence?_row
    hopen b.opening_le_closing rest
  have hreports := (Markdown.reads_events (b.source rest)).reports
  rw [source, hblocks, ← source] at hreports
  exact ⟨_, later, hreports, ⟨[], _, rfl, rfl, rfl, (List.append_nil _).symm⟩,
    [], _, [], (List.append_nil _).symm, rfl, rfl, rfl⟩

end LeadingBlock

/-! ## 4. The plan -/

/-- A source that starts with a fenced block is parsed like the contents of
the block, whatever comes after it, by every reader that finds the block: the
instructions are the same, and an error is the same but for its place behind
the opening fence. -/
theorem parse_leadingBlock (options : Options) (fileId : Nat) {b : LeadingBlock}
    {markdown : EventReader} (hfound : b.IsFoundBy markdown) (rest : Text) :
    parse options fileId (b.source rest) markdown
        = (match parse options fileId b.contents markdown with
          | .ok plan => .ok plan
          | .error e => .error (e.later 0 (Text.bytes (b.row ++ ['\n'])))) ∧
      ∀ other, parse options fileId (b.source rest) markdown
        = parse options fileId (b.source other) markdown := by
  have hparse : ∀ text, parse options fileId (b.source text) markdown
      = match parse options fileId b.contents markdown with
        | .ok plan => .ok plan
        | .error e => .error (e.later 0 (Text.bytes (b.row ++ ['\n']))) := by
    intro text
    have hshift := parseLines_shift options fileId 0 0 (Text.bytes (b.row ++ ['\n']))
      (statementLines b.contents markdown)
    have hsame : Instruction.later 0 = id := rfl
    simp only [hsame, List.map_id] at hshift
    rw [parse, parseLogged, LeadingBlock.statementLines_source hfound]
    exact hshift
  refine ⟨hparse rest, fun other => ?_⟩
  rw [hparse rest, hparse other]

/-- The error is found behind the opening fence, and the second block is not
looked at. -/
theorem parse_leadingBlock_refused :
    parse {} 0 "```plan\nx = 1\n  ?\n````\nThen:\n```\ny = 2\n```".toList Markdown.events
      = .error ⟨.unparseable, 2, ⟨['?'], 16⟩, 0⟩ := by
  let b : LeadingBlock :=
    { kind := .backtick, opening := 3, info := "plan".toList, contents := "x = 1\n  ?".toList
      closing := 4
      three_le_opening := by decide
      opening_le_closing := by decide
      info_row := by simp
      info_head := by decide
      not_blank := by decide
      no_marker := by decide }
  have hparse := parse_leadingBlock {} 0 b.isFoundBy_events "Then:\n```\ny = 2\n```".toList
  exact hparse.1.trans rfl

end PlanScript
