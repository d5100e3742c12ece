/-
PlanScript.Proofs.Source.Region — what the statement region takes in and what
it leaves out.

The region is a stretch of the source, whatever the Markdown reader reports
(`statementRegion_stands`), so the statement lines are the lines of a stretch
of the source (`exists_statementLines_eq`). Where the reader finds certain
blocks in the source (`Markdown.Reads`), the region is the whole source, or the
body of the first of these blocks that looks closed and is not blank
(`statementRegion_cases`).

A block looks closed when its last line starts with a marker, and that need
not be its own closing fence. So a source in which no block is closed keeps
all its statements, unless the region is the body of a block whose last line
starts with a marker of some kind (`keeps_statements_of_no_closed_block`). In
such a source a statement in front of the block is lost
(`loses_statement_before_open_block`).
-/
import PlanScript.Proofs.Markdown.Layout
import PlanScript.Proofs.Source.Shift

namespace PlanScript

open Markdown (EventReader Span Stretch FencedBlock Reports Reads IsPrefix IsOpenTail)

/-! ## 1. The region -/

/-- The region is a stretch of the source. -/
theorem statementRegion_stands (source : Text) (markdown : EventReader) :
    ∃ before after, source = before ++ (statementRegion source markdown).text ++ after ∧
      ((statementRegion source markdown).text ≠ [] →
        (statementRegion source markdown).start = Text.bytes before) :=
  Span.text_stands source _

/-- The statement lines are the lines of a stretch of the source. -/
theorem exists_statementLines_eq (source : Text) (markdown : EventReader) :
    ∃ outside t beyond, source = outside ++ t ++ beyond ∧
      statementLines source markdown = linesFrom (Text.bytes outside) (Text.lines t) := by
  obtain ⟨outside, beyond, hsource, hstart⟩ := statementRegion_stands source markdown
  by_cases hnil : (statementRegion source markdown).text = []
  · -- A region without text may stand anywhere, but it has no lines.
    refine ⟨[], [], source, rfl, ?_⟩
    rw [statementLines, hnil]
    rfl
  · refine ⟨outside, _, beyond, hsource, ?_⟩
    rw [statementLines, hstart hnil]

theorem regionFrom_texts_of_some (source : Text) (body : Span) (texts : List Span)
    (events : List Markdown.Event) :
    regionFrom source true (some body) (texts.map .text ++ events)
      = regionFrom source true (some ⟨body.start, (texts.getLast?.getD body).stop⟩) events := by
  induction texts generalizing body with
  | nil => rfl
  | cons range texts ih =>
    have hlast : (texts.getLast?.getD ⟨body.start, range.stop⟩).stop
        = ((range :: texts).getLast?.getD body).stop := by
      rw [List.getLast?_cons, Option.getD_some]
      cases texts.getLast? <;> rfl
    rw [← hlast]
    exact ih ⟨body.start, range.stop⟩

/-- The texts of a block make its body. -/
theorem regionFrom_texts (source : Text) (texts : List Span) (events : List Markdown.Event) :
    regionFrom source true none (texts.map .text ++ events)
      = regionFrom source true (Span.hull texts) events := by
  cases texts with
  | nil => rfl
  | cons range texts => exact regionFrom_texts_of_some source range texts events

/-- The region of reported blocks is the body of the first one that looks
closed and is not blank. -/
theorem regionFrom_of_reports {source : Text} {events : List Markdown.Event}
    {blocks : List FencedBlock} (h : Reports events blocks) :
    regionFrom source false none events
      = (blocks.findSome? fun block =>
          statementBody? source (block.body.map Stretch.range) block.range).getD
            ⟨0, source.bytes⟩ := by
  induction h with
  | nil => rfl
  | @outside e _ _ he _ ih =>
    rw [← ih]
    cases e with
    | fence => contradiction
    | _ => rfl
  | block htexts _ ih =>
    rw [regionFrom, regionFrom_texts, htexts, regionFrom, if_pos rfl, List.findSome?_cons, ih]
    cases statementBody? _ _ _ <;> rfl

/-- The body of a block, if it is not blank and the block looks closed. -/
theorem exists_of_statementBody?_eq_some {source : Text} {block : FencedBlock}
    (hlies : block.LiesIn source) {range : Span}
    (h : statementBody? source (block.body.map Stretch.range) block.range = some range) :
    block.body = some ⟨range.start, range.text source⟩ ∧
      (range.text source).allBlank = false ∧ looksClosed block.source = true := by
  obtain ⟨hbody, hgood⟩ := Option.filter_eq_some_iff.mp h
  obtain ⟨body, hsome, rfl⟩ := Option.map_eq_some_iff.mp hbody
  have htext := Span.text_of_slice? (hlies.slice?_body hsome)
  rw [Bool.and_eq_true, Bool.not_eq_true', htext, Span.text_of_slice? hlies.slice?_range] at hgood
  rw [htext]
  exact ⟨hsome, hgood⟩

/-- The region is the whole source, or the body of a block that looks
closed and is not blank. -/
theorem statementRegion_cases {source : Text} {markdown : EventReader}
    {blocks : List FencedBlock} (h : Reads markdown source blocks) :
    statementRegion source markdown = ⟨0, source⟩ ∨
      ∃ block ∈ blocks, block.body = some (statementRegion source markdown) ∧
        (statementRegion source markdown).text.allBlank = false ∧
        looksClosed block.source = true := by
  by_cases hmarker : hasMarker source = true
  · rw [statementRegion, statementRange, if_pos hmarker, regionFrom_of_reports h.reports]
    cases hfound : blocks.findSome? fun block =>
        statementBody? source (block.body.map Stretch.range) block.range with
    | none =>
      left
      have hwhole : Span.text ⟨0, source.bytes⟩ source = source :=
        Span.text_of_slice? (Text.slice?_whole source)
      simp only [Option.getD_none, hwhole]
    | some range =>
      obtain ⟨block, hblock, hbody⟩ := List.exists_of_findSome?_eq_some hfound
      exact .inr ⟨block, hblock, exists_of_statementBody?_eq_some (h.liesIn block hblock) hbody⟩
  · left
    exact statementRegion_of_no_marker (Bool.eq_false_iff.mpr hmarker) markdown

/-! ## 2. The last line of a block -/

theorem lastLine_append_lineFeed (s t : Text) : lastLine (s ++ '\n' :: t) = lastLine t := by
  rw [lastLine, lastLine, List.reverse_append, List.reverse_cons, List.append_assoc,
    List.takeWhile_append]
  split
  · next hall =>
    have hwhole := (List.takeWhile_prefix (· ≠ '\n')).eq_of_length hall
    rw [hwhole]
    simp
  · rfl

theorem lastLine_of_no_lineFeed {t : Text} (h : '\n' ∉ t) : lastLine t = t := by
  have hrev : ∀ c ∈ t.reverse, decide (c ≠ '\n') = true := fun c hc =>
    decide_eq_true fun heq => h (heq ▸ List.mem_reverse.mp hc)
  have hwhole : (t.reverse ++ []).takeWhile (· ≠ '\n') = t.reverse ++ [] :=
    List.takeWhile_append_of_pos hrev
  rw [List.append_nil] at hwhole
  rw [lastLine, hwhole, List.reverse_reverse]

/-- Whether a text ends, but for white space, with a line that starts with a
marker. -/
def endsInMarkerLine (t : Text) : Bool := startsWithMarker (lastLine t.trimEnd).trimStart

theorem endsInMarkerLine_of_looksClosed {block : Text} (h : looksClosed block = true) :
    endsInMarkerLine block = true := by
  simp only [looksClosed, Bool.and_eq_true] at h
  exact h.2

theorem head_of_startsWithMarker {t : Text} (h : startsWithMarker t = true) :
    ∃ c ∈ t.head?, c ≠ ' ' ∧ c ≠ '\t' ∧ c ≠ '>' := by
  rw [startsWithMarker, Bool.or_eq_true, Text.startsWith_iff, Text.startsWith_iff] at h
  rcases h with ⟨rest, rfl⟩ | ⟨rest, rfl⟩
  · exact ⟨'\x60', rfl, by decide⟩
  · exact ⟨'~', rfl, by decide⟩

theorem not_mem_prefix_of_head {t lead : Text} (hlead : IsPrefix lead)
    (h : startsWithMarker t = true) : ∀ c ∈ t.head?, c ∉ lead := by
  obtain ⟨d, hd, hspace, htab, hquote⟩ := head_of_startsWithMarker h
  intro c hc hmem
  obtain rfl : c = d := Option.some.inj (hc.symm.trans hd)
  rcases hlead c hmem with rfl | rfl | rfl
  · exact hspace rfl
  · exact htab rfl
  · exact hquote rfl

/-- No marker starts in a container prefix: a line that starts with a marker
behind such a prefix does so without it. -/
theorem startsWithMarker_of_prefix {lead t : Text} (hlead : IsPrefix lead)
    (h : startsWithMarker (Text.trimStart (lead ++ t)) = true) :
    startsWithMarker (Text.trimStart t) = true := by
  have hsplit : Text.trimStart (lead ++ t) = if (Text.trimStart lead).isEmpty
      then Text.trimStart t else Text.trimStart lead ++ t := List.dropWhile_append
  rw [hsplit] at h
  split at h
  · exact h
  · next hne =>
    obtain ⟨c, rest, hcons⟩ := List.exists_cons_of_ne_nil (by simpa using hne)
    have hmem : c ∈ lead := by
      refine (List.dropWhile_suffix isBlank).subset ?_
      rw [← Text.trimStart, hcons]
      exact List.mem_cons_self ..
    rw [hcons] at h
    exact absurd hmem (not_mem_prefix_of_head hlead h c rfl)

/-- The last line of a block without a closing fence is a line of its body. -/
theorem endsInMarkerLine_of_liesIn {body : Stretch} {outside source row lead tail : Text}
    (hlies : body.LiesIn outside source row lead tail) (htail : IsOpenTail body tail)
    (hbody : body.text.allBlank = false) (h : endsInMarkerLine source = true) :
    endsInMarkerLine body.text = true := by
  simp only [endsInMarkerLine] at h ⊢
  rw [hlies.source_eq] at h
  by_cases hblank : tail.allBlank = true
  · rw [Text.trimEnd_append_blank _ hblank, Text.trimEnd_append_of_not_blank _ hbody,
      List.append_assoc, List.cons_append, lastLine_append_lineFeed] at h
    by_cases hfeed : '\n' ∈ body.text.trimEnd
    · obtain ⟨front, last, hsplit⟩ := List.append_of_mem hfeed
      rw [hsplit, ← List.append_assoc, lastLine_append_lineFeed] at h
      rwa [hsplit, lastLine_append_lineFeed]
    · have hwhole : '\n' ∉ lead ++ body.text.trimEnd := by
        rw [List.mem_append, not_or]
        exact ⟨hlies.isPrefix.noLineFeed, hfeed⟩
      rw [lastLine_of_no_lineFeed hwhole] at h
      rw [lastLine_of_no_lineFeed hfeed]
      exact startsWithMarker_of_prefix hlies.isPrefix h
  · -- The last line is a prefix with nothing after it, where no marker starts.
    have hne : tail ≠ [] := by
      rintro rfl
      exact hblank rfl
    obtain ⟨hlead, front, hends⟩ := htail.resolve_left hne
    have hstart : IsPrefix tail.trimEnd := fun c hc =>
      hlead c (Text.trimEnd_append tail ▸ List.mem_append_left _ hc)
    have hlast : lastLine (Text.trimEnd (row ++ '\n' :: lead ++ body.text ++ tail))
        = tail.trimEnd := by
      rw [Text.trimEnd_append_of_not_blank _ (Bool.eq_false_iff.mpr hblank), hends,
        ← List.append_assoc, List.append_assoc, List.singleton_append, lastLine_append_lineFeed,
        lastLine_of_no_lineFeed hstart.noLineFeed]
    rw [hlast, ← List.append_nil tail.trimEnd] at h
    have hnil := startsWithMarker_of_prefix hstart h
    contradiction

/-! ## 3. Statements that are kept -/

/-- Whether a trimmed line says something and has no marker. -/
def isPlainStatement (t : Text) : Bool := !isSilent t && !hasMarker t

/-- The lines of a source that are plain statements, trimmed. -/
def plainStatements (source : Text) : List Text :=
  ((Text.lines source).map Text.trim).filter isPlainStatement

/-- A plain statement is read as it stands. -/
theorem Line.ofRaw?_of_isPlainStatement {raw : Text} (h : isPlainStatement raw.trim = true)
    (offset : Nat) : ∃ line, Line.ofRaw? offset raw = some line ∧ line.text = raw.trim := by
  rw [isPlainStatement, Bool.and_eq_true, Bool.not_eq_true', Bool.not_eq_true'] at h
  refine ⟨⟨raw.trim, offset + Text.bytes (raw.takeWhile isBlank)⟩, ?_, rfl⟩
  rw [Line.ofRaw?, stripFence?_of_no_marker h.2]
  simp [h.1]

theorem sublist_linesFrom (offset : Nat) (raws : List Text) :
    ((raws.map Text.trim).filter isPlainStatement).Sublist
      ((linesFrom offset raws).map Line.text) := by
  induction raws generalizing offset with
  | nil => exact .slnil
  | cons raw raws ih =>
    have hlater := ih (offset + raw.bytes)
    rw [List.map_cons, linesFrom, List.map_append]
    by_cases hplain : isPlainStatement raw.trim = true
    · obtain ⟨line, hline, htext⟩ := Line.ofRaw?_of_isPlainStatement hplain offset
      rw [List.filter_cons_of_pos hplain, hline, ← htext]
      exact hlater.cons_cons _
    · rw [List.filter_cons_of_neg hplain]
      exact hlater.trans (List.sublist_append_right _ _)

/-- A source in which no fenced block is closed keeps its statements, in
order, unless the region is the body of an open block of which the last line
starts with a marker. -/
theorem keeps_statements_of_no_closed_block {source : Text} {markdown : EventReader}
    {blocks : List FencedBlock} (hreads : Reads markdown source blocks)
    (h : ∀ block ∈ blocks, block.closed = false) :
    (plainStatements source).Sublist ((statementLines source markdown).map Line.text) ∨
      ∃ block ∈ blocks, block.body = some (statementRegion source markdown) ∧
        endsInMarkerLine (statementRegion source markdown).text = true := by
  rcases statementRegion_cases hreads with hwhole | ⟨block, hblock, hbody, hfilled, hclosed⟩
  · left
    rw [statementLines, hwhole]
    exact sublist_linesFrom 0 (Text.lines source)
  · right
    obtain ⟨outside, after, _, _, hlies⟩ := hreads.liesIn block hblock
    obtain ⟨row, lead, tail, hin, htail⟩ := hlies _ hbody
    simp only [h block hblock, Bool.false_eq_true, if_false] at htail
    exact ⟨block, hblock, hbody, endsInMarkerLine_of_liesIn hin htail hfilled
      (endsInMarkerLine_of_looksClosed hclosed)⟩

/-- A block with no closing fence at all leaves every statement in its place. -/
theorem keeps_statements_of_no_closed_block_unclosed :
    let source := "x = 1\n```\na = 1\n".toList
    let block : FencedBlock := ⟨6, "```\na = 1\n".toList, some ⟨10, "a = 1\n".toList⟩, false⟩
    Reads Markdown.events source [block] ∧
      ["x = 1".toList, "a = 1".toList].Sublist
        ((statementLines source Markdown.events).map Line.text) := by
  intro source block
  have hblocks : Markdown.fencedBlocks source = [block] := by decide +kernel
  have hreads : Reads Markdown.events source [block] := hblocks ▸ Markdown.reads_events source
  refine ⟨hreads, ?_⟩
  rcases keeps_statements_of_no_closed_block hreads (by simp [block]) with hkept | ⟨_, _, _, hends⟩
  · exact hkept
  · exact absurd hends (by decide +kernel)

/-- Tildes do not close a block that backticks have opened, and the region is
its body all the same. -/
theorem loses_statement_before_open_block :
    let source := "x = 1\n```\na = 1\n~~~".toList
    let block : FencedBlock :=
      ⟨6, "```\na = 1\n~~~".toList, some ⟨10, "a = 1\n~~~".toList⟩, false⟩
    Reads Markdown.events source [block] ∧
      plainStatements source = ["x = 1".toList, "a = 1".toList] ∧
      ∀ markdown, Reads markdown source [block] →
        (statementLines source markdown).map Line.text = ["a = 1".toList] := by
  intro source block
  have hblocks : Markdown.fencedBlocks source = [block] := by decide +kernel
  refine ⟨hblocks ▸ Markdown.reads_events source, by decide +kernel, fun markdown hreads => ?_⟩
  have hmarker : hasMarker source = true := by decide +kernel
  rw [statementLines, statementRegion, statementRange, if_pos hmarker,
    regionFrom_of_reports hreads.reports]
  decide +kernel

end PlanScript
