/-
PlanScript.Proofs.Markdown.Leading — a fenced block at the start of a
document.

A fence on the first row, with no space before it, opens a block that lies in
no container (`step_openingRow`). As long as no closing fence comes, every
segment after it goes to the body of that block, whatever else it looks like
(`step_atMargin`, `blocks_atMargin`). The first row with a closing fence ends
the block (`step_closingRow`), so the first block of the document is known
without a look at the text behind it (`fencedBlocks_leading`).
-/
import PlanScript.Proofs.Markdown.Layout

namespace PlanScript.Markdown

/-! ## 1. Rows that start with a fence -/

theorem skip_of_isFenceChar {c : Char} (hc : IsFenceChar c) (limit : Nat) (rest : Text) :
    Cursor.skip limit { rest := c :: rest } = (0, { rest := c :: rest }) := by
  have hspace : c ≠ ' ' := hc.ne (by decide)
  have htab : c ≠ '\t' := hc.ne (by decide)
  cases limit with
  | zero => rfl
  | succ limit => simp [Cursor.skip, Cursor.skipText, hspace, htab]

/-- No container starts with a fence. -/
theorem openContainers_of_isFenceChar {c : Char} (hc : IsFenceChar c) (fuel : Nat)
    (e : Enclosure) (rest : Text) :
    openContainers fuel e { rest := c :: rest }
      = { enclosure := e, cursor := { rest := c :: rest } } := by
  cases fuel with
  | zero => rfl
  | succ fuel =>
    rw [openContainers, skip_of_isFenceChar hc]
    rcases hc with rfl | rfl
    · simp [listItem?, isBullet, orderedMarker?, quoteMark?]
    · simp [listItem?, isBullet, orderedMarker?, quoteMark?]

/-! ## 2. A block that lies in no container -/

/-- The block with a row and a body, as long as it is open. -/
def OpenFence.atMargin (run : FenceRun) (row body : Text) : OpenFence :=
  { run, indent := 0, source := row ++ body
    body := if body.isEmpty then none else some ⟨row.bytes, body⟩ }

theorem OpenFence.add_atMargin (run : FenceRun) (row body line : Text) :
    (atMargin run row body).add (Text.bytes (row ++ body)) [] line
      = atMargin run row (body ++ line) := by
  cases line with
  | nil => simp [add, atMargin]
  | cons c line =>
    cases body with
    | nil => simp [add, atMargin]
    | cons d body => simp [add, atMargin]

namespace Reader

variable {run : FenceRun} {row body : Text} {s : Segment} {ahead : List Segment}

/-- A line with a fence starts no other block. -/
theorem startText_of_openingFence? (r : Reader) (indent : Nat) {line : Text}
    (hopen : openingFence? line (restOfRow s ahead) = some run) :
    r.startText indent line s ahead
      = { r.stay (.fence { run, indent, source := line ++ s.ending }) s with
          inInfo := !s.endsRow } := by
  have hchar : IsFenceChar run.char := (opens_of_openingFence? hopen).isFenceChar
  obtain ⟨rest, rfl⟩ := (opens_of_openingFence? hopen).eq_cons
  have hhtml : run.char ≠ '<' := hchar.ne (by decide)
  have hother : (isThematicBreak (run.char :: rest) || isHeading (run.char :: rest)) = false := by
    rcases hchar with h | h
    · simp [h, isThematicBreak, isHeading]
    · simp [h, isThematicBreak, isHeading]
  simp only [startText, hopen, hother]
  split
  · next heq =>
    split at heq
    · next hline => exact absurd (List.cons.inj hline).1 hhtml
    · contradiction
  · rfl

/-- The reader behind the row and the body of an open block, at the start of
a document. -/
def atMargin (run : FenceRun) (row body : Text) (midRow : Bool) : Reader :=
  { offset := Text.bytes (row ++ body), leaf := .fence (.atMargin run row body), midRow }

/-- A row that starts with a fence, at the start of a document. -/
theorem step_openingRow (hopen : openingFence? row [] = some run) (ahead : List Segment) :
    ({} : Reader).step ⟨row, ['\n']⟩ ahead
      = (none, { atMargin run (row ++ ['\n']) [] false with offset := 0 }) := by
  have hrow : openingFence? row (restOfRow ⟨row, ['\n']⟩ ahead) = some run := by
    cases ahead with
    | nil => exact hopen
    | cons next more => exact hopen
  have hchar : IsFenceChar run.char := (opens_of_openingFence? hopen).isFenceChar
  obtain ⟨rest, rfl⟩ := (opens_of_openingFence? hopen).eq_cons
  have hblank : isBlankLine (run.char :: rest) = false := by
    rcases hchar with h | h
    · simp [h, isBlankLine, isLineBlank]
    · simp [h, isBlankLine, isLineBlank]
  simp only [step, enterAll, start, openContainers_of_isFenceChar hchar,
    skip_of_isFenceChar hchar, hblank, startText_of_openingFence? _ _ hrow, atMargin,
    OpenFence.atMargin, List.append_nil]
  rfl

/-- A row closes the block or goes on it. -/
theorem step_atMargin_row (s : Segment) (ahead : List Segment) :
    (atMargin run row body false).step s ahead
      = if (Cursor.skip 4 { rest := s.text }).1 < 4
            && run.closedBy (Cursor.skip 4 { rest := s.text }).2.rest then
          (some (((OpenFence.atMargin run row body).extend s.text).finish
              (Text.bytes (row ++ body) + s.text.bytes) true),
            (atMargin run row body false).leave)
        else (none, (atMargin run row body false).stay
          (.fence (.atMargin run row (body ++ s.full))) s) := by
  have hinside : (atMargin run row body false).step s ahead
      = (atMargin run row body false).continueFence (.atMargin run row body) { rest := s.text } s :=
    rfl
  have hskip : Cursor.skip 0 { rest := s.text } = (0, { rest := s.text }) := rfl
  have hindent : (OpenFence.atMargin run row body).indent = 0 := rfl
  rw [hinside, ← OpenFence.add_atMargin]
  simp only [continueFence, hindent, hskip, Nat.sub_zero, Nat.sub_self, List.take_zero]
  rfl

/-- A segment that does not close the block goes on it. -/
theorem step_atMargin (hopen : ∀ t, t <:+ s.text → run.closedBy t = false) (midRow : Bool)
    (ahead : List Segment) :
    (atMargin run row body midRow).step s ahead
      = (none, { atMargin run row (body ++ s.full) (!s.endsRow) with
          offset := Text.bytes (row ++ body) }) := by
  cases midRow with
  | true =>
    simp only [step, atMargin, continueRow, ← OpenFence.add_atMargin]
    rfl
  | false =>
    have hstays := hopen _ (Cursor.passes_skip 4 { rest := s.text }).suffix
    rw [step_atMargin_row, hstays, Bool.and_false]
    rfl

/-- The row with the closing fence ends the block. -/
theorem step_closingRow {length : Nat} (hpos : 0 < length) (hchar : IsFenceChar run.char)
    (hlength : run.length ≤ length) (ending : Text) (ahead : List Segment) :
    (atMargin run row body false).step ⟨List.replicate length run.char, ending⟩ ahead
      = (some (((OpenFence.atMargin run row body).extend (List.replicate length run.char)).finish
            (Text.bytes (row ++ body) + Text.bytes (List.replicate length run.char)) true),
          (atMargin run row body false).leave) := by
  have hcloses : run.closedBy (List.replicate length run.char) = true := by
    simp [FenceRun.closedBy, hlength]
  obtain ⟨more, rfl⟩ := Nat.exists_eq_add_of_lt hpos
  rw [step_atMargin_row]
  simp only [List.replicate_succ] at hcloses ⊢
  simp only [skip_of_isFenceChar hchar, hcloses]
  rfl

/-- The segments of the body. -/
theorem blocks_atMargin {segs : List Segment}
    (hopen : ∀ s ∈ segs, ∀ t, t <:+ s.text → run.closedBy t = false) (row body : Text)
    (midRow : Bool) (ahead : List Segment) :
    (atMargin run row body midRow).blocks (segs ++ ahead)
      = (atMargin run row (body ++ segs.flatMap Segment.full)
          (segs.foldl (fun _ s => !s.endsRow) midRow)).blocks ahead := by
  induction segs generalizing body midRow with
  | nil => simp
  | cons s segs ih =>
    have hs := hopen s (List.mem_cons_self ..)
    have hsegs := ih fun s' hs' => hopen s' (List.mem_cons_of_mem s hs')
    have hoffset : Text.bytes (row ++ body) + s.full.bytes
        = Text.bytes (row ++ (body ++ s.full)) := by
      rw [← List.append_assoc, Text.bytes_append (row ++ body)]
    rw [List.cons_append, blocks, step_atMargin hs, List.foldl_cons, List.flatMap_cons,
      ← List.append_assoc, ← hsegs]
    simp only [atMargin, hoffset]
    rfl

end Reader

/-! ## 3. The first block -/

/-- A block that starts a document and is closed by its own fence is the
first block, whatever comes after it. -/
theorem fencedBlocks_leading {run : FenceRun} {row contents : Text} {length : Nat}
    (hrow : ∀ c ∈ row, c ≠ '\n' ∧ c ≠ '\r') (hstarts : openingFence? row [] = some run)
    (hopen : ∀ t, t <:+: contents ++ ['\n'] → run.closedBy t = false)
    (hlength : run.length ≤ length) (rest : Text) :
    ∃ later, fencedBlocks
        (row ++ '\n' :: (contents ++ '\n' :: (List.replicate length run.char ++ '\n' :: rest)))
      = { start := 0
          source := row ++ '\n' :: (contents ++ '\n' :: List.replicate length run.char)
          body := some ⟨Text.bytes (row ++ ['\n']), contents ++ ['\n']⟩
          closed := true } :: later := by
  have hchar : IsFenceChar run.char := (opens_of_openingFence? hstarts).isFenceChar
  have hthree : 3 ≤ run.length := (opens_of_openingFence? hstarts).three_le
  have hfence : ∀ c ∈ List.replicate length run.char, c ≠ '\n' ∧ c ≠ '\r' := by
    intro c hc
    obtain rfl := List.eq_of_mem_replicate hc
    exact ⟨hchar.ne (by decide), hchar.ne (by decide)⟩
  have hbody : ∀ s ∈ segments (contents ++ ['\n']), ∀ t, t <:+ s.text → run.closedBy t = false :=
    fun s hs t ht => hopen t (ht.isInfix.trans (text_infix_of_mem_segments hs))
  obtain ⟨front, last, hsplit, hends⟩ := exists_segments_append_lineFeed contents
  have hblocks := Reader.blocks_atMargin hbody (row ++ ['\n']) [] false
    (⟨List.replicate length run.char, ['\n']⟩ :: segments rest)
  -- A line feed ends the contents, so the closing fence has a row of its own.
  have hrowEnds : (segments (contents ++ ['\n'])).foldl (fun _ s => !s.endsRow) false = false := by
    rw [hsplit, List.foldl_append, List.foldl_cons, List.foldl_nil, hends]
    rfl
  rw [flatMap_full_segments, hrowEnds, List.nil_append, Reader.blocks,
    Reader.step_closingRow (by omega) hchar hlength] at hblocks
  have hoffset : ({} : Reader).offset + Text.bytes (Segment.full ⟨row, ['\n']⟩)
      = Text.bytes (row ++ ['\n'] ++ []) := by
    rw [List.append_nil]
    exact Nat.zero_add _
  rw [fencedBlocks, segments_cons_lineFeed hrow, segments_append_lineFeed,
    segments_cons_lineFeed hfence, Reader.blocks, Reader.step_openingRow hstarts, hoffset]
  refine ⟨_, hblocks.trans (congrArg (· :: _) ?_)⟩
  simp [OpenFence.finish, OpenFence.extend, OpenFence.atMargin]
  omega

end PlanScript.Markdown
