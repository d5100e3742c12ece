/-
PlanScript.Proofs.Markdown.Layout — `Markdown.events` meets the conditions on
a reader.

Each fenced block that it finds stands in the document as `FencedBlock.LiesIn`
says, and the blocks stand one after the other. `Reader.Holds` says this of the
block that is open while the document is read. One segment keeps it
(`holds_step`), whatever the segment does, so it holds all along a document and
of each block that ends on the way (`liesIn_of_mem_fencedBlocks`). Hence the
reader finds these blocks in every source (`reads_events`), and keeps to the
source (`inSource_events`).
-/
import PlanScript.Markdown.Fenced
import PlanScript.Proofs.Markdown.Prefix
import PlanScript.Proofs.Markdown.Segments

namespace PlanScript.Markdown

/-! ## 1. Open blocks -/

theorem pairwise_toList {α : Type} (R : α → α → Prop) (a : Option α) : a.toList.Pairwise R := by
  cases a with
  | none => exact .nil
  | some a => exact List.pairwise_singleton R a

/-- The row starts with the run. -/
def FenceRun.Opens (run : FenceRun) (row : Text) : Prop := OpensWith run.char run.length row

theorem FenceRun.Opens.append {run : FenceRun} {row : Text} (h : run.Opens row) (more : Text) :
    run.Opens (row ++ '\r' :: more) :=
  OpensWith.append h (h.isFenceChar.ne (by decide)) more

/-- A line is the run that it starts with and what comes after it. -/
theorem replicate_append_drop (c : Char) (line : Text) :
    List.replicate (line.takeWhile (· = c)).length c
      ++ line.drop (line.takeWhile (· = c)).length = line := by
  have hrun : line.takeWhile (· = c) = List.replicate (line.takeWhile (· = c)).length c :=
    List.eq_replicate_of_mem fun d hd =>
      of_decide_eq_true (List.all_eq_true.mp List.all_takeWhile d hd)
  rw [← hrun, List.prefix_iff_eq_append.mp (List.takeWhile_prefix _)]

theorem head?_drop_takeWhile (c : Char) (line : Text) :
    (line.drop (line.takeWhile (· = c)).length).head? ≠ some c := by
  have hdrop : line.drop (line.takeWhile (· = c)).length = line.dropWhile (· = c) :=
    List.append_cancel_left ((List.prefix_iff_eq_append.mp (List.takeWhile_prefix _)).trans
      List.takeWhile_append_dropWhile.symm)
  intro hhead
  have hnot := List.head?_dropWhile_not (fun d => decide (d = c)) line
  rw [← hdrop, hhead] at hnot
  exact of_decide_eq_false hnot rfl

theorem opens_of_openingFence? {line row : Text} {run : FenceRun}
    (h : openingFence? line row = some run) : run.Opens line := by
  cases line with
  | nil => contradiction
  | cons c rest =>
    simp only [openingFence?] at h
    split at h
    · next hfence =>
      split at h
      · contradiction
      · cases h
        simp only [Bool.and_eq_true, Bool.or_eq_true, decide_eq_true_eq] at hfence
        exact ⟨hfence.1, hfence.2, _, (replicate_append_drop c _).symm, head?_drop_takeWhile c _⟩
    · contradiction

/-- A line that closes the fence, behind what prefixes it. -/
theorem closesWith_of_closedBy {run : FenceRun} {lead line : Text} (hlead : IsPrefix lead)
    (h : run.closedBy line = true) : ClosesWith run.char run.length (lead ++ line) := by
  simp only [FenceRun.closedBy, Bool.and_eq_true, decide_eq_true_eq] at h
  refine ⟨lead, _, line.drop (line.takeWhile (· = run.char)).length, ?_, hlead, h.1,
    List.all_eq_true.mpr fun c hc => ?_⟩
  · rw [List.append_assoc, replicate_append_drop]
  · obtain rfl := of_decide_eq_true (List.all_eq_true.mp h.2 c hc)
    decide

/-- The open block comes after the text `outside`, and before the segments
`ahead`. As long as its first row is being read it has no line feed, but its
fence is complete. -/
inductive OpenFence.Stands (outside : Text) (ahead : List Segment) :
    (inInfo midRow : Bool) → OpenFence → Prop
  | opening {f : OpenFence} : f.body = none → '\n' ∉ f.source →
    (∀ more, f.run.Opens (f.source ++ more)) → Stands outside ahead true true f
  | empty {midRow : Bool} {f : OpenFence} : f.body = none →
    (ahead ≠ [] → ∃ row, '\n' ∉ row ∧ f.run.Opens row ∧ f.source = row ++ ['\n']) →
    Stands outside ahead false midRow f
  | filled {midRow : Bool} {f : OpenFence} {body : Stretch} {row lead tail : Text} :
    f.body = some body → body.LiesIn outside f.source row lead tail → f.run.Opens row →
    IsOpenTail body tail → (ahead ≠ [] → tail = [] ∧ (midRow = false → EndsRow body.text)) →
    Stands outside ahead false midRow f

namespace OpenFence

variable {outside : Text} {s : Segment} {ahead : List Segment} {f : OpenFence}

/-- The first row of a block, up to a segment in it. -/
theorem stands_of_row (hsegs : Segmented (s :: ahead)) (hbody : f.body = none) {row : Text}
    (hrow : '\n' ∉ row) (hopens : f.run.Opens row) (hsource : f.source = row ++ s.ending) :
    f.Stands outside ahead (!s.endsRow) (!s.endsRow) := by
  cases hsegs with
  | last _ => exact .empty hbody fun h => absurd rfl h
  | cons _ hending _ =>
    rcases hending with rfl | rfl | rfl
    · exact .empty hbody fun _ => ⟨row, hrow, hopens, hsource⟩
    · refine .opening hbody ?_ fun more => ?_
      · simpa [hsource] using hrow
      · rw [hsource, List.append_assoc]
        exact hopens.append more
    · refine .empty hbody fun _ => ⟨row ++ ['\r'], ?_, hopens.append [], by rw [hsource]; simp⟩
      simpa using hrow

theorem endsRow_ending (hsegs : Segmented (s :: ahead)) (hahead : ahead ≠ [])
    (hrow : (!s.endsRow) = false) : EndsRow s.ending := by
  cases hsegs with
  | last _ => exact absurd rfl hahead
  | cons _ hending _ =>
    rcases hending with rfl | rfl | rfl
    · exact ⟨[], rfl⟩
    · contradiction
    · exact ⟨['\r'], rfl⟩

theorem ahead_eq_nil_of_ending (hsegs : Segmented (s :: ahead)) (h : s.ending = []) :
    ahead = [] := by
  cases hsegs with
  | last _ => rfl
  | cons _ hending _ =>
    subst h
    simp at hending

/-- A segment in the lines of a block: its prefix and the rest of it. Only an
empty last line adds nothing to the body. -/
theorem Stands.add {midRow : Bool} (h : f.Stands outside (s :: ahead) false midRow)
    (hsegs : Segmented (s :: ahead)) {before rest : Text} (hbefore : IsPrefix before)
    (hnew : before = [] ∨ midRow = false) {offset : Nat}
    (hoffset : offset = Text.bytes (outside ++ f.source)) :
    (f.add offset before (rest ++ s.ending)).Stands outside ahead false (!s.endsRow) := by
  have hends : ahead ≠ [] → (!s.endsRow) = false → EndsRow (rest ++ s.ending) :=
    fun hahead hrow => (endsRow_ending hsegs hahead hrow).prepend rest
  have hnone : rest ++ s.ending = [] → ahead = [] := fun hnil =>
    ahead_eq_nil_of_ending hsegs (List.append_eq_nil_iff.mp hnil).2
  cases h with
  | empty hbody hsource =>
    obtain ⟨row, hrow, hopens, hsource⟩ := hsource (List.cons_ne_nil _ _)
    by_cases hnil : rest ++ s.ending = []
    · refine .empty (by simp [OpenFence.add, hnil, hbody]) fun hahead => ?_
      exact absurd (hnone hnil) hahead
    · have hempty : (rest ++ s.ending).isEmpty = false := by simpa using hnil
      have hfirst : (f.add offset before (rest ++ s.ending)).body
          = some ⟨offset + before.bytes, rest ++ s.ending⟩ := by
        simp [OpenFence.add, hempty, hbody]
      have hlies : Stretch.LiesIn outside (f.add offset before (rest ++ s.ending)).source row before
          [] ⟨offset + before.bytes, rest ++ s.ending⟩ := by
        refine ⟨hrow, hbefore, ?_, ?_⟩
        · simp [OpenFence.add, hsource]
        · simp [hoffset, hsource, Nat.add_assoc]
      exact .filled hfirst hlies hopens (.inl rfl) fun hahead => ⟨rfl, hends hahead⟩
  | @filled _ _ body row lead tail hbody hlies hopens htail hahead =>
    obtain ⟨rfl, hrowEnds⟩ := hahead (List.cons_ne_nil _ _)
    by_cases hnil : rest ++ s.ending = []
    · have hsame : (f.add offset before (rest ++ s.ending)).body = some body := by
        simp [OpenFence.add, hnil, hbody]
      have hlies' : body.LiesIn outside (f.add offset before (rest ++ s.ending)).source row lead
          before := by
        refine ⟨hlies.noLineFeed, hlies.isPrefix, ?_, hlies.start_eq⟩
        simp [OpenFence.add, hnil, hlies.source_eq]
      have htail' : IsOpenTail body before :=
        hnew.imp_right fun hmid => ⟨hbefore, hrowEnds hmid⟩
      exact .filled hsame hlies' hopens htail' fun hahead => absurd (hnone hnil) hahead
    · have hempty : (rest ++ s.ending).isEmpty = false := by simpa using hnil
      have hmore : (f.add offset before (rest ++ s.ending)).body
          = some { body with text := body.text ++ (before ++ (rest ++ s.ending)) } := by
        simp [OpenFence.add, hempty, hbody]
      have hlies' : Stretch.LiesIn outside (f.add offset before (rest ++ s.ending)).source row lead
          [] { body with text := body.text ++ (before ++ (rest ++ s.ending)) } := by
        refine ⟨hlies.noLineFeed, hlies.isPrefix, ?_, hlies.start_eq⟩
        simp [OpenFence.add, hlies.source_eq]
      exact .filled hmore hlies' hopens (.inl rfl) fun hahead =>
        ⟨rfl, fun hrow => ((hends hahead hrow).prepend before).prepend body.text⟩

/-- A block that ends without a closing fence. -/
theorem Stands.liesIn_finish {inInfo midRow : Bool} (h : f.Stands outside ahead inInfo midRow)
    {stop : Nat} (hstop : stop = Text.bytes (outside ++ f.source)) :
    (f.finish stop false).LiesIn (outside ++ f.source) := by
  refine ⟨outside, [], (List.append_nil _).symm, ?_, fun body hbody => ?_⟩
  · simp [OpenFence.finish, hstop]
  · cases h with
    | opening hnone _ _ => simp [OpenFence.finish, hnone] at hbody
    | empty hnone _ => simp [OpenFence.finish, hnone] at hbody
    | filled hsome hlies _ htail _ =>
      obtain rfl := Option.some.inj (hsome.symm.trans hbody)
      exact ⟨_, _, _, hlies, htail⟩

/-- The line with the closing fence comes after the body. -/
theorem Stands.liesIn_closed {inInfo : Bool} (h : f.Stands outside (s :: ahead) inInfo false)
    (hcloses : ClosesWith f.run.char f.run.length s.text) {stop : Nat}
    (hstop : stop = Text.bytes (outside ++ f.source ++ s.text)) :
    ((f.extend s.text).finish stop true).LiesIn (outside ++ f.source ++ s.full) := by
  refine ⟨outside, s.ending, ?_, ?_, fun body hbody => ?_⟩
  · simp [OpenFence.finish, OpenFence.extend, Segment.full]
  · simp only [OpenFence.finish, OpenFence.extend, hstop, Text.bytes_append]
    omega
  · generalize hmid : false = midRow at h
    cases h with
    | opening _ _ _ => contradiction
    | empty hnone _ => simp [OpenFence.finish, OpenFence.extend, hnone] at hbody
    | @filled _ _ _ row lead tail hsome hlies hopens _ hahead =>
      obtain rfl := Option.some.inj (hsome.symm.trans hbody)
      obtain ⟨rfl, hrow⟩ := hahead (List.cons_ne_nil _ _)
      refine ⟨row, lead, s.text, ⟨hlies.noLineFeed, hlies.isPrefix, ?_, hlies.start_eq⟩, ?_⟩
      · simp [OpenFence.finish, OpenFence.extend, hlies.source_eq]
      · exact ⟨hrow hmid.symm, _, _, hopens, hcloses⟩

end OpenFence

/-! ## 2. One segment -/

/-- A block that is open after a segment has been opened on it. -/
def Reader.StartsOn (s : Segment) (r : Reader) : Prop :=
  ∀ f, r.leaf = .fence f →
    f.body = none ∧
      (∃ line, line <:+ s.text ∧ f.run.Opens line ∧ f.source = line ++ s.ending) ∧
      r.inInfo = (!s.endsRow) ∧ r.midRow = (!s.endsRow)

namespace Reader

variable {r : Reader} {s : Segment} {ahead : List Segment}

theorem startsOn_of_no_fence (h : ∀ f, r.leaf ≠ .fence f) : r.StartsOn s :=
  fun f hf => absurd hf (h f)

theorem afterHtml_ne_fence {leaf : Leaf} (h : ∀ f, leaf ≠ .fence f) (f : OpenFence) :
    afterHtml leaf s ≠ .fence f := by
  cases leaf with
  | htmlUntil mark seen =>
    rw [afterHtml]
    split
    · split <;> simp
    · simp
  | fence g => exact absurd rfl (h g)
  | _ => simp [afterHtml]

theorem afterHtml_htmlUntil_ne_fence (mark : Text) (seen : Bool) (f : OpenFence) :
    afterHtml (.htmlUntil mark seen) s ≠ .fence f :=
  afterHtml_ne_fence (fun _ => Leaf.noConfusion) f

theorem htmlLeaf?_ne_fence {t : Text} {leaf : Leaf} (h : htmlLeaf? t = some leaf)
    (f : OpenFence) : leaf ≠ .fence f := by
  simp only [htmlLeaf?] at h
  split at h
  · cases h
    simp
  · split at h
    · cases h
      simp
    · contradiction

theorem startsOn_startParagraph (r : Reader) (line : Text) (s : Segment) (ahead : List Segment) :
    (r.startParagraph line s ahead).StartsOn s := by
  rw [startParagraph]
  split <;> exact startsOn_of_no_fence (by simp)

theorem startsOn_startText (r : Reader) (indent : Nat) {line : Text} (ahead : List Segment)
    (hline : line <:+ s.text) : (r.startText indent line s ahead).StartsOn s := by
  simp only [startText]
  split
  · next leaf hhtml =>
    refine startsOn_of_no_fence (afterHtml_ne_fence fun f => ?_)
    split at hhtml
    · exact htmlLeaf?_ne_fence hhtml f
    · contradiction
  · split
    · exact startsOn_of_no_fence (by simp [leave])
    · split
      · next run hrun =>
        rintro f ⟨⟩
        exact ⟨rfl, ⟨line, hline, opens_of_openingFence? hrun, rfl⟩, rfl, rfl⟩
      · exact startsOn_startParagraph r line s ahead

theorem startsOn_start (r : Reader) (entered : Nat) {c : Cursor} (ahead : List Segment)
    (hc : c.rest <:+ s.text) : (r.start entered c s ahead).StartsOn s := by
  have hopened :=
    (suffix_openContainers (c.rest.length + 1) (r.enclosure.leaveTo entered) c).trans hc
  simp only [start]
  split
  · exact startsOn_of_no_fence (by simp [leave])
  · split
    · exact startsOn_of_no_fence (by simp [leave])
    · split
      · exact startsOn_of_no_fence (by simp [stay])
      · exact startsOn_startText _ _ ahead ((Cursor.passes_skip 4 _).suffix.trans hopened)

/-- The block that the reader has open, if any, stands at the end of what has
been read, and the blocks before it end by the offset `done`. -/
def Holds (done : Nat) (read : Text) (ahead : List Segment) (r : Reader) : Prop :=
  done ≤ read.bytes ∧ ∀ f, r.leaf = .fence f → ∃ outside, read = outside ++ f.source ∧
    done ≤ outside.bytes ∧ f.Stands outside ahead r.inInfo r.midRow

/-- The block stands in what has been read, between two offsets. -/
def EndsIn (read : Text) (start stop : Nat) (block : FencedBlock) : Prop :=
  block.LiesIn read ∧ start ≤ block.range.start ∧ block.range.stop ≤ stop

variable {read : Text}

theorem noLineFeed_of_segmented (hsegs : Segmented (s :: ahead)) : '\n' ∉ s.text := by
  cases hsegs with
  | last h => exact h
  | cons h _ _ => exact h

theorem holds_of_startsOn (hsegs : Segmented (s :: ahead)) (h : r.StartsOn s) {done : Nat}
    (hdone : done ≤ read.bytes) : r.Holds done (read ++ s.full) ahead := by
  refine ⟨by rw [Text.bytes_append]; omega, fun f hf => ?_⟩
  obtain ⟨hbody, ⟨line, ⟨before, hline⟩, hopens, hsource⟩, hinfo, hmid⟩ := h f hf
  refine ⟨read ++ before, ?_, by rw [Text.bytes_append]; omega, ?_⟩
  · simp [Segment.full, ← hline, hsource]
  · have hrow : '\n' ∉ line := fun hmem =>
      noLineFeed_of_segmented hsegs (hline ▸ List.mem_append_right _ hmem)
    rw [hinfo, hmid]
    exact OpenFence.stands_of_row hsegs hbody hrow hopens hsource

theorem holds_continueRow (hsegs : Segmented (s :: ahead)) (hoffset : r.offset = read.bytes)
    {done : Nat} (h : r.Holds done read (s :: ahead)) :
    (r.continueRow s).Holds done (read ++ s.full) ahead := by
  refine ⟨by rw [Text.bytes_append]; exact Nat.le_add_right_of_le h.1, fun f hf => ?_⟩
  cases hleaf : r.leaf with
  | fence g =>
    obtain ⟨outside, hread, hdone, hstands⟩ := h.2 g hleaf
    simp only [continueRow, hleaf] at hf ⊢
    cases hinfo : r.inInfo with
    | true =>
      rw [hinfo] at hstands hf
      generalize r.midRow = midRow at hstands
      cases hstands with
      | opening hbody hsource hopens =>
        cases hf
        have hrow : '\n' ∉ g.source ++ s.text := by
          rw [List.mem_append, not_or]
          exact ⟨hsource, noLineFeed_of_segmented hsegs⟩
        refine ⟨outside, by simp [hread, OpenFence.extend], hdone, ?_⟩
        exact OpenFence.stands_of_row hsegs hbody hrow (hopens s.text)
          (by simp [OpenFence.extend, Segment.full])
    | false =>
      rw [hinfo] at hstands hf
      cases hf
      refine ⟨outside, by simp [hread, OpenFence.add], hdone, ?_⟩
      exact hstands.add hsegs isPrefix_nil (.inl rfl) (by rw [hoffset, hread])
  | htmlUntil mark seen =>
    simp only [continueRow, hleaf] at hf
    exact absurd hf (afterHtml_htmlUntil_ne_fence _ _ f)
  | _ => simp [continueRow, hleaf] at hf

theorem take_of_eq_append {t a b : Text} (h : t = a ++ b) : t.take (t.length - b.length) = a := by
  subst h
  simp

theorem EndsIn.append {start stop : Nat} {block : FencedBlock} (h : EndsIn read start stop block)
    (more : Text) : EndsIn (read ++ more) start stop block :=
  ⟨h.1.append more, h.2⟩

/-- A block without a closing fence ends with what has been read. -/
theorem endsIn_finish {f : OpenFence} {outside : Text} {done : Nat} {inInfo midRow : Bool}
    (hoffset : r.offset = read.bytes) (hread : read = outside ++ f.source)
    (hdone : done ≤ outside.bytes) (hstands : f.Stands outside ahead inInfo midRow) :
    EndsIn read done read.bytes (f.finish r.offset false) := by
  subst hread
  have hlies := hstands.liesIn_finish hoffset
  simp only [EndsIn, FencedBlock.range, OpenFence.finish, hoffset, Text.bytes_append] at hlies ⊢
  exact ⟨hlies, by omega, by omega⟩

/-- A block with a closing fence ends with the line of that fence. -/
theorem endsIn_closed {f : OpenFence} {outside : Text} {done : Nat} {inInfo : Bool}
    (hoffset : r.offset = read.bytes) (hread : read = outside ++ f.source)
    (hdone : done ≤ outside.bytes) (hstands : f.Stands outside (s :: ahead) inInfo false)
    (hcloses : ClosesWith f.run.char f.run.length s.text) :
    EndsIn (read ++ s.full) done (Text.bytes (read ++ s.full))
      ((f.extend s.text).finish (r.offset + s.text.bytes) true) := by
  subst hread
  have hstop : r.offset + s.text.bytes = Text.bytes (outside ++ f.source ++ s.text) := by
    rw [hoffset, ← Text.bytes_append]
  have hlies := hstands.liesIn_closed hcloses hstop
  simp only [EndsIn, FencedBlock.range, OpenFence.finish, OpenFence.extend, Segment.full, hoffset,
    Text.bytes_append] at hlies ⊢
  exact ⟨hlies, by omega, by omega⟩

/-- A line inside an open fence. -/
theorem holds_continueFence {f : OpenFence} {c : Cursor} {outside : Text} {done : Nat}
    (hsegs : Segmented (s :: ahead)) (hoffset : r.offset = read.bytes)
    (hread : read = outside ++ f.source) (hdone : done ≤ outside.bytes)
    (hstands : f.Stands outside (s :: ahead) r.inInfo false)
    (hc : Cursor.Passes { rest := s.text } c) :
    ∃ done', (r.continueFence f c s).2.Holds done' (read ++ s.full) ahead ∧ done ≤ done' ∧
      ∀ block ∈ (r.continueFence f c s).1, EndsIn (read ++ s.full) done done' block := by
  obtain ⟨passed, hpassed, htext⟩ := hc.trans (Cursor.passes_skip f.indent c)
  have hbytes := congrArg Text.bytes hread
  rw [Text.bytes_append] at hbytes
  simp only [continueFence]
  split
  · next hcloses =>
    obtain ⟨skipped, hskipped, hline⟩ := Cursor.passes_skip (4 - f.indent) (c.skip f.indent).2
    have hcloses : ClosesWith f.run.char f.run.length s.text := by
      have htext : s.text = _ := htext
      rw [htext, hline, ← List.append_assoc]
      exact closesWith_of_closedBy (hpassed.append hskipped) (Bool.and_eq_true_iff.mp hcloses).2
    refine ⟨Text.bytes (read ++ s.full), ⟨Nat.le_refl _, fun g hg => by simp [leave] at hg⟩,
      by rw [Text.bytes_append]; omega, ?_⟩
    rintro block ⟨⟩
    exact endsIn_closed hoffset hread hdone hstands hcloses
  · refine ⟨done, ⟨by rw [Text.bytes_append]; omega, ?_⟩, Nat.le_refl _, by simp⟩
    rintro g ⟨⟩
    have hinfo : r.inInfo = false := by
      cases hinfo : r.inInfo with
      | false => rfl
      | true =>
        rw [hinfo] at hstands
        cases hstands
    rw [hinfo] at hstands
    rw [take_of_eq_append htext]
    refine ⟨outside, ?_, hdone, ?_⟩
    · have hfull : s.full = passed ++ (c.skip f.indent).2.rest ++ s.ending :=
        congrArg (· ++ s.ending) htext
      simp [hread, OpenFence.add, hfull]
    · show OpenFence.Stands outside ahead r.inInfo (!s.endsRow) _
      rw [hinfo]
      exact hstands.add hsegs hpassed (.inr rfl) (by rw [hoffset, hread])

theorem startsOn_continueRow (h : ∀ f, r.leaf ≠ .fence f) : (r.continueRow s).StartsOn s := by
  refine startsOn_of_no_fence fun f => ?_
  simp only [continueRow]
  split
  · next g hg => exact absurd hg (h g)
  · exact afterHtml_htmlUntil_ne_fence _ _ f
  · exact h f

theorem startsOn_continueParagraph {inside : Bool} {c : Cursor} {next : Reader}
    (h : r.continueParagraph? inside c s ahead = some next) : next.StartsOn s := by
  refine startsOn_of_no_fence fun f => ?_
  simp only [continueParagraph?] at h
  split at h
  · cases h
    simp [leave]
  · split at h
    · contradiction
    · split at h
      · contradiction
      · cases h
        simp

theorem startsOn_continueDefinition {inside : Bool} {c : Cursor} {next : Reader}
    (h : r.continueDefinition? inside c s ahead = some next) : next.StartsOn s := by
  simp only [continueDefinition?] at h
  split at h
  · contradiction
  · cases h
    exact startsOn_startParagraph _ _ _ _

theorem startsOn_getD {next? : Option Reader} {other : Reader}
    (h : ∀ next, next? = some next → next.StartsOn s) (hother : other.StartsOn s) :
    (next?.getD other).StartsOn s := by
  cases next? with
  | none => exact hother
  | some next => exact h next rfl

/-- Where no block is open, none ends, and one may start. -/
theorem startsOn_step (h : ∀ f, r.leaf ≠ .fence f) :
    (r.step s ahead).1 = none ∧ (r.step s ahead).2.StartsOn s := by
  have hrestart := startsOn_start r (enterAll { rest := s.text } r.enclosure.containers).1 ahead
    (passes_enterAll r.enclosure.containers { rest := s.text }).suffix
  simp only [step]
  split
  · exact ⟨rfl, startsOn_continueRow h⟩
  · split
    · exact ⟨rfl, hrestart⟩
    · exact ⟨rfl, startsOn_getD (fun _ => startsOn_continueParagraph) hrestart⟩
    · next f hf => exact absurd hf (h f)
    · split
      · exact ⟨rfl, startsOn_of_no_fence fun f => afterHtml_htmlUntil_ne_fence _ _ f⟩
      · exact ⟨rfl, hrestart⟩
    · split
      · exact ⟨rfl, startsOn_of_no_fence (by simp [stay])⟩
      · exact ⟨rfl, hrestart⟩
    · split
      · exact ⟨rfl, startsOn_of_no_fence (by simp [continueIndented, stay])⟩
      · exact ⟨rfl, hrestart⟩
    · exact ⟨rfl, startsOn_of_no_fence (by simp)⟩
    · exact ⟨rfl, startsOn_getD (fun _ => startsOn_continueDefinition) hrestart⟩

/-- A segment keeps the open block where it stands, and a block that ends in
it stands behind the earlier ones. -/
theorem holds_step (hsegs : Segmented (s :: ahead)) (hoffset : r.offset = read.bytes) {done : Nat}
    (h : r.Holds done read (s :: ahead)) :
    ∃ done', (r.step s ahead).2.Holds done' (read ++ s.full) ahead ∧ done ≤ done' ∧
      ∀ block ∈ (r.step s ahead).1, EndsIn (read ++ s.full) done done' block := by
  cases hleaf : r.leaf with
  | fence f =>
    obtain ⟨outside, hread, hdone, hstands⟩ := h.2 f hleaf
    have hc := passes_enterAll r.enclosure.containers { rest := s.text }
    simp only [step, hleaf]
    split
    · exact ⟨done, holds_continueRow hsegs hoffset h, Nat.le_refl _, by simp⟩
    · next hmid =>
      rw [Bool.eq_false_iff.mpr hmid] at hstands
      split
      · exact holds_continueFence hsegs hoffset hread hdone hstands hc
      · refine ⟨read.bytes, holds_of_startsOn hsegs (startsOn_start r _ ahead hc.suffix)
          (Nat.le_refl _), h.1, ?_⟩
        rintro block ⟨⟩
        exact (endsIn_finish hoffset hread hdone hstands).append s.full
  | _ =>
    have hno : ∀ f, r.leaf ≠ .fence f := by simp [hleaf]
    obtain ⟨hnone, hstarts⟩ : (r.step s ahead).1 = none ∧ (r.step s ahead).2.StartsOn s :=
      startsOn_step hno
    exact ⟨done, holds_of_startsOn hsegs hstarts h.1, Nat.le_refl _, by simp [hnone]⟩

/-! ## 3. A whole document -/

/-- The blocks stand in the document, one after the other. -/
theorem liesIn_of_mem_blocks {segs : List Segment} (hsegs : Segmented segs)
    (hoffset : r.offset = read.bytes) {done : Nat} (h : r.Holds done read segs) :
    (∀ block ∈ r.blocks segs, block.LiesIn (read ++ segs.flatMap Segment.full) ∧
      done ≤ block.range.start) ∧
    (r.blocks segs).Pairwise fun b b' => b.range.stop ≤ b'.range.start := by
  induction segs generalizing r read done with
  | nil =>
    simp only [blocks]
    split
    · next f hleaf =>
      obtain ⟨outside, hread, hdone, hstands⟩ := h.2 f hleaf
      have hends := endsIn_finish hoffset hread hdone hstands
      refine ⟨fun block hblock => ?_, List.pairwise_singleton _ _⟩
      obtain rfl := List.mem_singleton.mp hblock
      exact ⟨hends.1.append _, hends.2.1⟩
    · exact ⟨by simp, .nil⟩
  | cons s ahead ih =>
    obtain ⟨done', hnext, hle, hends⟩ := holds_step hsegs hoffset h
    have hahead : Segmented ahead := by
      cases hsegs with
      | last _ => exact .nil
      | cons _ _ hmore => exact hmore
    obtain ⟨hlies, horder⟩ := ih
      (r := { (r.step s ahead).2 with offset := r.offset + s.full.bytes })
      hahead (by rw [Text.bytes_append, hoffset]) hnext
    rw [blocks, List.flatMap_cons, ← List.append_assoc]
    refine ⟨fun block hblock => ?_, List.pairwise_append.mpr ⟨?_, horder, ?_⟩⟩
    · rcases List.mem_append.mp hblock with hblock | hblock
      · have hblock := hends block (Option.mem_toList.mp hblock)
        exact ⟨hblock.1.append _, hblock.2.1⟩
      · exact ⟨(hlies block hblock).1, Nat.le_trans hle (hlies block hblock).2⟩
    · exact pairwise_toList _ _
    · intro b hb b' hb'
      exact Nat.le_trans (hends b (Option.mem_toList.mp hb)).2.2 (hlies b' hb').2

end Reader

/-- The fenced blocks of a document stand in it, one after the other. -/
theorem liesIn_of_mem_fencedBlocks (document : Text) :
    (∀ block ∈ fencedBlocks document, block.LiesIn document) ∧
      (fencedBlocks document).Pairwise fun b b' => b.range.stop ≤ b'.range.start := by
  have hstart : Reader.Holds 0 [] (segments document) {} :=
    ⟨Nat.le_refl _, fun f hf => by simp at hf⟩
  obtain ⟨hlies, horder⟩ := Reader.liesIn_of_mem_blocks (segmented_segments document) rfl hstart
  rw [List.nil_append, flatMap_full_segments] at hlies
  exact ⟨fun block hblock => (hlies block hblock).1, horder⟩

/-! ## 4. The events -/

theorem hull_texts (block : FencedBlock) :
    Span.hull block.texts = block.body.map Stretch.range := by
  rw [FencedBlock.texts]
  cases block.body <;> rfl

theorem filterMap_textRange?_events (block : FencedBlock) :
    block.events.filterMap Event.textRange? = block.texts := by
  rw [FencedBlock.events, FencedBlock.texts]
  cases block.body <;> rfl

theorem reports_flatMap_events (blocks : List FencedBlock) :
    Reports (blocks.flatMap FencedBlock.events) blocks := by
  induction blocks with
  | nil => exact .nil
  | cons block blocks ih => simpa [FencedBlock.events] using Reports.block (hull_texts block) ih

/-- The reader finds the fenced blocks of every source. -/
theorem reads_events (source : Text) : Reads events source (fencedBlocks source) where
  reports := reports_flatMap_events _
  liesIn := (liesIn_of_mem_fencedBlocks source).1

theorem exists_body_of_mem_texts {block : FencedBlock} {range : Span} (h : range ∈ block.texts) :
    ∃ body, block.body = some body ∧ range = body.range := by
  obtain ⟨body, hbody, rfl⟩ := Option.map_eq_some_iff.mp (Option.mem_toList.mp h)
  exact ⟨body, hbody, rfl⟩

/-- The reader keeps to every source. -/
theorem inSource_events (source : Text) : InSource source (events source) := by
  obtain ⟨hlies, horder⟩ := liesIn_of_mem_fencedBlocks source
  refine ⟨fun e he range hrange => ?_, ?_⟩
  · obtain ⟨block, hblock, he⟩ := List.mem_flatMap.mp he
    rw [FencedBlock.events, List.mem_cons, List.mem_append, List.mem_map,
      List.mem_singleton] at he
    rcases he with rfl | ⟨range', hrange', rfl⟩ | rfl
    · contradiction
    · cases hrange
      obtain ⟨body, hbody, rfl⟩ := exists_body_of_mem_texts hrange'
      exact ⟨_, (hlies block hblock).slice?_body hbody⟩
    · cases hrange
      exact ⟨_, (hlies block hblock).slice?_range⟩
  · rw [events, List.filterMap_flatMap, List.pairwise_flatMap]
    simp only [filterMap_textRange?_events]
    refine ⟨fun _ _ => pairwise_toList _ _, horder.imp_of_mem fun {b b'} hb hb' hle => ?_⟩
    intro range hrange range' hrange'
    obtain ⟨body, hbody, rfl⟩ := exists_body_of_mem_texts hrange
    obtain ⟨body', hbody', rfl⟩ := exists_body_of_mem_texts hrange'
    -- Each body lies inside its block, and the blocks stand one after the other.
    have hin := (hlies b hb).range_body hbody
    have hin' := (hlies b' hb').range_body hbody'
    have hle_stop : body.range.start ≤ body.range.stop := Nat.le_add_right _ _
    have hle_stop' : body'.range.start ≤ body'.range.stop := Nat.le_add_right _ _
    omega

end PlanScript.Markdown
