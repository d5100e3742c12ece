/-
PlanScript.Proofs.Markdown.Report — what is relied on of a Markdown reader.

A reader is a parameter of everything that looks for statements, so a
statement about the fenced blocks of a source says first how its reader
treats them. Two conditions are enough.

* `InSource` — the ranges of the events are ranges of the source, and texts
  come in the order in which they stand. This is what keeps every slice of the
  source in bounds (`Proofs.Offset.Source`).
* `Reads` — the events report certain blocks, and these stand in the source
  as CommonMark has them. Between the start and the end of a block come its
  texts and nothing else (`Reports`). The block starts with the row of its
  opening fence, and its body goes up to a closing fence or to the end of the
  containers that it lies in (`FencedBlock.LiesIn`).

Neither says how a reader finds its blocks.
-/
import PlanScript.Markdown.Event
import PlanScript.Text.Blank
import PlanScript.Proofs.Text.Slice

namespace PlanScript.Markdown

/-! ## 1. Ranges -/

/-- From the start of the first range to the end of the last one. -/
def Span.hull : List Span → Option Span
  | [] => none
  | first :: more => some ⟨first.start, (more.getLast?.getD first).stop⟩

theorem Span.text_of_slice? {document t : Text} {range : Span}
    (h : Text.slice? range.start range.stop document = some t) : range.text document = t := by
  rw [text, h, Option.getD_some]

/-- A range selects a stretch of the document, if it selects anything. -/
theorem Span.text_stands (document : Text) (range : Span) :
    ∃ before after, document = before ++ range.text document ++ after ∧
      (range.text document ≠ [] → range.start = before.bytes) := by
  rw [text]
  cases hslice : Text.slice? range.start range.stop document with
  | none => exact ⟨[], document, rfl, absurd rfl⟩
  | some t =>
    obtain ⟨before, after, hdocument, hstart, _⟩ := Text.slice?_eq_some_iff.mp hslice
    exact ⟨before, after, hdocument, fun _ => hstart.symm⟩

/-! ## 2. Events -/

/-- The ranges of the events are ranges of the source, and no text ends before
an earlier one starts. -/
structure InSource (source : Text) (events : List Event) : Prop where
  sliced : ∀ e ∈ events, ∀ range ∈ e.range?,
    ∃ t, Text.slice? range.start range.stop source = some t
  inOrder : (events.filterMap Event.textRange?).Pairwise fun r r' => r.start ≤ r'.stop

theorem InSource.of_cons {source : Text} {e : Event} {events : List Event}
    (h : InSource source (e :: events)) : InSource source events where
  sliced := fun e' he' => h.sliced e' (List.mem_cons_of_mem _ he')
  inOrder := h.inOrder.sublist ((List.sublist_cons_self e events).filterMap _)

/-- The events report the blocks. The body of a block is reported as one text
or as several ones. -/
inductive Reports : List Event → List FencedBlock → Prop
  | nil : Reports [] []
  | outside {e : Event} {events : List Event} {blocks : List FencedBlock} :
      e ≠ .fence → Reports events blocks → Reports (e :: events) blocks
  | block {texts : List Span} {block : FencedBlock} {events : List Event}
      {blocks : List FencedBlock} :
      Span.hull texts = block.body.map Stretch.range → Reports events blocks →
      Reports (.fence :: (texts.map .text ++ .blockEnd block.range :: events)) (block :: blocks)

/-! ## 3. Rows -/

/-- The text ends in a line feed. -/
def EndsRow (t : Text) : Prop := ∃ s, t = s ++ ['\n']

theorem EndsRow.prepend {t : Text} (h : EndsRow t) (s : Text) : EndsRow (s ++ t) := by
  obtain ⟨u, rfl⟩ := h
  exact ⟨s ++ u, (List.append_assoc ..).symm⟩

/-- The text holds only what the prefixes of containers are made of. -/
def IsPrefix (t : Text) : Prop := ∀ c ∈ t, c = ' ' ∨ c = '\t' ∨ c = '>'

theorem isPrefix_nil : IsPrefix [] := fun _ hc => absurd hc List.not_mem_nil

theorem IsPrefix.cons {t : Text} (ht : IsPrefix t) {c : Char}
    (hc : c = ' ' ∨ c = '\t' ∨ c = '>') : IsPrefix (c :: t) :=
  List.forall_mem_cons.mpr ⟨hc, ht⟩

theorem IsPrefix.append {s t : Text} (hs : IsPrefix s) (ht : IsPrefix t) : IsPrefix (s ++ t) :=
  fun c hc => (List.mem_append.mp hc).elim (hs c) (ht c)

theorem IsPrefix.noLineFeed {t : Text} (h : IsPrefix t) : '\n' ∉ t := by
  intro hmem
  rcases h _ hmem with heq | heq | heq
  all_goals exact absurd heq (by decide)

/-- Whether fences are made of the character. -/
def IsFenceChar (c : Char) : Prop := c = '\x60' ∨ c = '~'

theorem IsFenceChar.ne {c d : Char} (hc : IsFenceChar c) (hd : d ≠ '\x60' ∧ d ≠ '~') : c ≠ d := by
  rcases hc with rfl | rfl
  · exact hd.1.symm
  · exact hd.2.symm

/-- The text starts with a fence: a run of a fence character that is this long
and no longer. -/
structure OpensWith (c : Char) (length : Nat) (row : Text) : Prop where
  isFenceChar : IsFenceChar c
  three_le : 3 ≤ length
  starts : ∃ info, row = List.replicate length c ++ info ∧ info.head? ≠ some c

theorem OpensWith.eq_cons {c : Char} {length : Nat} {row : Text} (h : OpensWith c length row) :
    ∃ rest, row = c :: rest := by
  obtain ⟨info, rfl, _⟩ := h.starts
  obtain ⟨more, rfl⟩ := Nat.exists_eq_add_of_le' h.three_le
  exact ⟨_, rfl⟩

/-- What comes behind a run that has ended makes it no longer. -/
theorem OpensWith.append {c : Char} {length : Nat} {row : Text} (h : OpensWith c length row)
    {d : Char} (hd : c ≠ d) (more : Text) : OpensWith c length (row ++ d :: more) := by
  obtain ⟨info, rfl, hinfo⟩ := h.starts
  refine ⟨h.isFenceChar, h.three_le, info ++ d :: more, List.append_assoc .., ?_⟩
  cases info with
  | nil => simpa using hd.symm
  | cons e info => simpa using hinfo

/-- The line closes a fence of this length: behind what may prefix a line it
has a run that is at least as long, and only white space after it. -/
def ClosesWith (c : Char) (length : Nat) (line : Text) : Prop :=
  ∃ lead closing after, line = lead ++ List.replicate closing c ++ after ∧ IsPrefix lead ∧
    length ≤ closing ∧ after.allBlank = true

/-! ## 4. Blocks -/

/-- The body lies in the source of its block, which comes after the text
`outside`. -/
structure Stretch.LiesIn (outside source row lead tail : Text) (body : Stretch) : Prop where
  noLineFeed : '\n' ∉ row
  isPrefix : IsPrefix lead
  source_eq : source = row ++ '\n' :: lead ++ body.text ++ tail
  start_eq : body.start = Text.bytes (outside ++ row ++ '\n' :: lead)

/-- What stands after the body of a block that has no closing fence. -/
def IsOpenTail (body : Stretch) (tail : Text) : Prop :=
  tail = [] ∨ IsPrefix tail ∧ EndsRow body.text

/-- What stands after the body of a block that has a closing fence. -/
def IsClosedTail (row : Text) (body : Stretch) (tail : Text) : Prop :=
  EndsRow body.text ∧ ∃ c length, OpensWith c length row ∧ ClosesWith c length tail

namespace FencedBlock

/-- The block stands in the document. Behind its first row come the prefix of
the first line, the body and the tail, which tells whether it is closed. -/
def LiesIn (document : Text) (block : FencedBlock) : Prop :=
  ∃ outside after, document = outside ++ block.source ++ after ∧
    block.start = outside.bytes ∧
    ∀ body ∈ block.body, ∃ row lead tail,
      body.LiesIn outside block.source row lead tail ∧
      if block.closed then IsClosedTail row body tail else IsOpenTail body tail

variable {document : Text} {block : FencedBlock}

theorem LiesIn.append (h : block.LiesIn document) (more : Text) :
    block.LiesIn (document ++ more) := by
  obtain ⟨outside, after, hdocument, hstart, hbody⟩ := h
  exact ⟨outside, after ++ more, by simp [hdocument], hstart, hbody⟩

/-- The range of the block selects it. -/
theorem LiesIn.slice?_range (h : block.LiesIn document) :
    Text.slice? block.range.start block.range.stop document = some block.source := by
  obtain ⟨outside, after, hdocument, hstart, _⟩ := h
  exact Text.slice?_eq_some_iff.mpr ⟨outside, after, hdocument, hstart.symm, rfl⟩

/-- The range of the body selects it. -/
theorem LiesIn.slice?_body (h : block.LiesIn document) {body : Stretch}
    (hbody : block.body = some body) :
    Text.slice? body.range.start body.range.stop document = some body.text := by
  obtain ⟨outside, after, hdocument, _, hlies⟩ := h
  obtain ⟨row, lead, tail, hin, _⟩ := hlies body hbody
  refine Text.slice?_eq_some_iff.mpr
    ⟨outside ++ row ++ '\n' :: lead, tail ++ after, ?_, hin.start_eq.symm, rfl⟩
  rw [hdocument, hin.source_eq]
  simp

/-- The body lies inside the block. -/
theorem LiesIn.range_body (h : block.LiesIn document) {body : Stretch}
    (hbody : block.body = some body) :
    block.range.start ≤ body.range.start ∧ body.range.stop ≤ block.range.stop := by
  obtain ⟨outside, after, _, hstart, hlies⟩ := h
  obtain ⟨row, lead, tail, hin, _⟩ := hlies body hbody
  have hsource := congrArg Text.bytes hin.source_eq
  have hbegin := hin.start_eq
  simp only [Text.bytes_append] at hsource hbegin
  simp only [range, Stretch.range]
  omega

end FencedBlock

/-- The reader finds these blocks in the source. -/
structure Reads (markdown : EventReader) (source : Text) (blocks : List FencedBlock) : Prop where
  reports : Reports (markdown source) blocks
  liesIn : ∀ block ∈ blocks, block.LiesIn source

end PlanScript.Markdown
