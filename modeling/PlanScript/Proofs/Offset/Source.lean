/-
PlanScript.Proofs.Offset.Source — finding the statement lines by byte
offsets.

The search for the statements joins the ranges of the texts in a fenced block,
from the start of the first one to the end of the last one, and slices the
source at the ranges it gets. All that is asked of the events of the Markdown
reader is that they keep to the source (`Markdown.InSource`): their ranges are
ranges of the source, and texts come in the order in which they stand. Then
the region is found (`codeRegion_eq`).

The lines of the region are trimmed and cut at a fence marker, again by
offsets (`linesFrom_eq`).
-/
import PlanScript.Proofs.Offset.Basic
import PlanScript.Proofs.Source.Region

namespace PlanScript.Offset

open Markdown (EventReader InSource Span)

/-! ## 1. The region -/

/-- The body of a block, unless it is blank. -/
def filled? (source : Text) : Option Span → Checked (Option Span)
  | none => return none
  | some body => do
    if (← slice source body.start body.stop).trim.isEmpty then return none else return some body

/-- The body of the first block that looks closed and is not blank, among the
events that are still to come. `inFence` tells whether a fenced block is open,
and `body` is the range of its text so far. -/
def regionFrom (source : Text) (inFence : Bool) (body : Option Span) :
    List Markdown.Event → Checked Span
  | [] => return ⟨0, source.bytes⟩
  | .fence :: rest => regionFrom source true none rest
  | .text range :: rest =>
    if inFence then regionFrom source inFence (some (growBody body range)) rest
    else regionFrom source inFence body rest
  | .blockEnd range :: rest => do
    if inFence then
      match ← filled? source body with
      | some code =>
        if looksClosed (← slice source range.start range.stop) then return code
        else regionFrom source false none rest
      | none => regionFrom source false none rest
    else regionFrom source inFence body rest
  | .other :: rest => regionFrom source inFence body rest

/-- The range of the part of a source that holds statements. -/
def codeRegion (events : List Markdown.Event) (source : Text) : Checked Span :=
  if hasMarker source then regionFrom source false none events else return ⟨0, source.bytes⟩

theorem filled?_eq {source : Text} {body : Option Span}
    (h : ∀ b ∈ body, ∃ t, Text.slice? b.start b.stop source = some t) :
    filled? source body = .ok (body.filter fun b => !(b.text source).allBlank) := by
  cases body with
  | none => rfl
  | some b =>
    obtain ⟨t, ht⟩ := h b rfl
    have hblank : t.trim.isEmpty = t.allBlank := by
      rw [Bool.eq_iff_iff, List.isEmpty_iff, Text.trim_eq_nil_iff]
    rw [filled?, slice_eq_ok_iff.mpr ht, ok_bind, hblank, Option.filter_some,
      Span.text_of_slice? ht]
    cases t.allBlank <;> rfl

/-- The end of a fenced block settles the region, or the search goes on. -/
theorem regionFrom_blockEnd {source t : Text} {body : Option Span} {range : Span}
    (hbody : ∀ b ∈ body, ∃ t, Text.slice? b.start b.stop source = some t)
    (ht : Text.slice? range.start range.stop source = some t) (events : List Markdown.Event) :
    regionFrom source true body (.blockEnd range :: events)
      = match statementBody? source body range with
        | some b => .ok b
        | none => regionFrom source false none events := by
  have hboth : statementBody? source body range
      = (body.filter fun b => !(b.text source).allBlank).filter fun _ =>
          looksClosed (range.text source) := by
    rw [statementBody?, Option.filter_filter]
  rw [regionFrom, if_pos rfl, filled?_eq hbody, ok_bind, hboth]
  cases body.filter fun b => !(b.text source).allBlank with
  | none => rfl
  | some b =>
    simp only [slice_eq_ok_iff.mpr ht, ok_bind, Option.filter_some, Span.text_of_slice? ht]
    cases looksClosed t <;> rfl

/-- As long as the events keep to the source, the region is found, and its
range is a range of the source. -/
theorem regionFrom_eq {source : Text} {events : List Markdown.Event}
    (h : InSource source events) (inFence : Bool) {body : Option Span}
    (hbody : ∀ b ∈ body, (∃ t, Text.slice? b.start b.stop source = some t) ∧
      ∀ r ∈ events.filterMap Markdown.Event.textRange?, b.start ≤ r.stop) :
    regionFrom source inFence body events
        = .ok (PlanScript.regionFrom source inFence body events) ∧
      ∃ t, Text.slice? (PlanScript.regionFrom source inFence body events).start
        (PlanScript.regionFrom source inFence body events).stop source = some t := by
  induction events generalizing inFence body with
  | nil => exact ⟨rfl, source, Text.slice?_whole source⟩
  | cons e events ih =>
    cases e with
    | fence => exact ih h.of_cons true (by simp)
    | other => exact ih h.of_cons inFence hbody
    | text range =>
      obtain ⟨t, ht⟩ := h.sliced _ (List.mem_cons_self ..) range rfl
      have hranges : (.text range :: events).filterMap Markdown.Event.textRange?
          = range :: events.filterMap Markdown.Event.textRange? := rfl
      have horder := h.inOrder
      rw [hranges, List.pairwise_cons] at horder
      simp only [hranges, List.forall_mem_cons] at hbody
      cases inFence with
      | false => exact ih h.of_cons false fun b hb => ⟨(hbody b hb).1, (hbody b hb).2.2⟩
      | true =>
        refine ih h.of_cons true ?_
        cases body with
        | none =>
          rintro b ⟨⟩
          exact ⟨⟨t, ht⟩, horder.1⟩
        | some b =>
          obtain ⟨⟨u, hu⟩, hhere, hlater⟩ := hbody b rfl
          rintro _ ⟨⟩
          exact ⟨Text.exists_slice?_of_le hu ht hhere, hlater⟩
    | blockEnd range =>
      cases inFence with
      | false => exact ih h.of_cons false hbody
      | true =>
        obtain ⟨t, ht⟩ := h.sliced _ (List.mem_cons_self ..) range rfl
        have hslices : ∀ b ∈ body, ∃ u, Text.slice? b.start b.stop source = some u :=
          fun b hb => (hbody b hb).1
        rw [regionFrom_blockEnd hslices ht, PlanScript.regionFrom, if_pos rfl]
        cases hchosen : statementBody? source body range with
        | none => exact ih h.of_cons false (by simp)
        | some b => exact ⟨rfl, hslices b (Option.filter_eq_some_iff.mp hchosen).1⟩

theorem codeRegion_eq {source : Text} {markdown : EventReader}
    (h : InSource source (markdown source)) :
    codeRegion (markdown source) source = .ok (statementRange source markdown) ∧
      ∃ t, Text.slice? (statementRange source markdown).start
        (statementRange source markdown).stop source = some t := by
  rw [codeRegion, statementRange]
  split
  · exact regionFrom_eq h false (by simp)
  · exact ⟨rfl, source, Text.slice?_whole source⟩

/-! ## 2. Lines -/

/-- The byte offset of the first occurrence of a pattern. -/
def occurrence? (pattern t : Text) : Option Nat :=
  (Text.breakOn pattern t).map fun (before, _) => before.bytes

/-- What is left of a line that has a marker of one kind. -/
def stripMarker (kind : FenceKind) (line : Text) : Checked (Option Text) := do
  if Text.startsWith kind.marker line then return some []
  match occurrence? kind.marker line with
  | some offset =>
    let info := Text.trim ((← sliceFrom line offset).dropWhile (· = kind.char))
    if info.isEmpty then return some (← sliceTo line offset).trimEnd
    else if info.all isInfoChar then return some []
    else return none
  | none => return none

/-- What is left of a line with a fence marker, backticks tried first. -/
def stripFence (line : Text) : Checked (Option Text) := do
  match ← stripMarker .backtick line with
  | some rest => return some rest
  | none => stripMarker .tilde line

/-- The statement line that a raw line at an offset holds. -/
def lineOfRaw (offset : Nat) (raw : Text) : Checked (Option Line) := do
  let trimmed := raw.trim
  let text := (← stripFence trimmed).getD trimmed
  if isSilent text then return none
  let leading ← minus raw.bytes raw.trimStart.bytes
  return some ⟨text, offset + leading⟩

/-- The statement lines among raw lines that start at an offset. -/
def linesFrom (offset : Nat) : List Text → Checked (List Line)
  | [] => return []
  | raw :: rest => do
    let line? ← lineOfRaw offset raw
    return line?.toList ++ (← linesFrom (offset + raw.bytes) rest)

/-- The statement lines of a source. -/
def preprocess (events : List Markdown.Event) (source : Text) : Checked (List Line) := do
  let region ← codeRegion events source
  let text ← slice source region.start region.stop
  linesFrom region.start (Text.lines text)

theorem stripMarker_eq (kind : FenceKind) (line : Text) :
    stripMarker kind line = .ok (stripMarker? kind line) := by
  rw [stripMarker, stripMarker?, occurrence?]
  split
  · rfl
  · cases hbreak : Text.breakOn kind.marker line with
    | none => rfl
    | some parts =>
      obtain ⟨before, found⟩ := parts
      obtain rfl := Text.append_of_breakOn hbreak
      simp only [Option.map_some, sliceFrom_append, sliceTo_append, ok_bind, pure_eq_ok,
        Option.bind_some]
      split
      · rfl
      · split <;> rfl

theorem stripFence_eq (line : Text) : stripFence line = .ok (stripFence? line) := by
  rw [stripFence, stripMarker_eq, stripMarker_eq, stripFence?]
  cases stripMarker? .backtick line <;> rfl

theorem lineOfRaw_eq (offset : Nat) (raw : Text) :
    lineOfRaw offset raw = .ok (Line.ofRaw? offset raw) := by
  have hbytes := congrArg Text.bytes (Text.takeWhile_append_trimStart raw)
  rw [Text.bytes_append] at hbytes
  have hleading : minus raw.bytes raw.trimStart.bytes
      = .ok (Text.bytes (raw.takeWhile isBlank)) := by
    rw [minus_of_le (by omega)]
    congr 1
    omega
  simp only [lineOfRaw, stripFence_eq, hleading, ok_bind, pure_eq_ok, Line.ofRaw?]
  split <;> rfl

/-- The lines of a text are found without a breach. -/
theorem linesFrom_eq (offset : Nat) (raws : List Text) :
    linesFrom offset raws = .ok (PlanScript.linesFrom offset raws) := by
  induction raws generalizing offset with
  | nil => rfl
  | cons raw rest ih =>
    rw [linesFrom, lineOfRaw_eq, ih]
    rfl

/-- As long as the events keep to the source, its statement lines are found. -/
theorem preprocess_eq {source : Text} {markdown : EventReader}
    (h : InSource source (markdown source)) :
    preprocess (markdown source) source = .ok (statementLines source markdown) := by
  obtain ⟨hregion, t, ht⟩ := codeRegion_eq h
  rw [preprocess, hregion, ok_bind, slice_eq_ok_iff.mpr ht, ok_bind, linesFrom_eq,
    statementLines, statementRegion, Markdown.Span.text_of_slice? ht]

end PlanScript.Offset
