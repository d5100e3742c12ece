/-
PlanScript.Proofs.Fixture.Frontmatter — a fixture is split at its marks.

A fixture is written as an opening mark, the frontmatter, a closing mark and
the body, each mark on a line of its own and byte order marks before the
first one (`IsWritten`). Splitting it gives back the frontmatter without the
line endings it ends with, and every character of the body
(`split_of_isWritten`).

The closing mark is looked for in the text behind the opening one and its line
ending. It is found unless no line of that text starts with a mark
(`breakAtMark_eq_none_iff`). Where a frontmatter has no mark, it is found
behind the frontmatter and not before (`breakAtMark_append`): a mark has no
line ending in it, so an occurrence cannot begin in the frontmatter and end
behind it.
-/
import Mathlib.Data.List.DropRight
import PlanScript.Fixture.Read
import PlanScript.Proofs.Text.Search

namespace PlanScript

namespace Frontmatter

/-! ## 1. Line endings -/

/-- How a line ends. -/
inductive LineEnd where
  | lineFeed
  | returnLineFeed
deriving DecidableEq, Repr

def LineEnd.text : LineEnd → Text
  | lineFeed => ['\n']
  | returnLineFeed => ['\r', '\n']

/-- The second text stands behind the line ending that the first one may start
with. -/
def BehindLineEnd (t rest : Text) : Prop :=
  (∃ e : LineEnd, t = e.text ++ rest) ∨ (t = rest ∧ ∀ e : LineEnd, ¬ e.text <+: t)

@[simp] theorem dropLineEnd_text (e : LineEnd) (t : Text) : dropLineEnd (e.text ++ t) = t := by
  cases e <;> rfl

theorem dropLineEnd_eq_self {t : Text} (h : ∀ e : LineEnd, ¬ e.text <+: t) : dropLineEnd t = t := by
  unfold dropLineEnd
  split
  · next rest => exact absurd ⟨rest, rfl⟩ (h .lineFeed)
  · next rest => exact absurd ⟨rest, rfl⟩ (h .returnLineFeed)
  · rfl

/-- One line ending is dropped at the start, if there is one. -/
theorem behindLineEnd_iff {t rest : Text} : BehindLineEnd t rest ↔ dropLineEnd t = rest := by
  constructor
  · rintro (⟨e, rfl⟩ | ⟨rfl, hnone⟩)
    · exact dropLineEnd_text e rest
    · exact dropLineEnd_eq_self hnone
  · rintro rfl
    by_cases hstart : ∃ e : LineEnd, e.text <+: t
    · obtain ⟨e, rest, rfl⟩ := hstart
      exact .inl ⟨e, by rw [dropLineEnd_text]⟩
    · rw [not_exists] at hstart
      exact .inr ⟨(dropLineEnd_eq_self hstart).symm, hstart⟩

/-- The second text is the first one without the line feeds and carriage
returns at its end. -/
structure EndStripped (t kept : Text) : Prop where
  append : ∃ ends, t = kept ++ ends ∧ ∀ c ∈ ends, c = '\n' ∨ c = '\r'
  last : ∀ c ∈ kept.getLast?, c ≠ '\n' ∧ c ≠ '\r'

/-- Line feeds and carriage returns at the end are dropped, and nothing else. -/
theorem endStripped_dropLineEnds (t : Text) : EndStripped t (dropLineEnds t) where
  append := by
    refine ⟨t.rtakeWhile fun c => c = '\n' || c = '\r', ?_, ?_⟩
    · exact (List.rdropWhile_append_rtakeWhile ..).symm
    · intro c hc
      simpa using List.mem_rtakeWhile_imp hc
  last := by
    intro c hc
    simpa using Text.getLast?_reverse_dropWhile _ t c hc

theorem dropLineEnds_append (t : Text) {ends : Text} (h : ∀ c ∈ ends, c = '\n' ∨ c = '\r') :
    dropLineEnds (t ++ ends) = dropLineEnds t := by
  rw [dropLineEnds, List.reverse_append, List.dropWhile_append_of_pos, dropLineEnds]
  intro c hc
  simpa using h c (List.mem_reverse.mp hc)

/-! ## 2. Marks -/

/-- No line of the text starts with a mark. -/
def HasNoMark (t : Text) : Prop := ¬ mark <+: t ∧ ¬ '\n' :: mark <:+: t

theorem breakAtMark_eq_none_iff (t : Text) : breakAtMark t = none ↔ HasNoMark t := by
  rw [HasNoMark, ← Text.startsWith_iff, ← Text.hasInfix_iff, breakAtMark, Text.startsWith,
    Text.hasInfix]
  cases Text.dropPrefix? mark t with
  | some rest => simp
  | none => cases Text.breakOn ('\n' :: mark) t <;> simp

/-- A carriage return at the end of a text makes no mark. -/
theorem HasNoMark.append_return {t : Text} (h : HasNoMark t) : HasNoMark (t ++ ['\r']) := by
  refine ⟨?_, ?_⟩
  · intro hstart
    exact h.1 (Text.prefix_of_prefix_append_cons (by decide) hstart)
  · intro hwithin
    rcases Text.infix_of_infix_append_cons (by decide) hwithin with hleft | hright
    · exact h.2 hleft
    · exact absurd hright (by decide)

/-- The first mark behind a text without one is found. -/
theorem breakAtMark_lineFeed {t : Text} (h : HasNoMark t) (rest : Text) :
    breakAtMark (t ++ '\n' :: (mark ++ rest)) = some (t, rest) := by
  have hstart : Text.dropPrefix? mark (t ++ '\n' :: (mark ++ rest)) = none := by
    rw [← Option.not_isSome_iff_eq_none, ← Text.startsWith, Text.startsWith_iff]
    intro hmark
    exact h.1 (Text.prefix_of_prefix_append_cons (by decide) hmark)
  have hbreak : Text.breakOn ('\n' :: mark) (t ++ '\n' :: (mark ++ rest))
      = some (t, '\n' :: (mark ++ rest)) := by
    refine Text.breakOn_eq_some_iff.mpr ⟨rfl, List.prefix_append ('\n' :: mark) rest, ?_⟩
    intro before found hsplit hfound
    refine Nat.le_of_not_lt fun hshort => ?_
    -- An earlier occurrence would start in the text and, as a mark has no line
    -- feed, end in it as well.
    obtain ⟨u, hu, rfl, rfl⟩ := Text.exists_between_cuts hsplit hshort
    obtain ⟨c, u, rfl⟩ := List.exists_cons_of_ne_nil hu
    obtain ⟨rfl, hmark⟩ := List.cons_prefix_cons.mp hfound
    have hinside := Text.prefix_of_prefix_append_cons (by decide) hmark
    have hline : '\n' :: mark <+: '\n' :: u := List.cons_prefix_cons.mpr ⟨rfl, hinside⟩
    exact h.2 (hline.isInfix.trans (List.suffix_append before _).isInfix)
  rw [breakAtMark, hstart, hbreak]
  rfl

/-- The mark behind a text without one is found, however its last line ends. -/
theorem breakAtMark_append {t : Text} (h : HasNoMark t) (e : LineEnd) (rest : Text) :
    ∃ ends, breakAtMark (t ++ e.text ++ mark ++ rest) = some (t ++ ends, rest) ∧
      ∀ c ∈ ends, c = '\n' ∨ c = '\r' := by
  cases e with
  | lineFeed =>
    have hfound := breakAtMark_lineFeed h rest
    exact ⟨[], by simpa [LineEnd.text] using hfound, by simp⟩
  | returnLineFeed =>
    have hfound := breakAtMark_lineFeed h.append_return rest
    exact ⟨['\r'], by simpa [LineEnd.text] using hfound, by simp⟩

theorem breakAtMark_mark (rest : Text) : breakAtMark (mark ++ rest) = some ([], rest) := by
  rw [breakAtMark, Text.dropPrefix?_append]

/-! ## 3. Splitting -/

/-- The text starts with a mark, behind byte order marks, and the second text
stands behind it. -/
def Opens (content rest : Text) : Prop :=
  ∃ n, content = List.replicate n '\uFEFF' ++ mark ++ rest

theorem dropPrefix?_mark_eq_some_iff {content rest : Text} :
    Text.dropPrefix? mark (content.dropWhile (· = '\uFEFF')) = some rest ↔ Opens content rest := by
  constructor
  · intro h
    have hmarks : content.takeWhile (· = '\uFEFF')
        = List.replicate (content.takeWhile (· = '\uFEFF')).length '\uFEFF' := by
      refine List.eq_replicate_of_mem fun c hc => ?_
      simpa using List.all_eq_true.mp List.all_takeWhile c hc
    refine ⟨(content.takeWhile (· = '\uFEFF')).length, ?_⟩
    rw [List.append_assoc, ← Text.eq_append_of_dropPrefix? h, ← hmarks,
      List.takeWhile_append_dropWhile]
  · rintro ⟨n, rfl⟩
    have hdrop : (List.replicate n '\uFEFF' ++ mark ++ rest).dropWhile (· = '\uFEFF')
        = mark ++ rest := by
      rw [List.append_assoc, List.dropWhile_append_of_pos (by simp)]
      rfl
    rw [hdrop, Text.dropPrefix?_append]

theorem split_eq_missingOpening_iff (content : Text) :
    split content = .error .missingOpening ↔ ∀ rest, ¬ Opens content rest := by
  simp only [← dropPrefix?_mark_eq_some_iff]
  rw [split]
  cases Text.dropPrefix? mark (content.dropWhile (· = '\uFEFF')) with
  | none => simp
  | some rest => cases h : breakAtMark (dropLineEnd rest) <;> simp [h]

/-- Behind an opening mark, all depends on where the next one is. -/
theorem split_of_opens {content rest : Text} (h : Opens content rest) :
    split content = match breakAtMark (dropLineEnd rest) with
      | none => .error .missingClosing
      | some (front, body) => .ok (dropLineEnds front, dropLineEnd body) := by
  have hopening := dropPrefix?_mark_eq_some_iff.mpr h
  cases hbreak : breakAtMark (dropLineEnd rest) with
  | none => simp [split, hopening, hbreak]
  | some cut => simp [split, hopening, hbreak]

theorem split_eq_missingClosing_iff (content : Text) :
    split content = .error .missingClosing ↔
      ∃ rest after, Opens content rest ∧ BehindLineEnd rest after ∧ HasNoMark after := by
  constructor
  · intro h
    have hopens : ∃ rest, Opens content rest := by
      refine Classical.byContradiction fun hnone => ?_
      rw [(split_eq_missingOpening_iff content).mpr (not_exists.mp hnone)] at h
      contradiction
    obtain ⟨rest, hrest⟩ := hopens
    refine ⟨rest, dropLineEnd rest, hrest, behindLineEnd_iff.mpr rfl, ?_⟩
    rw [← breakAtMark_eq_none_iff]
    rw [split_of_opens hrest] at h
    cases hbreak : breakAtMark (dropLineEnd rest) with
    | none => rfl
    | some cut => simp [hbreak] at h
  · rintro ⟨rest, after, hrest, hafter, hnone⟩
    rw [split_of_opens hrest, behindLineEnd_iff.mp hafter,
      (breakAtMark_eq_none_iff after).mpr hnone]

/-- The text of a fixture with a frontmatter and a body. There may be no
frontmatter, not even a line for it. -/
inductive IsWritten : (front body content : Text) → Prop where
  | filled (marks : Nat) (opening ending closing : LineEnd) {front : Text} (body : Text)
      (hfront : HasNoMark front) :
      IsWritten front body (List.replicate marks '\uFEFF' ++ mark ++ opening.text ++ front
        ++ ending.text ++ mark ++ closing.text ++ body)
  | empty (marks : Nat) (opening closing : LineEnd) (body : Text) :
      IsWritten [] body (List.replicate marks '\uFEFF' ++ mark ++ opening.text ++ mark
        ++ closing.text ++ body)

theorem split_of_isWritten {front body content : Text} (h : IsWritten front body content) :
    split content = .ok (dropLineEnds front, body) := by
  cases h with
  | filled marks opening ending closing _ hfront =>
    have hopens : Opens _
        (opening.text ++ (front ++ ending.text ++ mark ++ (closing.text ++ body))) := ⟨marks, rfl⟩
    obtain ⟨ends, hbreak, hends⟩ := breakAtMark_append hfront ending (closing.text ++ body)
    have hsplit := split_of_opens hopens
    rw [dropLineEnd_text, hbreak] at hsplit
    simpa [dropLineEnds_append front hends] using hsplit
  | empty marks opening closing =>
    have hopens : Opens _ (opening.text ++ (mark ++ (closing.text ++ body))) := ⟨marks, rfl⟩
    have hsplit := split_of_opens hopens
    rw [dropLineEnd_text, breakAtMark_mark] at hsplit
    simpa using hsplit

end Frontmatter

/-! ## 4. Reading -/

namespace Fixture

open Frontmatter

variable {toml : Text → Option Toml.Entries}

theorem parse_of_split {content front body : Text}
    (h : Frontmatter.split content = .ok (front, body)) :
    parse content toml = match (toml front).bind Expectations.ofEntries? with
      | some expectations => .ok { expectations, body }
      | none => .error .malformed := by
  rw [parse, h]
  simp only [bind, Except.bind]
  cases (toml front).bind Expectations.ofEntries? <;> rfl

/-- A text that cannot be split is no fixture, for the same reason. -/
theorem parse_eq_error_iff_split {content : Text} {e : FixtureError} (he : e ≠ .malformed) :
    parse content toml = .error e ↔ Frontmatter.split content = .error e := by
  cases h : Frontmatter.split content with
  | error e' => rw [parse, h]; simp [bind, Except.bind]
  | ok parts =>
    obtain ⟨front, body⟩ := parts
    rw [parse_of_split h]
    cases (toml front).bind Expectations.ofEntries? <;> simp [he.symm]

end Fixture

open Frontmatter

/-- A fixture is split at its marks, whatever reads the frontmatter.

* Written with a frontmatter and a body, it is the body with what the
  frontmatter says, the line endings at its end left out.
* It is reported to have no opening mark exactly when it does not start with
  one, behind byte order marks.
* It is reported to have no closing mark exactly when it has an opening one,
  and no line behind that mark and its line ending starts with another. -/
theorem fixture_splits_at_marks (content : Text) (toml : Text → Option Toml.Entries) :
    (∀ front body, IsWritten front body content → ∃ kept, EndStripped front kept ∧
      Frontmatter.split content = .ok (kept, body) ∧
      Fixture.parse content toml = match (toml kept).bind Expectations.ofEntries? with
        | some expectations => .ok { expectations, body }
        | none => .error .malformed) ∧
    (Fixture.parse content toml = .error .missingOpening ↔ ∀ rest, ¬ Opens content rest) ∧
    (Fixture.parse content toml = .error .missingClosing ↔
      ∃ rest after, Opens content rest ∧ BehindLineEnd rest after ∧ HasNoMark after) := by
  refine ⟨?_, ?_, ?_⟩
  · intro front body hwritten
    have hsplit := split_of_isWritten hwritten
    exact ⟨dropLineEnds front, endStripped_dropLineEnds front, hsplit,
      Fixture.parse_of_split hsplit⟩
  · rw [Fixture.parse_eq_error_iff_split (by decide), split_eq_missingOpening_iff]
  · rw [Fixture.parse_eq_error_iff_split (by decide), split_eq_missingClosing_iff]

/-- Blank lines on both sides of the closing mark: those before it belong to
the frontmatter and are left out, those behind it belong to the body. -/
theorem fixture_splits_at_marks_blank_lines :
    IsWritten "expect_count = 2\r\n".toList "\n---\na = 1\n".toList
        "\uFEFF---\r\nexpect_count = 2\r\n\r\n---\n\n---\na = 1\n".toList ∧
      Fixture.parse "\uFEFF---\r\nexpect_count = 2\r\n\r\n---\n\n---\na = 1\n".toList Toml.parse?
        = .ok { expectations := { count := some 2 }, body := "\n---\na = 1\n".toList } := by
  have hfront : HasNoMark "expect_count = 2\r\n".toList :=
    (breakAtMark_eq_none_iff _).mp (by decide)
  have hparts : "\uFEFF---\r\nexpect_count = 2\r\n\r\n---\n\n---\na = 1\n".toList
      = List.replicate 1 '\uFEFF' ++ mark ++ LineEnd.text .returnLineFeed
        ++ "expect_count = 2\r\n".toList ++ LineEnd.text .returnLineFeed ++ mark
        ++ LineEnd.text .lineFeed ++ "\n---\na = 1\n".toList := by decide
  have hwritten := IsWritten.filled 1 .returnLineFeed .returnLineFeed .lineFeed
    "\n---\na = 1\n".toList hfront
  rw [← hparts] at hwritten
  obtain ⟨kept, _, hsplit, hparse⟩ := (fixture_splits_at_marks _ Toml.parse?).1 _ _ hwritten
  have hkept : kept = "expect_count = 2".toList := by
    rw [split_of_isWritten hwritten] at hsplit
    exact (Prod.mk.inj (Except.ok.inj hsplit)).1.symm.trans (by decide)
  have hread : (Toml.parse? "expect_count = 2".toList).bind Expectations.ofEntries?
      = some { count := some 2 } := by decide +kernel
  rw [hkept, hread] at hparse
  exact ⟨hwritten, hparse⟩

end PlanScript
