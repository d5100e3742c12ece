/-
PlanScript.Proofs.Nesting.Matching — cutting a well nested text.

The searches in a line cut it at a place outside every literal and bracket,
or at the bracket that closes a group. Both cuts keep what is well nested:

* `WellNested.of_append`: where a balanced text ends, the text falls into
  two well nested ones. This covers every place that a search for top-level
  characters can stop at (`WellNested.of_cut`).
* `WellNested.of_group`: the group that a text starts with has a well nested
  body, and a well nested text follows it.

So the closing bracket that the counts find is the one that the grammar
pairs with the first (`closingOffset?_group`). For texts that are merely
balanced this fails: on `([)](a)` the counts find the last bracket.
-/
import PlanScript.Proofs.Nesting.Grammar
import PlanScript.Proofs.Nesting.Cut
import PlanScript.Proofs.Text.Trim

namespace PlanScript

/-! ## 1. Places outside every bracket -/

theorem wellNested_of_plain {t : Text} (h : t.all isPlain = true) : WellNested allKinds t := by
  induction t with
  | nil => exact .nil
  | cons c t ih =>
    rw [List.all_cons, Bool.and_eq_true] at h
    exact .other (isOther_of_isPlain h.1) (ih h.2)

/-- Brackets that cross do so whatever follows them. -/
theorem Interleaved.append {u : Text} (h : Interleaved u) (v : Text) : Interleaved (u ++ v) := by
  obtain ⟨before, b, body, rest, rfl, hbefore, hbody, hfail⟩ := h
  exact ⟨before, b, body, rest ++ v, by simp, hbefore, hbody, hfail⟩

/-- Brackets that cross do so behind every text that leaves no literal open. -/
theorem Interleaved.prepend {u v : Text} (hu : WellNested noKind u) (h : Interleaved v) :
    Interleaved (u ++ v) := by
  obtain ⟨before, b, body, rest, rfl, hbefore, hbody, hfail⟩ := h
  exact ⟨u ++ before, b, body, rest, by simp, hu.append hbefore, hbody, hfail⟩

/-- A well nested text falls into two where a balanced one ends. -/
theorem WellNested.of_append {u v : Text} (h : WellNested allKinds (u ++ v)) (hu : Balanced u) :
    WellNested allKinds u ∧ WellNested allKinds v := by
  have hno := h.not_interleaved
  have hleft : WellNested allKinds u := by
    refine hu.wellNested ?_
    intro hcross
    exact hno (hcross.append v)
  refine ⟨hleft, (hu.of_append h.balanced).wellNested ?_⟩
  intro hcross
  exact hno (hcross.prepend hleft.forget)

theorem WellNested.of_plain_append {u v : Text} (hu : ∀ c ∈ u, isPlain c = true)
    (h : WellNested allKinds (u ++ v)) : WellNested allKinds v :=
  (h.of_append (balanced_of_plain hu)).2

/-- A search for places outside every bracket cuts a well nested text into
well nested ones. -/
theorem WellNested.of_cut {wanted : Place → Bool} (htop : OnlyTopLevel wanted) {t left right : Text}
    (h : WellNested allKinds t) (hcut : cut wanted t = some (left, right)) :
    ∃ p : Place, wanted p = true ∧ p.next = right.head? ∧ t = left ++ p.char :: right ∧
      WellNested allKinds left ∧ WellNested allKinds (p.char :: right) := by
  obtain ⟨m, c, rfl, hm, hc⟩ := place_of_cutFrom hcut
  -- Outside every bracket there is one state, the one that the scan began in.
  have hstart : m = {} := by
    refine ScanState.eq_start_of_isTopLevel ?_ (ScanState.escaped_of_after? hm fun _ => rfl)
    rw [← Bool.not_eq_false]
    intro hfalse
    rw [htop _ hfalse] at hc
    contradiction
  subst hstart
  exact ⟨_, hc, rfl, rfl, h.of_append hm⟩

/-! ## 2. White space at the ends -/

theorem isPlain_of_isBlank {c : Char} (h : isBlank c = true) : isPlain c = true := by
  refine isPlain_of_holds ⟨by decide, by decide⟩ ?_ h
  intro b
  cases b <;> decide

theorem isPlain_of_allBlank {w : Text} (h : w.allBlank = true) : ∀ c ∈ w, isPlain c = true :=
  fun c hc => isPlain_of_isBlank ((Text.allBlank_iff w).mp h c hc)

/-- A balanced text may lose plain characters at its end: they cannot have
ended a literal. -/
theorem Balanced.of_append_plain {u w : Text} (hw : ∀ c ∈ w, isPlain c = true)
    (h : Balanced (u ++ w)) : Balanced u := by
  rw [Balanced, ScanState.after?_append] at h
  obtain ⟨m, hm, hrest⟩ := Option.bind_eq_some_iff.mp h
  cases hquote : m.quote with
  | none =>
    rw [ScanState.after?_of_plain hw hquote] at hrest
    rw [Balanced, hm, hrest]
  | some q =>
    obtain ⟨d, _, escaped⟩ := m
    obtain rfl : _ = some q := hquote
    have hq : isQuote q = true := by
      refine ScanState.isQuote_of_after? hm ?_ q rfl
      intro _ hnone
      contradiction
    obtain ⟨body, rest, rfl, _⟩ := Literal.exists_body_of_after? hrest rfl
    have hplain := hw q (by simp)
    simp [isPlain, hq] at hplain

/-- Trimming takes away nothing that a scan takes note of. -/
theorem Balanced.trim {t : Text} (h : Balanced t) : Balanced t.trim := by
  obtain ⟨w₁, w₂, h₁, h₂, ht⟩ := Text.exists_eq_append_trim t
  rw [ht] at h
  have hfront : Balanced (w₁ ++ t.trim) := h.of_append_plain (isPlain_of_allBlank h₂)
  exact (balanced_of_plain (isPlain_of_allBlank h₁)).of_append hfront

/-- Trimming a well nested text leaves a well nested one. -/
theorem WellNested.trim {t : Text} (h : WellNested allKinds t) : WellNested allKinds t.trim := by
  obtain ⟨w₁, w₂, h₁, h₂, ht⟩ := Text.exists_eq_append_trim t
  rw [ht, List.append_assoc] at h
  have hstart := h.of_plain_append (isPlain_of_allBlank h₁)
  exact (hstart.of_append (hstart.balanced.of_append_plain (isPlain_of_allBlank h₂))).1

/-! ## 3. Groups -/

/-- The group that is cut off a well nested text is the one that the grammar
finds there. -/
theorem WellNested.of_group {t : Text} (h : WellNested allKinds t) {g : Group}
    (hg : Group.ofText? t = some g) : WellNested allKinds g.body ∧ WellNested allKinds g.rest := by
  rw [eq_append_of_ofText? hg] at h hg
  obtain ⟨body, rest, ht, hbody, hrest⟩ := h.exists_group trivial
  rw [ht, ofText?_group hbody.balanced] at hg
  rw [← Option.some.inj hg]
  exact ⟨hbody, hrest⟩

/-- The body of a text that is one group. -/
theorem WellNested.of_enclosed {b : Bracket} {t body : Text} (h : WellNested allKinds t)
    (hbody : enclosed? b t = some body) : WellNested allKinds body :=
  (h.of_group (group_of_enclosed? hbody)).1

/-- The bracket at a byte offset closes the one that the text starts with: a
well nested text stands between them. -/
def ClosedAt (t : Text) (offset : Nat) : Prop :=
  ∃ b body rest, t = Bracket.opener b :: (body ++ b.closer :: rest) ∧ WellNested allKinds body ∧
    offset = Text.bytes (b.opener :: body)

/-- The closing bracket of a group is found at its place. -/
theorem closingOffset?_group {body : Text} (hbody : Balanced body) (b : Bracket) (rest : Text) :
    closingOffset? (b.opener :: (body ++ b.closer :: rest))
      = some (Text.bytes (b.opener :: body)) := by
  rw [closingOffset?, ofText?_group hbody, Text.bytes_cons, b.utf8Size_opener]
  rfl

/-- In a well nested text the first bracket is closed, and where the counts
find it to be. -/
theorem closingOffset?_eq_some_iff {b : Bracket} {t : Text}
    (h : WellNested allKinds (b.opener :: t)) :
    (∃ offset, ClosedAt (b.opener :: t) offset) ∧
      ∀ offset, closingOffset? (b.opener :: t) = some offset ↔ ClosedAt (b.opener :: t) offset := by
  obtain ⟨body, rest, rfl, hbody, _⟩ := h.exists_group trivial
  have hclosed : ClosedAt (b.opener :: (body ++ b.closer :: rest))
      (Text.bytes (b.opener :: body)) :=
    ⟨b, body, rest, rfl, hbody, rfl⟩
  refine ⟨⟨_, hclosed⟩, ?_⟩
  intro offset
  constructor
  · intro hfound
    rw [closingOffset?_group hbody.balanced] at hfound
    rwa [← Option.some.inj hfound]
  · rintro ⟨a, inner, after, hsplit, hinner, rfl⟩
    rw [hsplit]
    exact closingOffset?_group hinner.balanced a after

end PlanScript
