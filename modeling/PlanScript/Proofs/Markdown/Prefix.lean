/-
PlanScript.Proofs.Markdown.Prefix — what the cursor leaves behind.

The cursor only ever moves on, so the text at a place is the end of the text
at any place before it. Over the prefixes of containers it passes spaces,
tabs and quote marks and nothing else (`Cursor.Passes`), also where it goes
on only part of a tab. Over list markers it passes other characters too
(`suffix_openContainers`).
-/
import PlanScript.Markdown.Enclosure
import PlanScript.Proofs.Markdown.Report

namespace PlanScript.Markdown

/-! ## 1. Container prefixes -/

namespace Cursor

/-- The second place lies on the same line, a container prefix further on. -/
def Passes (c d : Cursor) : Prop := ∃ passed, IsPrefix passed ∧ c.rest = passed ++ d.rest

variable {c d e : Cursor}

theorem passes_of_rest_eq (h : c.rest = d.rest) : Passes c d := ⟨[], isPrefix_nil, h⟩

theorem Passes.refl (c : Cursor) : Passes c c := passes_of_rest_eq rfl

theorem Passes.trans (hcd : Passes c d) (hde : Passes d e) : Passes c e := by
  obtain ⟨s, hs, hc⟩ := hcd
  obtain ⟨t, ht, hd⟩ := hde
  exact ⟨s ++ t, hs.append ht, by rw [hc, hd, List.append_assoc]⟩

theorem Passes.suffix (h : Passes c d) : d.rest <:+ c.rest := by
  obtain ⟨passed, _, hc⟩ := h
  exact ⟨passed, hc.symm⟩

theorem passes_skipText (limit sinceTab : Nat) (t : Text) :
    ∃ passed, IsPrefix passed ∧ t = passed ++ (skipText limit sinceTab t).2.rest := by
  fun_induction skipText limit sinceTab t with
  | case1 => exact ⟨[], isPrefix_nil, rfl⟩
  | case2 => exact ⟨[], isPrefix_nil, rfl⟩
  | case3 limit sinceTab rest _ ih =>
    obtain ⟨passed, hpassed, hrest⟩ := ih
    exact ⟨' ' :: passed, hpassed.cons (.inl rfl), congrArg _ hrest⟩
  | case4 limit sinceTab rest _ _ width hlt ih =>
    obtain ⟨passed, hpassed, hrest⟩ := ih
    exact ⟨'\t' :: passed, hpassed.cons (.inr (.inl rfl)), congrArg _ hrest⟩
  | case5 => exact ⟨['\t'], isPrefix_nil.cons (.inr (.inl rfl)), rfl⟩
  | case6 => exact ⟨[], isPrefix_nil, rfl⟩

theorem passes_skip (limit : Nat) (c : Cursor) : Passes c (c.skip limit).2 := by
  rw [skip]
  split
  · exact passes_of_rest_eq rfl
  · exact passes_skipText _ _ _

end Cursor

open Cursor (Passes)

theorem passes_quoteMark? {c d : Cursor} (h : quoteMark? c = some d) : Passes c d := by
  simp only [quoteMark?] at h
  split at h
  · next rest hrest =>
    cases h
    have hmark : Passes c (c.forward 1) := by
      refine ⟨['>'], isPrefix_nil.cons (.inr (.inr rfl)), ?_⟩
      rw [Cursor.forward, hrest]
      rfl
    exact hmark.trans (Cursor.passes_skip 1 _)
  · contradiction

theorem passes_enter? {container : Container} {c d : Cursor} (h : container.enter? c = some d) :
    Passes c d := by
  cases container with
  | quote => exact (Cursor.passes_skip 3 c).trans (passes_quoteMark? h)
  | list mark tight =>
    cases h
    exact .refl c
  | item indent =>
    simp only [Container.enter?] at h
    split at h
    · cases h
      exact Cursor.passes_skip indent c
    · contradiction

theorem passes_enterAll (containers : List Container) (c : Cursor) :
    Passes c (enterAll c containers).2 := by
  induction containers generalizing c with
  | nil => exact .refl c
  | cons container inner ih =>
    rw [enterAll]
    split
    · next reached henter => exact (passes_enter? henter).trans (ih reached)
    · exact .refl c

/-! ## 2. List markers -/

theorem suffix_itemStart_after (mark : Char) (indent : Nat) (c : Cursor) :
    (ItemStart.after mark indent c).contents.rest <:+ c.rest := by
  simp only [ItemStart.after]
  split
  · exact List.suffix_refl _
  · split
    · exact (Cursor.passes_skip 4 c).suffix
    · exact List.suffix_refl _

theorem suffix_itemAfter? {mark : Char} {indent length : Nat} {c : Cursor} {start : ItemStart}
    (h : itemAfter? mark indent length c = some start) : start.contents.rest <:+ c.rest := by
  simp only [itemAfter?] at h
  split at h
  · cases h
    exact ((suffix_itemStart_after _ _ _).trans (Cursor.passes_skip 1 _).suffix).trans
      (List.drop_suffix _ _)
  · contradiction

theorem suffix_listItem? {indent : Nat} {c : Cursor} {start : ItemStart}
    (h : listItem? indent c = some start) : start.contents.rest <:+ c.rest := by
  simp only [listItem?] at h
  split at h
  · contradiction
  · split at h
    · split at h
      · contradiction
      · exact suffix_itemAfter? h
    · obtain ⟨marker, _, hitem⟩ := Option.bind_eq_some_iff.mp h
      exact suffix_itemAfter? hitem

theorem suffix_openContainers (fuel : Nat) (e : Enclosure) (c : Cursor) :
    (openContainers fuel e c).cursor.rest <:+ c.rest := by
  induction fuel generalizing e c with
  | zero => exact List.suffix_refl _
  | succ fuel ih =>
    have hskip := (Cursor.passes_skip 4 c).suffix
    simp only [openContainers]
    split
    · exact List.suffix_refl _
    · split
      · next start hitem =>
        have hstart := (suffix_listItem? hitem).trans hskip
        split
        · exact hstart
        · exact (ih _ _).trans hstart
      · split
        · next contents hquote =>
          exact (ih _ _).trans ((passes_quoteMark? hquote).suffix.trans hskip)
        · exact List.suffix_refl _

end PlanScript.Markdown
