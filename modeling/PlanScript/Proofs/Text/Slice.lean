/-
PlanScript.Proofs.Text.Slice — stretches of a text by their byte offsets.

What `Text.slice?` reads stands between as many bytes as the offsets say
(`slice?_eq_some_iff`), and text in front moves the offsets and nothing else
(`slice?_append`).
-/
import PlanScript.Text.Slice

namespace PlanScript.Text

theorem cutAfter?_append (front rest : Text) :
    cutAfter? front.bytes (front ++ rest) = some (front, rest) := by
  induction front with
  | nil => cases rest <;> simp [cutAfter?]
  | cons c front ih =>
    have hpos := c.utf8Size_pos
    have hne : c.utf8Size + bytes front ≠ 0 := by omega
    have hle : c.utf8Size ≤ c.utf8Size + bytes front := Nat.le_add_right _ _
    rw [bytes_cons, List.cons_append, cutAfter?, if_neg hne, if_pos hle, Nat.add_sub_cancel_left,
      ih]
    rfl

theorem cutAfter?_eq_some_iff {n : Nat} {t front rest : Text} :
    cutAfter? n t = some (front, rest) ↔ t = front ++ rest ∧ front.bytes = n := by
  constructor
  · intro h
    fun_induction cutAfter? n t generalizing front with
    | case1 => cases h; exact ⟨rfl, rfl⟩
    | case2 => contradiction
    | case3 => cases h; exact ⟨rfl, rfl⟩
    | case4 n c t hn hle ih =>
      obtain ⟨⟨front', rest'⟩, hcut, heq⟩ := Option.map_eq_some_iff.mp h
      cases heq
      obtain ⟨rfl, hbytes⟩ := ih hcut
      exact ⟨rfl, by rw [bytes_cons, hbytes]; omega⟩
    | case5 => contradiction
  · rintro ⟨rfl, rfl⟩
    exact cutAfter?_append front rest

/-- A slice stands between as many bytes as its offsets say. -/
theorem slice?_eq_some_iff {start stop : Nat} {source t : Text} :
    slice? start stop source = some t ↔
      ∃ before after, source = before ++ t ++ after ∧ before.bytes = start ∧
        start + t.bytes = stop := by
  rw [slice?]
  constructor
  · intro h
    split at h
    · next hle =>
      obtain ⟨⟨before, rest⟩, hbefore, hrest⟩ := Option.bind_eq_some_iff.mp h
      obtain ⟨⟨t', after⟩, hcut, rfl⟩ := Option.map_eq_some_iff.mp hrest
      obtain ⟨rfl, hstart⟩ := cutAfter?_eq_some_iff.mp hbefore
      obtain ⟨rfl, hstop⟩ := cutAfter?_eq_some_iff.mp hcut
      exact ⟨before, after, (List.append_assoc ..).symm, hstart, by simp only; omega⟩
    · contradiction
  · rintro ⟨before, after, rfl, rfl, rfl⟩
    rw [if_pos (Nat.le_add_right _ _), List.append_assoc, cutAfter?_append,
      Nat.add_sub_cancel_left]
    simp only [Option.bind_some, cutAfter?_append, Option.map_some]

theorem slice?_whole (t : Text) : slice? 0 t.bytes t = some t :=
  slice?_eq_some_iff.mpr ⟨[], [], by simp, rfl, Nat.zero_add _⟩

/-- The start of a slice and the end of a later one are the ends of a slice. -/
theorem exists_slice?_of_le {source t t' : Text} {start stop start' stop' : Nat}
    (ht : slice? start stop source = some t) (ht' : slice? start' stop' source = some t')
    (h : start ≤ stop') : ∃ u, slice? start stop' source = some u := by
  obtain ⟨before, after, hsource, hstart, _⟩ := slice?_eq_some_iff.mp ht
  obtain ⟨before', after', hsource', hstart', hstop'⟩ := slice?_eq_some_iff.mp ht'
  have hfront : before <+: source := ⟨t ++ after, by simp [hsource]⟩
  have hback : before' ++ t' <+: source := ⟨after', hsource'.symm⟩
  rcases List.prefix_or_prefix_of_prefix hfront hback with ⟨u, hu⟩ | ⟨u, hu⟩
  · refine ⟨u, slice?_eq_some_iff.mpr ⟨before, after', by rw [hu, hsource'], hstart, ?_⟩⟩
    have hbytes := congrArg bytes hu
    simp only [bytes_append] at hbytes
    omega
  · have hbytes := congrArg bytes hu
    simp only [bytes_append] at hbytes
    refine ⟨[], slice?_eq_some_iff.mpr ⟨before, t ++ after, by simp [hsource], hstart, ?_⟩⟩
    rw [bytes_nil]
    omega

/-- A cut behind the first part of a text is a cut of the second part. -/
theorem cutAfter?_add_bytes (n : Nat) (u v : Text) :
    cutAfter? (n + u.bytes) (u ++ v)
      = (cutAfter? n v).map fun (front, rest) => (u ++ front, rest) := by
  induction u with
  | nil =>
    cases h : cutAfter? n v <;> simp [h]
  | cons c u ih =>
    have hpos := c.utf8Size_pos
    have hne : n + (c.utf8Size + bytes u) ≠ 0 := by omega
    have hle : c.utf8Size ≤ n + (c.utf8Size + bytes u) := by omega
    have hrest : n + (c.utf8Size + bytes u) - c.utf8Size = n + bytes u := by omega
    rw [bytes_cons, List.cons_append, cutAfter?, if_neg hne, if_pos hle, hrest, ih]
    cases cutAfter? n v <;> rfl

/-- Text in front of a slice moves its offsets. -/
theorem slice?_append (start stop : Nat) (u v : Text) :
    slice? (start + u.bytes) (stop + u.bytes) (u ++ v) = slice? start stop v := by
  have hlength : stop + u.bytes - (start + u.bytes) = stop - start := by omega
  have hle : start + u.bytes ≤ stop + u.bytes ↔ start ≤ stop := by omega
  rw [slice?, slice?, cutAfter?_add_bytes, hlength]
  simp only [hle]
  cases cutAfter? start v <;> rfl

end PlanScript.Text
