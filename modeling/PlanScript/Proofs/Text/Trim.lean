/-
PlanScript.Proofs.Text.Trim — what trimming leaves, and names as trimmed
texts.

* `exists_eq_append_trim`: a text is its trimmed text between two runs of
  white space, and `trim_surround` says the converse: such runs around a
  text do not change what trimming leaves.
* `trimmed_iff` describes the texts that trimming does not change by their
  two ends, so that a line is trimmed as soon as its first and its last
  part are (`Trimmed.join`).
* `trimmed_of_isIdentifier`: no white space stands in an identifier. The
  tables of letters and of white space are compared once, code point by
  code point (`continuesIdentifier_of_isBlank`); nothing else opens them.
-/
import PlanScript.Text.Blank
import PlanScript.Text.Letter
import PlanScript.Proofs.Text.Search

namespace PlanScript

namespace Text

/-! ## 1. Runs of white space -/

theorem allBlank_iff (w : Text) : w.allBlank = true ↔ ∀ c ∈ w, isBlank c = true :=
  List.all_eq_true

@[simp] theorem allBlank_nil : allBlank [] = true := rfl

theorem allBlank_append_iff {s t : Text} :
    allBlank (s ++ t) = true ↔ s.allBlank = true ∧ t.allBlank = true := by
  rw [allBlank, List.all_append, Bool.and_eq_true, allBlank, allBlank]

theorem trimStart_blank_append {w : Text} (hw : w.allBlank = true) (t : Text) :
    trimStart (w ++ t) = trimStart t :=
  List.dropWhile_append_of_pos ((allBlank_iff w).mp hw)

theorem trimEnd_append_blank (t : Text) {w : Text} (hw : w.allBlank = true) :
    trimEnd (t ++ w) = trimEnd t := by
  have hrev : ∀ c ∈ w.reverse, isBlank c = true := fun c hc =>
    (allBlank_iff w).mp hw c (List.mem_reverse.mp hc)
  rw [trimEnd, List.reverse_append, List.dropWhile_append_of_pos hrev, trimEnd]

theorem trimStart_eq_nil_iff (t : Text) : trimStart t = [] ↔ t.allBlank = true := by
  rw [allBlank_iff, trimStart]
  induction t with
  | nil => simp
  | cons c rest ih =>
    by_cases hc : isBlank c
    · rw [List.dropWhile_cons_of_pos hc, ih]
      simp [hc]
    · rw [List.dropWhile_cons_of_neg hc]
      simp [hc]

/-- A part that is not blank keeps what stands before it. -/
theorem trimEnd_append_of_not_blank (s : Text) {t : Text} (ht : t.allBlank = false) :
    trimEnd (s ++ t) = s ++ trimEnd t := by
  have hkept : ¬ (trimStart t.reverse).isEmpty = true := by
    rw [List.isEmpty_iff, trimStart_eq_nil_iff, allBlank, List.all_reverse, ← allBlank, ht]
    exact Bool.false_ne_true
  rw [trimEnd, List.reverse_append, List.dropWhile_append, ← trimStart, if_neg hkept,
    List.reverse_append, List.reverse_reverse]
  rfl

/-! ## 2. Trimming both ends -/

/-- Trimming the end of a text cuts off a run of white space. -/
theorem exists_eq_trimEnd_append (t : Text) :
    ∃ w : Text, w.allBlank = true ∧ t = trimEnd t ++ w := by
  refine ⟨(t.reverse.takeWhile isBlank).reverse, ?_, (trimEnd_append t).symm⟩
  rw [allBlank, List.all_reverse]
  exact List.all_takeWhile

/-- A text is its trimmed text between two runs of white space. -/
theorem exists_eq_append_trim (t : Text) :
    ∃ w₁ w₂ : Text, w₁.allBlank = true ∧ w₂.allBlank = true ∧ t = w₁ ++ trim t ++ w₂ := by
  obtain ⟨w, hw, hend⟩ := exists_eq_trimEnd_append (trimStart t)
  refine ⟨t.takeWhile isBlank, w, List.all_takeWhile, hw, ?_⟩
  rw [List.append_assoc, trim, ← hend, takeWhile_append_trimStart]

theorem trim_infix (t : Text) : trim t <:+: t := by
  obtain ⟨w₁, w₂, _, _, ht⟩ := exists_eq_append_trim t
  exact ⟨w₁, w₂, ht.symm⟩

/-- White space around a text does not change what trimming leaves. -/
theorem trim_append_blanks {w₁ w₂ : Text} (h₁ : w₁.allBlank = true) (h₂ : w₂.allBlank = true)
    (t : Text) : trim (w₁ ++ t ++ w₂) = trim t := by
  have hstart : trimStart (t ++ w₂) = if (trimStart t).isEmpty then trimStart w₂
      else trimStart t ++ w₂ := List.dropWhile_append
  rw [List.append_assoc, trim, trimStart_blank_append h₁, hstart]
  split
  · next hempty =>
    rw [(trimStart_eq_nil_iff w₂).mpr h₂, trim, List.isEmpty_iff.mp hempty]
  · rw [trimEnd_append_blank _ h₂, trim]

theorem mem_trim {c : Char} (hc : isBlank c = false) {t : Text} (h : c ∈ t) : c ∈ trim t := by
  obtain ⟨w₁, w₂, h₁, h₂, ht⟩ := exists_eq_append_trim t
  have hnot : ∀ w : Text, w.allBlank = true → c ∉ w := by
    intro w hw hmem
    rw [(allBlank_iff w).mp hw c hmem] at hc
    contradiction
  rw [ht, List.mem_append, List.mem_append] at h
  exact (h.resolve_right (hnot w₂ h₂)).resolve_left (hnot w₁ h₁)

theorem trim_eq_nil_iff (t : Text) : trim t = [] ↔ t.allBlank = true := by
  constructor
  · intro h
    obtain ⟨w₁, w₂, h₁, h₂, ht⟩ := exists_eq_append_trim t
    rw [ht, h, List.append_nil, allBlank, List.all_append, Bool.and_eq_true]
    exact ⟨h₁, h₂⟩
  · intro h
    have htrim := trim_append_blanks h allBlank_nil []
    rwa [List.append_nil, List.append_nil] at htrim

/-! ## 3. Trimmed texts -/

/-- A text without white space at its ends. -/
def Trimmed (t : Text) : Prop := trim t = t

theorem trimmed_nil : Trimmed [] := rfl

theorem isBlank_head?_trim (t : Text) : ∀ c ∈ (trim t).head?, isBlank c = false := by
  intro c hc
  have hstart : (trimStart t).head? = some c := by
    have happ := trimEnd_append (trimStart t)
    rw [← trim] at happ
    cases htrim : trim t with
    | nil => rw [htrim] at hc; simp at hc
    | cons d rest =>
      rw [htrim] at hc happ
      rw [← happ]
      simpa using hc
  have hnot := List.head?_dropWhile_not isBlank t
  rw [← trimStart, hstart] at hnot
  simpa using hnot

theorem isBlank_getLast?_trimEnd (t : Text) : ∀ c ∈ (trimEnd t).getLast?, isBlank c = false :=
  getLast?_reverse_dropWhile isBlank t

theorem isBlank_getLast?_trim (t : Text) : ∀ c ∈ (trim t).getLast?, isBlank c = false :=
  isBlank_getLast?_trimEnd (trimStart t)

theorem trimStart_eq_self {t : Text} (h : ∀ c ∈ t.head?, isBlank c = false) :
    trimStart t = t := by
  cases t with
  | nil => rfl
  | cons c rest => exact List.dropWhile_cons_of_neg (by simp [h c rfl])

theorem trimEnd_eq_self {t : Text} (h : ∀ c ∈ t.getLast?, isBlank c = false) :
    trimEnd t = t := by
  have hrev : trimStart t.reverse = t.reverse :=
    trimStart_eq_self fun c hc => h c (by rwa [List.head?_reverse] at hc)
  rw [trimStart] at hrev
  rw [trimEnd, hrev, List.reverse_reverse]

/-- A text is trimmed when no white space stands at either end. -/
theorem trimmed_iff (t : Text) :
    Trimmed t ↔ (∀ c ∈ t.head?, isBlank c = false) ∧ (∀ c ∈ t.getLast?, isBlank c = false) := by
  constructor
  · intro h
    have hhead := isBlank_head?_trim t
    have hlast := isBlank_getLast?_trim t
    rw [h] at hhead hlast
    exact ⟨hhead, hlast⟩
  · rintro ⟨hhead, hlast⟩
    rw [Trimmed, trim, trimStart_eq_self hhead, trimEnd_eq_self hlast]

theorem trimmed_trim (t : Text) : Trimmed (trim t) :=
  (trimmed_iff _).mpr ⟨isBlank_head?_trim t, isBlank_getLast?_trim t⟩

theorem Trimmed.trim_surround {t : Text} (h : Trimmed t) {w₁ w₂ : Text}
    (h₁ : w₁.allBlank = true) (h₂ : w₂.allBlank = true) : trim (w₁ ++ t ++ w₂) = t := by
  rw [trim_append_blanks h₁ h₂, h]

/-- The start of a trimmed text is trimmed as soon as its end is. -/
theorem Trimmed.trimEnd_of_prefix {t s : Text} (h : Trimmed t) (hs : trimEnd s <+: t) :
    Trimmed (trimEnd s) := by
  refine (trimmed_iff _).mpr ⟨fun c hc => ?_, isBlank_getLast?_trimEnd s⟩
  obtain ⟨rest, rfl⟩ := hs
  refine ((trimmed_iff _).mp h).1 c ?_
  rw [List.head?_append, Option.mem_def.mp hc]
  rfl

/-- Only the first and the last part decide whether a text is trimmed. -/
theorem Trimmed.join {a b : Text} (ha : Trimmed a) (hb : Trimmed b) (hane : a ≠ [])
    (hbne : b ≠ []) (middle : Text) : Trimmed (a ++ middle ++ b) := by
  rw [trimmed_iff] at ha hb ⊢
  constructor
  · intro c hc
    rw [List.append_assoc, List.head?_append] at hc
    cases a with
    | nil => exact absurd rfl hane
    | cons d rest => exact ha.1 c (by simpa using hc)
  · intro c hc
    rw [List.getLast?_append] at hc
    cases hlast : b.getLast? with
    | none => exact absurd (List.getLast?_eq_none_iff.mp hlast) hbne
    | some d =>
      rw [hlast] at hc
      exact hb.2 c (by rw [hlast]; simpa using hc)

/-- A trimmed text that ends in a run of white space ends in an empty one. -/
theorem Trimmed.eq_nil_of_append_blank {t w : Text} (h : Trimmed (t ++ w))
    (hw : w.allBlank = true) : w = [] := by
  cases hlast : w.getLast? with
  | none => exact List.getLast?_eq_none_iff.mp hlast
  | some c =>
    have hend : (t ++ w).getLast? = some c := by rw [List.getLast?_append, hlast]; rfl
    have hnot := ((trimmed_iff _).mp h).2 c hend
    rw [(allBlank_iff w).mp hw c (List.mem_of_getLast? hlast)] at hnot
    contradiction

/-- A trimmed text that starts with a run of white space starts with an
empty one. -/
theorem Trimmed.eq_nil_of_blank_append {t w : Text} (h : Trimmed (w ++ t))
    (hw : w.allBlank = true) : w = [] := by
  cases w with
  | nil => rfl
  | cons c rest =>
    have hnot := ((trimmed_iff _).mp h).1 c rfl
    rw [(allBlank_iff _).mp hw c (List.mem_cons_self ..)] at hnot
    contradiction

/-- Trimming the end of a text keeps its start, when that is no white
space. -/
theorem Trimmed.trimEnd_append {t : Text} (h : Trimmed t) {w : Text} (hw : w.allBlank = true) :
    trimEnd (t ++ w) = t := by
  rw [trimEnd_append_blank t hw]
  exact trimEnd_eq_self ((trimmed_iff t).mp h).2

/-! ## 4. Identifiers -/

end Text

/-- A code point that a table has lies in one of its ranges. -/
theorem Ranges.exists_mem_of_has {n : Nat} :
    ∀ {r : Ranges}, r.has n = true → ∃ p ∈ r, p.1 ≤ n ∧ n ≤ p.2
  | [], h => by simp [has] at h
  | (low, high) :: rest, h => by
      simp only [has] at h
      split at h
      · contradiction
      · next hlow =>
        rcases Bool.or_eq_true _ _ |>.mp h with hhigh | hrest
        · exact ⟨(low, high), List.mem_cons_self .., by omega, by simpa using hhigh⟩
        · obtain ⟨p, hp, hle⟩ := exists_mem_of_has hrest
          exact ⟨p, List.mem_cons_of_mem _ hp, hle⟩

/-- White space does not go on an identifier. -/
theorem continuesIdentifier_of_isBlank {c : Char} (h : isBlank c = true) :
    continuesIdentifier c = false := by
  have hall : ∀ p ∈ blankRanges, ∀ k ≤ p.2 - p.1,
      continuesIdentifier (Char.ofNat (p.1 + k)) = false := by decide +kernel
  obtain ⟨p, hp, hlow, hhigh⟩ := Ranges.exists_mem_of_has h
  have hc := hall p hp (c.toNat - p.1) (by omega)
  rwa [show p.1 + (c.toNat - p.1) = c.toNat by omega, Char.ofNat_toNat] at hc

theorem isBlank_of_continuesIdentifier {c : Char} (h : continuesIdentifier c = true) :
    isBlank c = false := by
  cases hblank : isBlank c with
  | false => rfl
  | true =>
    rw [continuesIdentifier_of_isBlank hblank] at h
    contradiction

theorem continuesIdentifier_of_isDigit {c : Char} (h : c.isDigit = true) :
    continuesIdentifier c = true := by
  have hlt : c.toNat < 128 := by
    simp only [Char.isDigit, Bool.and_eq_true, decide_eq_true_eq] at h
    exact Nat.lt_of_le_of_lt (UInt32.le_iff_toNat_le.mp h.2) (by decide)
  simp [continuesIdentifier, isLetterOrNumeral, isNumeral, hlt, h]

theorem continuesIdentifier_of_startsIdentifier {c : Char} (h : startsIdentifier c = true) :
    continuesIdentifier c = true := by
  simp only [startsIdentifier, continuesIdentifier, isLetterOrNumeral, Bool.or_eq_true] at h ⊢
  exact h.imp_left .inl

namespace Text

theorem ne_nil_of_isIdentifier {t : Text} (h : t.isIdentifier = true) : t ≠ [] := by
  rintro rfl
  simp [isIdentifier] at h

theorem continuesIdentifier_of_mem {t : Text} (h : t.isIdentifier = true) :
    ∀ c ∈ t, continuesIdentifier c = true := by
  cases t with
  | nil => simp
  | cons d rest =>
    simp only [isIdentifier, Bool.and_eq_true, List.all_eq_true] at h
    intro c hc
    rcases List.mem_cons.mp hc with rfl | hc
    · exact continuesIdentifier_of_startsIdentifier h.1
    · exact h.2 c hc

/-- An identifier holds no white space, so trimming does not change it. -/
theorem trimmed_of_isIdentifier {t : Text} (h : t.isIdentifier = true) : Trimmed t := by
  have hblank : ∀ c ∈ t, isBlank c = false := fun c hc =>
    isBlank_of_continuesIdentifier (continuesIdentifier_of_mem h c hc)
  rw [trimmed_iff]
  exact ⟨fun c hc => hblank c (List.mem_of_head? hc),
    fun c hc => hblank c (List.mem_of_getLast? hc)⟩

end Text

end PlanScript
