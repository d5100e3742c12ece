/-
PlanScript.Proofs.Text.Decimal — which texts are read as which numbers.

`Spells t i` says that `t` is an optional sign and a non-empty run of ASCII
digits with the value `i`; leading zeros count for nothing. Reading a text
gives exactly the number it spells (`toInt?_eq_some_iff`), a signed 64-bit
number when that is in range (`toInt64?_eq_some_iff`), and a number that is
written spells itself (`spells_ofInt`).
-/
import PlanScript.Text.Decimal

namespace PlanScript.Decimal

/-! ## 1. Digits -/

/-- The value of a run of digits, read from the left. -/
def valueOf (ds : Text) : Nat := ds.foldl (fun n c => 10 * n + (c.toNat - 48)) 0

/-- The text is an integer with an optional sign. -/
inductive Spells : Text → Int → Prop
  | unsigned {ds : Text} : ds ≠ [] → (∀ c ∈ ds, c.isDigit = true) → Spells ds (valueOf ds)
  | plus {ds : Text} : ds ≠ [] → (∀ c ∈ ds, c.isDigit = true) → Spells ('+' :: ds) (valueOf ds)
  | minus {ds : Text} : ds ≠ [] → (∀ c ∈ ds, c.isDigit = true) → Spells ('-' :: ds) (-valueOf ds)

theorem digitsFrom?_eq_some_iff (n m : Nat) (t : Text) :
    digitsFrom? n t = some m ↔
      (∀ c ∈ t, c.isDigit = true) ∧ m = t.foldl (fun n c => 10 * n + (c.toNat - 48)) n := by
  induction t generalizing n with
  | nil => simpa [digitsFrom?] using eq_comm
  | cons c rest ih =>
    simp only [digitsFrom?, digit?, List.mem_cons, forall_eq_or_imp, List.foldl_cons]
    by_cases hc : c.isDigit
    · simp [hc, ih]
    · simp [hc]

theorem toNat?_eq_some_iff (m : Nat) (t : Text) :
    toNat? t = some m ↔ t ≠ [] ∧ (∀ c ∈ t, c.isDigit = true) ∧ m = valueOf t := by
  cases t with
  | nil => simp [toNat?]
  | cons c rest =>
    rw [toNat?, digitsFrom?_eq_some_iff]
    simp [valueOf]

/-! ## 2. Reading -/

/-- Reading a text gives the number that the text spells. -/
theorem toInt?_eq_some_iff (i : Int) (t : Text) : toInt? t = some i ↔ Spells t i := by
  constructor
  · intro h
    unfold toInt? at h
    split at h
    · next ds =>
      obtain ⟨m, hm, rfl⟩ := Option.map_eq_some_iff.mp h
      obtain ⟨hne, hds, rfl⟩ := (toNat?_eq_some_iff m ds).mp hm
      exact .plus hne hds
    · next ds =>
      obtain ⟨m, hm, rfl⟩ := Option.map_eq_some_iff.mp h
      obtain ⟨hne, hds, rfl⟩ := (toNat?_eq_some_iff m ds).mp hm
      exact .minus hne hds
    · obtain ⟨m, hm, rfl⟩ := Option.map_eq_some_iff.mp h
      obtain ⟨hne, hds, rfl⟩ := (toNat?_eq_some_iff m t).mp hm
      exact .unsigned hne hds
  · intro h
    cases h with
    | plus hne hds => simp [toInt?, (toNat?_eq_some_iff _ _).mpr ⟨hne, hds, rfl⟩]
    | minus hne hds => simp [toInt?, (toNat?_eq_some_iff _ _).mpr ⟨hne, hds, rfl⟩]
    | unsigned hne hds =>
      have hread := (toNat?_eq_some_iff _ t).mpr ⟨hne, hds, rfl⟩
      unfold toInt?
      split
      · exact absurd (hds '+' (List.mem_cons_self ..)) (by decide)
      · exact absurd (hds '-' (List.mem_cons_self ..)) (by decide)
      · simp [hread]

theorem int64?_eq_some_iff (i : Int) (n : Int64) : int64? i = some n ↔ n.toInt = i := by
  have hlow := n.le_toInt
  have hhigh := n.toInt_lt
  unfold int64?
  split
  · next h =>
    constructor
    · intro hn
      obtain rfl := Option.some.inj hn
      exact Int64.toInt_ofInt_of_le (by omega) (by omega)
    · rintro rfl
      simp
  · next h =>
    constructor
    · intro hn; contradiction
    · rintro rfl
      exact absurd ⟨by omega, by omega⟩ h

/-- A 64-bit number is read from exactly the texts that spell it; a number
out of range is read from none. -/
theorem toInt64?_eq_some_iff (n : Int64) (t : Text) :
    toInt64? t = some n ↔ Spells t n.toInt := by
  rw [toInt64?, Option.bind_eq_some_iff, ← toInt?_eq_some_iff]
  constructor
  · rintro ⟨i, hi, hn⟩
    rw [hi, (int64?_eq_some_iff i n).mp hn]
  · intro h
    exact ⟨n.toInt, h, (int64?_eq_some_iff _ n).mpr rfl⟩

theorem toInt64?_of_spells {t : Text} {i : Int} (h : Spells t i) : toInt64? t = int64? i := by
  rw [toInt64?, (toInt?_eq_some_iff i t).mpr h, Option.bind_some]

/-- The number has a signed 64-bit word. -/
def FitsInt64 (i : Int) : Prop := -0x8000000000000000 ≤ i ∧ i < 0x8000000000000000

instance (i : Int) : Decidable (FitsInt64 i) :=
  inferInstanceAs (Decidable (-0x8000000000000000 ≤ i ∧ i < 0x8000000000000000))

theorem exists_int64?_of_fits {i : Int} (h : FitsInt64 i) :
    ∃ n : Int64, int64? i = some n ∧ n.toInt = i := by
  have hread : int64? i = some (Int64.ofInt i) := if_pos h
  exact ⟨_, hread, (int64?_eq_some_iff i _).mp hread⟩

theorem int64?_eq_none {i : Int} (h : ¬ FitsInt64 i) : int64? i = none := if_neg h

/-! ## 3. Writing -/

theorem valueOf_append_digit (ds : Text) (c : Char) :
    valueOf (ds ++ [c]) = 10 * valueOf ds + (c.toNat - 48) := by
  simp [valueOf]

theorem valueOf_ofNat (n : Nat) : valueOf (ofNat n) = n := by
  induction n using Nat.strongRecOn with
  | ind n ih =>
    unfold ofNat at *
    rw [Nat.toDigits_eq_if (by omega)]
    split
    · next h => simp [valueOf, Nat.toNat_digitChar_of_lt_ten h]
    · next h =>
      have hlast : n % 10 < 10 := by omega
      rw [valueOf_append_digit, ih (n / 10) (by omega), Nat.toNat_digitChar_of_lt_ten hlast]
      omega

theorem isDigit_of_mem_ofNat {n : Nat} : ∀ c ∈ ofNat n, c.isDigit = true := fun _ hc =>
  Nat.isDigit_of_mem_toDigits (by omega) (by omega) hc

/-- A number that is written in decimal spells itself. -/
theorem spells_ofInt (i : Int) : Spells (ofInt i) i := by
  cases i with
  | ofNat n =>
    have h : Spells (ofNat n) (valueOf (ofNat n)) :=
      .unsigned Nat.toDigits_ne_nil isDigit_of_mem_ofNat
    rwa [valueOf_ofNat] at h
  | negSucc n =>
    have h : Spells ('-' :: ofNat (n + 1)) (-valueOf (ofNat (n + 1))) :=
      .minus Nat.toDigits_ne_nil isDigit_of_mem_ofNat
    rw [valueOf_ofNat] at h
    exact h

/-! ## 4. What a number is made of -/

/-- Every character of a number is a digit or a sign. -/
theorem Spells.digit_or_sign {t : Text} {i : Int} (h : Spells t i) :
    ∀ c ∈ t, c.isDigit = true ∨ c = '+' ∨ c = '-' := by
  cases h with
  | unsigned _ hds => exact fun c hc => .inl (hds c hc)
  | plus _ hds =>
    intro c hc
    rcases List.mem_cons.mp hc with rfl | hc
    · exact .inr (.inl rfl)
    · exact .inl (hds c hc)
  | minus _ hds =>
    intro c hc
    rcases List.mem_cons.mp hc with rfl | hc
    · exact .inr (.inr rfl)
    · exact .inl (hds c hc)

end PlanScript.Decimal
