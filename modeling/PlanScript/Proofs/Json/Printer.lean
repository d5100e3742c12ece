/-
PlanScript.Proofs.Json.Printer — JSON values that are printed and read back.

A value can be written when its leaves can (`Writable`), and then a printer
gives one of the texts that hold it (`IsPrinter`). The printer of this library
does so (`isPrinter_print`). A text can always be
written as a string, and the string spells it (`spelled?_written`); a whole
number is written by its decimal digits.
-/
import PlanScript.Proofs.Json.Grammar
import PlanScript.Proofs.Text.Decimal

namespace PlanScript.Json

/-! ## 1. Texts as strings -/

theorem hexDigit?_hexDigit : ∀ n < 16, hexDigit? (hexDigit n) = some n := by decide

/-- The escape of a control character stands for its code. -/
theorem hexUnit?_control {c : Char} (hc : c.toNat < 0x20) :
    hexUnit? ['0', '0', hexDigit (c.toNat / 16), hexDigit (c.toNat % 16)] = some (c.toNat, []) := by
  have hzero : hexDigit? '0' = some 0 := by decide
  have hhigh := hexDigit?_hexDigit (c.toNat / 16) (by omega)
  have hlow := hexDigit?_hexDigit (c.toNat % 16) (by omega)
  simp only [hexUnit?, hzero, hhigh, hlow, Option.bind_eq_bind, Option.bind_some,
    Option.some.injEq, Prod.mk.injEq, and_true]
  omega

theorem ofCode_control {c : Char} (hc : c.toNat < 0x20) : StringUnit.ofCode c.toNat = .char c := by
  have hleading : ¬ (0xD800 ≤ c.toNat ∧ c.toNat < 0xDC00) := by omega
  have htrailing : ¬ (0xDC00 ≤ c.toNat ∧ c.toNat < 0xE000) := by omega
  rw [StringUnit.ofCode, if_neg hleading, if_neg htrailing, Char.ofNat_toNat]

/-- A character is written with a letter, by its code or as it is. -/
theorem writtenChar_cases (c : Char) :
    (∃ d, escaped? d = some c ∧ writtenChar c = ['\\', d]) ∨
    (c.toNat < 0x20 ∧ writtenChar c
      = ['\\', 'u', '0', '0', hexDigit (c.toNat / 16), hexDigit (c.toNat % 16)]) ∨
    (c ≠ '"' ∧ c ≠ '\\' ∧ 0x20 ≤ c.toNat ∧ writtenChar c = [c]) := by
  unfold writtenChar
  split
  · next h =>
    rcases h with rfl | rfl
    · exact .inl ⟨_, rfl, rfl⟩
    · exact .inl ⟨_, rfl, rfl⟩
  · next hself =>
    split
    · next h => exact .inl ⟨'b', by rw [h]; rfl, rfl⟩
    · split
      · next h => exact .inl ⟨'f', by rw [h]; rfl, rfl⟩
      · split
        · next h => exact .inl ⟨'n', by rw [h]; rfl, rfl⟩
        · split
          · next h => exact .inl ⟨'r', by rw [h]; rfl, rfl⟩
          · split
            · next h => exact .inl ⟨'t', by rw [h]; rfl, rfl⟩
            · split
              · next h => exact .inr (.inl ⟨h, rfl⟩)
              · next h =>
                rw [not_or] at hself
                exact .inr (.inr ⟨hself.1, hself.2, by omega, rfl⟩)

theorem isBody_written (t : Text) : IsBody (written t) := by
  induction t with
  | nil => exact .nil
  | cons c t ih =>
    rw [written, List.flatMap_cons, ← written]
    rcases writtenChar_cases c with ⟨d, hd, hc⟩ | ⟨hcontrol, hc⟩ | ⟨hquote, hslash, hplain, hc⟩
    · rw [hc]
      exact .escape hd ih
    · rw [hc]
      exact .code (hexUnit?_control hcontrol) ih
    · rw [hc]
      exact .plain hquote hslash hplain ih

theorem units?_written (t : Text) : units? (written t) = some (t.map .char) := by
  induction t with
  | nil => rfl
  | cons c t ih =>
    rw [written, List.flatMap_cons, ← written, List.map_cons]
    rcases writtenChar_cases c with ⟨d, hd, hc⟩ | ⟨hcontrol, hc⟩ | ⟨hquote, hslash, hplain, hc⟩
    · have hu : d ≠ 'u' := by
        rintro rfl
        contradiction
      simp [hc, units?, hu, hd, ih]
    · simp [hc, units?, hexUnit?_control hcontrol, ofCode_control hcontrol, ih]
    · have hnot : ¬ c.toNat < 0x20 := by omega
      simp [hc, units?, hquote, hslash, hnot, ih]

theorem textOfUnits?_chars (t : Text) : textOfUnits? (t.map .char) = some t := by
  induction t with
  | nil => rfl
  | cons c t ih => simp [textOfUnits?, ih]

/-- The string that is written for a text spells it. -/
theorem spelled?_written (t : Text) : spelled? (written t) = some t := by
  rw [spelled?, units?_written, Option.bind_some, textOfUnits?_chars]

/-! ## 2. Whole numbers -/

/-- A number that is not zero is written without a leading zero. -/
theorem start_ofNat {n : Nat} (hn : n ≠ 0) : ∃ c ds, Decimal.ofNat n = c :: ds ∧ c ≠ '0' := by
  induction n using Nat.strongRecOn with
  | ind n ih =>
    rw [Decimal.ofNat, Nat.toDigits_eq_if (by omega)]
    split
    · next h =>
      refine ⟨_, [], rfl, fun hzero => hn ?_⟩
      have hvalue := Nat.toNat_digitChar_of_lt_ten h
      rw [hzero] at hvalue
      have hcode : Char.toNat '0' = 48 := rfl
      omega
    · next h =>
      obtain ⟨c, ds, hdigits, hc⟩ := ih (n / 10) (by omega) (by omega)
      rw [Decimal.ofNat] at hdigits
      exact ⟨c, ds ++ [Nat.digitChar (n % 10)], by rw [hdigits]; rfl, hc⟩

theorem isWhole_ofNat (n : Nat) : IsWhole (Decimal.ofNat n) := by
  by_cases hn : n = 0
  · rw [hn]
    exact .zero
  · obtain ⟨c, ds, hdigits, hc⟩ := start_ofNat hn
    rw [hdigits]
    refine .digits hc fun d hd => ?_
    rw [← hdigits] at hd
    exact Decimal.isDigit_of_mem_ofNat d hd

theorem isInteger_ofInt (i : Int) : IsInteger (Decimal.ofInt i) := by
  cases i with
  | ofNat n => exact .whole (isWhole_ofNat n)
  | negSucc n => exact .negative (isWhole_ofNat (n + 1))

/-! ## 3. What can be written -/

/-- Some text holds the value. -/
def Writable (j : Json) : Prop := ∃ t, Writes (.value j) t

/-- The printer gives a text of every value that has one. -/
def IsPrinter (print : Json → Text) : Prop := ∀ j, Writable j → IsText j (print j)

theorem gap_nil : Gap [] := by simp [Gap]

theorem gap_space : Gap [' '] := by simp [Gap, isGap]

theorem writable_ofText (t : Text) : Writable (.ofText t) := ⟨_, .string (isBody_written t)⟩

theorem writable_ofNat (n : Nat) : Writable (.ofNat n) := ⟨_, .number (.whole (isWhole_ofNat n))⟩

theorem writable_ofInt (i : Int) : Writable (.ofInt i) := ⟨_, .number (isInteger_ofInt i)⟩

theorem writable_array {items : List Json} (h : ∀ j ∈ items, Writable j) :
    Writable (.array items) := by
  cases items with
  | nil => exact ⟨_, .noItems gap_nil⟩
  | cons first items =>
    have hitems : ∃ t, Writes (.items (first :: items)) t := by
      induction items generalizing first with
      | nil =>
        obtain ⟨t, ht⟩ := h first (List.mem_cons_self ..)
        exact ⟨_, .lastItem ht gap_nil⟩
      | cons second items ih =>
        obtain ⟨t, ht⟩ := h first (List.mem_cons_self ..)
        obtain ⟨u, hu⟩ := ih second fun j hj => h j (List.mem_cons_of_mem _ hj)
        exact ⟨_, .item ht gap_nil gap_nil hu⟩
    obtain ⟨t, ht⟩ := hitems
    exact ⟨_, .array gap_nil ht⟩

theorem writable_object {members : List (Text × Json)}
    (h : ∀ m ∈ members, IsBody m.1 ∧ Writable m.2) : Writable (.object members) := by
  cases members with
  | nil => exact ⟨_, .noMembers gap_nil⟩
  | cons first members =>
    have hmembers : ∃ t, Writes (.members (first :: members)) t := by
      induction members generalizing first with
      | nil =>
        obtain ⟨hkey, t, ht⟩ := h first (List.mem_cons_self ..)
        exact ⟨_, .lastMember hkey gap_nil gap_nil ht gap_nil⟩
      | cons second members ih =>
        obtain ⟨hkey, t, ht⟩ := h first (List.mem_cons_self ..)
        obtain ⟨u, hu⟩ := ih second fun m hm => h m (List.mem_cons_of_mem _ hm)
        exact ⟨_, .member hkey gap_nil gap_nil ht gap_nil gap_nil hu⟩
    obtain ⟨t, ht⟩ := hmembers
    exact ⟨_, .object gap_nil ht⟩

/-! ## 4. Printing -/

theorem gap_newLine (level : Nat) : Gap (newLine level) := by
  intro c hc
  rcases List.mem_cons.mp hc with rfl | hc
  · rfl
  · rw [List.eq_of_mem_replicate hc]
    rfl

/-- A part is printed as one of its texts. -/
def Part.Prints : Part → Prop
  | value j => ∀ level, Writes (.value j) (pretty level j)
  | items all => ∀ level w, Gap w → ∃ j rest, all = j :: rest ∧
    Writes (.items all) (pretty level j ++ prettyItems level rest ++ w)
  | members all => ∀ level w, Gap w → ∃ key j rest, all = (key, j) :: rest ∧
    Writes (.members all)
      (quotedBody key ++ [':', ' '] ++ pretty level j ++ prettyMembers level rest ++ w)

theorem prints_of_writes {p : Part} {t : Text} (h : Writes p t) : p.Prints := by
  induction h with
  | null => exact fun _ => .null
  | true => exact fun _ => .true
  | false => exact fun _ => .false
  | number hinteger => exact fun _ => .number hinteger
  | string hbody => exact fun _ => .string hbody
  | noItems _ => exact fun _ => .noItems gap_nil
  | noMembers _ => exact fun _ => .noMembers gap_nil
  | array _ _ ih =>
    intro level
    obtain ⟨j, rest, rfl, hitems⟩ := ih (level + 1) (newLine level) (gap_newLine level)
    have hwrites := Writes.array (gap_newLine (level + 1)) hitems
    simpa [pretty] using hwrites
  | object _ _ ih =>
    intro level
    obtain ⟨key, j, rest, rfl, hmembers⟩ := ih (level + 1) (newLine level) (gap_newLine level)
    have hwrites := Writes.object (gap_newLine (level + 1)) hmembers
    simpa [pretty] using hwrites
  | lastItem _ _ ih =>
    intro level w hw
    refine ⟨_, [], rfl, ?_⟩
    simpa [prettyItems] using Writes.lastItem (ih level) hw
  | item _ _ _ _ ihj ih =>
    intro level w hw
    obtain ⟨j, rest, rfl, hitems⟩ := ih level w hw
    refine ⟨_, _, rfl, ?_⟩
    simpa [prettyItems] using Writes.item (ihj level) gap_nil (gap_newLine level) hitems
  | lastMember hkey _ _ _ _ ih =>
    intro level w hw
    refine ⟨_, _, [], rfl, ?_⟩
    simpa [prettyMembers] using Writes.lastMember hkey gap_nil gap_space (ih level) hw
  | member hkey _ _ _ _ _ _ ihj ih =>
    intro level w hw
    obtain ⟨key, j, rest, rfl, hmembers⟩ := ih level w hw
    refine ⟨_, _, _, rfl, ?_⟩
    simpa [prettyMembers] using
      Writes.member hkey gap_nil gap_space (ihj level) gap_nil (gap_newLine level) hmembers

/-- The printed form of a value holds it. -/
theorem isPrinter_print : IsPrinter print := by
  rintro j ⟨t, ht⟩
  exact ⟨[], print j, [], gap_nil, prints_of_writes ht 0, gap_nil, by simp⟩

end PlanScript.Json
