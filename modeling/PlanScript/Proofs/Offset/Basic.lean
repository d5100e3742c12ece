/-
PlanScript.Proofs.Offset.Basic — operations that are not defined everywhere.

A scanner that works on places in a text cuts it at byte offsets, looks at
single bytes, subtracts lengths and counts in 32 bits. Each of these
operations has a domain: a slice needs offsets in order, within the text and
between two characters. A `Checked` computation is made of such operations
and stops at the first one that is used outside its domain, with the
`Breach` it is.

* `slice_of_eq`: a slice between the lengths of two prefixes is what stands
  there. This is the one fact about slices; the others are cases of it.
* `eq_iff_of_mem_utf8EncodeChar`: a byte that is an ASCII character is never
  a part of another one, so a byte next to a place tells whether that
  character stands there.
-/
import PlanScript.Proofs.Plan.Span

namespace PlanScript.Offset

/-! ## 1. Computations -/

/-- An operation that is used outside its domain. -/
inductive Breach where
  /-- The offsets of a slice are out of order, beyond the text or inside a
  character. -/
  | slice (start stop : Nat)
  /-- No byte has the index. -/
  | byte (index : Nat)
  /-- A difference is below zero. -/
  | difference (minuend subtrahend : Nat)
  /-- More brackets of a kind are open than 32 bits can count. -/
  | depth (bracket : Bracket)
deriving DecidableEq, Repr

/-- A computation that stops at the first breach. -/
abbrev Checked (α : Type) := Except Breach α

variable {α β : Type}

@[simp] theorem ok_bind (a : α) (f : α → Checked β) : ((.ok a : Checked α) >>= f) = f a := rfl

@[simp] theorem pure_eq_ok (a : α) : (pure a : Checked α) = .ok a := rfl

theorem mapM_of_forall {f : α → Checked β} {g : α → β} :
    ∀ {as : List α}, (∀ a ∈ as, f a = .ok (g a)) → as.mapM f = .ok (as.map g)
  | [], _ => rfl
  | a :: as, h => by
      have hrest := mapM_of_forall fun b hb => h b (List.mem_cons_of_mem _ hb)
      simp [List.mapM_cons, h a (List.mem_cons_self ..), hrest]

/-! ## 2. Slices -/

/-- The stretch of a text between two byte offsets. -/
def slice (t : Text) (start stop : Nat) : Checked Text :=
  match Text.slice? start stop t with
  | some stretch => .ok stretch
  | none => .error (.slice start stop)

/-- The text before a byte offset. -/
def sliceTo (t : Text) (stop : Nat) : Checked Text := slice t 0 stop

/-- The text from a byte offset on. -/
def sliceFrom (t : Text) (start : Nat) : Checked Text := slice t start t.bytes

theorem slice_eq_ok_iff {t stretch : Text} {start stop : Nat} :
    slice t start stop = .ok stretch ↔ Text.slice? start stop t = some stretch := by
  rw [slice]
  cases Text.slice? start stop t <;> simp

theorem slice_of_eq {t u v w : Text} {start stop : Nat} (ht : t = u ++ v ++ w)
    (hstart : start = u.bytes) (hstop : stop = u.bytes + v.bytes) :
    slice t start stop = .ok v :=
  slice_eq_ok_iff.mpr
    (Text.slice?_eq_some_iff.mpr ⟨u, w, ht, hstart.symm, by rw [hstart, hstop]⟩)

@[simp] theorem sliceTo_append (u v : Text) : sliceTo (u ++ v) u.bytes = .ok u :=
  slice_of_eq (u := []) rfl rfl (by simp)

@[simp] theorem sliceFrom_append (u v : Text) : sliceFrom (u ++ v) u.bytes = .ok v :=
  slice_of_eq (w := []) (by simp) rfl (by simp)

/-- A slice may start behind a character of one byte. -/
theorem sliceFrom_behind {c : Char} (hc : c.utf8Size = 1) (u v : Text) :
    sliceFrom (u ++ c :: v) (u.bytes + 1) = .ok v :=
  slice_of_eq (u := u ++ [c]) (w := []) (by simp) (by simp [hc]) (by simp [hc]; omega)

/-- A slice may start behind a character of one byte and end before another
one. -/
theorem slice_behind {c : Char} (hc : c.utf8Size = 1) (u v w : Text) {stop : Nat}
    (hstop : stop = u.bytes + 1 + v.bytes) :
    slice (u ++ c :: (v ++ w)) (u.bytes + 1) stop = .ok v :=
  slice_of_eq (u := u ++ [c]) (w := w) (by simp) (by simp [hc]) (by simp [hc, hstop])

/-! ## 3. Bytes -/

/-- The bytes of a text. -/
def utf8 (t : Text) : List UInt8 := t.flatMap String.utf8EncodeChar

theorem utf8_append (u v : Text) : utf8 (u ++ v) = utf8 u ++ utf8 v := List.flatMap_append

@[simp] theorem length_utf8 (t : Text) : (utf8 t).length = t.bytes := by
  induction t with
  | nil => rfl
  | cons c t ih =>
    rw [utf8, List.flatMap_cons, ← utf8, List.length_append, ih, String.length_utf8EncodeChar,
      Text.bytes_cons]

/-- The byte at an index. -/
def byteAt (t : Text) (index : Nat) : Checked UInt8 :=
  match (utf8 t)[index]? with
  | some byte => .ok byte
  | none => .error (.byte index)

/-- The byte before an offset; none stands before the start. -/
def byteBefore? (t : Text) : Nat → Checked (Option UInt8)
  | 0 => return none
  | index + 1 => return some (← byteAt t index)

theorem utf8EncodeChar_ne_nil (c : Char) : String.utf8EncodeChar c ≠ [] := by
  intro hnil
  have hlength := String.length_utf8EncodeChar c
  have hpos := c.utf8Size_pos
  rw [hnil, List.length_nil] at hlength
  omega

/-- The byte before an offset is the last one of the character that stands
there. -/
theorem byteBefore?_append (u v : Text) :
    byteBefore? (u ++ v) u.bytes = .ok (u.getLast?.bind fun c =>
      (String.utf8EncodeChar c).getLast?) := by
  rcases List.eq_nil_or_concat u with rfl | ⟨front, c, rfl⟩
  · rfl
  · have hpos := c.utf8Size_pos
    obtain ⟨size, hsize⟩ : ∃ size, c.utf8Size = size + 1 := ⟨c.utf8Size - 1, by omega⟩
    have hbytes : Text.bytes (front ++ [c]) = Text.bytes front + size + 1 := by
      simp [hsize, Nat.add_assoc]
    have hlookup : (utf8 (front ++ [c] ++ v))[Text.bytes front + size]?
        = (String.utf8EncodeChar c).getLast? := by
      have hlength : (String.utf8EncodeChar c).length = size + 1 := by
        rw [String.length_utf8EncodeChar, hsize]
      have hsplit : utf8 (front ++ [c] ++ v)
          = utf8 front ++ (String.utf8EncodeChar c ++ utf8 v) := by simp [utf8]
      rw [hsplit, List.getElem?_append_right (by simp), length_utf8, Nat.add_sub_cancel_left,
        List.getElem?_append_left (by omega), List.getLast?_eq_getElem?, hlength,
        Nat.add_sub_cancel]
    have hbyte := List.getLast?_eq_some_getLast (utf8EncodeChar_ne_nil c)
    rw [List.concat_eq_append, hbytes, byteBefore?, byteAt, hlookup, hbyte]
    simp [hbyte]

/-- The byte behind a character of one byte is the first one of the next
character. -/
theorem getElem?_utf8_behind {c : Char} (hc : c.utf8Size = 1) (u v : Text) :
    (utf8 (u ++ c :: v))[u.bytes + 1]? = v.head?.bind fun d =>
      (String.utf8EncodeChar d).head? := by
  have hsplit : utf8 (u ++ c :: v) = utf8 (u ++ [c]) ++ utf8 v := by
    rw [← utf8_append]
    simp
  have hlength : (utf8 (u ++ [c])).length = u.bytes + 1 := by simp [hc]
  rw [hsplit, List.getElem?_append_right (by omega), hlength, Nat.sub_self,
    ← List.head?_eq_getElem?]
  cases v with
  | nil => rfl
  | cons d v =>
    obtain ⟨byte, bytes, hbytes⟩ := List.exists_cons_of_ne_nil (utf8EncodeChar_ne_nil d)
    simp [utf8, hbytes]

/-- Every byte of a character beyond ASCII is beyond ASCII. -/
theorem le_of_mem_utf8EncodeChar {c : Char} (hc : 128 ≤ c.toNat) :
    ∀ byte ∈ String.utf8EncodeChar c, 128 ≤ byte.toNat := by
  have hofNat : ∀ {n : Nat}, 128 ≤ n → n < 256 → 128 ≤ (UInt8.ofNat n).toNat := by
    intro n hlow hhigh
    rwa [UInt8.toNat_ofNat', Nat.mod_eq_of_lt hhigh]
  have hcode : c.val.toNat = c.toNat := rfl
  have hnot : ¬ c.toNat ≤ 127 := by omega
  intro byte hbyte
  simp only [String.utf8EncodeChar, hcode, if_neg hnot] at hbyte
  split at hbyte
  · simp only [List.mem_cons, List.not_mem_nil, or_false] at hbyte
    rcases hbyte with rfl | rfl <;> exact hofNat (by omega) (by omega)
  · split at hbyte
    · simp only [List.mem_cons, List.not_mem_nil, or_false] at hbyte
      rcases hbyte with rfl | rfl | rfl <;> exact hofNat (by omega) (by omega)
    · simp only [List.mem_cons, List.not_mem_nil, or_false] at hbyte
      rcases hbyte with rfl | rfl | rfl | rfl <;> exact hofNat (by omega) (by omega)

theorem utf8EncodeChar_of_lt {c : Char} (hc : c.toNat < 128) :
    String.utf8EncodeChar c = [c.toUInt8] := by
  have hle : c.val.toNat ≤ 127 := Nat.le_of_lt_succ hc
  simp only [String.utf8EncodeChar, if_pos hle]
  rfl

/-- A byte of a character is an ASCII character only if the two characters are
the same. -/
theorem eq_iff_of_mem_utf8EncodeChar {c d : Char} (hd : d.toNat < 128) {byte : UInt8}
    (hbyte : byte ∈ String.utf8EncodeChar c) : byte = d.toUInt8 ↔ c = d := by
  have htoNat : ∀ {e : Char}, e.toNat < 128 → e.toUInt8.toNat = e.toNat := by
    intro e he
    have hmod : e.toUInt8.toNat = e.toNat % 2 ^ 8 := UInt8.toNat_ofNat'
    rw [hmod, Nat.mod_eq_of_lt (by omega)]
  by_cases hc : c.toNat < 128
  · rw [utf8EncodeChar_of_lt hc, List.mem_singleton] at hbyte
    rw [hbyte, ← UInt8.toNat_inj, htoNat hc, htoNat hd]
    exact Char.toNat_inj
  · have hhigh := le_of_mem_utf8EncodeChar (Nat.le_of_not_lt hc) byte hbyte
    constructor
    · rintro rfl
      rw [htoNat hd] at hhigh
      omega
    · rintro rfl
      exact absurd hd hc

/-! ## 4. Differences -/

/-- The difference of two lengths. -/
def minus (a b : Nat) : Checked Nat :=
  if b ≤ a then .ok (a - b) else .error (.difference a b)

theorem minus_of_le {a b : Nat} (h : b ≤ a) : minus a b = .ok (a - b) := if_pos h

end PlanScript.Offset
