/-
PlanScript.Text.Basic — text as the scanners read it.

A text is a list of characters, so every scan is a recursion on a list and
every cut is a pair of lists whose concatenation is the text again. Places
in a text are counted in UTF-8 bytes, because that is how spans and error
offsets are reported.

* `Text.bytes` is the length of a text in UTF-8 bytes; it adds up over
  concatenation (`Text.bytes_append`), which is what makes an offset the
  length of the text before it.
* `Text.breakOn` cuts a text before the first occurrence of a pattern.
* `Text.lines` cuts after every line feed and loses nothing
  (`Text.flatten_lines`).
-/
namespace PlanScript

/-- A text is the list of its characters. -/
abbrev Text := List Char

namespace Text

/-! ## 1. Length in bytes -/

/-- The number of bytes of a text in UTF-8. -/
def bytes : Text → Nat
  | [] => 0
  | c :: rest => c.utf8Size + bytes rest

@[simp] theorem bytes_nil : bytes [] = 0 := rfl

@[simp] theorem bytes_cons (c : Char) (t : Text) : bytes (c :: t) = c.utf8Size + bytes t := rfl

@[simp] theorem bytes_append (s t : Text) : bytes (s ++ t) = bytes s + bytes t := by
  induction s with
  | nil => simp
  | cons c s ih => simp only [List.cons_append, bytes_cons, ih]; omega

/-! ## 2. Prefixes and occurrences -/

/-- The text after `pattern`, when the text starts with it. -/
def dropPrefix? : Text → Text → Option Text
  | [], t => some t
  | _ :: _, [] => none
  | p :: ps, c :: t => if p = c then dropPrefix? ps t else none

theorem eq_append_of_dropPrefix? {p t rest : Text} (h : dropPrefix? p t = some rest) :
    t = p ++ rest := by
  induction p generalizing t with
  | nil => simpa [dropPrefix?] using h
  | cons a p ih =>
    cases t with
    | nil => simp [dropPrefix?] at h
    | cons c t =>
      simp only [dropPrefix?] at h
      split at h
      · next hac => simp [hac, ih h]
      · simp at h

/-- Whether the text starts with `pattern`. -/
def startsWith (pattern t : Text) : Bool := (dropPrefix? pattern t).isSome

/-- Cuts before the first occurrence of `pattern`: the text before it, and
the text from it on. -/
def breakOn (pattern : Text) : Text → Option (Text × Text)
  | [] => if pattern.isEmpty then some ([], []) else none
  | c :: rest =>
    if startsWith pattern (c :: rest) then some ([], c :: rest)
    else (breakOn pattern rest).map fun (before, found) => (c :: before, found)

theorem append_of_breakOn {p t before found : Text} (h : breakOn p t = some (before, found)) :
    t = before ++ found := by
  induction t generalizing before found with
  | nil =>
    simp only [breakOn] at h
    split at h <;> simp_all
  | cons c t ih =>
    simp only [breakOn] at h
    split at h
    · simp only [Option.some.injEq, Prod.mk.injEq] at h
      simp [← h.1, ← h.2]
    · simp only [Option.map_eq_some_iff, Prod.exists, Prod.mk.injEq] at h
      obtain ⟨b, f, hbf, rfl, rfl⟩ := h
      simp [ih hbf]

/-- Whether `pattern` occurs in the text. -/
def hasInfix (pattern t : Text) : Bool := (breakOn pattern t).isSome

/-- The text without `suffix`, when the text ends with it. -/
def dropSuffix? (suffix t : Text) : Option Text :=
  (dropPrefix? suffix.reverse t.reverse).map List.reverse

/-- Cuts at the first character that satisfies `p`: the text before it, and
the text from it on. -/
def breakAt (p : Char → Bool) : Text → Option (Text × Text)
  | [] => none
  | c :: rest =>
    if p c then some ([], c :: rest)
    else (breakAt p rest).map fun (before, found) => (c :: before, found)

theorem append_of_breakAt {p : Char → Bool} {t before found : Text}
    (h : breakAt p t = some (before, found)) : t = before ++ found := by
  induction t generalizing before found with
  | nil => simp [breakAt] at h
  | cons c t ih =>
    simp only [breakAt] at h
    split at h
    · simp only [Option.some.injEq, Prod.mk.injEq] at h
      simp [← h.1, ← h.2]
    · simp only [Option.map_eq_some_iff, Prod.exists, Prod.mk.injEq] at h
      obtain ⟨b, f, hbf, rfl, rfl⟩ := h
      simp [ih hbf]

/-! ## 3. Lines -/

/-- The lines of a text, each with the line feed that ends it. An empty
text has no line. -/
def lines : Text → List Text
  | [] => []
  | c :: rest =>
    if c = '\n' then [c] :: lines rest
    else match lines rest with
      | [] => [[c]]
      | line :: more => (c :: line) :: more

/-- The lines hold every character, in order. -/
@[simp] theorem flatten_lines (t : Text) : (lines t).flatten = t := by
  induction t with
  | nil => rfl
  | cons c t ih =>
    simp only [lines]
    split
    · simp [ih]
    · split
      · next h => simpa [h] using ih
      · next line more h => simpa [h] using ih

/-! ## 4. Joining -/

/-- The texts joined by a separator. -/
def join (separator : Text) : List Text → Text
  | [] => []
  | [t] => t
  | t :: rest => t ++ separator ++ join separator rest

/-- Lexicographic order by scalar value, which is the order of the UTF-8
bytes. -/
def le : Text → Text → Bool
  | [], _ => true
  | _ :: _, [] => false
  | a :: s, b :: t => if a = b then le s t else a.toNat < b.toNat

end Text

end PlanScript
