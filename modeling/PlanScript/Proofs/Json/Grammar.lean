/-
PlanScript.Proofs.Json.Grammar — JSON texts, and that they are read.

`Json.Writes` is the grammar of JSON texts with whole numbers: a value, the
items of an array or the members of an object, with any white space between
the tokens. A reader of JSON takes every such text and gives back the value,
unless that is nested too deep (`IsReader`). The reader of this library is one
(`isReader_parse?`), whatever the limit.

Its parts are given more than the text of their value. So a part of a text is
read with any rest behind it (`reads_of_writes`), as long as the rest does
not continue a number.
-/
import PlanScript.Json.Reader
import PlanScript.Json.Printer

namespace PlanScript.Json

/-! ## 1. The grammar -/

/-- White space between tokens. -/
def Gap (w : Text) : Prop := ∀ c ∈ w, isGap c = true

/-- Zero, or digits that do not start with zero. -/
inductive IsWhole : Text → Prop
  | zero : IsWhole ['0']
  | digits {c : Char} {ds : Text} : c ≠ '0' → (∀ d ∈ c :: ds, d.isDigit = true) →
    IsWhole (c :: ds)

/-- The token of a whole number. -/
inductive IsInteger : Text → Prop
  | whole {t : Text} : IsWhole t → IsInteger t
  | negative {t : Text} : IsWhole t → IsInteger ('-' :: t)

/-- What may stand between the quotes of a string. -/
inductive IsBody : Text → Prop
  | nil : IsBody []
  | code {a b c d : Char} {n : Nat} {body : Text} : hexUnit? [a, b, c, d] = some (n, []) →
    IsBody body → IsBody ('\\' :: 'u' :: a :: b :: c :: d :: body)
  | escape {c d : Char} {body : Text} : escaped? c = some d → IsBody body →
    IsBody ('\\' :: c :: body)
  | plain {c : Char} {body : Text} : c ≠ '"' → c ≠ '\\' → 0x20 ≤ c.toNat → IsBody body →
    IsBody (c :: body)

/-- What a part of a JSON text holds: a value, or what stands between the
brackets of an array or an object that is not empty. -/
inductive Part where
  | value (j : Json)
  | items (items : List Json)
  | members (members : List (Text × Json))

/-- The part is written as the text. -/
inductive Writes : Part → Text → Prop
  | null : Writes (.value .null) "null".toList
  | true : Writes (.value (.bool true)) "true".toList
  | false : Writes (.value (.bool false)) "false".toList
  | number {token : Text} : IsInteger token → Writes (.value (.number token)) token
  | string {body : Text} : IsBody body → Writes (.value (.string body)) (quotedBody body)
  | noItems {w : Text} : Gap w → Writes (.value (.array [])) ('[' :: w ++ [']'])
  | array {items : List Json} {w t : Text} : Gap w → Writes (.items items) t →
    Writes (.value (.array items)) ('[' :: w ++ t ++ [']'])
  | noMembers {w : Text} : Gap w → Writes (.value (.object [])) ('{' :: w ++ ['}'])
  | object {members : List (Text × Json)} {w t : Text} : Gap w → Writes (.members members) t →
    Writes (.value (.object members)) ('{' :: w ++ t ++ ['}'])
  | lastItem {j : Json} {t w : Text} : Writes (.value j) t → Gap w → Writes (.items [j]) (t ++ w)
  | item {j : Json} {items : List Json} {t w w' u : Text} : Writes (.value j) t → Gap w →
    Gap w' → Writes (.items items) u → Writes (.items (j :: items)) (t ++ w ++ ',' :: (w' ++ u))
  | lastMember {key : Text} {j : Json} {w₁ w₂ t w : Text} : IsBody key → Gap w₁ → Gap w₂ →
    Writes (.value j) t → Gap w →
    Writes (.members [(key, j)]) (quotedBody key ++ w₁ ++ ':' :: (w₂ ++ t ++ w))
  | member {key : Text} {j : Json} {members : List (Text × Json)} {w₁ w₂ t w w' u : Text} :
    IsBody key → Gap w₁ → Gap w₂ → Writes (.value j) t → Gap w → Gap w' →
    Writes (.members members) u →
    Writes (.members ((key, j) :: members))
      (quotedBody key ++ w₁ ++ ':' :: (w₂ ++ t ++ w ++ ',' :: (w' ++ u)))

/-- The text holds the value and nothing else. -/
def IsText (j : Json) (text : Text) : Prop :=
  ∃ w t w' : Text, Gap w ∧ Writes (.value j) t ∧ Gap w' ∧ text = w ++ t ++ w'

/-- Arrays and objects are nested no deeper than this. -/
inductive NestsWithin : Nat → Json → Prop
  | null {n : Nat} : NestsWithin n .null
  | bool {n : Nat} {b : Bool} : NestsWithin n (.bool b)
  | number {n : Nat} {token : Text} : NestsWithin n (.number token)
  | string {n : Nat} {body : Text} : NestsWithin n (.string body)
  | array {n : Nat} {items : List Json} : (∀ j ∈ items, NestsWithin n j) →
    NestsWithin (n + 1) (.array items)
  | object {n : Nat} {members : List (Text × Json)} : (∀ m ∈ members, NestsWithin n m.2) →
    NestsWithin (n + 1) (.object members)

/-- The reader takes every text of a value that is nested no deeper than its
limit. -/
def IsReader (limit : Nat) (read? : Text → Option Json) : Prop :=
  ∀ j t, NestsWithin limit j → IsText j t → read? t = some j

/-! ## 2. Reading leaves -/

/-- The text does not continue a number. -/
def Stops (rest : Text) : Prop :=
  ∀ c ∈ rest.head?, c.isDigit = false ∧ c ≠ '.' ∧ c ≠ 'e' ∧ c ≠ 'E'

theorem stops_nil : Stops [] := by simp [Stops]

theorem skipGap_append {w t : Text} (hw : Gap w) (ht : ∀ c ∈ t.head?, isGap c = false) :
    skipGap (w ++ t) = t := by
  induction w with
  | nil =>
    cases t with
    | nil => rfl
    | cons c t => simp [skipGap, ht c rfl]
  | cons d w ih =>
    have hd := hw d (List.mem_cons_self ..)
    simpa [skipGap, hd] using ih fun c hc => hw c (List.mem_cons_of_mem _ hc)

theorem stops_of_gap {w : Text} (hw : Gap w) {rest : Text} (h : Stops rest) :
    Stops (w ++ rest) := by
  cases w with
  | nil => exact h
  | cons c w =>
    intro d hd
    obtain rfl : c = d := by simpa using hd
    have hc := hw c (List.mem_cons_self ..)
    simp only [isGap, Bool.or_eq_true, decide_eq_true_eq] at hc
    rcases hc with ((rfl | rfl) | rfl) | rfl <;> decide

theorem digits?_append {ds rest : Text} (hne : ds ≠ []) (hds : ∀ c ∈ ds, c.isDigit = true)
    (hrest : Stops rest) : digits? (ds ++ rest) = some (ds, rest) := by
  have htake : rest.takeWhile Char.isDigit = [] := by
    cases rest with
    | nil => rfl
    | cons c rest => simp [(hrest c rfl).1]
  have hdrop : rest.dropWhile Char.isDigit = rest := by
    cases rest with
    | nil => rfl
    | cons c rest => simp [(hrest c rfl).1]
  rw [digits?, List.takeWhile_append_of_pos hds, List.dropWhile_append_of_pos hds, htake, hdrop,
    List.append_nil]
  cases ds with
  | nil => contradiction
  | cons c ds => rfl

theorem whole?_append {t rest : Text} (h : IsWhole t) (hrest : Stops rest) :
    whole? (t ++ rest) = some (t, rest) := by
  cases h with
  | zero => rfl
  | @digits c ds hc hds =>
    have hread := digits?_append (List.cons_ne_nil c ds) hds hrest
    rw [List.cons_append] at hread ⊢
    unfold whole?
    split
    · next heq =>
      cases heq
      contradiction
    · exact hread

theorem unsigned?_append {t rest : Text} (h : IsWhole t) (hrest : Stops rest) :
    unsigned? (t ++ rest) = some (t, rest) := by
  have hfraction : fraction? rest = some ([], rest) := by
    unfold fraction?
    split
    · exact absurd rfl (hrest _ rfl).2.1
    · rfl
  have hexponent : exponent? rest = some ([], rest) := by
    unfold exponent?
    split
    · exact absurd rfl (hrest _ rfl).2.2.1
    · exact absurd rfl (hrest _ rfl).2.2.2
    · rfl
  simp [unsigned?, whole?_append h hrest, hfraction, hexponent]

theorem IsWhole.start {t : Text} (h : IsWhole t) : ∃ c ds, t = c :: ds ∧ c.isDigit = true := by
  cases h with
  | zero => exact ⟨'0', [], rfl, by decide⟩
  | @digits c ds _ hds => exact ⟨c, ds, rfl, hds c (List.mem_cons_self ..)⟩

theorem IsInteger.start {t : Text} (h : IsInteger t) :
    ∃ c ds, t = c :: ds ∧ (c = '-' ∨ c.isDigit = true) := by
  cases h with
  | negative => exact ⟨'-', _, rfl, .inl rfl⟩
  | whole hwhole =>
    obtain ⟨c, ds, rfl, hc⟩ := hwhole.start
    exact ⟨c, ds, rfl, .inr hc⟩

theorem number?_append {t rest : Text} (h : IsInteger t) (hrest : Stops rest) :
    number? (t ++ rest) = some (t, rest) := by
  cases h with
  | negative hwhole => simp [number?, unsigned?_append hwhole hrest]
  | whole hwhole =>
    obtain ⟨c, ds, rfl, hc⟩ := hwhole.start
    have hread := unsigned?_append hwhole hrest
    rw [List.cons_append] at hread ⊢
    unfold number?
    split
    · next heq =>
      cases heq
      contradiction
    · exact hread

theorem body?_append {body : Text} (h : IsBody body) (rest : Text) :
    body? (body ++ '"' :: rest) = some (body, rest) := by
  induction h with
  | nil => simp [body?]
  | code hcode _ ih => simp [body?, hcode, ih]
  | @escape c d body hescape _ ih =>
    have hc : c ≠ 'u' := by
      rintro rfl
      contradiction
    simp [body?, hc, hescape, ih]
  | @plain c body hquote hslash hcontrol _ ih =>
    have hc : ¬ c.toNat < 0x20 := by omega
    simp [body?, hslash, hc, ih]

/-! ## 3. Where a value starts -/

/-- What a value starts with is neither white space nor a closing bracket. -/
def StartsValue (c : Char) : Prop := isGap c = false ∧ c ≠ ']'

theorem StartsValue.of_integer {c : Char} (hc : c = '-' ∨ c.isDigit = true) : StartsValue c := by
  have hne : ∀ d : Char, d ≠ '-' → d.isDigit = false → c ≠ d := by
    rintro d hminus hd rfl
    rcases hc with hc | hc
    · exact hminus hc
    · rw [hd] at hc
      contradiction
  refine ⟨?_, hne ']' (by decide) (by decide)⟩
  simp [isGap, hne ' ' (by decide) (by decide), hne '\t' (by decide) (by decide),
    hne '\n' (by decide) (by decide), hne '\r' (by decide) (by decide)]

theorem start_of_writes {j : Json} {t : Text} (h : Writes (.value j) t) :
    ∃ c rest, t = c :: rest ∧ StartsValue c := by
  cases h with
  | null | true | false => exact ⟨_, _, rfl, by decide, by decide⟩
  | string | noItems | array | noMembers | object => exact ⟨_, _, rfl, by decide, by decide⟩
  | number hinteger =>
    obtain ⟨c, ds, rfl, hc⟩ := hinteger.start
    exact ⟨c, ds, rfl, .of_integer hc⟩

theorem start_of_writes_items {items : List Json} {t : Text} (h : Writes (.items items) t) :
    ∃ c rest, t = c :: rest ∧ StartsValue c := by
  cases h with
  | lastItem hj _ =>
    obtain ⟨c, rest, rfl, hc⟩ := start_of_writes hj
    exact ⟨c, _, rfl, hc⟩
  | item hj _ _ _ =>
    obtain ⟨c, rest, rfl, hc⟩ := start_of_writes hj
    exact ⟨c, _, rfl, hc⟩

theorem start_of_writes_members {members : List (Text × Json)} {t : Text}
    (h : Writes (.members members) t) : ∃ rest, t = '"' :: rest := by
  cases h with
  | lastMember => exact ⟨_, rfl⟩
  | member => exact ⟨_, rfl⟩

theorem skipGap_append_cons {w : Text} (hw : Gap w) {c : Char} (hc : isGap c = false)
    (rest : Text) : skipGap (w ++ c :: rest) = c :: rest :=
  skipGap_append hw (by simpa using hc)

/-! ## 4. Values and members -/

theorem value?_number (depth : Nat) {c : Char} (hc : c = '-' ∨ c.isDigit = true) (t : Text) :
    value? (depth + 1) (c :: t)
      = (number? (c :: t)).map fun (token, rest) => (.number token, rest) := by
  rw [value?]
  all_goals
    intro rest heq
    cases heq
    exact absurd hc (by decide)

/-- An array that does not end at once is read by its items. -/
theorem value?_array (depth : Nat) {t : Text} {c : Char} {rest : Text}
    (hskip : skipGap t = c :: rest) (hc : c ≠ ']') :
    value? (depth + 1) ('[' :: t)
      = (items? depth (c :: rest)).map fun (items, rest) => (.array items, rest) := by
  rw [value?, hskip]
  split
  · next heq =>
    cases heq
    contradiction
  · rfl

/-- An object that does not end at once is read by its members. -/
theorem value?_object (depth : Nat) {t rest : Text} (hskip : skipGap t = '"' :: rest) :
    value? (depth + 1) ('{' :: t)
      = (members? depth ('"' :: rest)).map fun (members, rest) => (.object members, rest) := by
  rw [value?, hskip]
  split
  · next heq =>
    cases heq
  · rfl

/-- A member is read by its key and its value. -/
theorem members?_member {depth : Nat} {key w₁ w₂ t after : Text} {j : Json} (hkey : IsBody key)
    (hw₁ : Gap w₁) (hw₂ : Gap w₂) (hstart : ∃ c r, t = c :: r ∧ StartsValue c)
    (hread : value? depth (t ++ after) = some (j, after)) :
    members? (depth + 1) (quotedBody key ++ w₁ ++ ':' :: (w₂ ++ (t ++ after)))
      = match skipGap after with
        | '}' :: rest => some ([(key, j)], rest)
        | ',' :: rest => do
          let (members, rest) ← members? depth (skipGap rest)
          some ((key, j) :: members, rest)
        | _ => none := by
  have hcolon := skipGap_append_cons hw₁ (show isGap ':' = false by decide) (w₂ ++ (t ++ after))
  have hvalue : skipGap (w₂ ++ (t ++ after)) = t ++ after := by
    obtain ⟨c, r, rfl, hc⟩ := hstart
    exact skipGap_append hw₂ (by simpa using hc.1)
  have htext : quotedBody key ++ w₁ ++ ':' :: (w₂ ++ (t ++ after))
      = '"' :: (key ++ '"' :: (w₁ ++ ':' :: (w₂ ++ (t ++ after)))) := by
    simp [quotedBody]
  have hmembers := congrArg (members? (depth + 1)) htext
  simp only [members?, body?_append hkey, Option.bind_eq_bind, Option.bind_some, hcolon, hvalue,
    hread] at hmembers
  exact hmembers

/-- A part is read from its text, with any rest behind it, when the bound on
the depth allows for the text. -/
def Part.Reads (t : Text) : Part → Prop
  | value j => ∀ depth rest, 2 * t.length ≤ depth → Stops rest →
    value? depth (t ++ rest) = some (j, rest)
  | items all => ∀ depth rest, 2 * t.length < depth →
    items? depth (t ++ ']' :: rest) = some (all, rest)
  | members all => ∀ depth rest, 2 * t.length < depth →
    members? depth (t ++ '}' :: rest) = some (all, rest)

/-- What may follow an item or a member. -/
theorem stops_of_closing {w : Text} (hw : Gap w) {c : Char} (hc : c ∈ [',', ']', '}'])
    (rest : Text) : Stops (w ++ c :: rest) := by
  refine stops_of_gap hw fun d hd => ?_
  obtain rfl : c = d := by simpa using hd
  revert c
  simp [Char.isDigit]

/-! ## 5. Reading parts

One lemma for each constructor of the grammar that has parts. -/

theorem reads_number {token : Text} (h : IsInteger token) :
    (Part.value (.number token)).Reads token := by
  rintro (_ | depth) rest hdepth hrest
  · obtain ⟨c, ds, rfl, _⟩ := h.start
    contradiction
  · have hread := number?_append h hrest
    obtain ⟨c, ds, rfl, hc⟩ := h.start
    rw [List.cons_append] at hread ⊢
    rw [value?_number depth hc, hread]
    rfl

theorem reads_array {items : List Json} {w t : Text} (hw : Gap w)
    (hitems : Writes (.items items) t) (h : (Part.items items).Reads t) :
    (Part.value (.array items)).Reads ('[' :: w ++ t ++ [']']) := by
  rintro (_ | depth) rest hdepth _
  · contradiction
  · have hread := h depth rest (by simp at hdepth; omega)
    obtain ⟨c, r, rfl, hc⟩ := start_of_writes_items hitems
    have hskip : skipGap (w ++ (c :: r) ++ [']'] ++ rest) = c :: (r ++ ']' :: rest) := by
      simpa using skipGap_append_cons hw hc.1 (r ++ ']' :: rest)
    rw [List.cons_append] at hread
    simp only [List.cons_append] at hskip ⊢
    rw [value?_array depth hskip hc.2, hread]
    rfl

theorem reads_object {members : List (Text × Json)} {w t : Text} (hw : Gap w)
    (hmembers : Writes (.members members) t) (h : (Part.members members).Reads t) :
    (Part.value (.object members)).Reads ('{' :: w ++ t ++ ['}']) := by
  rintro (_ | depth) rest hdepth _
  · contradiction
  · have hread := h depth rest (by simp at hdepth; omega)
    obtain ⟨r, rfl⟩ := start_of_writes_members hmembers
    have hskip : skipGap (w ++ ('"' :: r) ++ ['}'] ++ rest) = '"' :: (r ++ '}' :: rest) := by
      simpa using skipGap_append_cons hw (show isGap '"' = false by decide) (r ++ '}' :: rest)
    rw [List.cons_append] at hread
    simp only [List.cons_append] at hskip ⊢
    rw [value?_object depth hskip, hread]
    rfl

theorem reads_lastItem {j : Json} {t w : Text} (h : (Part.value j).Reads t) (hw : Gap w) :
    (Part.items [j]).Reads (t ++ w) := by
  rintro (_ | depth) rest hdepth
  · contradiction
  · have hread := h depth (w ++ ']' :: rest) (by simp at hdepth; omega)
      (stops_of_closing hw (by decide) rest)
    have hskip := skipGap_append_cons hw (show isGap ']' = false by decide) rest
    rw [List.append_assoc, items?, hread]
    simp [hskip]

theorem reads_item {j : Json} {items : List Json} {t w w' u : Text}
    (h : (Part.value j).Reads t) (hw : Gap w) (hw' : Gap w') (hitems : Writes (.items items) u)
    (hrest : (Part.items items).Reads u) :
    (Part.items (j :: items)).Reads (t ++ w ++ ',' :: (w' ++ u)) := by
  rintro (_ | depth) rest hdepth
  · contradiction
  · simp only [List.length_append, List.length_cons] at hdepth
    have hread := h depth (w ++ ',' :: (w' ++ u ++ ']' :: rest)) (by omega)
      (stops_of_closing hw (by decide) _)
    have hskip := skipGap_append_cons hw (show isGap ',' = false by decide)
      (w' ++ u ++ ']' :: rest)
    have hlater := hrest depth rest (by omega)
    obtain ⟨c, r, rfl, hc⟩ := start_of_writes_items hitems
    have hnext : skipGap (w' ++ (c :: r) ++ ']' :: rest) = c :: r ++ ']' :: rest := by
      simpa using skipGap_append_cons hw' hc.1 (r ++ ']' :: rest)
    have htext : t ++ w ++ ',' :: (w' ++ (c :: r)) ++ ']' :: rest
        = t ++ (w ++ ',' :: (w' ++ (c :: r) ++ ']' :: rest)) := by simp
    rw [htext, items?, hread]
    simp only [Option.bind_eq_bind, Option.bind_some, hskip, hnext, hlater]

theorem reads_lastMember {key : Text} {j : Json} {w₁ w₂ t w : Text} (hkey : IsBody key)
    (hw₁ : Gap w₁) (hw₂ : Gap w₂) (hj : Writes (.value j) t) (h : (Part.value j).Reads t)
    (hw : Gap w) :
    (Part.members [(key, j)]).Reads (quotedBody key ++ w₁ ++ ':' :: (w₂ ++ t ++ w)) := by
  rintro (_ | depth) rest hdepth
  · contradiction
  · simp only [List.length_append, List.length_cons] at hdepth
    have hread := h depth (w ++ '}' :: rest) (by omega) (stops_of_closing hw (by decide) rest)
    have htext : quotedBody key ++ w₁ ++ ':' :: (w₂ ++ t ++ w) ++ '}' :: rest
        = quotedBody key ++ w₁ ++ ':' :: (w₂ ++ (t ++ (w ++ '}' :: rest))) := by simp
    rw [htext, members?_member hkey hw₁ hw₂ (start_of_writes hj) hread,
      skipGap_append_cons hw (show isGap '}' = false by decide)]
    rfl

theorem reads_member {key : Text} {j : Json} {members : List (Text × Json)}
    {w₁ w₂ t w w' u : Text} (hkey : IsBody key) (hw₁ : Gap w₁) (hw₂ : Gap w₂)
    (hj : Writes (.value j) t) (h : (Part.value j).Reads t) (hw : Gap w) (hw' : Gap w')
    (hmembers : Writes (.members members) u) (hrest : (Part.members members).Reads u) :
    (Part.members ((key, j) :: members)).Reads
      (quotedBody key ++ w₁ ++ ':' :: (w₂ ++ t ++ w ++ ',' :: (w' ++ u))) := by
  rintro (_ | depth) rest hdepth
  · contradiction
  · simp only [List.length_append, List.length_cons] at hdepth
    have hread := h depth (w ++ ',' :: (w' ++ u ++ '}' :: rest)) (by omega)
      (stops_of_closing hw (by decide) _)
    have hlater := hrest depth rest (by omega)
    obtain ⟨r, rfl⟩ := start_of_writes_members hmembers
    have hnext : skipGap (w' ++ ('"' :: r) ++ '}' :: rest) = '"' :: r ++ '}' :: rest := by
      simpa using skipGap_append_cons hw' (show isGap '"' = false by decide) (r ++ '}' :: rest)
    have htext : quotedBody key ++ w₁ ++ ':' :: (w₂ ++ t ++ w ++ ',' :: (w' ++ ('"' :: r)))
          ++ '}' :: rest
        = quotedBody key ++ w₁ ++ ':' ::
          (w₂ ++ (t ++ (w ++ ',' :: (w' ++ ('"' :: r) ++ '}' :: rest)))) := by simp
    rw [htext, members?_member hkey hw₁ hw₂ (start_of_writes hj) hread,
      skipGap_append_cons hw (show isGap ',' = false by decide)]
    simp only [hnext, hlater]
    rfl

/-- Every part is read from its text. -/
theorem reads_of_writes {p : Part} {t : Text} (h : Writes p t) : p.Reads t := by
  induction h with
  | null | true | false =>
    rintro (_ | depth) rest hdepth _
    · contradiction
    · rfl
  | number hinteger => exact reads_number hinteger
  | string hbody =>
    rintro (_ | depth) rest hdepth _
    · contradiction
    · simp [quotedBody, value?, body?_append hbody]
  | noItems hw =>
    rintro (_ | depth) rest hdepth _
    · contradiction
    · simp [value?, skipGap_append_cons hw (show isGap ']' = false by decide)]
  | array hw hitems ih => exact reads_array hw hitems ih
  | noMembers hw =>
    rintro (_ | depth) rest hdepth _
    · contradiction
    · simp [value?, skipGap_append_cons hw (show isGap '}' = false by decide)]
  | object hw hmembers ih => exact reads_object hw hmembers ih
  | lastItem _ hw ih => exact reads_lastItem ih hw
  | item _ hw hw' hitems ihj ih => exact reads_item ihj hw hw' hitems ih
  | lastMember hkey hw₁ hw₂ hj hw ih => exact reads_lastMember hkey hw₁ hw₂ hj ih hw
  | member hkey hw₁ hw₂ hj hw hw' hmembers ihj ih =>
    exact reads_member hkey hw₁ hw₂ hj ihj hw hw' hmembers ih

/-! ## 6. Reading texts -/

/-- A text that holds a value is read as that value. -/
theorem parse?_of_isText {j : Json} {text : Text} (h : IsText j text) : parse? text = some j := by
  obtain ⟨w, t, w', hw, hj, hw', rfl⟩ := h
  obtain ⟨c, r, rfl, hc⟩ := start_of_writes hj
  have hskip : skipGap (w ++ (c :: r) ++ w') = c :: r ++ w' := by
    simpa using skipGap_append_cons hw hc.1 (r ++ w')
  have hstops : Stops w' := by simpa using stops_of_gap hw' stops_nil
  have hread := reads_of_writes hj (2 * (w ++ (c :: r) ++ w').length + 1) w'
    (by simp; omega) hstops
  have hend : skipGap w' = [] := by simpa using skipGap_append (t := []) hw' (by simp)
  rw [parse?, hskip, hread]
  simp [hend]

theorem isReader_parse? (limit : Nat) : IsReader limit parse? := fun _ _ _ => parse?_of_isText

end PlanScript.Json
