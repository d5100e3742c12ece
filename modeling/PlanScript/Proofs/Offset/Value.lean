/-
PlanScript.Proofs.Offset.Value — reading values by byte offsets.

A literal and a group are taken off a text by the offset of their last
character: it has to be the last byte of the text, and the body is the slice
between the two. A dict entry is sliced before and behind its colon. All of
these are characters of one byte, so the slices fall between characters
(`bodyUpTo_eq`, `entriesFrom_eq`), whatever stands around them.

On a shallow text every value is read without a breach and as the library
reads it (`readValue_eq`), and so is every argument that is handed over
(`normalizeArgument_eq`).
-/
import PlanScript.Proofs.Offset.Nesting

namespace PlanScript

/-! ## 1. The end of a literal -/

/-- The place ends the literal that it is in. -/
def Place.endsLiteral (p : Place) : Bool :=
  p.before.quote.isSome && match p.before.step p.char with
    | .ok after => after.quote.isNone
    | .error _ => false

theorem isLocal_endsLiteral : IsLocal Place.endsLiteral := fun _ _ _ _ => rfl

/-- A literal ends at the first quote of its own that no backslash takes. -/
theorem cutFrom_endsLiteral {q : Char} (hq : q ≠ '\\') (d : Depth) (previous : Option Char)
    (t : Text) :
    cutFrom Place.endsLiteral { depth := d, quote := some q } previous t
      = Literal.untilQuote q t := by
  fun_induction Literal.untilQuote q t generalizing previous with
  | case1 => rfl
  | case2 => simp [cutFrom, Place.endsLiteral, ScanState.step, hq]
  | case3 c hc =>
    by_cases hback : c = '\\'
    · simp [cutFrom, Place.endsLiteral, ScanState.step, hback]
    · simp [cutFrom, Place.endsLiteral, ScanState.step, hback, hc]
  | case4 c rest ih =>
    -- The backslash takes the next character, whatever it is.
    rw [← ih (some c)]
    simp [cutFrom, Place.endsLiteral, ScanState.step, Function.comp_def]
  | case5 c rest => simp [cutFrom, Place.endsLiteral, ScanState.step, hq]
  | case6 c e rest hback hc ih =>
    rw [← ih (some c)]
    rw [cutFrom]
    simp [Place.endsLiteral, ScanState.step, hback, hc]

namespace Offset

/-- Whether a place ends the literal that it is in. -/
def endsLiteral (v : Visit) : Checked Bool := do
  if v.before.quote.isNone then return false
  match ← advance v.before v.char v.offset with
  | .ok after => return after.quote.isNone
  | .error _ => return false

/-- No bracket is counted inside a literal, so its end is found at any
depth. -/
theorem endsLiteral_eq (v : Visit) : endsLiteral v = sees Place.endsLiteral v := by
  cases hquote : v.before.quote with
  | none => simp [endsLiteral, sees, Place.endsLiteral, hquote]
  | some q =>
    have hadvance : advance v.before v.char v.offset
        = .ok (v.before.advance v.char v.offset) := by simp [advance, hquote]
    rw [endsLiteral, hadvance, ok_bind, sees, Place.endsLiteral]
    cases hstep : v.before.step v.char with
    | ok next => simp [ScanState.advance_of_step hstep, hquote]
    | error b => simp [ScanState.advance_of_step_error hstep, hquote]

/-! ## 2. What stands between the ends of a text -/

/-- The text between the first character of a text and the one at an offset,
when no other character follows. -/
def bodyUpTo (t : Text) (close : Nat) : Checked (Option Text) := do
  if close = (← minus t.bytes 1) then return some (← slice t 1 close) else return none

theorem bodyUpTo_eq {a c : Char} (ha : a.utf8Size = 1) (hc : c.utf8Size = 1) (body rest : Text) :
    bodyUpTo (a :: (body ++ c :: rest)) (1 + body.bytes)
      = .ok (if rest.isEmpty then some body else none) := by
  have hbytes : Text.bytes (a :: (body ++ c :: rest)) = 1 + body.bytes + 1 + rest.bytes := by
    simp only [Text.bytes_cons, Text.bytes_append, ha, hc]
    omega
  have hslice : slice (a :: (body ++ c :: rest)) 1 (1 + body.bytes) = .ok body :=
    slice_of_eq (u := [a]) (w := c :: rest) (by simp) (by simp [ha]) (by simp [ha])
  rw [bodyUpTo, hbytes, minus_of_le (by omega), hslice]
  cases rest with
  | nil => simp
  | cons d rest =>
    have hpos := d.utf8Size_pos
    have hne : ¬ 1 + body.bytes = 1 + body.bytes + 1 + Text.bytes (d :: rest) - 1 := by
      rw [Text.bytes_cons]
      omega
    rw [ok_bind, if_neg hne]
    rfl

/-- The body of a text that is exactly one literal. -/
def quotedBody (t : Text) : Checked (Option Text) := do
  if !t.head?.any isQuote then return none
  match ← findOffset endsLiteral {} 0 t with
  | some close => bodyUpTo t close
  | none => return none

/-- The text between the brackets, when a text is one group of a kind and
nothing else. -/
def enclosed (b : Bracket) (t : Text) : Checked (Option Text) := do
  if t.head? ≠ some b.opener then return none
  match ← closingOffset t with
  | some close => bodyUpTo t close
  | none => return none

theorem utf8Size_of_isQuote {q : Char} (hq : isQuote q = true) : q.utf8Size = 1 := by
  simp only [isQuote, Bool.or_eq_true, decide_eq_true_eq] at hq
  rcases hq with rfl | rfl <;> rfl

theorem quotedBody_eq {t : Text} (h : Shallow t) : quotedBody t = .ok (Literal.body? t) := by
  cases t with
  | nil => rfl
  | cons q t =>
    cases hq : isQuote q with
    | false =>
      rw [Literal.body?_of_not_isQuote hq]
      simp [quotedBody, hq]
    | true =>
      have hend : findOffset endsLiteral {} 0 (q :: t)
          = .ok ((cutFrom Place.endsLiteral {} none (q :: t)).map fun parts =>
              0 + parts.1.bytes) := by
        rw [funext endsLiteral_eq]
        exact findOffset_sees isLocal_endsLiteral h 0 none
      have hcut : cutFrom Place.endsLiteral {} none (q :: t)
          = (Literal.untilQuote q t).map fun parts => (q :: parts.1, parts.2) := by
        rw [cutFrom, ScanState.step_of_quote rfl hq,
          ← cutFrom_endsLiteral (Literal.ne_backslash_of_isQuote hq) {} (some q) t]
        rfl
      rw [quotedBody, hend, hcut, Literal.body?, Literal.split?, if_pos hq]
      cases huntil : Literal.untilQuote q t with
      | none => simp [hq]
      | some parts =>
        obtain ⟨body, rest⟩ := parts
        obtain ⟨_, rfl⟩ := Literal.body_of_untilQuote huntil
        have hone := utf8Size_of_isQuote hq
        have hbody := bodyUpTo_eq hone hone body rest
        simp [hq, hone, hbody]

theorem enclosed_eq (b : Bracket) {t : Text} (h : Shallow t) :
    enclosed b t = .ok (enclosed? b t) := by
  rw [enclosed, enclosed?, closingOffset_eq h, closingOffset?]
  cases hgroup : Group.ofText? t with
  | none => simp
  | some g =>
    have ht := eq_append_of_ofText? hgroup
    have hbody := bodyUpTo_eq g.bracket.utf8Size_opener g.bracket.utf8Size_closer g.body g.rest
    rw [← ht] at hbody
    have hhead : t.head? = some g.bracket.opener := by rw [ht]; rfl
    by_cases hb : g.bracket = b
    · subst hb
      simp [hhead, hbody]
    · have hne : g.bracket.opener ≠ b.opener := fun heq => hb (Bracket.opener_injective heq)
      simp [hhead, hne, hb]

/-! ## 3. Literals -/

/-- Whether a text is `f` or `F` followed by exactly one literal. -/
def isFormat : Text → Checked Bool
  | [] => return false
  | c :: rest => do
    if c = 'f' || c = 'F' then return (← quotedBody rest).isSome else return false

/-- An argument as it is handed over. -/
def normalizeArgument (t : Text) : Checked Text := do
  if ← isFormat t then return t
  match ← quotedBody t with
  | some body => return Literal.unescape body
  | none => return t

theorem isFormat_eq {t : Text} (h : Shallow t) : isFormat t = .ok (Literal.isFormat t) := by
  cases t with
  | nil => rfl
  | cons c t =>
    rw [isFormat, Literal.isFormat]
    split
    · next hc =>
      have hplain : isPlain c = true := by
        simp only [Bool.or_eq_true, decide_eq_true_eq] at hc
        rcases hc with rfl | rfl <;> rfl
      rw [quotedBody_eq (h.of_plain_append (List.forall_mem_singleton.mpr hplain))]
      simp [hc]
    · next hc => simp [hc]

theorem normalizeArgument_eq {t : Text} (h : Shallow t) :
    normalizeArgument t = .ok (PlanScript.normalizeArgument t) := by
  rw [normalizeArgument, isFormat_eq h, ok_bind, quotedBody_eq h, PlanScript.normalizeArgument]
  split
  · rfl
  · cases Literal.body? t <;> rfl

/-! ## 4. Values -/

/-- The arguments of a list or dict body. -/
def splitElements (body : Text) : Checked (Except LiteralError (List Text)) := do
  return (← tokenize body).mapError .nesting

/-- The keys and values of dict entries, with the entries that were skipped
because they have no colon. -/
def entriesFrom (options : Options) :
    List Text → Checked (Except LiteralError (List Text × List Text))
  | [] => return .ok ([], [])
  | entry :: rest => do
    match ← findOffset (sees (·.isTopLevelChar ':')) {} 0 entry with
    | some colon =>
      let key ← sliceTo entry colon
      let value ← sliceFrom entry (colon + 1)
      return (← entriesFrom options rest).map fun (entries, skipped) =>
        (key.trim :: value.trim :: entries, skipped)
    | none =>
      if options.lenientDicts then
        return (← entriesFrom options rest).map fun (entries, skipped) =>
          (entries, entry :: skipped)
      else return .error (.entryWithoutColon entry)

/-- The keys and values of a dict body. -/
def dictEntries (options : Options) (body : Text) :
    Checked (Except LiteralError (List Text × List Text)) := do
  match ← splitElements body with
  | .ok entries => entriesFrom options entries
  | .error e => return .error e

/-- The value of a text, with the dict entries that were skipped. -/
def readValue (options : Options) (source : Text) :
    Checked (Except LiteralError (Value × List Text)) := do
  let t := source.trim
  if ← isFormat t then return .ok (.string t, [])
  match ← quotedBody t with
  | some body => return .ok (.string (Literal.unescape body), [])
  | none => match ← enclosed .square t with
    | some body => return (← splitElements body).map fun items => (.list items, [])
    | none => match ← enclosed .curly t with
      | some body =>
        return (← dictEntries options body).map fun (entries, skipped) => (.dict entries, skipped)
      | none => return .ok (.plain t, [])

/-- The value of a text. -/
def classify (options : Options) (source : Text) : Checked (Except LiteralError Value) := do
  return (← readValue options source).map Prod.fst

theorem splitElements_eq {body : Text} (h : Shallow body) :
    splitElements body = .ok (PlanScript.splitElements body) := by
  rw [splitElements, tokenize_eq h]
  rfl

theorem entriesFrom_eq (options : Options) {entries : List Text} (h : ∀ e ∈ entries, Shallow e) :
    entriesFrom options entries = .ok (readEntries options entries) := by
  induction entries with
  | nil => rfl
  | cons entry rest ih =>
    obtain ⟨hentry, hrest⟩ := List.forall_mem_cons.mp h
    have hfind := findOffset_sees (isLocal_isTopLevelChar ':') hentry 0 none
    rw [entriesFrom, hfind, ih hrest, readEntries, splitEntry?, cut]
    cases hcut : cutFrom (·.isTopLevelChar ':') {} none entry with
    | none =>
      simp only [Option.map_none, ok_bind]
      split
      · cases readEntries options rest <;> rfl
      · rfl
    | some sides =>
      obtain ⟨key, value⟩ := sides
      obtain ⟨p, hp, rfl⟩ := append_of_cutFrom hcut
      simp only [Place.isTopLevelChar, Bool.and_eq_true, decide_eq_true_eq] at hp
      rw [hp.2]
      have hvalue := sliceFrom_behind (c := ':') rfl key value
      simp only [Option.map_some, ok_bind, Nat.zero_add, sliceTo_append, hvalue]
      cases readEntries options rest <;> rfl

theorem dictEntries_eq (options : Options) {body : Text} (h : Shallow body) :
    dictEntries options body
      = .ok (do readEntries options (← PlanScript.splitElements body)) := by
  rw [dictEntries, splitElements_eq h, ok_bind, PlanScript.splitElements]
  cases hargs : splitArguments body with
  | error e => rfl
  | ok entries => exact entriesFrom_eq options (h.of_mem_splitArguments hargs)

/-- The value of a shallow text is read without a breach. -/
theorem readValue_eq (options : Options) {source : Text} (h : Shallow source) :
    readValue options source = .ok (Value.read options source) := by
  have ht := h.trim
  simp only [readValue, isFormat_eq ht, quotedBody_eq ht, enclosed_eq _ ht, ok_bind, pure_eq_ok]
  rw [Value.read, Value.readTrimmed]
  split
  · rfl
  · cases Literal.body? source.trim with
    | some body => rfl
    | none =>
      cases hsquare : enclosed? .square source.trim with
      | some body => simp only [splitElements_eq (ht.of_enclosed hsquare), ok_bind]
      | none =>
        cases hcurly : enclosed? .curly source.trim with
        | some body =>
          simp only [dictEntries_eq options (ht.of_enclosed hcurly), ok_bind]
          cases PlanScript.splitElements body with
          | error e => rfl
          | ok entries => rfl
        | none => rfl

theorem classify_eq (options : Options) {source : Text} (h : Shallow source) :
    classify options source = .ok (Value.classify options source) := by
  rw [classify, readValue_eq options h]
  rfl

end Offset

end PlanScript
