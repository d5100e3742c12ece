/-
PlanScript.Proofs.Value.Literal — literals as a grammar, and how to write
them.

`Literal.Body q` is the grammar of the text between two quotes `q`: a
backslash takes the character after it along, and no other `q` occurs. The
two readers of literals agree with it.

* `untilQuote_body` and `body_of_untilQuote`: cutting at the closing quote
  finds the body that stands there, and nothing else, so a literal is read in
  one way only (`Body.unique`).
* `after?_literal` and `exists_body_of_after?`: a scan that enters a literal
  comes out of it behind its closing quote, and nowhere else.

`escape q s` writes the string `s` as a body. It always is one
(`body_escape`), and `unescape_escape` reads the string back.
-/
import PlanScript.Proofs.Nesting.Run
import PlanScript.Value.Literal

namespace PlanScript.Literal

/-! ## 1. Bodies -/

/-- The text between two quotes `q`. -/
inductive Body (q : Char) : Text → Prop
  | nil : Body q []
  | escaped (c : Char) {t : Text} : Body q t → Body q ('\\' :: c :: t)
  | plain {c : Char} {t : Text} : c ≠ '\\' → c ≠ q → Body q t → Body q (c :: t)

theorem ne_backslash_of_isQuote {q : Char} (hq : isQuote q = true) : q ≠ '\\' := by
  rintro rfl
  exact absurd hq (by decide)

/-! ## 2. Cutting at the closing quote -/

theorem untilQuote_quote {q : Char} (hq : q ≠ '\\') (rest : Text) :
    untilQuote q (q :: rest) = some ([], rest) := by
  cases rest <;> simp [untilQuote, hq]

theorem untilQuote_escaped (q c : Char) (rest : Text) :
    untilQuote q ('\\' :: c :: rest)
      = (untilQuote q rest).map fun (body, after) => ('\\' :: c :: body, after) := by
  simp [untilQuote]

theorem untilQuote_plain {q c : Char} (hc : c ≠ '\\') (hcq : c ≠ q) (rest : Text) :
    untilQuote q (c :: rest) = (untilQuote q rest).map fun (body, after) => (c :: body, after) := by
  cases rest with
  | nil => simp [untilQuote, hcq]
  | cons d rest => simp [untilQuote, hc, hcq]

theorem untilQuote_body {q : Char} (hq : q ≠ '\\') {body : Text} (h : Body q body) (rest : Text) :
    untilQuote q (body ++ q :: rest) = some (body, rest) := by
  induction h with
  | nil => exact untilQuote_quote hq rest
  | escaped c _ ih => simp [untilQuote_escaped, ih]
  | plain hc hcq _ ih => simp [untilQuote_plain hc hcq, ih]

theorem body_of_untilQuote {q : Char} {t body rest : Text}
    (h : untilQuote q t = some (body, rest)) : Body q body ∧ t = body ++ q :: rest := by
  fun_induction untilQuote q t generalizing body with
  | case1 => simp at h
  | case2 => cases h; exact ⟨.nil, rfl⟩
  | case3 => simp at h
  | case4 d after ih =>
    obtain ⟨⟨inner, _⟩, hinner, heq⟩ := Option.map_eq_some_iff.mp h
    cases heq
    obtain ⟨hbody, rfl⟩ := ih hinner
    exact ⟨.escaped d hbody, rfl⟩
  | case5 d after hc => cases h; exact ⟨.nil, rfl⟩
  | case6 c d after hc hcq ih =>
    obtain ⟨⟨inner, _⟩, hinner, heq⟩ := Option.map_eq_some_iff.mp h
    cases heq
    obtain ⟨hbody, hrest⟩ := ih hinner
    exact ⟨.plain hc hcq hbody, by rw [hrest]; rfl⟩

/-- A literal ends in one place only. -/
theorem Body.unique {q : Char} (hq : isQuote q = true) {body body' rest rest' : Text}
    (h : Body q body) (h' : Body q body') (heq : body ++ q :: rest = body' ++ q :: rest') :
    body = body' ∧ rest = rest' := by
  have hcut := untilQuote_body (ne_backslash_of_isQuote hq) h rest
  rw [heq, untilQuote_body (ne_backslash_of_isQuote hq) h'] at hcut
  cases hcut
  exact ⟨rfl, rfl⟩

/-! ## 3. Scanning a literal -/

theorem after?_body {q : Char} {body : Text} (h : Body q body) (d : Depth) :
    ({ depth := d, quote := some q } : ScanState).after? body
      = some { depth := d, quote := some q } := by
  induction h with
  | nil => rfl
  | escaped c _ ih => simpa [ScanState.after?, ScanState.step] using ih
  | plain hc hcq _ ih => simpa [ScanState.after?, ScanState.step, hc, hcq] using ih

/-- A scan passes a whole literal and is where it was before. -/
theorem after?_literal {q : Char} (hq : isQuote q = true) {body : Text} (h : Body q body)
    (d : Depth) :
    ({ depth := d } : ScanState).after? (q :: body ++ [q]) = some { depth := d } := by
  have hopen := ScanState.step_of_quote (s := { depth := d }) rfl hq
  rw [List.cons_append, ScanState.after?_cons_of_step hopen,
    ScanState.after?_append_of_eq (after?_body h d)]
  simp [ScanState.after?, ScanState.step, ne_backslash_of_isQuote hq]

theorem after?_literal_append {q : Char} (hq : isQuote q = true) {body : Text} (h : Body q body)
    (d : Depth) (rest : Text) :
    ({ depth := d } : ScanState).after? (q :: (body ++ q :: rest))
      = ({ depth := d } : ScanState).after? rest := by
  have hparts : q :: (body ++ q :: rest) = (q :: body ++ [q]) ++ rest := by simp
  rw [hparts, ScanState.after?_append_of_eq (after?_literal hq h d)]

theorem balanced_literal {q : Char} (hq : isQuote q = true) {body : Text} (h : Body q body) :
    Balanced (q :: body ++ [q]) := after?_literal hq h {}

/-- A scan that starts inside a literal and ends outside has passed the
closing quote. After a backslash, the body goes on from there. -/
theorem exists_body_of_after? {d : Depth} {q : Char} {escaped : Bool} {t : Text}
    {last : ScanState} (h : ScanState.after? ⟨d, some q, escaped⟩ t = some last)
    (hlast : last.quote = none) :
    ∃ body rest, t = body ++ q :: rest ∧ Body q (if escaped then '\\' :: body else body) ∧
      ({ depth := d } : ScanState).after? rest = some last := by
  induction t generalizing escaped with
  | nil => cases h; contradiction
  | cons c t ih =>
    obtain ⟨next, hstep, hrest⟩ := ScanState.step_of_after?_cons h
    simp only [ScanState.step] at hstep
    cases escaped with
    | true =>
      cases hstep
      obtain ⟨body, rest, rfl, hbody, hafter⟩ := ih hrest
      exact ⟨c :: body, rest, rfl, .escaped c hbody, hafter⟩
    | false =>
      by_cases hc : c = '\\'
      · simp only [hc, if_true] at hstep
        cases hstep
        obtain ⟨body, rest, rfl, hbody, hafter⟩ := ih hrest
        exact ⟨c :: body, rest, rfl, by simpa [hc] using hbody, hafter⟩
      · by_cases hcq : c = q
        · subst hcq
          simp only [hc, if_false, if_true] at hstep
          cases hstep
          exact ⟨[], t, rfl, .nil, hrest⟩
        · simp only [hc, hcq, if_false] at hstep
          cases hstep
          obtain ⟨body, rest, rfl, hbody, hafter⟩ := ih hrest
          exact ⟨c :: body, rest, rfl, .plain hc hcq hbody, hafter⟩

/-! ## 4. Reading a whole literal -/

theorem split?_literal {q : Char} (hq : isQuote q = true) {body : Text} (h : Body q body)
    (rest : Text) : split? (q :: (body ++ q :: rest)) = some (body, rest) := by
  simp [split?, hq, untilQuote_body (ne_backslash_of_isQuote hq) h]

theorem body?_literal {q : Char} (hq : isQuote q = true) {body : Text} (h : Body q body) :
    body? (q :: body ++ [q]) = some body := by
  simp [body?, split?_literal hq h]

theorem isFormat_of_isQuote {q : Char} (hq : isQuote q = true) (t : Text) :
    isFormat (q :: t) = false := by
  have hf : ∀ c : Char, c = 'f' ∨ c = 'F' → isQuote c = false := by
    rintro c (rfl | rfl) <;> rfl
  have hne : ¬ (q = 'f' ∨ q = 'F') := fun h => by
    rw [hf q h] at hq
    contradiction
  simp [isFormat, hne]

theorem body?_of_not_isQuote {c : Char} (hc : isQuote c = false) (t : Text) :
    body? (c :: t) = none := by
  simp [body?, split?, hc]

/-! ## 5. Writing a string -/

/-- How a character is written in a body. -/
def escapeChar (q c : Char) : Text :=
  if c = '\\' then ['\\', '\\']
  else if c = q then ['\\', q]
  else if c = '\n' then ['\\', 'n']
  else [c]

/-- The body that stands for a string: backslashes, quotes `q` and line
feeds are escaped. -/
def escape (q : Char) (s : Text) : Text := s.flatMap (escapeChar q)

theorem body_escape (q : Char) (s : Text) : Body q (escape q s) := by
  induction s with
  | nil => exact .nil
  | cons c s ih =>
    rw [escape, List.flatMap_cons, ← escape, escapeChar]
    split
    · exact .escaped _ ih
    · next hc =>
      split
      · exact .escaped _ ih
      · next hcq =>
        split
        · exact .escaped _ ih
        · exact .plain hc hcq ih

theorem unescape_plain {c : Char} (hc : c ≠ '\\') (t : Text) :
    unescape (c :: t) = c :: unescape t := by
  cases t with
  | nil => rfl
  | cons d t => simp [unescape, hc]

theorem unescape_escaped {d : Char} (hd : isQuote d = true ∨ d = '\\') (t : Text) :
    unescape ('\\' :: d :: t) = d :: unescape t := by
  have hn : d ≠ 'n' := by rintro rfl; exact absurd hd (by decide)
  have ht : d ≠ 't' := by rintro rfl; exact absurd hd (by decide)
  simp [unescape, hn, ht, hd]

/-- Every string can be written, and is read back as it was. -/
theorem unescape_escape {q : Char} (hq : isQuote q = true) (s : Text) :
    unescape (escape q s) = s := by
  induction s with
  | nil => rfl
  | cons c s ih =>
    rw [escape, List.flatMap_cons, ← escape, escapeChar]
    split
    · next hc =>
      rw [List.cons_append, List.singleton_append, unescape_escaped (.inr rfl), ih, hc]
    · next hc =>
      split
      · next hcq =>
        rw [List.cons_append, List.singleton_append, unescape_escaped (.inl hq), ih, hcq]
      · split
        · next hn => simp [unescape, ih, hn]
        · rw [List.singleton_append, unescape_plain hc, ih]

end PlanScript.Literal
