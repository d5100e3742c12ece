/-
PlanScript.Proofs.Nesting.Culprit — what a nesting error names.

A scan knows one place of a text at a time: its counts, the quote that is
open there, and whether the next character is escaped. Here the text is read
as a whole. `Text.outside` passes over each literal up to its end, and what it
leaves can be counted; `Text.openQuote?` is the quote of a literal that has no
end. Where a scan gets, these two say what its state is (`after?_outside`).

A scan gets through a text in which no closing bracket is one too many of its
kind (`exists_after?_iff`), and else stops at the first one that is
(`checkNesting_eq_unexpectedClose_iff_first`). So the check names that
bracket, or else the open quote, or else the first kind with a bracket left
open; and the scan lists what stands before the culprit, each character with
the counts and the quote of the text before it.
-/
import PlanScript.Proofs.Nesting.Compose
import PlanScript.Proofs.Value.Literal

namespace PlanScript

/-! ## 1. What stands outside the literals -/

namespace Text

/-- The characters of a text outside its literals, and the quote of a literal
that the text ends in. A literal is passed over as a whole; one without an end
goes on to the end of the text. -/
def sweep : Text → Text × Option Char
  | [] => ([], none)
  | c :: rest =>
    if isQuote c then
      match _h : Literal.untilQuote c rest with
      | some (_, after) => sweep after
      | none => ([], some c)
    else (c :: (sweep rest).1, (sweep rest).2)
termination_by t => t.length
decreasing_by
  · obtain ⟨_, rfl⟩ := Literal.body_of_untilQuote _h
    simp only [List.length_cons, List.length_append]
    omega
  · exact Nat.lt_succ_self _

/-- The characters of a text outside its literals. -/
def outside (t : Text) : Text := (sweep t).1

/-- The quote of the literal that a text ends in, unless it ends outside. -/
def openQuote? (t : Text) : Option Char := (sweep t).2

theorem sweep_nil : sweep [] = ([], none) := by rw [sweep]

theorem sweep_cons {c : Char} (hc : isQuote c = false) (t : Text) :
    sweep (c :: t) = (c :: outside t, openQuote? t) := by
  rw [sweep]
  simp [hc, outside, openQuote?]

theorem sweep_literal {q : Char} (hq : isQuote q = true) {body : Text}
    (h : Literal.Body q body) (t : Text) : sweep (q :: (body ++ q :: t)) = sweep t := by
  have huntil := Literal.untilQuote_body (Literal.ne_backslash_of_isQuote hq) h t
  rw [sweep, if_pos hq]
  split <;> simp_all

theorem sweep_open {q : Char} (hq : isQuote q = true) {t : Text}
    (h : Literal.untilQuote q t = none) : sweep (q :: t) = ([], some q) := by
  rw [sweep, if_pos hq]
  split <;> simp_all

end Text

/-! ## 2. What a scan has counted -/

/-- Inside a literal without an end, a scan counts nothing. -/
theorem Literal.after?_of_untilQuote {q : Char} {t : Text} (h : untilQuote q t = none)
    (d : Depth) :
    ∃ escaped, ScanState.after? ⟨d, some q, false⟩ t = some ⟨d, some q, escaped⟩ := by
  fun_induction untilQuote q t with
  | case1 => exact ⟨false, rfl⟩
  | case2 => contradiction
  | case3 c hc =>
    by_cases hback : c = '\\'
    · exact ⟨true, by simp [ScanState.after?, ScanState.step, hback]⟩
    · exact ⟨false, by simp [ScanState.after?, ScanState.step, hback, hc]⟩
  | case4 c rest ih =>
    obtain ⟨escaped, hrest⟩ := ih (Option.map_eq_none_iff.mp h)
    exact ⟨escaped, by simpa [ScanState.after?, ScanState.step] using hrest⟩
  | case5 => contradiction
  | case6 c e rest hback hc ih =>
    obtain ⟨escaped, hrest⟩ := ih (Option.map_eq_none_iff.mp h)
    exact ⟨escaped, by simpa [ScanState.after?, ScanState.step, hback, hc] using hrest⟩

theorem count_opener_cons (a b : Bracket) (t : Text) :
    (a.opener :: t).count b.opener = t.count b.opener + (if b = a then 1 else 0) ∧
      (a.opener :: t).count b.closer = t.count b.closer := by
  cases a <;> cases b <;> simp [Bracket.opener, Bracket.closer]

theorem count_closer_cons (a b : Bracket) (t : Text) :
    (a.closer :: t).count b.opener = t.count b.opener ∧
      (a.closer :: t).count b.closer = t.count b.closer + (if b = a then 1 else 0) := by
  cases a <;> cases b <;> simp [Bracket.opener, Bracket.closer]

theorem count_plain_cons {c : Char} (hc : isPlain c = true) (b : Bracket) (t : Text) :
    (c :: t).count b.opener = t.count b.opener ∧ (c :: t).count b.closer = t.count b.closer := by
  have hopen : c ≠ b.opener := by
    rintro rfl
    simp [isPlain] at hc
  have hclose : c ≠ b.closer := by
    rintro rfl
    simp [isPlain] at hc
  exact ⟨List.count_cons_of_ne hopen, List.count_cons_of_ne hclose⟩

/-- A scan that has got through a text is in the literal that the text ends
in. For each kind, the closing brackets outside the literals and those that
it still has open are as many as the opening ones. -/
theorem after?_outside {d : Depth} {u : Text} {m : ScanState}
    (h : ({ depth := d } : ScanState).after? u = some m) :
    m.quote = Text.openQuote? u ∧ ∀ b : Bracket,
      m.depth.count b + (Text.outside u).count b.closer
        = d.count b + (Text.outside u).count b.opener := by
  match u with
  | [] =>
    cases h
    simp [Text.openQuote?, Text.outside, Text.sweep_nil]
  | c :: u =>
    obtain ⟨next, hstep, hrest⟩ := ScanState.step_of_after?_cons h
    unfold Text.openQuote? Text.outside
    rcases char_cases c with hc | hc | ⟨a, rfl⟩ | ⟨a, rfl⟩
    · rw [ScanState.step_of_plain rfl hc] at hstep
      cases hstep
      obtain ⟨hquote, hcount⟩ := after?_outside hrest
      rw [Text.sweep_cons (isQuote_of_isPlain hc)]
      refine ⟨hquote, fun b => ?_⟩
      obtain ⟨hopen, hclose⟩ := count_plain_cons hc b (Text.outside u)
      simp only [hopen, hclose, hcount b]
    · rw [ScanState.step_of_quote rfl hc] at hstep
      cases hstep
      cases huntil : Literal.untilQuote c u with
      | none =>
        obtain ⟨escaped, hopen⟩ := Literal.after?_of_untilQuote huntil d
        rw [hopen] at hrest
        cases hrest
        simp [Text.sweep_open hc huntil]
      | some sides =>
        obtain ⟨body, rest⟩ := sides
        obtain ⟨hbody, rfl⟩ := Literal.body_of_untilQuote huntil
        rw [Literal.after?_literal_append hc hbody] at h
        rw [Text.sweep_literal hc hbody]
        exact after?_outside h
    · rw [ScanState.step_opener rfl] at hstep
      cases hstep
      obtain ⟨hquote, hcount⟩ := after?_outside hrest
      rw [Text.sweep_cons (Bracket.isQuote_opener a)]
      refine ⟨hquote, fun b => ?_⟩
      obtain ⟨hopen, hclose⟩ := count_opener_cons a b (Text.outside u)
      have hb := hcount b
      simp only [Depth.count_raise] at hb
      simp only [hopen, hclose]
      omega
    · rw [ScanState.step_closer rfl] at hstep
      cases hlow : d.lower? a with
      | none => simp [hlow] at hstep
      | some e =>
        simp only [hlow] at hstep
        cases hstep
        obtain ⟨hquote, hcount⟩ := after?_outside hrest
        rw [Text.sweep_cons (Bracket.isQuote_closer a)]
        refine ⟨hquote, fun b => ?_⟩
        obtain ⟨hopen, hclose⟩ := count_closer_cons a b (Text.outside u)
        have hb := hcount b
        simp only [hopen, hclose, (Depth.lower?_eq_some_iff d e a).mp hlow, Depth.count_raise]
        omega
termination_by u.length
decreasing_by all_goals (subst_vars; simp only [List.length_cons, List.length_append]; omega)

/-- Where a scan begins, nothing is open. -/
theorem after?_outside_start {u : Text} {m : ScanState} (h : ({} : ScanState).after? u = some m) :
    m.quote = Text.openQuote? u ∧ ∀ b : Bracket,
      m.depth.count b + (Text.outside u).count b.closer = (Text.outside u).count b.opener := by
  obtain ⟨hquote, hcount⟩ := after?_outside h
  refine ⟨hquote, fun b => ?_⟩
  have hzero : ({} : Depth).count b = 0 := by cases b <;> rfl
  rw [hcount, hzero, Nat.zero_add]

/-! ## 3. Closing brackets that close nothing -/

/-- A closing bracket outside the literals is one too many: with it, the
closing brackets of its kind are more than the opening ones before it. -/
def ClosesNothing (t : Text) (b : Bracket) (offset : Nat) : Prop :=
  ∃ left right, t = left ++ b.closer :: right ∧ left.bytes = offset ∧
    Text.openQuote? left = none ∧
    (Text.outside left).count b.opener < (Text.outside left).count b.closer + 1

theorem ClosesNothing.append {u : Text} {b : Bracket} {offset : Nat}
    (h : ClosesNothing u b offset) (v : Text) : ClosesNothing (u ++ v) b offset := by
  obtain ⟨left, right, rfl, hrest⟩ := h
  exact ⟨left, right ++ v, by simp, hrest⟩

theorem ClosesNothing.lt_bytes {t : Text} {b : Bracket} {offset : Nat}
    (h : ClosesNothing t b offset) : offset < t.bytes := by
  obtain ⟨left, right, rfl, rfl, _⟩ := h
  have hpos := Char.utf8Size_pos b.closer
  rw [Text.bytes_append, Text.bytes_cons]
  omega

/-- A scan fails at a closing bracket that closes nothing. -/
theorem step_eq_error_iff_of_after? {left : Text} {m : ScanState}
    (hm : ({} : ScanState).after? left = some m) (b : Bracket) :
    m.step b.closer = .error b ↔ Text.openQuote? left = none ∧
      (Text.outside left).count b.opener < (Text.outside left).count b.closer + 1 := by
  obtain ⟨hquote, hcount⟩ := after?_outside_start hm
  have hb := hcount b
  rw [ScanState.step_eq_error_iff, hquote]
  refine ⟨fun ⟨_, hq, hd⟩ => ⟨hq, by omega⟩, fun ⟨hq, hd⟩ => ⟨rfl, hq, by omega⟩⟩

/-- Where a scan gets, no closing bracket has been one too many. -/
theorem bytes_le_of_closesNothing {u v : Text} {m : ScanState}
    (hm : ({} : ScanState).after? u = some m) {b : Bracket} {offset : Nat}
    (h : ClosesNothing (u ++ v) b offset) : u.bytes ≤ offset := by
  obtain ⟨left, right, hsplit, rfl, hquote, hcount⟩ := h
  rcases List.append_eq_append_iff.mp hsplit with ⟨w, rfl, _⟩ | ⟨w, rfl, hw⟩
  · rw [Text.bytes_append]
    omega
  · cases w with
    | nil => simp
    | cons c w =>
      -- The bracket would stand in the part that the scan got through.
      obtain ⟨rfl, _⟩ := List.cons.inj hw
      rw [ScanState.after?_append] at hm
      obtain ⟨k, hk, hrest⟩ := Option.bind_eq_some_iff.mp hm
      obtain ⟨next, hstep, _⟩ := ScanState.step_of_after?_cons hrest
      rw [(step_eq_error_iff_of_after? hk b).mpr ⟨hquote, hcount⟩] at hstep
      contradiction

/-- A scan gets through exactly the texts in which no closing bracket is one
too many. -/
theorem exists_after?_iff (t : Text) :
    (∃ m, ({} : ScanState).after? t = some m) ↔ ∀ b offset, ¬ ClosesNothing t b offset := by
  constructor
  · intro ⟨m, hm⟩ b offset h
    have hle := bytes_le_of_closesNothing (v := []) hm (by rwa [List.append_nil])
    have hlt := h.lt_bytes
    omega
  · intro hnone
    cases hrun : runFrom {} 0 t with
    | ok m => exact ⟨m, (runFrom_eq_ok_iff ..).mp hrun⟩
    | error e =>
      obtain ⟨left, c, right, m, b, rfl, hleft, hstep, _⟩ := (runFrom_eq_error_iff ..).mp hrun
      obtain ⟨rfl, _⟩ := (ScanState.step_eq_error_iff m c b).mp hstep
      have houter := (step_eq_error_iff_of_after? hleft b).mp hstep
      exact absurd ⟨left, right, rfl, rfl, houter⟩ (hnone b left.bytes)

/-! ## 4. The culprit -/

/-- A closing bracket that closes nothing, the first one of the text. -/
def FirstClosesNothing (t : Text) (b : Bracket) (offset : Nat) : Prop :=
  ClosesNothing t b offset ∧ ∀ a other, ClosesNothing t a other → offset ≤ other

/-- What stands before the first closing bracket that closes nothing is
scanned to its end. -/
theorem FirstClosesNothing.exists_after? {t : Text} {b : Bracket} {offset : Nat}
    (h : FirstClosesNothing t b offset) :
    ∃ left right m, t = left ++ b.closer :: right ∧ left.bytes = offset ∧
      ({} : ScanState).after? left = some m ∧ m.step b.closer = .error b := by
  obtain ⟨⟨left, right, rfl, rfl, houter⟩, hfirst⟩ := h
  have hnone : ∀ a other, ¬ ClosesNothing left a other := by
    intro a other hother
    have hle := hfirst a other (hother.append _)
    have hlt := hother.lt_bytes
    omega
  obtain ⟨m, hm⟩ := (exists_after?_iff left).mpr hnone
  exact ⟨left, right, m, rfl, rfl, hm, (step_eq_error_iff_of_after? hm b).mpr houter⟩

theorem checkNesting_eq_unexpectedClose_iff_first (t : Text) (b : Bracket) (offset : Nat) :
    checkNesting t = .error (.unexpectedClose b offset) ↔ FirstClosesNothing t b offset := by
  rw [checkNesting_eq_unexpectedClose_iff]
  constructor
  · intro ⟨left, right, m, ht, hleft, hquote, hcount, hbytes⟩
    have hstep := (ScanState.step_eq_error_iff m b.closer b).mpr ⟨rfl, hquote, hcount⟩
    have houter := (step_eq_error_iff_of_after? hleft b).mp hstep
    refine ⟨⟨left, right, ht, hbytes, houter⟩, fun a other hother => ?_⟩
    rw [ht] at hother
    exact hbytes ▸ bytes_le_of_closesNothing hleft hother
  · intro h
    obtain ⟨left, right, m, ht, hbytes, hleft, hstep⟩ := h.exists_after?
    obtain ⟨_, hquote, hcount⟩ := (ScanState.step_eq_error_iff m b.closer b).mp hstep
    exact ⟨left, right, m, ht, hleft, hquote, hcount, hbytes⟩

/-- The first kind, in the order round, square, curly, that has more opening
brackets outside the literals than closing ones. -/
def Text.firstLeftOpen? (t : Text) : Option Bracket :=
  [.round, .square, .curly].find? fun b => (outside t).count b.closer < (outside t).count b.opener

theorem Depth.firstOpen?_eq_find? (d : Depth) :
    d.firstOpen? = [.round, .square, .curly].find? fun b => 0 < d.count b := by
  by_cases hr : 0 < d.round
  · simp [firstOpen?, count, hr]
  · by_cases hs : 0 < d.square
    · simp [firstOpen?, count, hr, hs]
    · by_cases hc : 0 < d.curly <;> simp [firstOpen?, count, hr, hs, hc]

theorem firstOpen?_of_after? {t : Text} {m : ScanState}
    (hm : ({} : ScanState).after? t = some m) : m.depth.firstOpen? = t.firstLeftOpen? := by
  rw [Depth.firstOpen?_eq_find?, Text.firstLeftOpen?]
  refine congrArg (List.find? · _) (funext fun b => decide_eq_decide.mpr ?_)
  have hb := (after?_outside_start hm).2 b
  omega

/-- What the check says of a text in which no closing bracket is one too many:
it names an open quote, or else the first kind left open. -/
def Text.checkEnd (t : Text) : Except NestingError Unit :=
  match openQuote? t with
  | some q => .error (.unterminatedQuote q)
  | none => match firstLeftOpen? t with
    | some b => .error (.unclosed b)
    | none => .ok ()

theorem checkNesting_of_not_closesNothing {t : Text}
    (h : ∀ b offset, ¬ ClosesNothing t b offset) : checkNesting t = t.checkEnd := by
  obtain ⟨m, hm⟩ := (exists_after?_iff t).mpr h
  have hrun := (runFrom_eq_ok_iff {} m 0 t).mpr hm
  rw [Text.checkEnd, ← (after?_outside hm).1, ← firstOpen?_of_after? hm]
  simp only [checkNesting, hrun, bind, Except.bind]
  rfl

/-- A check that names no unexpected bracket says what is open at the end. -/
theorem checkNesting_eq_iff_checkEnd {t : Text} {result : Except NestingError Unit}
    (hresult : ∀ b offset, result ≠ .error (.unexpectedClose b offset)) :
    checkNesting t = result ↔ (∀ b offset, ¬ ClosesNothing t b offset) ∧ t.checkEnd = result := by
  constructor
  · intro h
    have hnone : ∀ b offset, ¬ ClosesNothing t b offset := by
      refine (exists_after?_iff t).mp ?_
      cases hrun : runFrom {} 0 t with
      | ok m => exact ⟨m, (runFrom_eq_ok_iff ..).mp hrun⟩
      | error e =>
        obtain ⟨_, _, _, _, b, _, _, _, rfl⟩ := (runFrom_eq_error_iff ..).mp hrun
        simp only [checkNesting, hrun, bind, Except.bind] at h
        exact absurd h.symm (hresult _ _)
    exact ⟨hnone, checkNesting_of_not_closesNothing hnone ▸ h⟩
  · intro hend
    obtain ⟨hnone, h⟩ := hend
    rw [checkNesting_of_not_closesNothing hnone, h]

/-! ## 5. What a scan lists -/

theorem map_char_scanFrom {s m : ScanState} {t : Text} (h : s.after? t = some m) (offset : Nat) :
    (scanFrom s offset t).map Visit.char = t := by
  induction t generalizing s offset with
  | nil => rfl
  | cons c t ih =>
    obtain ⟨next, hstep, hrest⟩ := ScanState.step_of_after?_cons h
    simp only [scanFrom, hstep, List.map_cons, ih hrest]

/-- A scan that fails lists the character that it fails at as the last one. -/
theorem map_char_scan_of_error {left right : Text} {c : Char} {m : ScanState} {b : Bracket}
    (hleft : ({} : ScanState).after? left = some m) (hstep : m.step c = .error b) :
    (scan (left ++ c :: right)).map Visit.char = left ++ [c] := by
  rw [scan, scanFrom_append hleft, List.map_append, map_char_scanFrom hleft]
  simp only [scanFrom, hstep, List.map_cons, List.map_nil]

/-- The visit at an index has the state after the characters before it. -/
theorem after?_of_getElem?_scanFrom {s : ScanState} {offset : Nat} {t : Text} {i : Nat} {v : Visit}
    (h : (scanFrom s offset t)[i]? = some v) :
    s.after? (t.take i) = some v.before ∧ v.offset = offset + Text.bytes (t.take i) := by
  induction t generalizing s offset i with
  | nil => simp [scanFrom] at h
  | cons c t ih =>
    cases i with
    | zero =>
      simp only [scanFrom, List.getElem?_cons_zero, Option.some.injEq] at h
      subst h
      simp [ScanState.after?]
    | succ i =>
      cases hstep : s.step c with
      | error b => simp [scanFrom, hstep] at h
      | ok next =>
        simp only [scanFrom, hstep, List.getElem?_cons_succ] at h
        obtain ⟨hafter, hoffset⟩ := ih h
        rw [List.take_succ_cons, ScanState.after?_cons_of_step hstep, Text.bytes_cons, hoffset]
        exact ⟨hafter, by omega⟩

/-- The check names the first closing bracket that closes nothing, with its
offset; when there is none, the quote of a literal without an end; when there
is none either, the first kind left open. The scan lists the text up to that
closing bracket, or the whole text: each character at its offset, with what
is open in the text before it. -/
theorem checkNesting_names_first_culprit (t : Text) :
    (∀ b offset, checkNesting t = .error (.unexpectedClose b offset) ↔
      FirstClosesNothing t b offset) ∧
    (∀ q, checkNesting t = .error (.unterminatedQuote q) ↔
      (∀ b offset, ¬ ClosesNothing t b offset) ∧ Text.openQuote? t = some q) ∧
    (∀ b, checkNesting t = .error (.unclosed b) ↔
      (∀ a offset, ¬ ClosesNothing t a offset) ∧ Text.openQuote? t = none ∧
        Text.firstLeftOpen? t = some b) ∧
    (checkNesting t = .ok () ↔
      (∀ b offset, ¬ ClosesNothing t b offset) ∧ Text.openQuote? t = none ∧
        Text.firstLeftOpen? t = none) ∧
    (∀ b offset, FirstClosesNothing t b offset →
      ∃ left right, t = left ++ b.closer :: right ∧ left.bytes = offset ∧
        (scan t).map Visit.char = left ++ [b.closer]) ∧
    ((∀ b offset, ¬ ClosesNothing t b offset) → (scan t).map Visit.char = t) ∧
    ∀ i v, (scan t)[i]? = some v →
      v.offset = Text.bytes (t.take i) ∧ v.before.quote = Text.openQuote? (t.take i) ∧
        ∀ b : Bracket, v.before.depth.count b + (Text.outside (t.take i)).count b.closer
          = (Text.outside (t.take i)).count b.opener := by
  refine ⟨checkNesting_eq_unexpectedClose_iff_first t, fun q => ?_, fun b => ?_, ?_, ?_, ?_, ?_⟩
  · rw [checkNesting_eq_iff_checkEnd (by simp), Text.checkEnd]
    cases Text.openQuote? t <;> cases Text.firstLeftOpen? t <;> simp
  · rw [checkNesting_eq_iff_checkEnd (by simp), Text.checkEnd]
    cases Text.openQuote? t <;> cases Text.firstLeftOpen? t <;> simp
  · rw [checkNesting_eq_iff_checkEnd (by simp), Text.checkEnd]
    cases Text.openQuote? t <;> cases Text.firstLeftOpen? t <;> simp
  · intro b offset h
    obtain ⟨left, right, m, rfl, hbytes, hleft, hstep⟩ := h.exists_after?
    exact ⟨left, right, rfl, hbytes, map_char_scan_of_error hleft hstep⟩
  · intro hnone
    obtain ⟨m, hm⟩ := (exists_after?_iff t).mpr hnone
    exact map_char_scanFrom hm 0
  · intro i v h
    obtain ⟨hafter, hoffset⟩ := after?_of_getElem?_scanFrom h
    exact ⟨by rw [hoffset, Nat.zero_add], after?_outside_start hafter⟩

/-- Three faults in one text: behind a literal with an escaped quote, a curly
bracket is closed that was not opened, a round one stays open, and so does a
literal. The first one is named. Without it, the open literal is. -/
theorem checkNesting_names_first_culprit_faults :
    let text := "é\"\\\"]\"[\x7d('".toList
    let shorter := "é\"\\\"]\"[('".toList
    FirstClosesNothing text .curly 8 ∧
    (∃ left right, text = left ++ '}' :: right ∧ Text.bytes left = 8 ∧
      (scan text).map Visit.char = left ++ ['}']) ∧
    (∃ v, (scan text)[5]? = some v ∧ v.before.quote = Text.openQuote? "é\"\\\"]".toList) ∧
    checkNesting shorter = .error (.unterminatedQuote '\x27') ∧
    (scan shorter).map Visit.char = shorter := by
  intro text shorter
  obtain ⟨hclose, -, -, -, hstop, -, hvisit⟩ := checkNesting_names_first_culprit text
  obtain ⟨-, hquote, -, -, -, hwhole, -⟩ := checkNesting_names_first_culprit shorter
  have hfirst := (hclose .curly 8).mp rfl
  have hopen : checkNesting shorter = .error (.unterminatedQuote '\x27') := rfl
  exact ⟨hfirst, hstop .curly 8 hfirst, ⟨_, rfl, (hvisit 5 _ rfl).2.1⟩, hopen,
    hwhole ((hquote '\x27').mp hopen).1⟩

end PlanScript
