/-
PlanScript.Proofs.Statement.Parts — how the pieces of a statement are
written.

Each piece has a description that does not mention the scan that finds it.

* `IsBinding line target source`: an identifier, a sign and a source, with
  white space between them. `Assigns line target remainder` keeps what stands
  behind the sign as it is, and asks that it goes on as no comparison and is
  not blank; this is what a line is read as a binding for
  (`Binding.ofText?_eq_some_iff`).
* `IsCall t function args`: an identifier and a round group whose body is
  balanced and splits into the arguments.
* `IsIndex t n`: a number in square brackets.

The readers agree with these descriptions. What stands at the top level of
such a piece is made of words, white space and groups (`isWordChar`,
`MarksSign.quiet_group`), so no other sign or operator is found there.
-/
import PlanScript.Proofs.Value.Arguments
import PlanScript.Proofs.Text.Search
import PlanScript.Proofs.Text.Decimal
import PlanScript.Statement.Basic

namespace PlanScript

/-! ## 1. Words -/

/-- A character of an identifier, or white space. -/
def isWordChar (c : Char) : Bool := continuesIdentifier c || isBlank c

theorem isWordChar_of_isBlank {c : Char} (h : isBlank c = true) : isWordChar c = true := by
  simp [isWordChar, h]

theorem isWordChar_of_isIdentifier {t : Text} (h : t.isIdentifier = true) :
    ∀ c ∈ t, isWordChar c = true := by
  intro c hc
  simp [isWordChar, Text.continuesIdentifier_of_mem h c hc]

theorem isWordChar_of_allBlank {w : Text} (h : w.allBlank = true) :
    ∀ c ∈ w, isWordChar c = true := fun c hc =>
  isWordChar_of_isBlank ((Text.allBlank_iff w).mp h c hc)

/-- An identifier and the white space after it are made of word characters. -/
theorem isWordChar_of_name {name w : Text} (hname : name.isIdentifier = true)
    (hw : w.allBlank = true) : ∀ c ∈ name ++ w, isWordChar c = true := by
  intro c hc
  rcases List.mem_append.mp hc with hc | hc
  · exact isWordChar_of_isIdentifier hname c hc
  · exact isWordChar_of_allBlank hw c hc

theorem ne_of_isWordChar {c d : Char} (hc : isWordChar c = true) (hd : isWordChar d = false) :
    c ≠ d := by
  rintro rfl
  rw [hc] at hd
  contradiction

theorem isPlain_of_isWordChar {c : Char} (hc : isWordChar c = true) : isPlain c = true := by
  refine isPlain_of_holds ⟨by decide, by decide⟩ ?_ hc
  intro b
  cases b <;> decide

/-- An identifier and the white space after it are made of plain characters. -/
theorem isPlain_of_name {name w : Text} (hname : name.isIdentifier = true)
    (hw : w.allBlank = true) : ∀ c ∈ name ++ w, isPlain c = true := fun c hc =>
  isPlain_of_isWordChar (isWordChar_of_name hname hw c hc)

/-- The characters of a number are plain, and no white space. -/
theorem isPlain_of_digit_or_sign {c : Char} (h : c.isDigit = true ∨ c = '+' ∨ c = '-') :
    isPlain c = true ∧ isBlank c = false := by
  rcases h with h | rfl | rfl
  · have hcont := continuesIdentifier_of_isDigit h
    exact ⟨isPlain_of_isWordChar (by simp [isWordChar, hcont]),
      isBlank_of_continuesIdentifier hcont⟩
  · exact ⟨by decide, by decide⟩
  · exact ⟨by decide, by decide⟩

/-! ## 2. Signs -/

/-- The characters that assign or compute. -/
def signs : List Char := ['=', '+', '-', '*', '/']

theorem isWordChar_of_mem_signs {c : Char} (h : c ∈ signs) : isWordChar c = false := by
  have hall : signs.all (!isWordChar ·) = true := by decide
  simpa using List.all_eq_true.mp hall c h

/-- Only signs outside every literal and bracket have the property. -/
structure MarksSign (wanted : Place → Bool) : Prop where
  top : OnlyTopLevel wanted
  sign : ∀ p, wanted p = true → p.char ∈ signs

namespace MarksSign

variable {wanted : Place → Bool}

theorem eq_false (h : MarksSign wanted) {c : Char} (hc : c ∉ signs) (s : ScanState)
    (previous next : Option Char) : wanted ⟨s, previous, c, next⟩ = false := by
  cases hw : wanted ⟨s, previous, c, next⟩ with
  | false => rfl
  | true => exact absurd (h.sign _ hw) hc

/-- No sign stands in a run of word characters. -/
theorem quiet_word (h : MarksSign wanted) {t : Text} (ht : ∀ c ∈ t, isWordChar c = true) :
    Quiet wanted t := by
  refine quiet_of_plain (fun c hc => isPlain_of_isWordChar (ht c hc)) fun c hc => ?_
  exact h.eq_false fun hmem => ne_of_isWordChar (ht c hc) (isWordChar_of_mem_signs hmem) rfl

/-- The signs in a group do not count. -/
theorem quiet_group (h : MarksSign wanted) (b : Bracket) {body : Text} (hbody : Balanced body) :
    Quiet wanted (b.opener :: body ++ [b.closer]) :=
  ⟨hbody.group b, avoids_group hbody h.top (h.eq_false (by cases b <;> decide))⟩

/-- The signs in a literal do not count. -/
theorem quiet_literal (h : MarksSign wanted) {q : Char} (hq : isQuote q = true) {body : Text}
    (hbody : Literal.Body q body) : Quiet wanted (q :: body ++ [q]) := by
  refine ⟨Literal.balanced_literal hq hbody, avoids_literal hq hbody h.top ?_⟩
  have hsigns : ∀ d ∈ signs, isQuote d = false := by simp [signs, isQuote]
  exact h.eq_false fun hmem => by simp [hsigns q hmem] at hq

end MarksSign

/-! ## 3. Assignments -/

/-- The line binds a name to a source: an identifier, a sign and the source,
with white space around the sign. -/
def IsBinding (line target source : Text) : Prop :=
  target.isIdentifier = true ∧ ∃ w₁ w₂ : Text, w₁.allBlank = true ∧ w₂.allBlank = true ∧
    line = target ++ w₁ ++ '=' :: (w₂ ++ source)

/-- The line assigns the remainder behind its sign to a name. No second sign
follows the first one, and the remainder is not blank. -/
def Assigns (line target remainder : Text) : Prop :=
  target.isIdentifier = true ∧ ∃ w : Text, w.allBlank = true ∧
    line = target ++ w ++ '=' :: remainder ∧ remainder.head? ≠ some '=' ∧
    remainder.allBlank = false

theorem marksSign_assigns : MarksSign Place.assigns where
  top p hp := by simp [Place.assigns, Place.isTopLevelChar, hp]
  sign p hp := by
    simp only [Place.assigns, Place.isTopLevelChar, Bool.and_eq_true, decide_eq_true_eq] at hp
    simp [signs, hp.1.1.2]

/-- A sign behind words is cut at, when no second one follows it. -/
theorem cut_assigns {left right : Text} (hleft : ∀ c ∈ left, isWordChar c = true)
    (hright : right.head? ≠ some '=') :
    cut Place.assigns (left ++ '=' :: right) = some (left, right) := by
  have hquiet : Quiet Place.assigns left :=
    marksSign_assigns.quiet_word hleft
  have hprevious : (left.getLast?.or none).any startsComparison = false := by
    rw [Option.or_none]
    cases hlast : left.getLast? with
    | none => rfl
    | some c =>
      have hc := hleft c (List.mem_of_getLast? hlast)
      have hcmp : ∀ d : Char, isWordChar d = false → c ≠ d := fun d hd => ne_of_isWordChar hc hd
      simp [startsComparison, hcmp '=' (by decide), hcmp '!' (by decide), hcmp '<' (by decide),
        hcmp '>' (by decide)]
  have hassigns : Place.assigns ⟨{}, left.getLast?.or none, '=', right.head?⟩ = true := by
    have htop : Place.isTopLevelChar '=' ⟨{}, left.getLast?.or none, '=', right.head?⟩ = true :=
      rfl
    rw [Place.assigns, htop, hprevious]
    simp [hright]
  rw [cut, cutFrom_append hquiet.2 hquiet.1, cutFrom, if_pos hassigns]
  simp

/-- A line that assigns is cut at its sign. -/
theorem Assigns.ofText? {line target remainder : Text} (h : Assigns line target remainder) :
    Binding.ofText? line = some ⟨target, remainder.trim⟩ := by
  obtain ⟨htarget, w, hw, rfl, hhead, hblank⟩ := h
  have hcut := cut_assigns (isWordChar_of_name htarget hw) hhead
  have hleft : Text.trim (target ++ w) = target :=
    (Text.trimmed_of_isIdentifier htarget).trim_surround Text.allBlank_nil hw
  have hright : remainder.trim ≠ [] := by
    rw [ne_eq, Text.trim_eq_nil_iff, hblank]
    decide
  rw [Binding.ofText?, hcut]
  simp [hleft, hright, htarget]

theorem Binding.ofText?_assignment {target source w₁ w₂ : Text}
    (htarget : target.isIdentifier = true) (h₁ : w₁.allBlank = true) (h₂ : w₂.allBlank = true)
    (hsource : Text.Trimmed source) (hne : source ≠ [])
    (hhead : (w₂ ++ source).head? ≠ some '=') :
    Binding.ofText? (target ++ w₁ ++ '=' :: (w₂ ++ source)) = some ⟨target, source⟩ := by
  have hright : Text.trim (w₂ ++ source) = source := by
    simpa using hsource.trim_surround h₂ Text.allBlank_nil
  have hblank : Text.allBlank (w₂ ++ source) = false := by
    rw [← Bool.not_eq_true, ← Text.trim_eq_nil_iff, hright]
    exact hne
  have hread := Assigns.ofText? ⟨htarget, w₁, h₁, rfl, hhead, hblank⟩
  rwa [hright] at hread

/-- A binding is read from a line whose source does not start with a sign. -/
theorem IsBinding.ofText?_of_ne {line target source : Text} (h : IsBinding line target source)
    (hsource : Text.Trimmed source) {c : Char} {rest : Text} (hstart : source = c :: rest)
    (hc : c ≠ '=') : Binding.ofText? line = some ⟨target, source⟩ := by
  obtain ⟨htarget, w₁, w₂, h₁, h₂, rfl⟩ := h
  refine Binding.ofText?_assignment htarget h₁ h₂ hsource (by simp [hstart]) ?_
  cases w₂ with
  | nil => simpa [hstart] using hc
  | cons d w =>
    have hd := isWordChar_of_allBlank h₂ d (List.mem_cons_self ..)
    simpa using ne_of_isWordChar hd (show isWordChar '=' = false by decide)

/-- A binding is read from a line that starts its source with an identifier. -/
theorem IsBinding.ofText?_eq_some {line target source : Text} (h : IsBinding line target source)
    (hsource : Text.Trimmed source) {c : Char} {rest : Text} (hstart : source = c :: rest)
    (hc : startsIdentifier c = true) : Binding.ofText? line = some ⟨target, source⟩ := by
  have hword : isWordChar c = true := by
    simp [isWordChar, continuesIdentifier_of_startsIdentifier hc]
  exact h.ofText?_of_ne hsource hstart (ne_of_isWordChar hword (by decide))

/-- What a binding is read from: the two sides of the sign, trimmed. -/
theorem Binding.cut_of_ofText? {line : Text} {b : Binding} (h : Binding.ofText? line = some b) :
    ∃ left right, cut Place.assigns line = some (left, right) ∧ b = ⟨left.trim, right.trim⟩ ∧
      b.target.isIdentifier = true ∧ b.source ≠ [] := by
  simp only [Binding.ofText?, Option.bind_eq_some_iff, Option.ite_none_right_eq_some,
    Bool.and_eq_true] at h
  obtain ⟨⟨left, right⟩, hcut, ⟨htarget, hsource⟩, hb⟩ := h
  cases hb
  exact ⟨left, right, hcut, rfl, htarget, by simpa using hsource⟩

/-- A trimmed line is read as a binding when it assigns. -/
theorem Binding.ofText?_eq_some_iff {line : Text} (hline : Text.Trimmed line) (b : Binding) :
    Binding.ofText? line = some b ↔
      ∃ remainder, Assigns line b.target remainder ∧ b.source = remainder.trim := by
  constructor
  · intro h
    obtain ⟨left, right, hcut, rfl, htarget, hsource⟩ := Binding.cut_of_ofText? h
    obtain ⟨m, c, hsplit, _, hc⟩ := place_of_cutFrom hcut
    simp only [Place.assigns, Place.isTopLevelChar, Bool.and_eq_true, decide_eq_true_eq] at hc
    obtain ⟨⟨⟨_, rfl⟩, _⟩, hnext⟩ := hc
    obtain ⟨w, w', hw, hw', hleft⟩ := Text.exists_eq_append_trim left
    -- No white space stands at the start of the line.
    obtain rfl : w = [] := by
      rw [hsplit, hleft, List.append_assoc, List.append_assoc] at hline
      exact hline.eq_nil_of_blank_append hw
    have hblank : right.allBlank = false := by
      rw [← Bool.not_eq_true, ← Text.trim_eq_nil_iff]
      exact hsource
    refine ⟨right, ⟨htarget, w', hw', ?_, hnext, hblank⟩, rfl⟩
    rw [hsplit, ← List.nil_append left.trim, ← hleft]
  · rintro ⟨remainder, hassigns, hsource⟩
    rw [hassigns.ofText?, ← hsource]

/-- What is read from a trimmed line is a binding of it. -/
theorem Binding.isBinding_of_ofText? {line : Text} (hline : Text.Trimmed line) {b : Binding}
    (h : Binding.ofText? line = some b) :
    IsBinding line b.target b.source ∧ Text.Trimmed b.source ∧ b.source ≠ [] := by
  obtain ⟨remainder, ⟨htarget, w, hw, hsplit, _, hblank⟩, hsource⟩ :=
    (Binding.ofText?_eq_some_iff hline b).mp h
  obtain ⟨w₂, w', h₂, hw', hremainder⟩ := Text.exists_eq_append_trim remainder
  rw [← hsource] at hremainder
  -- No white space stands at the end of the line.
  obtain rfl : w' = [] := by
    have htrimmed : Text.Trimmed (b.target ++ w ++ '=' :: (w₂ ++ b.source) ++ w') := by
      rw [hsplit, hremainder] at hline
      simpa using hline
    exact htrimmed.eq_nil_of_append_blank hw'
  rw [List.append_nil] at hremainder
  refine ⟨⟨htarget, w, w₂, hw, h₂, by rw [hsplit, hremainder]⟩, ?_, ?_⟩
  · rw [hsource]
    exact Text.trimmed_trim remainder
  · rw [hsource, ne_eq, Text.trim_eq_nil_iff, hblank]
    decide

theorem hasAssignment_of_ofText? {line : Text} {b : Binding}
    (h : Binding.ofText? line = some b) : hasAssignment line = true := by
  obtain ⟨sides, hsides, _⟩ := Option.bind_eq_some_iff.mp h
  simp [hasAssignment, hasPlace, hsides]

theorem Binding.ofText?_eq_none {line : Text} (h : hasAssignment line = false) :
    Binding.ofText? line = none := by
  cases hb : Binding.ofText? line with
  | none => rfl
  | some b =>
    rw [hasAssignment_of_ofText? hb] at h
    contradiction

/-! ## 4. Operators -/

/-- The place is a top-level operator. -/
def Place.isOperator (p : Place) : Bool :=
  p.before.isTopLevel && (p.char = '+' || p.char = '-' || p.char = '*' || p.char = '/')

theorem isLocal_isOperator : IsLocal Place.isOperator := fun _ _ _ _ => rfl

theorem marksSign_isOperator : MarksSign Place.isOperator where
  top p hp := by simp [Place.isOperator, hp]
  sign p hp := by
    simp only [Place.isOperator, Bool.and_eq_true, Bool.or_eq_true, decide_eq_true_eq] at hp
    simp only [signs, List.mem_cons, List.not_mem_nil, or_false]
    grind

/-- A text has no operator when none of its top-level characters is one. -/
theorem hasOperator_eq_false_iff (t : Text) :
    hasOperator t = false ↔ ∀ v ∈ topLevel t, v.char ∉ ['+', '-', '*', '/'] := by
  have hnone : hasOperator t = false ↔ Avoids Place.isOperator {} t := by
    refine ⟨fun h => ?_, hasPlace_eq_false⟩
    have hcut : cutFrom Place.isOperator {} none t = none :=
      Option.isNone_iff_eq_none.mp (Option.isSome_eq_false_iff.mp h)
    exact avoids_of_cutFrom_eq_none isLocal_isOperator hcut
  rw [hnone, avoids_iff_forall_mem_scanFrom isLocal_isOperator {} 0]
  simp only [topLevel, scan, Place.isOperator, List.mem_filter, Bool.and_eq_false_imp, and_imp,
    Bool.or_eq_false_iff, decide_eq_false_iff_not, List.mem_cons, List.not_mem_nil, or_false,
    not_or, and_assoc]

/-! ## 5. Calls -/

/-- The text is a call: an identifier and, behind white space, a round group
whose body is balanced and splits into the arguments, which are handed over
normalized. -/
def IsCall (t function : Text) (args : List Text) : Prop :=
  function.isIdentifier = true ∧ ∃ w body pieces, Text.allBlank w = true ∧
    t = function ++ w ++ '(' :: body ++ [')'] ∧ checkNesting body = .ok () ∧
    splitArguments body = .ok pieces ∧ args = pieces.map normalizeArgument

/-- The group of a call is found, whatever follows it. -/
theorem Call.ofText?_call {function w body : Text} (hfunction : function.isIdentifier = true)
    (hw : w.allBlank = true) (hbody : Balanced body) (rest : Text) :
    Call.ofText? (function ++ w ++ '(' :: (body ++ ')' :: rest))
      = some ⟨function, body, rest.trim⟩ := by
  have hbefore : ∀ c ∈ function ++ w, decide (c = '(') = false := fun c hc =>
    decide_eq_false (ne_of_isWordChar (isWordChar_of_name hfunction hw c hc) (by decide))
  have hbreak := Text.breakAt_append (p := fun c => decide (c = '(')) hbefore (c := '(') rfl
    (body ++ ')' :: rest)
  have hname : Text.trimEnd (function ++ w) = function :=
    (Text.trimmed_of_isIdentifier hfunction).trimEnd_append hw
  have hgroup : Group.ofText? ('(' :: (body ++ ')' :: rest)) = some ⟨.round, body, rest⟩ :=
    ofText?_group hbody .round rest
  rw [Call.ofText?, hbreak]
  simp [hname, hfunction, hgroup]

/-- What is read as a call stands at the start of the text, a name before a
round group. -/
theorem Call.group_of_ofText? {t : Text} {c : Call} (h : Call.ofText? t = some c) :
    c.function.isIdentifier = true ∧ ∃ w rest : Text, w.allBlank = true ∧
      t = c.function ++ w ++ '(' :: (c.body ++ ')' :: rest) ∧ c.suffix = rest.trim ∧
      Group.ofText? ('(' :: (c.body ++ ')' :: rest)) = some ⟨.round, c.body, rest⟩ := by
  simp only [Call.ofText?, Option.bind_eq_some_iff, Option.ite_none_right_eq_some,
    Option.map_eq_some_iff] at h
  obtain ⟨⟨before, found⟩, hbreak, hfunction, g, hgroup, rfl⟩ := h
  obtain ⟨c, after, hfound, hc⟩ := Text.head_of_breakAt hbreak
  obtain rfl : c = '(' := by simpa using hc
  have hopen := eq_append_of_ofText? hgroup
  have hround : g.bracket = .round := by
    have hhead : '(' = g.bracket.opener := by
      rw [hfound] at hopen
      exact (List.cons.inj hopen).1
    exact (Bracket.opener_injective (a := .round) hhead).symm
  obtain ⟨b, body, rest⟩ := g
  obtain rfl : b = .round := hround
  have hg : found = '(' :: (body ++ ')' :: rest) := hopen
  obtain ⟨w, hw, hbefore⟩ := Text.exists_eq_trimEnd_append before
  refine ⟨hfunction, w, rest, hw, ?_, rfl, ?_⟩
  · rw [← hbefore, ← hg]
    exact Text.append_of_breakAt hbreak
  · rw [← hg, hgroup]

/-- A name that stands before a character starts the text. -/
theorem startsIdentifier_of_breakAt {p : Char → Bool} {c : Char} {t before found : Text}
    (hbreak : Text.breakAt p (c :: t) = some (before, found))
    (hname : (Text.trimEnd before).isIdentifier = true) : startsIdentifier c = true := by
  have hall := Text.append_of_breakAt hbreak
  have htrim := Text.trimEnd_append before
  cases hd : Text.trimEnd before with
  | nil =>
    rw [hd] at hname
    contradiction
  | cons d rest =>
    rw [← htrim, hd] at hall
    obtain ⟨rfl, _⟩ := List.cons.inj hall
    rw [hd, Text.isIdentifier, Bool.and_eq_true] at hname
    exact hname.1

theorem Call.ofText?_eq_none_of_start {c : Char} (hc : startsIdentifier c = false) (t : Text) :
    Call.ofText? (c :: t) = none := by
  cases h : Call.ofText? (c :: t) with
  | none => rfl
  | some call =>
    obtain ⟨⟨before, found⟩, hbreak, hrest⟩ := Option.bind_eq_some_iff.mp h
    simp only [Option.ite_none_right_eq_some] at hrest
    rw [startsIdentifier_of_breakAt hbreak hrest.1] at hc
    contradiction

theorem Call.ofText?_eq_none_of_no_opener {t : Text} (h : '(' ∉ t) : Call.ofText? t = none := by
  have hnone : Text.breakAt (· = '(') t = none := Text.breakAt_eq_none fun c hc =>
    decide_eq_false fun hce => h (hce ▸ hc)
  rw [Call.ofText?, hnone]
  rfl

theorem Call.arguments_eq_ok_iff (c : Call) (args : List Text) :
    c.arguments = .ok args ↔
      ∃ pieces, splitArguments c.body = .ok pieces ∧ args = pieces.map normalizeArgument := by
  cases h : splitArguments c.body with
  | error e =>
    have hargs : c.arguments = .error (.nesting e) := by
      rw [Call.arguments, h]
      rfl
    simp [hargs]
  | ok pieces =>
    have hargs : c.arguments = .ok (pieces.map normalizeArgument) := by
      rw [Call.arguments, h]
      rfl
    simp [hargs, eq_comm]

theorem Text.exists_start_of_isIdentifier {t : Text} (h : t.isIdentifier = true) :
    ∃ c rest, t = c :: rest ∧ startsIdentifier c = true := by
  cases t with
  | nil => contradiction
  | cons c rest =>
    rw [Text.isIdentifier, Bool.and_eq_true] at h
    exact ⟨c, rest, rfl, h.1⟩

namespace IsCall

variable {t function : Text} {args : List Text}

theorem start (h : IsCall t function args) :
    ∃ c more, t = c :: more ∧ startsIdentifier c = true := by
  obtain ⟨hfunction, w, body, _, _, rfl, _⟩ := h
  obtain ⟨c, more, rfl, hc⟩ := Text.exists_start_of_isIdentifier hfunction
  exact ⟨c, more ++ w ++ '(' :: body ++ [')'], by simp, hc⟩

theorem ne_nil (h : IsCall t function args) : t ≠ [] := by
  obtain ⟨c, more, rfl, _⟩ := h.start
  exact List.cons_ne_nil c more

theorem trimmed (h : IsCall t function args) : Text.Trimmed t := by
  obtain ⟨hfunction, w, body, _, _, rfl, _⟩ := h
  have hclose : Text.Trimmed [')'] := rfl
  have hjoin := (Text.trimmed_of_isIdentifier hfunction).join hclose
    (Text.ne_nil_of_isIdentifier hfunction) (List.cons_ne_nil _ _) (w ++ '(' :: body)
  simpa using hjoin

/-- The signs in the arguments of a call do not count. -/
theorem quiet (h : IsCall t function args) {wanted : Place → Bool} (hwanted : MarksSign wanted) :
    Quiet wanted t := by
  obtain ⟨hfunction, w, body, _, hw, rfl, hbody, _⟩ := h
  have hname := hwanted.quiet_word (isWordChar_of_name hfunction hw)
  have hgroup : Quiet wanted ('(' :: body ++ [')']) :=
    hwanted.quiet_group .round ((checkNesting_eq_ok_iff body).mp hbody)
  simpa using hname.append hgroup

/-- A call is read with what follows it as its suffix. -/
theorem ofText? (h : IsCall t function args) {w suffix : Text} (hw : w.allBlank = true)
    (hsuffix : Text.Trimmed suffix) :
    ∃ c, Call.ofText? (t ++ w ++ suffix) = some c ∧ c.function = function ∧
      c.suffix = suffix ∧ c.arguments = .ok args := by
  obtain ⟨hfunction, v, body, pieces, hv, rfl, hbody, hsplit, hargs⟩ := h
  have hbalanced := (checkNesting_eq_ok_iff body).mp hbody
  have hread := Call.ofText?_call hfunction hv hbalanced (w ++ suffix)
  have htrim : Text.trim (w ++ suffix) = suffix := by
    simpa using hsuffix.trim_surround hw Text.allBlank_nil
  refine ⟨⟨function, body, suffix⟩, ?_, rfl, rfl, ?_⟩
  · rw [htrim] at hread
    simpa using hread
  · exact (Call.arguments_eq_ok_iff _ _).mpr ⟨pieces, hsplit, hargs⟩

/-- A call on its own is read without a suffix. -/
theorem ofText?_self (h : IsCall t function args) :
    ∃ c, Call.ofText? t = some c ∧ c.function = function ∧ c.suffix = [] ∧
      c.arguments = .ok args := by
  have hread := h.ofText? Text.allBlank_nil Text.trimmed_nil
  rwa [List.append_nil, List.append_nil] at hread

end IsCall

/-- What is read from a trimmed text, with arguments, is a call at its start
and the suffix behind it. -/
theorem Call.isCall_of_ofText? {t : Text} (ht : Text.Trimmed t) {c : Call}
    (h : Call.ofText? t = some c) {args : List Text} (hargs : c.arguments = .ok args) :
    ∃ call w : Text, t = call ++ w ++ c.suffix ∧ w.allBlank = true ∧
      IsCall call c.function args := by
  obtain ⟨hfunction, v, rest, hv, hsplit, hsuffix, _⟩ := Call.group_of_ofText? h
  obtain ⟨pieces, hpieces, hmap⟩ := (Call.arguments_eq_ok_iff c args).mp hargs
  obtain ⟨w, w', hw, hw', hrest⟩ := Text.exists_eq_append_trim rest
  rw [← hsuffix] at hrest
  obtain rfl : w' = [] := by
    have hends : t = c.function ++ v ++ '(' :: (c.body ++ ')' :: (w ++ c.suffix)) ++ w' := by
      rw [hsplit, hrest]
      simp
    exact (hends ▸ ht).eq_nil_of_append_blank hw'
  refine ⟨c.function ++ v ++ '(' :: c.body ++ [')'], w, ?_, hw, hfunction, v, c.body, pieces, hv,
    rfl, (exists_splitArguments_iff c.body).mp ⟨pieces, hpieces⟩, hpieces, hmap⟩
  rw [hsplit, hrest]
  simp

/-- What is read from a whole trimmed text is that text. -/
theorem Call.isCall_of_suffix_eq_nil {t : Text} (ht : Text.Trimmed t) {c : Call}
    (h : Call.ofText? t = some c) (hsuffix : c.suffix = []) {args : List Text}
    (hargs : c.arguments = .ok args) : IsCall t c.function args := by
  obtain ⟨call, w, hsplit, hw, hcall⟩ := Call.isCall_of_ofText? ht h hargs
  rw [hsuffix, List.append_nil] at hsplit
  obtain rfl : w = [] := (hsplit ▸ ht).eq_nil_of_append_blank hw
  rwa [hsplit, List.append_nil]

/-! ## 6. Indices -/

/-- The text is a number of any size in square brackets, with white space
around it. -/
def SpellsIndex (t : Text) (n : Int) : Prop :=
  ∃ w₁ lexeme w₂ : Text, w₁.allBlank = true ∧ w₂.allBlank = true ∧
    Decimal.Spells lexeme n ∧ t = '[' :: (w₁ ++ lexeme ++ w₂) ++ [']']

/-- The text is a number in square brackets, with white space around it. -/
def IsIndex (t : Text) (n : Int64) : Prop :=
  ∃ w₁ lexeme w₂ : Text, w₁.allBlank = true ∧ w₂.allBlank = true ∧
    Decimal.Spells lexeme n.toInt ∧ t = '[' :: (w₁ ++ lexeme ++ w₂) ++ [']']

theorem Decimal.Spells.trimmed {t : Text} {i : Int} (h : Decimal.Spells t i) :
    Text.Trimmed t := by
  have hblank : ∀ c ∈ t, isBlank c = false := fun c hc =>
    (isPlain_of_digit_or_sign (h.digit_or_sign c hc)).2
  rw [Text.trimmed_iff]
  exact ⟨fun c hc => hblank c (List.mem_of_head? hc),
    fun c hc => hblank c (List.mem_of_getLast? hc)⟩

namespace SpellsIndex

variable {t : Text} {n : Int}

/-- A number in brackets is read when it fits. -/
theorem index?_eq (h : SpellsIndex t n) : index? t = Decimal.int64? n := by
  obtain ⟨w₁, lexeme, w₂, h₁, h₂, hspells, rfl⟩ := h
  have hopen := Text.dropPrefix?_append ['['] (w₁ ++ lexeme ++ w₂ ++ [']'])
  have hclose := Text.dropSuffix?_append (w₁ ++ lexeme ++ w₂) [']']
  have htrim := hspells.trimmed.trim_surround h₁ h₂
  rw [List.singleton_append] at hopen
  rw [List.cons_append, index?, hopen, Option.bind_some, hclose, Option.bind_some, htrim,
    Decimal.toInt64?_of_spells hspells]

/-- The characters of an index are plain, its brackets apart. -/
theorem exists_body (h : SpellsIndex t n) :
    ∃ body, t = '[' :: body ++ [']'] ∧ ∀ c ∈ body, isPlain c = true := by
  obtain ⟨w₁, lexeme, w₂, h₁, h₂, hspells, rfl⟩ := h
  refine ⟨_, rfl, ?_⟩
  intro c hc
  rcases List.mem_append.mp hc with hc | hc
  · rcases List.mem_append.mp hc with hc | hc
    · exact isPlain_of_isWordChar (isWordChar_of_allBlank h₁ c hc)
    · exact (isPlain_of_digit_or_sign (hspells.digit_or_sign c hc)).1
  · exact isPlain_of_isWordChar (isWordChar_of_allBlank h₂ c hc)

theorem trimmed (h : SpellsIndex t n) : Text.Trimmed t := by
  obtain ⟨w₁, lexeme, w₂, _, _, _, rfl⟩ := h
  have hopen : Text.Trimmed ['['] := rfl
  have hclose : Text.Trimmed [']'] := rfl
  exact hopen.join hclose (List.cons_ne_nil _ _) (List.cons_ne_nil _ _) (w₁ ++ lexeme ++ w₂)

theorem ne_nil (h : SpellsIndex t n) : t ≠ [] := by
  obtain ⟨body, rfl, _⟩ := h.exists_body
  exact List.cons_ne_nil _ _

/-- The sign of the number in an index does not count. -/
theorem quiet (h : SpellsIndex t n) {wanted : Place → Bool} (hwanted : MarksSign wanted) :
    Quiet wanted t := by
  obtain ⟨body, rfl, hbody⟩ := h.exists_body
  exact hwanted.quiet_group .square (balanced_of_plain hbody)

theorem not_mem_opener (h : SpellsIndex t n) : '(' ∉ t := by
  obtain ⟨body, rfl, hbody⟩ := h.exists_body
  have hnot : '(' ∉ body := fun hmem => absurd (hbody '(' hmem) (by decide)
  simp [hnot]

end SpellsIndex

/-- An index is read from exactly the texts that are one. -/
theorem index?_eq_some_iff (t : Text) (n : Int64) : index? t = some n ↔ IsIndex t n := by
  constructor
  · intro h
    simp only [index?, Option.bind_eq_some_iff, Decimal.toInt64?_eq_some_iff] at h
    obtain ⟨rest, hrest, body, hbody, hspells⟩ := h
    obtain ⟨w₁, w₂, h₁, h₂, htrim⟩ := Text.exists_eq_append_trim body
    refine ⟨w₁, body.trim, w₂, h₁, h₂, hspells, ?_⟩
    rw [Text.eq_append_of_dropPrefix? hrest, Text.eq_append_of_dropSuffix? hbody, ← htrim]
    rfl
  · intro h
    rw [SpellsIndex.index?_eq h, (Decimal.int64?_eq_some_iff _ n).mpr rfl]

namespace IsIndex

variable {t : Text} {n : Int64}

theorem spells (h : IsIndex t n) : SpellsIndex t n.toInt := h

theorem trimmed (h : IsIndex t n) : Text.Trimmed t := h.spells.trimmed

theorem ne_nil (h : IsIndex t n) : t ≠ [] := h.spells.ne_nil

theorem quiet (h : IsIndex t n) {wanted : Place → Bool} (hwanted : MarksSign wanted) :
    Quiet wanted t := h.spells.quiet hwanted

theorem not_mem_opener (h : IsIndex t n) : '(' ∉ t := h.spells.not_mem_opener

end IsIndex

end PlanScript
