/-
PlanScript.Proofs.Statement.Language — which lines are statements at all.

The six forms together take two kinds of line (`InGrammar`): those that
assign something to a name, and those that are a call. This description has
no operators, suffixes or values in it, since every form but the bare call
asks for an assignment first, and the last form takes any (`exists_asks_iff`).

On a well nested line the forms are exact. A line outside the grammar is
declined by all of them (`recognize_eq_none_iff`). A line in it is a
statement, with one exception: the value is a dict, an entry of it has no
colon, and such entries are not skipped (`recognize_eq_error_iff`). Other
lines may fail in other ways: `f([)](a)` is balanced, and it is taken for a
call whose arguments are not.
-/
import PlanScript.Proofs.Statement.Order
import PlanScript.Plan.Parse

namespace PlanScript

variable {options : Options} {line : Text}

/-! ## 1. The grammar of a line -/

/-- The line is a call: an identifier and, behind white space, a balanced
body in round brackets. -/
def IsBareCall (line : Text) : Prop :=
  ∃ function w body : Text, function.isIdentifier = true ∧ w.allBlank = true ∧
    line = function ++ w ++ '(' :: body ++ [')'] ∧ checkNesting body = .ok ()

/-- The line assigns something to a name, or is a call. -/
def InGrammar (line : Text) : Prop :=
  (∃ target remainder, Assigns line target remainder) ∨ IsBareCall line

/-- The line assigns a dict that is refused for an entry without a colon. -/
def Refuses (options : Options) (line entry : Text) : Prop :=
  options.lenientDicts = false ∧ ∃ target remainder : Text, Assigns line target remainder ∧
    IsDictLacking remainder.trim entry

theorem isBareCall_iff_isCall (line : Text) :
    IsBareCall line ↔ ∃ function args, IsCall line function args := by
  constructor
  · rintro ⟨function, w, body, hfunction, hw, hline, hbody⟩
    obtain ⟨pieces, hpieces⟩ := (exists_splitArguments_iff body).mpr hbody
    exact ⟨function, _, hfunction, w, body, pieces, hw, hline, hbody, hpieces, rfl⟩
  · rintro ⟨function, args, hfunction, w, body, pieces, hw, hline, hbody, _⟩
    exact ⟨function, w, body, hfunction, hw, hline, hbody⟩

/-! ## 2. What the forms take together -/

/-- Every form but the bare call asks for an assignment first. -/
theorem asks_assignment_of_asks {form : Form} (hform : form ≠ .bareCall) (h : form.Asks line) :
    Form.assignment.Asks line := by
  cases form with
  | arithmetic =>
    obtain ⟨b, hb, _⟩ := h
    exact ⟨b, hb⟩
  | indexedCall =>
    obtain ⟨b, _, _, hb, _⟩ := h
    exact ⟨b, hb⟩
  | callAssignment =>
    obtain ⟨b, _, hb, _⟩ := h
    exact ⟨b, hb⟩
  | bareCall => contradiction
  | arrayAccess =>
    obtain ⟨b, _, _, _, hb, _⟩ := h
    exact ⟨b, hb⟩
  | assignment => exact h

theorem exists_asks_iff (line : Text) :
    (∃ form, Form.Asks line form) ↔ Form.assignment.Asks line ∨ Form.bareCall.Asks line := by
  constructor
  · rintro ⟨form, h⟩
    by_cases hform : form = .bareCall
    · subst hform
      exact .inr h
    · exact .inl (asks_assignment_of_asks hform h)
  · rintro (h | h)
    · exact ⟨.assignment, h⟩
    · exact ⟨.bareCall, h⟩

theorem asks_assignment_iff (hline : Text.Trimmed line) :
    Form.assignment.Asks line ↔ ∃ target remainder, Assigns line target remainder := by
  constructor
  · rintro ⟨b, hb⟩
    obtain ⟨remainder, hassigns, _⟩ := (Binding.ofText?_eq_some_iff hline b).mp hb
    exact ⟨b.target, remainder, hassigns⟩
  · rintro ⟨target, remainder, hassigns⟩
    exact ⟨_, hassigns.ofText?⟩

/-- A well nested line that asks to be a bare call is one: its arguments
cannot fail. -/
theorem asks_bareCall_iff (h : WellNested allKinds line) (hline : Text.Trimmed line) :
    Form.bareCall.Asks line ↔ IsBareCall line := by
  rw [isBareCall_iff_isCall]
  constructor
  · rintro ⟨_, c, hc, hsuffix⟩
    have hbody := (checkNesting_eq_ok_iff c.body).mpr (h.of_call hc).1.balanced
    obtain ⟨pieces, hpieces⟩ := (exists_splitArguments_iff c.body).mpr hbody
    have hargs := (Call.arguments_eq_ok_iff c _).mpr ⟨pieces, hpieces, rfl⟩
    exact ⟨c.function, _, Call.isCall_of_suffix_eq_nil hline hc hsuffix hargs⟩
  · rintro ⟨function, args, hcall⟩
    obtain ⟨c, hc, _, hsuffix, _⟩ := hcall.ofText?_self
    exact ⟨hasPlace_eq_false (hcall.quiet marksSign_assigns).2, c, hc, hsuffix⟩

/-- The grammar holds the well nested lines that some form takes. -/
theorem inGrammar_iff_exists_asks (h : WellNested allKinds line) (hline : Text.Trimmed line) :
    InGrammar line ↔ ∃ form, Form.Asks line form := by
  rw [InGrammar, exists_asks_iff, asks_assignment_iff hline, asks_bareCall_iff h hline]

/-! ## 3. What the chain gives -/

/-- A chain gives nothing exactly when all its forms decline. -/
theorem firstClaim_eq_none_iff (options : Options) (line : Text) (forms : List Form) :
    firstClaim options line forms = .ok none ↔ ∀ f ∈ forms, f.Declines options line := by
  rcases firstClaim_cases options line forms with ⟨hnone, hall⟩ | ⟨f, hf, hclaim⟩
  · exact ⟨fun _ => hall, fun _ => hnone⟩
  · have hread : ¬ f.Declines options line := by
      intro hdeclines
      unfold Form.Declines at hdeclines
      rcases hclaim with ⟨e, _, hread⟩ | ⟨r, _, hread⟩ <;> simp [hread] at hdeclines
    constructor
    · intro hnone
      rcases hclaim with ⟨e, hfirst, _⟩ | ⟨r, hfirst, _⟩ <;> simp [hfirst] at hnone
    · intro hall
      exact absurd (hall f hf) hread

theorem recognize_eq_none_iff (h : WellNested allKinds line) (hline : Text.Trimmed line)
    (options : Options) : recognize options line = .ok none ↔ ¬ InGrammar line := by
  rw [recognize, firstClaim_eq_none_iff, inGrammar_iff_exists_asks h hline, not_exists]
  constructor
  · intro hall form
    have hmem : form ∈ Form.all := by cases form <;> decide
    exact (declines_iff_not_asks form options line).mp (hall form hmem)
  · intro hnone form _
    exact (declines_iff_not_asks form options line).mpr (hnone form)

/-- Nothing fails on a well nested line but a dict entry without a colon. -/
theorem recognize_eq_error_iff (h : WellNested allKinds line) (hline : Text.Trimmed line)
    (options : Options) (e : LiteralError) :
    recognize options line = .error e ↔
      ∃ entry, Refuses options line entry ∧ e = .entryWithoutColon entry := by
  constructor
  · intro herror
    obtain ⟨form, _, hread⟩ := exists_read_of_firstClaim herror
    rcases error_of_read hread with ⟨c, _, hargs⟩ | ⟨_, b, hb, hvalue⟩
    · obtain ⟨n, _, rfl⟩ := (Call.arguments_eq_error_iff c e).mp hargs
      exact absurd hread (read_ne_nesting_error h options form n)
    · obtain ⟨hstrict, entry, hdict, he⟩ :=
        (read_eq_error_iff (h.of_binding hb) (Binding.trimmed_source hb) options e).mp hvalue
      obtain ⟨remainder, hassigns, hsource⟩ := (Binding.ofText?_eq_some_iff hline b).mp hb
      rw [hsource] at hdict
      exact ⟨entry, ⟨hstrict, b.target, remainder, hassigns, hdict⟩, he⟩
  · rintro ⟨entry, ⟨hstrict, target, remainder, hassigns, hdict⟩, rfl⟩
    have hb := hassigns.ofText?
    have hvalue := (read_eq_error_iff (h.of_binding hb) (Binding.trimmed_source hb) options _).mpr
      ⟨hstrict, entry, hdict, rfl⟩
    -- A dict has no operator outside its brackets, so only the last form takes it.
    obtain ⟨body, _, _, hsource, hbody, _⟩ := hdict
    have hquiet : Quiet Place.isOperator remainder.trim := by
      rw [hsource]
      exact marksSign_isOperator.quiet_group .curly hbody.balanced
    have hearlier : ∀ f ∈ Form.assignment.earlier, f.Declines options line :=
      declines_of_value hb hquiet hsource (by decide)
    have hall : Form.all = Form.assignment.earlier ++ [.assignment] := rfl
    have hread : Form.assignment.read options line = .error (.entryWithoutColon entry) := by
      simp only [Form.read, readAssignment, hb, hvalue]
      rfl
    rw [recognize, hall, firstClaim_append_of_declines hearlier, firstClaim, hread]
    rfl

/-- A line without a statement and without an error of its own is reported as
unparseable. -/
theorem readLine_eq_unparseable_iff (h : checkNesting line = .ok ()) (options : Options) :
    readLine options line = .error .unparseable ↔ recognize options line = .ok none := by
  rw [readLine, h]
  cases hread : recognize options line with
  | error e => cases e <;> simp [Fault.ofLiteral]
  | ok claim => cases claim <;> simp

theorem exists_recognizes_iff (options : Options) (line : Text) :
    (∃ s, Recognizes options line s) ↔
      recognize options line ≠ .ok none ∧ ∀ e, recognize options line ≠ .error e := by
  cases hread : recognize options line with
  | error e => simp [Recognizes, hread]
  | ok claim =>
    cases claim with
    | none => simp [Recognizes, hread]
    | some claim =>
      have hsome : Recognizes options line claim.2.statement := ⟨claim.1, claim.2, hread, rfl⟩
      simpa using ⟨_, hsome⟩

/-- A well nested line without white space at its ends is no statement, and
reported as unparseable, exactly when it is outside the grammar. In the
grammar it is a statement, or it assigns a dict that is refused; and then the
error names the first entry without a colon. -/
theorem recognize_iff_inGrammar (options : Options) (line : Text)
    (h : WellNested allKinds line) (hline : Text.Trimmed line) :
    (recognize options line = .ok none ↔ ¬ InGrammar line) ∧
    (readLine options line = .error .unparseable ↔ ¬ InGrammar line) ∧
    (∀ e, recognize options line = .error e ↔
      ∃ entry, Refuses options line entry ∧ e = .entryWithoutColon entry) ∧
    ((∃ s, Recognizes options line s) ↔
      InGrammar line ∧ ∀ entry, ¬ Refuses options line entry) := by
  have hnone := recognize_eq_none_iff h hline options
  have herror := recognize_eq_error_iff h hline options
  have hcheck := (checkNesting_eq_ok_iff line).mpr h.balanced
  refine ⟨hnone, (readLine_eq_unparseable_iff hcheck options).trans hnone, herror, ?_⟩
  rw [exists_recognizes_iff, ne_eq, hnone, Classical.not_not]
  refine and_congr_right fun _ => ?_
  constructor
  · intro hno entry hrefuses
    exact hno _ ((herror _).mpr ⟨entry, hrefuses, rfl⟩)
  · intro hno e he
    obtain ⟨entry, hrefuses, _⟩ := (herror e).mp he
    exact hno entry hrefuses

/-- A comparison is outside the grammar, and a dict is refused for its second
entry. -/
theorem recognize_iff_inGrammar_lines :
    ¬ InGrammar "x == 1".toList ∧
      recognize {} "d = {a: 1, b}".toList = .error (.entryWithoutColon ['b']) := by
  have hcomparison : WellNested allKinds "x == 1".toList := wellNested_of_plain (by decide)
  have hbody : WellNested allKinds "a: 1, b".toList := wellNested_of_plain (by decide)
  have hline : WellNested allKinds "d = {a: 1, b}".toList :=
    (wellNested_of_plain (t := "d = ".toList) (by decide)).append
      (.group (b := .curly) trivial hbody .nil)
  have hsplit : IsSplit "a: 1, b".toList ["a: 1".toList, " b".toList] :=
    (pieces_eq_ok_iff _ _).mp rfl
  have hassigns : Assigns "d = {a: 1, b}".toList ['d'] " {a: 1, b}".toList :=
    ⟨by decide, [' '], rfl, rfl, by decide, by decide⟩
  have hdict : IsDictLacking (Text.trim " {a: 1, b}".toList) ['b'] :=
    ⟨"a: 1, b".toList, _, " b".toList, by decide, hbody, hsplit, by decide, by decide⟩
  refine ⟨(recognize_iff_inGrammar {} _ hcomparison rfl).1.mp rfl, ?_⟩
  exact ((recognize_iff_inGrammar {} _ hline rfl).2.2.1 _).mpr
    ⟨['b'], ⟨rfl, ['d'], _, hassigns, hdict⟩, rfl⟩

end PlanScript
