/-
PlanScript.Proofs.Plan.RoundTrip — a plan that is printed is read back.

A `Draft` is a statement that is to be written on a line of its own. It is
well formed when its names are identifiers and its other parts are closed:
trimmed, well nested and without a separator at their top level. `print`
writes it, `statement` is what the line says, and `instruction` what a plan
makes of it.

Every well-formed draft is read back from its line (`readsAs_print`), so a
plan of drafts is read back from its lines (`parse_print`). What remains to
be asked of a line is that it is one: no line feed and no fence marker.
-/
import PlanScript.Proofs.Plan.Run
import PlanScript.Proofs.Source.Lines
import PlanScript.Proofs.Value.Read

namespace PlanScript

open Markdown (EventReader)

/-! ## 1. Drafts -/

/-- A statement that is to be printed. -/
inductive Draft where
  /-- An expression with a top-level operator. -/
  | expression (target source : Text)
  | indexedCall (target function : Text) (args : List Text) (index : Int64)
  | callAssignment (target function : Text) (args : List Text)
  | bareCall (function : Text) (args : List Text)
  | arrayAccess (target collection : Text) (index : Int64)
  /-- Any string, written between quotes of a kind. -/
  | text (target : Text) (quote : Char) (contents : Text)
  | list (target : Text) (items : List Text)
  | dict (target : Text) (entries : List (Text × Text))
deriving DecidableEq, Repr

def printBinding (target source : Text) : Text := target ++ [' ', '=', ' '] ++ source

def printCall (function : Text) (args : List Text) : Text :=
  function ++ '(' :: Text.join [',', ' '] args ++ [')']

def printIndex (n : Int64) : Text := '[' :: Decimal.ofInt n.toInt ++ [']']

namespace Draft

/-- The line of a draft. -/
def print : Draft → Text
  | expression target source => printBinding target source
  | indexedCall target function args index =>
    printBinding target (printCall function args ++ printIndex index)
  | callAssignment target function args => printBinding target (printCall function args)
  | bareCall function args => printCall function args
  | arrayAccess target collection index => printBinding target (collection ++ printIndex index)
  | text target quote contents =>
    printBinding target (quote :: Literal.escape quote contents ++ [quote])
  | list target items => printBinding target ('[' :: Text.join [',', ' '] items ++ [']'])
  | dict target entries =>
    printBinding target
      ('{' :: Text.join [',', ' '] (entries.map fun e => writeEntry e.1 e.2) ++ ['}'])

/-- The parts of a draft can be told apart in its line. -/
def WellFormed : Draft → Prop
  | expression target source =>
    target.isIdentifier = true ∧ Text.Trimmed source ∧ checkNesting source = .ok () ∧
      ∃ v ∈ topLevel source, v.char ∈ ['+', '-', '*', '/']
  | indexedCall target function args _ =>
    target.isIdentifier = true ∧ function.isIdentifier = true ∧ ∀ a ∈ args, IsElement a ∧ a ≠ []
  | callAssignment target function args =>
    target.isIdentifier = true ∧ function.isIdentifier = true ∧ ∀ a ∈ args, IsElement a ∧ a ≠ []
  | bareCall function args => function.isIdentifier = true ∧ ∀ a ∈ args, IsElement a ∧ a ≠ []
  | arrayAccess target collection _ =>
    target.isIdentifier = true ∧ collection.isIdentifier = true
  | text target quote _ => target.isIdentifier = true ∧ isQuote quote = true
  | list target items => target.isIdentifier = true ∧ ∀ t ∈ items, IsElement t ∧ t ≠ []
  | dict target entries =>
    target.isIdentifier = true ∧
      ∀ e ∈ entries, IsElement e.1 ∧ TopLevelFree ':' e.1 ∧ IsElement e.2

/-- What the line of a draft says. Arguments are handed over normalized. -/
def statement : Draft → Statement
  | expression target source => .arithmetic target source
  | indexedCall target function args index =>
    .indexedCall target function (args.map normalizeArgument) index
  | callAssignment target function args =>
    .callAssignment target function (args.map normalizeArgument)
  | bareCall function args => .bareCall function (args.map normalizeArgument)
  | arrayAccess target collection index => .arrayAccess target collection index
  | text target _ contents => .assignment target (.string contents)
  | list target items => .assignment target (.list items)
  | dict target entries => .assignment target (.dict (entries.flatMap fun e => [e.1, e.2]))

/-- The instruction of a draft at a step. -/
def instruction (step : Nat) : Draft → Instruction
  | expression target source => ⟨step, some target, .call arithmeticFunction [source] none⟩
  | indexedCall target function args index =>
    ⟨step, some target, .call function (args.map normalizeArgument) (some index)⟩
  | callAssignment target function args =>
    ⟨step, some target, .call function (args.map normalizeArgument) none⟩
  | bareCall function args => ⟨step, none, .call function (args.map normalizeArgument) none⟩
  | arrayAccess target collection index => ⟨step, some target, .extract collection index⟩
  | text target _ contents => ⟨step, some target, .literal contents⟩
  | list target items => ⟨step, some target, .call listFunction items none⟩
  | dict target entries =>
    ⟨step, some target, .call dictFunction (entries.flatMap fun e => [e.1, e.2]) none⟩

theorem build_statement (d : Draft) (step : Nat) : d.statement.build step = d.instruction step := by
  cases d <;> rfl

end Draft

/-! ## 2. Printed parts -/

theorem isBinding_printBinding {target : Text} (h : target.isIdentifier = true) (source : Text) :
    IsBinding (printBinding target source) target source :=
  ⟨h, [' '], [' '], rfl, rfl, by simp [printBinding]⟩

theorem ofText?_printBinding {target source : Text} (htarget : target.isIdentifier = true)
    (hsource : Text.Trimmed source) (hne : source ≠ []) :
    Binding.ofText? (printBinding target source) = some ⟨target, source⟩ := by
  have hspace : Text.allBlank [' '] = true := rfl
  have hread := Binding.ofText?_assignment htarget hspace hspace hsource hne (by simp)
  simpa [printBinding] using hread

theorem isCall_printCall {function : Text} (h : function.isIdentifier = true) {args : List Text}
    (hargs : ∀ a ∈ args, IsElement a ∧ a ≠ []) :
    IsCall (printCall function args) function (args.map normalizeArgument) := by
  have hbalanced := balanced_elements fun a ha => (hargs a ha).1
  exact ⟨h, [], Text.join [',', ' '] args, args, rfl, by simp [printCall],
    (checkNesting_eq_ok_iff _).mpr hbalanced, splitArguments_elements hargs, rfl⟩

theorem isIndex_printIndex (n : Int64) : IsIndex (printIndex n) n :=
  ⟨[], Decimal.ofInt n.toInt, [], rfl, rfl, Decimal.spells_ofInt _, by simp [printIndex]⟩

/-! ## 3. Printed lines -/

/-- The line starts with a name, ends with no white space, and says the
statement. -/
structure ReadsAs (options : Options) (line : Text) (s : Statement) : Prop where
  states : States options line s
  trimmed : Text.Trimmed line
  start : ∃ c rest, line = c :: rest ∧ startsIdentifier c = true

variable {options : Options}

theorem readsAs_of_binding {line target source : Text} {s : Statement}
    (h : IsBinding line target source) (htrimmed : Text.Trimmed source) (hne : source ≠ [])
    (hbalanced : Balanced source) (hrecognizes : Recognizes options line s) :
    ReadsAs options line s := by
  obtain ⟨htarget, w₁, w₂, h₁, h₂, rfl⟩ := h
  have hname := isWordChar_of_name htarget h₁
  have hfront : ∀ c ∈ target ++ w₁ ++ '=' :: w₂, isPlain c = true := by
    intro c hc
    rcases List.mem_append.mp hc with hc | hc
    · exact isPlain_of_isWordChar (hname c hc)
    · rcases List.mem_cons.mp hc with rfl | hc
      · decide
      · exact isPlain_of_isWordChar (isWordChar_of_allBlank h₂ c hc)
  have hline : target ++ w₁ ++ '=' :: (w₂ ++ source) = target ++ w₁ ++ '=' :: w₂ ++ source := by
    simp
  refine ⟨⟨?_, hrecognizes⟩, ?_, ?_⟩
  · rw [checkNesting_eq_ok_iff, hline]
    exact (balanced_of_plain hfront).append hbalanced
  · have hjoin := (Text.trimmed_of_isIdentifier htarget).join htrimmed
      (Text.ne_nil_of_isIdentifier htarget) hne (w₁ ++ '=' :: w₂)
    simpa using hjoin
  · obtain ⟨c, rest, rfl, hc⟩ := Text.exists_start_of_isIdentifier htarget
    exact ⟨c, rest ++ w₁ ++ '=' :: (w₂ ++ source), by simp, hc⟩

theorem readsAs_of_call {line function : Text} {args : List Text}
    (h : IsCall line function args) : ReadsAs options line (.bareCall function args) := by
  have hnesting := (checkNesting_eq_ok_iff line).mpr (h.quiet marksSign_assigns).1
  exact ⟨⟨hnesting, recognizes_bareCall h⟩, h.trimmed, h.start⟩

/-- A value that no name starts is read back from its line. -/
theorem readsAs_of_value {target : Text} (htarget : target.isIdentifier = true) {c : Char}
    {rest : Text} (hc : startsIdentifier c = false) (htrimmed : Text.Trimmed (c :: rest))
    (hquiet : Quiet Place.isOperator (c :: rest)) {value : Value} {skipped : List Text}
    (hvalue : Value.read options (c :: rest) = .ok (value, skipped)) :
    ReadsAs options (printBinding target (c :: rest)) (.assignment target value) := by
  have hne := List.cons_ne_nil c rest
  have hb := ofText?_printBinding htarget htrimmed hne
  exact readsAs_of_binding (isBinding_printBinding htarget _) htrimmed hne hquiet.1
    (recognizes_assignment hb hquiet rfl hc hvalue)

section

variable {target function collection : Text} {args : List Text}

theorem readsAs_expression (htarget : target.isIdentifier = true) {source : Text}
    (htrimmed : Text.Trimmed source) (hnesting : checkNesting source = .ok ())
    (hsign : ∃ v ∈ topLevel source, v.char ∈ ['+', '-', '*', '/']) :
    ReadsAs options (printBinding target source) (.arithmetic target source) := by
  obtain ⟨v, hv, hchar⟩ := hsign
  have hne : source ≠ [] := by
    rintro rfl
    simp [topLevel, scan, scanFrom] at hv
  have hoperator : hasOperator source = true := by
    rw [← Bool.not_eq_false, hasOperator_eq_false_iff]
    intro hnone
    exact hnone v hv hchar
  have hb := ofText?_printBinding htarget htrimmed hne
  exact readsAs_of_binding (isBinding_printBinding htarget source) htrimmed hne
    ((checkNesting_eq_ok_iff source).mp hnesting) (recognizes_arithmetic hb hoperator)

theorem readsAs_indexedCall (htarget : target.isIdentifier = true)
    (hfunction : function.isIdentifier = true) (hargs : ∀ a ∈ args, IsElement a ∧ a ≠ [])
    (index : Int64) :
    ReadsAs options (printBinding target (printCall function args ++ printIndex index))
      (.indexedCall target function (args.map normalizeArgument) index) := by
  have hcall := isCall_printCall hfunction hargs
  have hindex := isIndex_printIndex index
  have hsource := hcall.trimmed.join hindex.trimmed hcall.ne_nil hindex.ne_nil []
  have hbinding := isBinding_printBinding htarget
    (printCall function args ++ [] ++ printIndex index)
  have hread : Recognizes options _ _ := recognizes_indexedCall hbinding hcall rfl hindex
  rw [List.append_nil] at hsource hbinding hread
  have hbalanced := (hcall.quiet marksSign_isOperator).append (hindex.quiet marksSign_isOperator)
  exact readsAs_of_binding hbinding hsource (by simp [hcall.ne_nil]) hbalanced.1 hread

theorem readsAs_callAssignment (htarget : target.isIdentifier = true)
    (hfunction : function.isIdentifier = true) (hargs : ∀ a ∈ args, IsElement a ∧ a ≠ []) :
    ReadsAs options (printBinding target (printCall function args))
      (.callAssignment target function (args.map normalizeArgument)) := by
  have hcall := isCall_printCall hfunction hargs
  have hbinding := isBinding_printBinding htarget (printCall function args)
  exact readsAs_of_binding hbinding hcall.trimmed hcall.ne_nil
    (hcall.quiet marksSign_isOperator).1 (recognizes_callAssignment hbinding hcall)

theorem readsAs_arrayAccess (htarget : target.isIdentifier = true)
    (hcollection : collection.isIdentifier = true) (index : Int64) :
    ReadsAs options (printBinding target (collection ++ printIndex index))
      (.arrayAccess target collection index) := by
  have hindex := isIndex_printIndex index
  have hword := isWordChar_of_isIdentifier hcollection
  have hsource := (Text.trimmed_of_isIdentifier hcollection).join hindex.trimmed
    (Text.ne_nil_of_isIdentifier hcollection) hindex.ne_nil []
  have hbinding := isBinding_printBinding htarget (collection ++ [] ++ printIndex index)
  have hread : Recognizes options _ _ :=
    recognizes_arrayAccess hbinding hcollection rfl hindex
  rw [List.append_nil] at hsource hbinding hread
  have hbalanced := (marksSign_isOperator.quiet_word hword).append
    (hindex.quiet marksSign_isOperator)
  exact readsAs_of_binding hbinding hsource (by simp [hindex.ne_nil]) hbalanced.1 hread

theorem readsAs_text (htarget : target.isIdentifier = true) {quote : Char}
    (hquote : isQuote quote = true) (contents : Text) :
    ReadsAs options
      (printBinding target (quote :: Literal.escape quote contents ++ [quote]))
      (.assignment target (.string contents)) := by
  have hname : startsIdentifier quote = false := by
    simp only [isQuote, Bool.or_eq_true, decide_eq_true_eq] at hquote
    rcases hquote with rfl | rfl <;> decide
  exact readsAs_of_value htarget hname (trimmed_literal hquote _)
    (marksSign_isOperator.quiet_literal hquote (Literal.body_escape quote contents))
    (read_literal options hquote contents)

end

/-- A well-formed draft is read back from its line. -/
theorem readsAs_print {d : Draft} (h : d.WellFormed) : ReadsAs options d.print d.statement := by
  cases d with
  | expression target source =>
    obtain ⟨htarget, htrimmed, hnesting, hsign⟩ := h
    exact readsAs_expression htarget htrimmed hnesting hsign
  | indexedCall target function args index =>
    obtain ⟨htarget, hfunction, hargs⟩ := h
    exact readsAs_indexedCall htarget hfunction hargs index
  | callAssignment target function args =>
    obtain ⟨htarget, hfunction, hargs⟩ := h
    exact readsAs_callAssignment htarget hfunction hargs
  | bareCall function args =>
    obtain ⟨hfunction, hargs⟩ := h
    exact readsAs_of_call (isCall_printCall hfunction hargs)
  | arrayAccess target collection index =>
    obtain ⟨htarget, hcollection⟩ := h
    exact readsAs_arrayAccess htarget hcollection index
  | text target quote contents =>
    obtain ⟨htarget, hquote⟩ := h
    exact readsAs_text htarget hquote contents
  | list target items =>
    obtain ⟨htarget, hitems⟩ := h
    have hbody := balanced_elements fun t ht => (hitems t ht).1
    exact readsAs_of_value htarget (by decide) (trimmed_group .square _)
      (marksSign_isOperator.quiet_group .square hbody) (read_list options hitems)
  | dict target entries =>
    obtain ⟨htarget, hentries⟩ := h
    exact readsAs_of_value htarget (by decide) (trimmed_group .curly _)
      (marksSign_isOperator.quiet_group .curly (balanced_entries hentries))
      (read_dict options hentries)

/-! ## 4. Printed plans -/

theorem allState_of_map_text {drafts : List Draft}
    (h : ∀ d ∈ drafts, States options d.print d.statement) {lines : List Line}
    (htext : lines.map Line.text = drafts.map Draft.print) :
    AllState options lines (drafts.map Draft.statement) := by
  induction drafts generalizing lines with
  | nil =>
    obtain rfl := List.map_eq_nil_iff.mp htext
    exact .nil
  | cons d drafts ih =>
    obtain ⟨line, rest, rfl, hline, hrest⟩ := List.map_eq_cons_iff.mp htext
    refine .cons ?_ (ih (fun e he => h e (List.mem_cons_of_mem _ he)) hrest)
    rw [hline]
    exact h d (List.mem_cons_self ..)

theorem planFrom_map_statement (done : Nat) (drafts : List Draft) :
    planFrom done (drafts.map Draft.statement)
      = drafts.mapIdx fun i d => d.instruction (done + i + 1) := by
  rw [planFrom]
  refine List.ext_getElem? fun i => ?_
  simp [List.getElem?_mapIdx, Draft.build_statement, Function.comp_def]

/-- Drafts that are printed on lines of their own are read back as their
instructions, numbered from one. -/
theorem parse_print (options : Options) (fileId : Nat) (markdown : EventReader)
    {drafts : List Draft} (hdrafts : ∀ d ∈ drafts, d.WellFormed)
    (hlines : ∀ d ∈ drafts, '\n' ∉ d.print ∧ hasMarker d.print = false) :
    parse options fileId (Text.join ['\n'] (drafts.map Draft.print)) markdown
      = .ok (drafts.mapIdx fun i d => d.instruction (i + 1)) := by
  have hverbatim : ∀ l ∈ drafts.map Draft.print, IsVerbatim l := by
    intro l hl
    obtain ⟨d, hd, rfl⟩ := List.mem_map.mp hl
    have hread : ReadsAs options d.print d.statement := readsAs_print (hdrafts d hd)
    obtain ⟨c, rest, hstart, hc⟩ := hread.start
    refine ⟨hread.trimmed, ?_, (hlines d hd).2, (hlines d hd).1⟩
    have hcomment : c ≠ '#' := by
      rintro rfl
      exact absurd hc (by decide)
    simp [isSilent, hstart, hcomment]
  have htext := map_text_statementLines_join hverbatim markdown
  have hstates : ∀ d ∈ drafts, States options d.print d.statement := fun d hd =>
    (readsAs_print (hdrafts d hd)).states
  rw [parse_of_allState (allState_of_map_text hstates htext) fileId, planFrom_map_statement]
  simp

/-- A plan of any number of printed drafts is read back whole. -/
theorem parsePlan_print (markdown : EventReader) (drafts : List Draft)
    (hdrafts : ∀ d ∈ drafts, d.WellFormed)
    (hlines : ∀ d ∈ drafts, '\n' ∉ d.print ∧ hasMarker d.print = false) :
    parsePlan (Text.join ['\n'] (drafts.map Draft.print)) markdown
      = .ok (drafts.mapIdx fun i d => d.instruction (i + 1)) := by
  unfold parsePlan
  exact parse_print {} 0 markdown hdrafts hlines

/-- Two lines, the second with a string that holds its own quote. -/
theorem parsePlan_print_two_lines :
    parsePlan "x = f(1)[-2]\ns = 'a\\'b'".toList Markdown.events
      = .ok [⟨1, some ['x'], .call ['f'] [['1']] (some (-2))⟩,
          ⟨2, some ['s'], .literal "a'b".toList⟩] := by
  have hone : IsElement ['1'] := ⟨rfl, rfl, by decide⟩
  have hindexed : Draft.WellFormed (.indexedCall ['x'] ['f'] [['1']] (-2)) :=
    ⟨by decide, by decide, by simp [hone]⟩
  have htext : Draft.WellFormed (.text ['s'] '\x27' "a'b".toList) := ⟨by decide, by decide⟩
  have hdrafts : ∀ d ∈ [Draft.indexedCall ['x'] ['f'] [['1']] (-2),
      .text ['s'] '\x27' "a'b".toList], d.WellFormed := by
    intro d hd
    simp only [List.mem_cons, List.not_mem_nil, or_false] at hd
    rcases hd with rfl | rfl
    · exact hindexed
    · exact htext
  have hlines : ∀ d ∈ [Draft.indexedCall ['x'] ['f'] [['1']] (-2),
      .text ['s'] '\x27' "a'b".toList], '\n' ∉ d.print ∧ hasMarker d.print = false := by
    decide
  exact parsePlan_print Markdown.events _ hdrafts hlines

end PlanScript
