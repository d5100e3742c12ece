/-
PlanScript.Proofs.Offset.Statement — reading statements by byte offsets.

A line is sliced before and behind the sign that assigns, and a call before
its opening bracket, between its brackets and behind them. The offsets come
from different scans: a closing bracket is looked for in the slice that
starts at the opening one, and its offset there is added to the offset of
the slice. All these signs are characters of one byte, so the slices fall
between characters (`splitAssignment_eq`, `parseCall_eq`).

Whether a sign assigns is decided by the bytes next to it. `assigns_eq` says
that the bytes tell the same as the characters.

On a shallow line every form, and so `recognize`, gives what it gives in the
library (`read_eq`, `recognize_eq`).
-/
import PlanScript.Proofs.Offset.Value
import PlanScript.Proofs.Statement.Nested

namespace PlanScript

/-! ## 1. Parts of shallow lines -/

/-- What a shallow line binds is shallow. -/
theorem Shallow.of_binding {line : Text} (h : Shallow line) {b : Binding}
    (hb : Binding.ofText? line = some b) : Shallow b.source := by
  obtain ⟨left, right, hcut, rfl, _⟩ := Binding.cut_of_ofText? hb
  refine (h.of_cut hcut fun p hp => ⟨?_, ?_⟩).2.trim
  · simp only [Place.assigns, Place.isTopLevelChar, ScanState.isTopLevel, Bool.and_eq_true,
      Option.isNone_iff_eq_none] at hp
    exact hp.1.1.1.1
  · exact isPlain_of_mem_signs (marksSign_assigns.sign p hp)

/-- The body of a call on a shallow text is shallow. -/
theorem Shallow.of_call {t : Text} (h : Shallow t) {c : Call} (hc : Call.ofText? t = some c) :
    Shallow c.body := by
  obtain ⟨hfunction, w, rest, hw, rfl, _, hgroup⟩ := Call.group_of_ofText? hc
  exact (h.of_plain_append (isPlain_of_name hfunction hw)).of_group hgroup

namespace Offset

/-! ## 2. Assignments -/

/-- Whether a byte makes a following `=` part of a comparison. -/
def isComparisonByte (byte : UInt8) : Bool :=
  byte = '='.toUInt8 || byte = '!'.toUInt8 || byte = '<'.toUInt8 || byte = '>'.toUInt8

/-- Whether a place of a line is a sign that assigns. -/
def assigns (line : Text) (v : Visit) : Checked Bool := do
  if v.before.isTopLevel && v.char = '=' then
    let previous ← byteBefore? line v.offset
    return !previous.any isComparisonByte && (utf8 line)[v.offset + 1]? ≠ some '='.toUInt8
  else return false

theorem isComparisonByte_eq {c : Char} {byte : UInt8} (h : byte ∈ String.utf8EncodeChar c) :
    isComparisonByte byte = startsComparison c := by
  have hsame : ∀ {d : Char}, d.toNat < 128 → decide (byte = d.toUInt8) = decide (c = d) :=
    fun hd => decide_eq_decide.mpr (eq_iff_of_mem_utf8EncodeChar hd h)
  rw [isComparisonByte, startsComparison, hsame (by decide), hsame (by decide), hsame (by decide),
    hsame (by decide)]

/-- The bytes next to a sign tell what its neighbours are. -/
theorem assigns_eq (left : Text) (c : Char) (right : Text) (m : ScanState) :
    assigns (left ++ c :: right) ⟨left.bytes, c, m⟩
      = .ok (Place.assigns ⟨m, left.getLast?, c, right.head?⟩) := by
  have hprevious : (left.getLast?.bind fun d => (String.utf8EncodeChar d).getLast?).any
      isComparisonByte = left.getLast?.any startsComparison := by
    cases left.getLast? with
    | none => rfl
    | some d =>
      have hne := utf8EncodeChar_ne_nil d
      have hbyte := isComparisonByte_eq (List.getLast_mem hne)
      simpa [List.getLast?_eq_some_getLast hne] using hbyte
  have hnext : (right.head?.bind fun d => (String.utf8EncodeChar d).head?) = some '='.toUInt8
      ↔ right.head? = some '=' := by
    cases right.head? with
    | none => simp
    | some d =>
      have hne := utf8EncodeChar_ne_nil d
      have hbyte := eq_iff_of_mem_utf8EncodeChar (d := '=') (by decide) (List.head_mem hne)
      simpa [List.head?_eq_some_head hne] using hbyte
  rw [assigns, Place.assigns, Place.isTopLevelChar]
  split
  · next hsign =>
    obtain ⟨htop, hc⟩ := Bool.and_eq_true_iff.mp hsign
    obtain rfl := of_decide_eq_true hc
    rw [byteBefore?_append, ok_bind, hprevious, getElem?_utf8_behind rfl]
    simp [htop, hnext]
  · next hsign => simp [hsign]

/-- The byte offset of the sign that assigns. -/
def assignmentOffset (line : Text) : Checked (Option Nat) := findOffset (assigns line) {} 0 line

/-- The sides of a line that assigns something to an identifier. -/
def splitAssignment (line : Text) : Checked (Option Binding) := do
  match ← assignmentOffset line with
  | some offset =>
    let target := (← sliceTo line offset).trim
    let source := (← sliceFrom line (offset + 1)).trim
    if target.isIdentifier && !source.isEmpty then return some ⟨target, source⟩ else return none
  | none => return none

theorem assignmentOffset_eq {line : Text} (h : Shallow line) :
    assignmentOffset line
      = .ok ((cut Place.assigns line).map fun (left, _) => left.bytes) := by
  have hfind : findOffset (assigns line) {} 0 line
      = .ok ((cutFrom Place.assigns {} none line).map fun (left, _) => 0 + left.bytes) := by
    refine findOffset_eq h 0 none fun left c right m hsplit _ => ?_
    rw [Nat.zero_add, Option.or_none, hsplit]
    exact assigns_eq left c right m
  rw [assignmentOffset, hfind, cut]
  simp

theorem splitAssignment_eq {line : Text} (h : Shallow line) :
    splitAssignment line = .ok (Binding.ofText? line) := by
  rw [splitAssignment, assignmentOffset_eq h, Binding.ofText?]
  cases hcut : cut Place.assigns line with
  | none => rfl
  | some sides =>
    obtain ⟨left, right⟩ := sides
    obtain ⟨p, hp, rfl⟩ := append_of_cut hcut
    simp only [Place.assigns, Place.isTopLevelChar, Bool.and_eq_true, decide_eq_true_eq] at hp
    have hsource : sliceFrom (left ++ p.char :: right) (left.bytes + 1) = .ok right :=
      sliceFrom_behind (by rw [hp.1.1.2]; rfl) left right
    simp only [Option.map_some, ok_bind, sliceTo_append, hsource, Option.bind_some]
    split <;> rfl

/-! ## 3. Calls -/

/-- The byte offset of the first character with a property. -/
def offsetOf? (p : Char → Bool) (t : Text) : Option Nat :=
  (Text.breakAt p t).map fun (before, _) => before.bytes

/-- The call that a text starts with. -/
def parseCall (t : Text) : Checked (Option Call) := do
  match offsetOf? (· = '(') t with
  | some start =>
    let function := (← sliceTo t start).trimEnd
    if function.isIdentifier then
      match ← closingOffset (← sliceFrom t start) with
      | some offset =>
        let stop := start + offset
        let body ← slice t (start + 1) stop
        let suffix ← sliceFrom t (stop + 1)
        return some ⟨function, body, suffix.trim⟩
      | none => return none
    else return none
  | none => return none

/-- The arguments of a call, handed over. -/
def callArguments (c : Call) : Checked (Except LiteralError (List Text)) := do
  match ← tokenize c.body with
  | .ok pieces => return .ok (← pieces.mapM normalizeArgument)
  | .error e => return .error (.nesting e)

theorem parseCall_eq {t : Text} (h : Shallow t) : parseCall t = .ok (Call.ofText? t) := by
  rw [parseCall, offsetOf?, Call.ofText?]
  cases hbreak : Text.breakAt (· = '(') t with
  | none => rfl
  | some parts =>
    obtain ⟨before, found⟩ := parts
    obtain rfl := Text.append_of_breakAt hbreak
    simp only [Option.map_some, ok_bind, sliceTo_append, sliceFrom_append, Option.bind_some]
    split
    · next hname =>
      obtain ⟨w, hw, hbefore⟩ := Text.exists_eq_trimEnd_append before
      have hplain := isPlain_of_name hname hw
      rw [← hbefore] at hplain
      rw [closingOffset_eq (h.of_plain_append hplain), closingOffset?]
      cases hgroup : Group.ofText? found with
      | none => rfl
      | some g =>
        obtain rfl := eq_append_of_ofText? hgroup
        have hopen := g.bracket.utf8Size_opener
        have hbody : slice (before ++ g.bracket.opener :: (g.body ++ g.bracket.closer :: g.rest))
            (before.bytes + 1) (before.bytes + (1 + g.body.bytes)) = .ok g.body :=
          slice_behind hopen before g.body _ (Nat.add_assoc ..).symm
        have hrest := sliceFrom_behind g.bracket.utf8Size_closer
          (before ++ g.bracket.opener :: g.body) g.rest
        have hstop : Text.bytes (before ++ g.bracket.opener :: g.body)
            = before.bytes + (1 + g.body.bytes) := by
          rw [Text.bytes_append, Text.bytes_cons, hopen]
        rw [hstop, List.append_assoc, List.cons_append] at hrest
        simp only [Option.map_some, ok_bind, hbody, hrest, pure_eq_ok]
    · rfl

theorem callArguments_eq {c : Call} (h : Shallow c.body) :
    callArguments c = .ok c.arguments := by
  rw [callArguments, tokenize_eq h, ok_bind, Call.arguments]
  cases hpieces : splitArguments c.body with
  | error e => rfl
  | ok pieces =>
    have hall := h.of_mem_splitArguments hpieces
    simp only [mapM_of_forall fun a ha => normalizeArgument_eq (hall a ha), ok_bind]
    rfl

/-! ## 4. Forms -/

/-- Whether a text has a top-level operator. -/
def hasOperator (t : Text) : Checked Bool := do
  return (← findOffset (sees Place.isOperator) {} 0 t).isSome

/-- Reads `name = expression` with a top-level operator. -/
def readArithmetic (line : Text) : Checked (Option Statement) := do
  match ← splitAssignment line with
  | none => return none
  | some b =>
    if ← hasOperator b.source then return some (.arithmetic b.target b.source) else return none

/-- Reads `name = call(...)[n]`. -/
def readIndexedCall (line : Text) : Checked (Except LiteralError (Option Statement)) := do
  match ← splitAssignment line with
  | none => return .ok none
  | some b => match ← parseCall b.source with
    | none => return .ok none
    | some c => match index? c.suffix with
      | none => return .ok none
      | some n =>
        return (← callArguments c).map fun arguments =>
          some (.indexedCall b.target c.function arguments n)

/-- Reads `name = call(...)`. -/
def readCallAssignment (line : Text) : Checked (Except LiteralError (Option Statement)) := do
  match ← splitAssignment line with
  | none => return .ok none
  | some b => match (← parseCall b.source).filter (·.suffix.isEmpty) with
    | none => return .ok none
    | some c =>
      return (← callArguments c).map fun arguments =>
        some (.callAssignment b.target c.function arguments)

/-- Reads `call(...)` on a line that assigns nothing. -/
def readBareCall (line : Text) : Checked (Except LiteralError (Option Statement)) := do
  if (← assignmentOffset line).isSome then return .ok none
  match (← parseCall line).filter (·.suffix.isEmpty) with
  | none => return .ok none
  | some c => return (← callArguments c).map fun arguments => some (.bareCall c.function arguments)

/-- Reads `name = collection[n]`. -/
def readArrayAccess (line : Text) : Checked (Option Statement) := do
  match ← splitAssignment line with
  | none => return none
  | some b => match offsetOf? (· = '[') b.source with
    | none => return none
    | some start =>
      let collection := (← sliceTo b.source start).trimEnd
      if collection.isIdentifier then
        return (index? (← sliceFrom b.source start)).map (.arrayAccess b.target collection ·)
      else return none

/-- Reads `name = value`. -/
def readAssignment (options : Options) (line : Text) :
    Checked (Except LiteralError (Option Reading)) := do
  match ← splitAssignment line with
  | none => return .ok none
  | some b =>
    return (← readValue options b.source).map fun (value, skipped) =>
      some ⟨.assignment b.target value, skipped⟩

/-- Reads a line as a form; `none` means that the form does not take it. -/
def read (form : Form) (options : Options) (line : Text) :
    Checked (Except LiteralError (Option Reading)) := do
  match form with
  | .arithmetic => return .ok ((← readArithmetic line).map fun s => { statement := s })
  | .indexedCall => return (← readIndexedCall line).map (·.map fun s => { statement := s })
  | .callAssignment => return (← readCallAssignment line).map (·.map fun s => { statement := s })
  | .bareCall => return (← readBareCall line).map (·.map fun s => { statement := s })
  | .arrayAccess => return .ok ((← readArrayAccess line).map fun s => { statement := s })
  | .assignment => readAssignment options line

/-- The first of some forms that takes a line, with what it read. -/
def firstClaim (options : Options) (line : Text) :
    List Form → Checked (Except LiteralError (Option (Form × Reading)))
  | [] => return .ok none
  | form :: rest => do
    match ← read form options line with
    | .ok (some reading) => return .ok (some (form, reading))
    | .ok none => firstClaim options line rest
    | .error e => return .error e

/-- The form that takes a line, with what it read. -/
def recognize (options : Options) (line : Text) :
    Checked (Except LiteralError (Option (Form × Reading))) :=
  firstClaim options line Form.all

/-! ## 5. Forms on shallow lines -/

variable {line : Text}

theorem hasOperator_eq {t : Text} (h : Shallow t) :
    hasOperator t = .ok (PlanScript.hasOperator t) := by
  rw [hasOperator, findOffset_sees isLocal_isOperator h 0 none]
  simp only [ok_bind, Option.isSome_map]
  rfl

theorem readArithmetic_eq (h : Shallow line) :
    readArithmetic line = .ok (PlanScript.readArithmetic line) := by
  rw [readArithmetic, splitAssignment_eq h, PlanScript.readArithmetic]
  cases hb : Binding.ofText? line with
  | none => rfl
  | some b =>
    simp only [ok_bind, hasOperator_eq (h.of_binding hb), Option.bind_some]
    split <;> rfl

theorem readIndexedCall_eq (h : Shallow line) :
    readIndexedCall line = .ok (PlanScript.readIndexedCall line) := by
  rw [readIndexedCall, splitAssignment_eq h, PlanScript.readIndexedCall]
  cases hb : Binding.ofText? line with
  | none => rfl
  | some b =>
    have hsource := h.of_binding hb
    simp only [ok_bind, parseCall_eq hsource, Option.bind_some]
    cases hc : Call.ofText? b.source with
    | none => rfl
    | some c =>
      simp only [Option.bind_some]
      cases index? c.suffix with
      | none => rfl
      | some n => simp only [callArguments_eq (hsource.of_call hc), ok_bind]; rfl

theorem readCallAssignment_eq (h : Shallow line) :
    readCallAssignment line = .ok (PlanScript.readCallAssignment line) := by
  rw [readCallAssignment, splitAssignment_eq h, PlanScript.readCallAssignment]
  cases hb : Binding.ofText? line with
  | none => rfl
  | some b =>
    have hsource := h.of_binding hb
    simp only [ok_bind, parseCall_eq hsource, Option.bind_some]
    cases hc : Call.ofText? b.source with
    | none => rfl
    | some c =>
      rw [Option.filter_some, Option.bind_some]
      cases c.suffix.isEmpty with
      | true =>
        simp only [if_true, callArguments_eq (hsource.of_call hc), ok_bind]
        rfl
      | false => rfl

theorem readBareCall_eq (h : Shallow line) :
    readBareCall line = .ok (PlanScript.readBareCall line) := by
  rw [readBareCall, assignmentOffset_eq h, parseCall_eq h, PlanScript.readBareCall, hasAssignment,
    hasPlace]
  simp only [ok_bind, Option.isSome_map]
  split
  · rfl
  · cases hc : Call.ofText? line with
    | none => rfl
    | some c =>
      rw [Option.filter_some]
      cases c.suffix.isEmpty with
      | true =>
        simp only [if_true, callArguments_eq (h.of_call hc), ok_bind]
        rfl
      | false => rfl

theorem readArrayAccess_eq (h : Shallow line) :
    readArrayAccess line = .ok (PlanScript.readArrayAccess line) := by
  rw [readArrayAccess, splitAssignment_eq h, PlanScript.readArrayAccess]
  cases hb : Binding.ofText? line with
  | none => rfl
  | some b =>
    simp only [ok_bind, Option.bind_some, offsetOf?]
    cases hbreak : Text.breakAt (· = '[') b.source with
    | none => rfl
    | some parts =>
      obtain ⟨before, found⟩ := parts
      rw [Text.append_of_breakAt hbreak]
      simp only [Option.map_some, Option.bind_some, sliceTo_append, sliceFrom_append, ok_bind]
      split <;> rfl

theorem readAssignment_eq (options : Options) (h : Shallow line) :
    readAssignment options line = .ok (PlanScript.readAssignment options line) := by
  rw [readAssignment, splitAssignment_eq h, PlanScript.readAssignment]
  cases hb : Binding.ofText? line with
  | none => rfl
  | some b =>
    simp only [ok_bind, readValue_eq options (h.of_binding hb)]
    rfl

/-- Every form reads a shallow line without a breach. -/
theorem read_eq (form : Form) (options : Options) (h : Shallow line) :
    read form options line = .ok (form.read options line) := by
  cases form with
  | arithmetic => rw [read, readArithmetic_eq h]; rfl
  | indexedCall => rw [read, readIndexedCall_eq h]; rfl
  | callAssignment => rw [read, readCallAssignment_eq h]; rfl
  | bareCall => rw [read, readBareCall_eq h]; rfl
  | arrayAccess => rw [read, readArrayAccess_eq h]; rfl
  | assignment => exact readAssignment_eq options h

theorem firstClaim_eq (options : Options) (h : Shallow line) (forms : List Form) :
    firstClaim options line forms = .ok (PlanScript.firstClaim options line forms) := by
  induction forms with
  | nil => rfl
  | cons form rest ih =>
    rw [firstClaim, read_eq form options h, ih, PlanScript.firstClaim]
    cases form.read options line with
    | error e => rfl
    | ok reading? => cases reading? <;> rfl

/-- A shallow line is recognized without a breach. -/
theorem recognize_eq (options : Options) (h : Shallow line) :
    recognize options line = .ok (PlanScript.recognize options line) :=
  firstClaim_eq options h Form.all

end Offset

end PlanScript
