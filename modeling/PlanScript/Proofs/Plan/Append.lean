/-
PlanScript.Proofs.Plan.Append — one source after another.

A parse runs through the lines of a source and keeps nothing of them but
their number. So the lines of two sources are parsed like the first source
and then like the second one, with the steps and the offsets moved on
(`parseLines_append`, `parseLines_shift`), and where a line stands makes no
difference to what is said of it (`parseLines_of_map_text`).

`parse_append` puts this together for sources without a fence marker. It
also says what follows from it: lines that say nothing may be put in or left
out anywhere, and what has been read up to a point does not depend on the
text after it.
-/
import PlanScript.Proofs.Plan.Run
import PlanScript.Proofs.Source.Shift

namespace PlanScript

open Markdown (EventReader)

variable {options : Options} {fileId : Nat}

/-! ## 1. Results further on -/

/-- The instruction, with some more steps in front of it. -/
def Instruction.later (steps : Nat) (i : Instruction) : Instruction :=
  { i with step := i.step + steps }

/-- The error, with some more steps and bytes in front of it. -/
def ParseError.later (steps bytes : Nat) (e : ParseError) : ParseError :=
  { e with step := e.step + steps, line := e.line.shift bytes }

theorem build_add (s : Statement) (step steps : Nat) :
    s.build (step + steps) = (s.build step).later steps := rfl

theorem parseLine_shift (options : Options) (fileId step steps bytes : Nat) (line : Line) :
    (parseLine options fileId (step + steps) (line.shift bytes)).result
      = match (parseLine options fileId step line).result with
        | .ok instruction => .ok (instruction.later steps)
        | .error e => .error (e.later steps bytes) := by
  rcases states_or_faulty options line.text with ⟨s, hs⟩ | ⟨fault, hfault⟩
  · have hshifted : States options (line.shift bytes).text s := hs
    rw [parseLine_of_states hs, parseLine_of_states hshifted, build_add]
  · have hshifted : Faulty options (line.shift bytes).text fault := hfault
    rw [parseLine_of_faulty hfault, parseLine_of_faulty hshifted]
    rfl

/-- Lines further on in a source are parsed alike, with later steps. -/
theorem parseLines_shift (options : Options) (fileId done steps bytes : Nat) (lines : List Line) :
    (parseLines options fileId (done + steps) (lines.map (Line.shift bytes))).result
      = match (parseLines options fileId done lines).result with
        | .ok plan => .ok (plan.map (Instruction.later steps))
        | .error e => .error (e.later steps bytes) := by
  induction lines generalizing done with
  | nil => rfl
  | cons line lines ih =>
    rw [List.map_cons, parseLines, parseLines, Nat.add_right_comm done steps 1]
    simp only [parseLine_shift]
    cases (parseLine options fileId (done + 1) line).result with
    | error e => rfl
    | ok instruction =>
      simp only [ih]
      cases (parseLines options fileId (done + 1) lines).result <;> rfl

/-- The text of an error does not tell where its line stands. -/
theorem message_of_text_eq {x y : Line} (h : x.text = y.text) {fault : Fault} {step : Nat} :
    ParseError.message ⟨fault, step, x, fileId⟩ = ParseError.message ⟨fault, step, y, fileId⟩ := by
  unfold ParseError.message
  rw [h]

theorem mapError_map {ε δ α β : Type} (r : Except ε α) (f : α → β) (g : ε → δ) :
    (r.map f).mapError g = (r.mapError g).map f := by
  cases r <;> rfl

/-- What is said of some lines depends on their texts, not on where they
stand. -/
theorem parseLines_of_map_text (options : Options) (fileId done : Nat) {xs ys : List Line}
    (h : xs.map Line.text = ys.map Line.text) :
    (parseLines options fileId done xs).result.mapError ParseError.message
      = (parseLines options fileId done ys).result.mapError ParseError.message := by
  induction xs generalizing ys done with
  | nil =>
    obtain rfl := List.map_eq_nil_iff.mp h.symm
    rfl
  | cons x xs ih =>
    obtain ⟨y, ys, rfl, htext, hrest⟩ := List.map_eq_cons_iff.mp h.symm
    have hlater := ih (done + 1) hrest.symm
    rcases states_or_faulty options x.text with ⟨s, hs⟩ | ⟨fault, hfault⟩
    · have hs' : States options y.text s := htext ▸ hs
      simp only [parseLines, parseLine_of_states hs, parseLine_of_states hs', mapError_map,
        hlater]
    · have hfault' : Faulty options y.text fault := htext ▸ hfault
      rw [parseLines_of_faulty hfault, parseLines_of_faulty hfault']
      exact congrArg Except.error (message_of_text_eq htext.symm)

/-! ## 2. Lines after lines -/

theorem parseLines_append (options : Options) (fileId done : Nat) (xs ys : List Line) :
    (parseLines options fileId done (xs ++ ys)).result
      = match (parseLines options fileId done xs).result with
        | .ok plan => (parseLines options fileId (done + plan.length) ys).result.map (plan ++ ·)
        | .error e => .error e := by
  induction xs generalizing done with
  | nil =>
    show _ = Except.map ([] ++ ·) _
    simp only [List.nil_append, List.length_nil, Nat.add_zero]
    cases (parseLines options fileId done ys).result <;> rfl
  | cons x xs ih =>
    rw [List.cons_append, parseLines, parseLines]
    cases (parseLine options fileId (done + 1) x).result with
    | error e => rfl
    | ok instruction =>
      simp only [ih]
      cases (parseLines options fileId (done + 1) xs).result with
      | error e => rfl
      | ok plan =>
        simp only [Except.map, List.length_cons, Nat.add_assoc, Nat.add_comm plan.length 1]
        cases (parseLines options fileId (done + (1 + plan.length)) ys).result <;> rfl

/-- The first results of a cursor are those of its first lines. -/
theorem Cursor.take_append (options : Options) (fileId done : Nat) {calls : Nat} {xs : List Line}
    (h : calls ≤ xs.length) (ys : List Line) :
    take calls ⟨options, fileId, xs ++ ys, done⟩ = take calls ⟨options, fileId, xs, done⟩ := by
  induction xs generalizing calls done with
  | nil =>
    obtain rfl := Nat.le_zero.mp h
    rfl
  | cons x xs ih =>
    cases calls with
    | zero => rfl
    | succ calls =>
      rw [List.cons_append, take, take]
      rcases states_or_faulty options x.text with ⟨s, hs⟩ | ⟨fault, hfault⟩
      · simp only [next_of_states hs, ih (done + 1) (Nat.le_of_succ_le_succ h)]
      · simp only [next_of_faulty hfault]

/-! ## 3. Lines that say nothing -/

/-- A line that is blank or a comment. -/
structure IsRemark (l : Text) : Prop where
  noLineFeed : '\n' ∉ l
  silent : isSilent l.trim = true
  noMarker : hasMarker l = false

theorem IsRemark.statementLines_eq_nil {l : Text} (h : IsRemark l) (markdown : EventReader) :
    statementLines l markdown = [] := by
  have hmarker : hasMarker l.trim = false := hasMarker_of_infix (Text.trim_infix l) h.noMarker
  have hline : Line.ofRaw? 0 l = none := by
    rw [Line.ofRaw?, stripFence?_of_no_marker hmarker]
    simp [h.silent]
  rw [statementLines_of_no_marker h.noMarker, linesFrom_of_last h.noLineFeed, hline]
  rfl

/-! ## 4. Sources after sources -/

/-- Two sources without a marker, one after the other, are parsed like the
first one and then like the second one.

* If the first one fails, the whole fails with its error. Otherwise its
  instructions come first, and those of the second one, or its error, come
  after them with later steps and offsets.
* A blank line or a comment may stand between the two, in front or at the
  end: the instructions, or the text of the error, are the same without it.
* The results up to the end of the first source do not depend on the second
  one. -/
theorem parse_append (options : Options) (fileId : Nat) (markdown : EventReader) {a b : Text}
    (ha : hasMarker a = false) (hb : hasMarker b = false) :
    (parse options fileId (a ++ '\n' :: b) markdown
      = match parse options fileId a markdown, parse options fileId b markdown with
        | .error e, _ => .error e
        | .ok plan, .ok more => .ok (plan ++ more.map (Instruction.later plan.length))
        | .ok plan, .error e => .error (e.later plan.length (a.bytes + 1))) ∧
    (∀ l, IsRemark l →
      let told := fun source => (parse options fileId source markdown).mapError ParseError.message
      told (a ++ '\n' :: l ++ '\n' :: b) = told (a ++ '\n' :: b) ∧
        told (l ++ '\n' :: a) = told a ∧ told (a ++ '\n' :: l) = told a) ∧
    ∀ calls ≤ (statementLines a markdown).length,
      (Cursor.ofSource options fileId (a ++ '\n' :: b) markdown).take calls
        = (Cursor.ofSource options fileId a markdown).take calls := by
  refine ⟨?_, ?_, ?_⟩
  · have hshift := fun plan : List Instruction =>
      parseLines_shift options fileId 0 plan.length (a.bytes + 1) (statementLines b markdown)
    simp only [Nat.zero_add] at hshift
    simp only [parse, parseLogged, statementLines_append ha hb, parseLines_append, Nat.zero_add,
      hshift]
    cases (parseLines options fileId 0 (statementLines a markdown)).result with
    | error e => rfl
    | ok plan => cases (parseLines options fileId 0 (statementLines b markdown)).result <;> rfl
  · intro l hl
    have hal := hasMarker_append_lineFeed ha hl.noMarker
    have hfront := statementLines_append hl.noMarker ha markdown
    have hend := statementLines_append ha hl.noMarker markdown
    rw [hl.statementLines_eq_nil] at hfront hend
    refine ⟨?_, ?_, ?_⟩
    · have hbetween := statementLines_append hal hb markdown
      rw [hend] at hbetween
      refine parseLines_of_map_text options fileId 0 ?_
      rw [hbetween, statementLines_append ha hb]
      simp [Function.comp_def]
    · refine parseLines_of_map_text options fileId 0 ?_
      simp [hfront, Function.comp_def]
    · refine parseLines_of_map_text options fileId 0 ?_
      simp [hend]
  · intro calls hcalls
    rw [Cursor.ofSource, Cursor.ofSource, statementLines_append ha hb]
    exact Cursor.take_append options fileId 0 hcalls _

/-- The second source is refused as the second step, behind the first source
with its comment, and as the second step too without the comment. -/
theorem parse_append_refused_second :
    parse {} 0 "x = 1\n# note\r\n  ?".toList Markdown.events
        = .error ⟨.unparseable, 2, ⟨['?'], 16⟩, 0⟩ ∧
      (parse {} 0 "x = 1\n# note\r\n  ?".toList Markdown.events).mapError ParseError.message
        = (parse {} 0 "x = 1\n  ?".toList Markdown.events).mapError ParseError.message ∧
      (Cursor.ofSource {} 0 "x = 1\n  ?".toList Markdown.events).take 1
        = [some (.ok ⟨1, some ['x'], .literal ['1']⟩)] := by
  have hremark : IsRemark "# note\r".toList := ⟨by decide, by decide, by decide⟩
  have hcommented := parse_append {} 0 Markdown.events (a := "x = 1\n# note\r".toList)
    (b := "  ?".toList) (by decide) (by decide)
  have hplain := parse_append {} 0 Markdown.events (a := "x = 1".toList) (b := "  ?".toList)
    (by decide) (by decide)
  exact ⟨hcommented.1.trans rfl, (hplain.2.1 _ hremark).1, hplain.2.2 1 (by decide)⟩

end PlanScript
