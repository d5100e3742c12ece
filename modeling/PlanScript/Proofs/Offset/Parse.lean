/-
PlanScript.Proofs.Offset.Parse — reading by byte offsets stays within its
domain.

A source is parsed by offsets as the library parses it: its lines are found,
and each is checked, recognized and built. No operation on the way is used
outside its domain, whatever the source and the options are, as long as the
events of the Markdown reader keep to the source and no line opens `2 ^ 32`
brackets of a kind at once; and the result is the plan or the error of the
library (`stays_in_domain`). The same holds of each reader that can be called
on a text of its own.
-/
import PlanScript.Proofs.Offset.Source
import PlanScript.Proofs.Offset.Statement
import PlanScript.Plan.Parse

namespace PlanScript.Offset

open Markdown (InSource)

/-! ## 1. Lines -/

/-- The form that takes a line, with what it read, or the fault of the
line. -/
def readLine (options : Options) (line : Text) : Checked (Except Fault (Form × Reading)) := do
  match ← checkNesting line with
  | .error e => return .error (.malformedNesting e)
  | .ok () => match ← recognize options line with
    | .error e => return .error (.ofLiteral e)
    | .ok none => return .error .unparseable
    | .ok (some claim) => return .ok claim

/-- The instructions of some lines, numbered after `done` earlier ones. -/
def parseLines (options : Options) (fileId done : Nat) :
    List Line → Checked (Except ParseError (List Instruction))
  | [] => return .ok []
  | line :: rest => do
    match ← readLine options line.text with
    | .error fault => return .error ⟨fault, done + 1, line, fileId⟩
    | .ok (_, reading) =>
      return (← parseLines options fileId (done + 1) rest).map
        (reading.statement.build (done + 1) :: ·)

/-- The plan of a source. -/
def parse (events : List Markdown.Event) (options : Options) (fileId : Nat) (source : Text) :
    Checked (Except ParseError (List Instruction)) := do
  parseLines options fileId 0 (← preprocess events source)

theorem readLine_eq (options : Options) {line : Text} (h : Shallow line) :
    readLine options line = .ok (PlanScript.readLine options line) := by
  rw [readLine, checkNesting_eq h, recognize_eq options h, PlanScript.readLine]
  cases PlanScript.checkNesting line with
  | error e => rfl
  | ok _ =>
    cases PlanScript.recognize options line with
    | error e => rfl
    | ok claim? => cases claim? <;> rfl

theorem parseLines_eq (options : Options) (fileId done : Nat) {lines : List Line}
    (h : ∀ line ∈ lines, Shallow line.text) :
    parseLines options fileId done lines
      = .ok (PlanScript.parseLines options fileId done lines).result := by
  induction lines generalizing done with
  | nil => rfl
  | cons line rest ih =>
    obtain ⟨hline, hrest⟩ := List.forall_mem_cons.mp h
    rw [parseLines, readLine_eq options hline, ih (done + 1) hrest, PlanScript.parseLines,
      parseLine]
    cases PlanScript.readLine options line.text <;> rfl

/-! ## 2. The domains -/

/-- Reading by byte offsets never leaves the domain of an operation. As long
as the events of the Markdown reader keep to the source, its lines are found,
and they are the statement lines; when these are shallow, the result is the one
of the library. On every shallow text the scanners and readers give what they
give in the library. -/
theorem stays_in_domain :
    (∀ markdown source, InSource source (markdown source) →
      preprocess (markdown source) source = .ok (statementLines source markdown) ∧
        ∀ options fileId, (∀ line ∈ statementLines source markdown, Shallow line.text) →
          parse (markdown source) options fileId source
            = .ok (PlanScript.parse options fileId source markdown)) ∧
    ∀ t, Shallow t →
      checkNesting t = .ok (PlanScript.checkNesting t) ∧
      tokenize t = .ok (splitArguments t) ∧
      closingOffset t = .ok (closingOffset? t) ∧
      normalizeArgument t = .ok (PlanScript.normalizeArgument t) ∧
      ∀ options, recognize options t = .ok (PlanScript.recognize options t) ∧
        classify options t = .ok (Value.classify options t) := by
  refine ⟨fun markdown source hevents => ?_, fun t ht => ?_⟩
  · have hlines := preprocess_eq hevents
    refine ⟨hlines, fun options fileId hshallow => ?_⟩
    rw [parse, hlines, ok_bind, parseLines_eq options fileId 0 hshallow]
    rfl
  · exact ⟨checkNesting_eq ht, tokenize_eq ht, closingOffset_eq ht, normalizeArgument_eq ht,
      fun options => ⟨recognize_eq options ht, classify_eq options ht⟩⟩

/-- A fenced line with characters of several bytes around its signs is cut
between characters. -/
theorem stays_in_domain_fenced :
    let source := "說\n```\n收入= f(\"額\", é)\n```\n".toList
    let events : List Markdown.Event := [.fence, .text ⟨8, 29⟩, .blockEnd ⟨4, 32⟩]
    Markdown.events source = events ∧ InSource source events ∧
      (∀ line ∈ statementLines source Markdown.events, Shallow line.text) ∧
      preprocess events source = .ok [⟨"收入= f(\"額\", é)".toList, 8⟩] ∧
      parse events {} 0 source = .ok (PlanScript.parse {} 0 source Markdown.events) ∧
      (PlanScript.parse {} 0 source Markdown.events).toOption
        = some [⟨1, some "收入".toList, .call ['f'] [['額'], ['é']] none⟩] ∧
      tokenize "\"額\", é".toList = .ok (.ok ["\"額\"".toList, ['é']]) := by
  intro source events
  have hevents : Markdown.events source = events := by decide +kernel
  have hlines : statementLines source Markdown.events
      = [⟨"收入= f(\"額\", é)".toList, 8⟩] := by
    decide +kernel
  have hin : InSource source (Markdown.events source) := Markdown.inSource_events source
  have hshallow : ∀ line ∈ statementLines source Markdown.events, Shallow line.text := by
    rw [hlines]
    simp only [List.forall_mem_singleton]
    exact shallow_of_length_lt (by decide)
  obtain ⟨hpreprocess, hparse⟩ := stays_in_domain.1 Markdown.events source hin
  rw [hlines] at hpreprocess
  have hresult := hparse {} 0 hshallow
  rw [hevents] at hin hpreprocess hresult
  refine ⟨hevents, hin, hshallow, hpreprocess, hresult, by decide +kernel, ?_⟩
  exact (stays_in_domain.2 _ (shallow_of_length_lt (by decide))).2.1.trans rfl

end PlanScript.Offset
