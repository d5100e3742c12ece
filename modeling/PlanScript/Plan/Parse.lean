/-
PlanScript.Plan.Parse — from a source to a plan.

Each statement line is checked for nesting, recognized and built, with step
numbers from one on. There are two ways to run through the lines.
`Cursor.next` gives one result at a time and is exhausted after the last
line or the first error. `parse` runs to the end: it gives all instructions
or the first error, never a part of the plan.
-/
import PlanScript.Plan.Log
import PlanScript.Instruction.Build

namespace PlanScript

open Markdown (EventReader)

/-- What a parse gives, with the events on the way. -/
structure Logged (α : Type) where
  result : Except ParseError α
  events : List Event

/-! ## 1. One line -/

/-- The form that takes a line, with what it read, or the fault of the
line. Nesting is checked before any form is tried. -/
def readLine (options : Options) (line : Text) : Except Fault (Form × Reading) :=
  match checkNesting line with
  | .error e => .error (.malformedNesting e)
  | .ok () => match recognize options line with
    | .error e => .error (.ofLiteral e)
    | .ok none => .error .unparseable
    | .ok (some claim) => .ok claim

/-- The instruction of a line at a step. -/
def parseLine (options : Options) (fileId step : Nat) (line : Line) : Logged Instruction :=
  match readLine options line.text with
  | .ok (form, reading) =>
    let instruction := reading.statement.build step
    { result := .ok instruction
      events := reading.skipped.map .skipped ++
        [.claimed step form line.text, .built step line.text instruction.functionName] }
  | .error fault =>
    { result := .error ⟨fault, step, line, fileId⟩
      events := [.rejected step line.text fault] }

/-! ## 2. One line at a time -/

/-- The lines that are still to be parsed. -/
structure Cursor where
  options : Options
  fileId : Nat
  lines : List Line
  /-- The number of lines parsed. -/
  step : Nat := 0
deriving DecidableEq, Repr

namespace Cursor

/-- The cursor before the first line of a source. -/
def ofSource (options : Options) (fileId : Nat) (source : Text)
    (markdown : EventReader := Markdown.events) : Cursor :=
  { options, fileId, lines := statementLines source markdown }

/-- The result of the next line, if there is one, and the cursor after it.
An error uses up the remaining lines. -/
def next (c : Cursor) : Option (Except ParseError Instruction) × Cursor :=
  match c.lines with
  | [] => (none, c)
  | line :: rest =>
    let result := (parseLine c.options c.fileId (c.step + 1) line).result
    let remaining := match result with
      | .ok _ => rest
      | .error _ => []
    (some result, { c with lines := remaining, step := c.step + 1 })

/-- The results of some calls of `next`. -/
def take : (calls : Nat) → Cursor → List (Option (Except ParseError Instruction))
  | 0, _ => []
  | calls + 1, c =>
    let (result, after) := c.next
    result :: take calls after

end Cursor

/-! ## 3. The whole source -/

/-- The instructions of some lines, numbered after `done` earlier ones. -/
def parseLines (options : Options) (fileId done : Nat) : List Line → Logged (List Instruction)
  | [] => { result := .ok [], events := [.finished done] }
  | line :: rest =>
    let first := parseLine options fileId (done + 1) line
    match first.result with
    | .error e => { result := .error e, events := first.events }
    | .ok instruction =>
      let others := parseLines options fileId (done + 1) rest
      { result := others.result.map (instruction :: ·)
        events := first.events ++ others.events }

/-- The plan of a source, with the events on the way. -/
def parseLogged (options : Options) (fileId : Nat) (source : Text)
    (markdown : EventReader := Markdown.events) : Logged (List Instruction) :=
  parseLines options fileId 0 (statementLines source markdown)

/-- The plan of a source. -/
def parse (options : Options) (fileId : Nat) (source : Text)
    (markdown : EventReader := Markdown.events) : Except ParseError (List Instruction) :=
  (parseLogged options fileId source markdown).result

/-- The plan of a source, with the usual options. -/
def parsePlan (source : Text) (markdown : EventReader := Markdown.events) :
    Except ParseError (List Instruction) :=
  parse {} 0 source markdown

end PlanScript
