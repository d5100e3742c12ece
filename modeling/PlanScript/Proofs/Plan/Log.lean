/-
PlanScript.Proofs.Plan.Log — the log of a parse agrees with its result.

`Tells` says what a log holds for lines that become the instructions of a
plan: for each line the skipped entries of its dict, the form that takes it,
and the step. One line adds its own entries and no others
(`entries_of_states`), so a run tells the lines up to the first faulty one
(`tells_of_allState`), and after them either the fault of that line or the
number of the instructions (`log_agrees_with_result`).

Only lenient options skip, and only the entries of a dict that the line
binds: `Skips` names them from the text of the line.
-/
import PlanScript.Proofs.Plan.Entries
import PlanScript.Proofs.Plan.Span
import PlanScript.Proofs.Statement.Order

namespace PlanScript

open Markdown (EventReader)

variable {options : Options}

/-! ## 1. What a log shows -/

/-- An event as a log shows it. -/
structure LogEntry where
  level : Level
  message : Text
  fields : List (String × FieldValue)
deriving DecidableEq, Repr

def Event.entry (e : Event) : LogEntry := ⟨e.level, e.message, e.fields⟩

namespace LogEntry

/-- The message at the end of a parse that succeeds. -/
def parsedPlan : Text := "parsed plan".toList

/-- A dict entry was left out. -/
def skip (entry : Text) : LogEntry :=
  ⟨.warning, "skipping dict entry without `:`".toList, [("pair", .bare entry)]⟩

/-- A form takes the line of a step. -/
def claim (step : Nat) (form : Form) (line : Text) : LogEntry :=
  ⟨.debug, "line claimed".toList,
    [("step", .number step), ("recognizer", .quoted form.name.toList), ("line", .quoted line)]⟩

/-- A line became an instruction. -/
def step (line : Text) (i : Instruction) : LogEntry :=
  ⟨.info, line, [("step", .number i.step), ("function", .quoted i.functionName)]⟩

/-- A line failed. -/
def failure (e : ParseError) : LogEntry :=
  ⟨.warning, e.fault.message, [("step", .number e.step), ("line", .quoted e.line.text)]⟩

/-- All lines became instructions. -/
def summary (plan : List Instruction) : LogEntry :=
  ⟨.info, parsedPlan, [("count", .number plan.length)]⟩

/-- Whether an entry reports a step. -/
def isStep (entry : LogEntry) : Bool := entry.level = .info ∧ entry.message ≠ parsedPlan

end LogEntry

/-- The dict entries that are skipped on a line: with lenient options those
without a colon in the dict that it binds, and on any other line none. -/
inductive Skips (options : Options) (line : Text) : List Text → Prop
  | dict {target body : Text} {entries : List Text} :
    options.lenientDicts = true → IsBinding line target ('{' :: body ++ ['}']) →
    splitArguments body = .ok entries → Skips options line (withoutColon entries)
  | other :
    (options.lenientDicts = true → ∀ target body entries,
      IsBinding line target ('{' :: body ++ ['}']) → splitArguments body ≠ .ok entries) →
    Skips options line []

/-- The log tells, after `done` earlier steps, that the lines became the
instructions of a plan, one each. -/
inductive Tells (options : Options) :
    (done : Nat) → List Line → List Instruction → List LogEntry → Prop
  | nil (done : Nat) : Tells options done [] [] []
  | cons {done : Nat} {line : Line} {lines : List Line} {form : Form} {skipped : List Text}
      {i : Instruction} {plan : List Instruction} {log : List LogEntry} :
    Skips options line.text skipped →
    Form.all.find? (·.claims options line.text) = some form → i.step = done + 1 →
    Tells options (done + 1) lines plan log →
    Tells options done (line :: lines) (i :: plan)
      (skipped.map .skip ++ [.claim (done + 1) form line.text, .step line.text i] ++ log)

/-- The result of a parse, after the lines that became a plan, and the entry
that reports it: there is no other line, or the next one fails. -/
inductive Concludes (source : Text) (markdown : EventReader) (lines : List Line)
    (plan : List Instruction) : Except ParseError (List Instruction) → LogEntry → Prop
  | plan : statementLines source markdown = lines →
    Concludes source markdown lines plan (.ok plan) (.summary plan)
  | error {e : ParseError} {after : List Line} :
    statementLines source markdown = lines ++ e.line :: after → e.step = lines.length + 1 →
    Concludes source markdown lines plan (.error e) (.failure e)

/-- The instruction that a call of a cursor gives, if it gives one. -/
def instruction? : Option (Except ParseError Instruction) → Option Instruction
  | some (.ok i) => some i
  | _ => none

/-- The instructions that some calls of a cursor give. -/
def Cursor.given (calls : Nat) (c : Cursor) : List Instruction :=
  (c.take calls).filterMap instruction?

/-! ## 2. The entries that a line skips -/

/-- Strict options skip no entry: they refuse it. -/
theorem skipped_of_readEntries_strict (hstrict : options.lenientDicts = false)
    {entries strings skipped : List Text}
    (h : readEntries options entries = .ok (strings, skipped)) : skipped = [] := by
  have hnone : withoutColon entries = [] := by
    cases hfind : entries.find? (TopLevelFree ':' ·) with
    | none => simpa [withoutColon, List.filter_eq_nil_iff] using hfind
    | some entry =>
      rw [(readEntries_eq_error_iff options entries _).mpr ⟨hstrict, entry, hfind, rfl⟩] at h
      contradiction
  obtain ⟨sides, hsides⟩ := exists_areSides entries
  rw [readEntries_eq_ok (.inr hnone) hsides] at h
  cases h
  exact hnone

/-- The body of a dict skips nothing, or the options are lenient. -/
theorem skipped_of_body {body : Text} {v : Value} {skipped : List Text}
    (h : (do let (strings, left) ← readEntries options (← splitElements body)
             return (Value.dict strings, left)) = .ok (v, skipped)) :
    skipped = [] ∨ options.lenientDicts = true ∧ ∃ entries, splitArguments body = .ok entries := by
  cases hsplit : splitArguments body with
  | error e => simp [splitElements, hsplit, Except.mapError, bind, Except.bind] at h
  | ok entries =>
    rw [splitElements_of_ok hsplit] at h
    cases hread : readEntries options entries with
    | error e => simp [hread, bind, Except.bind] at h
    | ok r =>
      simp only [hread, bind, Except.bind, pure, Except.pure, Except.ok.injEq, Prod.mk.injEq] at h
      obtain ⟨-, rfl⟩ := h
      cases hlenient : options.lenientDicts with
      | true => exact .inr ⟨rfl, entries, rfl⟩
      | false => exact .inl (skipped_of_readEntries_strict hlenient hread)

/-- A value skips nothing, or it is a dict and the options are lenient. -/
theorem skipped_of_read {source : Text} {v : Value} {skipped : List Text}
    (h : Value.read options source = .ok (v, skipped)) :
    skipped = [] ∨ options.lenientDicts = true ∧ ∃ body entries,
      source.trim = '{' :: body ++ ['}'] ∧ splitArguments body = .ok entries := by
  unfold Value.read Value.readTrimmed at h
  split at h
  · cases h
    exact .inl rfl
  · split at h
    · cases h
      exact .inl rfl
    · split at h
      · next body _ =>
        cases hitems : splitElements body with
        | error e => simp [hitems, Except.map] at h
        | ok items =>
          rw [hitems] at h
          cases h
          exact .inl rfl
      · split at h
        · next body hbody =>
          refine (skipped_of_body h).imp_right ?_
          rintro ⟨hlenient, entries, hsplit⟩
          exact ⟨hlenient, body, entries, eq_append_of_enclosed? hbody, hsplit⟩
        · cases h
          exact .inl rfl

/-- Any other form than the assignment reads a statement and nothing else. -/
theorem exists_read_eq_map {form : Form} (h : form ≠ .assignment) (options : Options)
    (line : Text) : ∃ read : Except LiteralError (Option Statement),
      form.read options line = read.map (·.map fun s => ({ statement := s } : Reading)) := by
  cases form with
  | arithmetic => exact ⟨.ok (readArithmetic line), rfl⟩
  | indexedCall => exact ⟨readIndexedCall line, rfl⟩
  | callAssignment => exact ⟨readCallAssignment line, rfl⟩
  | bareCall => exact ⟨readBareCall line, rfl⟩
  | arrayAccess => exact ⟨.ok (readArrayAccess line), rfl⟩
  | assignment => contradiction

/-- A form skips nothing, or it reads the assignment of a dict. -/
theorem skipped_of_formRead {line : Text} (hline : Text.Trimmed line) {form : Form} {r : Reading}
    (h : form.read options line = .ok (some r)) :
    r.skipped = [] ∨ options.lenientDicts = true ∧ ∃ target body entries,
      IsBinding line target ('{' :: body ++ ['}']) ∧ splitArguments body = .ok entries := by
  by_cases hform : form = .assignment
  · subst hform
    rcases readAssignment_cases options line with ⟨_, hread⟩ | ⟨b, hb, hread⟩
    · simp [Form.read, hread] at h
    · cases hv : Value.read options b.source with
      | error e => simp [Form.read, hread, hv, Except.map] at h
      | ok v =>
        simp only [Form.read, hread, hv, Except.map, Except.ok.injEq, Option.some.injEq] at h
        subst h
        obtain ⟨hbinding, htrimmed, _⟩ := Binding.isBinding_of_ofText? hline hb
        refine (skipped_of_read hv).imp_right ?_
        rintro ⟨hlenient, body, entries, hsource, hsplit⟩
        rw [htrimmed] at hsource
        exact ⟨hlenient, b.target, body, entries, hsource ▸ hbinding, hsplit⟩
  · obtain ⟨read, hread⟩ := exists_read_eq_map hform options line
    rw [hread] at h
    obtain ⟨s, _, rfl⟩ := (map_reading_eq_some_iff read r).mp h
    exact .inl rfl

theorem recognize_of_readLine {line : Text} {form : Form} {r : Reading}
    (h : readLine options line = .ok (form, r)) :
    recognize options line = .ok (some (form, r)) := by
  unfold readLine at h
  split at h
  · contradiction
  · split at h
    · contradiction
    · contradiction
    · next claim hclaim =>
      cases h
      exact hclaim

/-- The entries that a line skips are those that its text tells. -/
theorem skips_of_readLine {line : Text} (hline : Text.Trimmed line) {form : Form} {r : Reading}
    (h : readLine options line = .ok (form, r)) : Skips options line r.skipped := by
  by_cases hdict : options.lenientDicts = true ∧ ∃ target body entries,
      IsBinding line target ('{' :: body ++ ['}']) ∧ splitArguments body = .ok entries
  · obtain ⟨hlenient, target, body, entries, hbinding, hsplit⟩ := hdict
    have hbody : Balanced body :=
      (checkNesting_eq_ok_iff body).mp ((exists_splitArguments_iff body).mp ⟨entries, hsplit⟩)
    obtain rfl : options = .lenient := by
      cases options
      cases hlenient
      rfl
    obtain ⟨sides, hsides⟩ := exists_areSides entries
    rw [readLine_dict hbinding hbody (read_lenient_dict hsplit hsides)] at h
    cases h
    exact .dict rfl hbinding hsplit
  · have hform := read_of_recognize (recognize_of_readLine h)
    rw [(skipped_of_formRead hline hform).resolve_right hdict]
    exact .other fun hlenient target body entries hbinding hsplit =>
      hdict ⟨hlenient, target, body, entries, hbinding, hsplit⟩

/-! ## 3. The entries of one line -/

/-- The chain ends at the first form that takes the line. -/
theorem find?_claims_of_firstClaim {line : Text} {forms : List Form} {form : Form} {r : Reading}
    (h : firstClaim options line forms = .ok (some (form, r))) :
    forms.find? (·.claims options line) = some form := by
  induction forms with
  | nil => cases h
  | cons f forms ih =>
    cases hclaims : f.claims options line with
    | true =>
      rw [firstClaim_cons_of_claims hclaims] at h
      rw [List.find?_cons, hclaims, List.mem_singleton.mp (read_of_firstClaim h).1]
    | false =>
      rw [firstClaim_cons_of_declines ((claims_eq_false_iff f options line).mp hclaims)] at h
      rw [List.find?_cons, hclaims]
      exact ih h

/-- A line that makes a statement tells what it skips, the form that takes it,
and its step. -/
theorem entries_of_states {line : Line} {s : Statement} (hline : Text.Trimmed line.text)
    (h : States options line.text s) (fileId done : Nat) :
    ∃ skipped form, Skips options line.text skipped ∧
      Form.all.find? (·.claims options line.text) = some form ∧
      (parseLine options fileId (done + 1) line).events.map Event.entry
        = skipped.map .skip ++
          [.claim (done + 1) form line.text, .step line.text (s.build (done + 1))] := by
  obtain ⟨form, r, hread, rfl⟩ := readLine_of_states h
  refine ⟨r.skipped, form, skips_of_readLine hline hread,
    find?_claims_of_firstClaim (recognize_of_readLine hread), ?_⟩
  simp only [parseLine, hread, List.map_append, List.map_map]
  rfl

/-- A faulty line tells its fault, once. -/
theorem entries_of_faulty {line : Line} {fault : Fault} (h : Faulty options line.text fault)
    (fileId step : Nat) :
    (parseLine options fileId step line).events.map Event.entry
      = [.failure ⟨fault, step, line, fileId⟩] := by
  simp only [parseLine, readLine_of_faulty h]
  rfl

/-! ## 4. The entries of a run -/

/-- Lines that make statements are told one by one, and the rest after them. -/
theorem tells_of_allState {lines : List Line} {statements : List Statement}
    (h : AllState options lines statements) (hlines : ∀ line ∈ lines, Text.Trimmed line.text)
    (fileId done : Nat) (rest : List Line) :
    ∃ log, Tells options done lines (planFrom done statements) log ∧
      (parseLines options fileId done (lines ++ rest)).events.map Event.entry
        = log ++ (parseLines options fileId (done + statements.length) rest).events.map
            Event.entry := by
  induction h generalizing done with
  | nil => exact ⟨[], .nil done, rfl⟩
  | @cons line s lines statements hstates _ ih =>
    obtain ⟨log, htells, hlater⟩ := ih (fun l hl => hlines l (List.mem_cons_of_mem _ hl)) (done + 1)
    obtain ⟨skipped, form, hskips, hform, hfirst⟩ :=
      entries_of_states (hlines line (List.mem_cons_self ..)) hstates fileId done
    rw [planFrom_cons]
    refine ⟨_, .cons hskips hform rfl htells, ?_⟩
    rw [List.cons_append, parseLines]
    simp only [parseLine_of_states hstates, List.map_append, hfirst, hlater, List.length_cons]
    rw [Nat.add_comm statements.length, ← Nat.add_assoc, ← List.append_assoc]

/-- Enough calls give the instructions, if nothing that comes after them is one. -/
theorem filterMap_take_results (plan : List Instruction)
    {tail : List (Option (Except ParseError Instruction))}
    (htail : ∀ r ∈ tail, instruction? r = none) {calls : Nat} (h : plan.length ≤ calls) :
    ((plan.map (some ∘ Except.ok) ++ tail).take calls).filterMap instruction? = plan := by
  have hplan : (plan.map (some ∘ Except.ok)).filterMap instruction? = plan := by
    rw [List.filterMap_map]
    exact List.filterMap_some
  have hlater : ∀ n, (tail.take n).filterMap instruction? = [] := fun n =>
    List.filterMap_eq_nil_iff.mpr fun r hr => htail r (List.mem_of_mem_take hr)
  rw [List.take_append, List.filterMap_append, List.take_of_length_le (by simpa using h), hplan,
    hlater, List.append_nil]

/-- What a parse tells is told of the lines before its conclusion, and then the
conclusion is. -/
theorem exists_tells (options : Options) (fileId : Nat) (source : Text) (markdown : EventReader) :
    ∃ lines plan told last, Tells options 0 lines plan told ∧
      Concludes source markdown lines plan (parse options fileId source markdown) last ∧
      (parseLogged options fileId source markdown).events.map Event.entry = told ++ [last] ∧
      ∀ calls ≥ (statementLines source markdown).length,
        (Cursor.ofSource options fileId source markdown).given calls = plan := by
  have htrimmed : ∀ line ∈ statementLines source markdown, Text.Trimmed line.text :=
    fun line hline => (stands_of_mem_linesFrom _ _ line hline).1.trimmed
  rcases allState_or_first_faulty options (statementLines source markdown) with
    ⟨statements, hall⟩ | ⟨before, line, after, statements, fault, hsource, hall, hfault⟩
  · obtain ⟨told, htells, hevents⟩ := tells_of_allState hall htrimmed fileId 0 []
    refine ⟨_, _, told, .summary (planFrom 0 statements), htells, ?_, ?_, fun calls hcalls => ?_⟩
    · rw [parse_of_allState hall]
      exact .plan rfl
    · rw [List.append_nil] at hevents
      rw [parseLogged, hevents, Nat.zero_add, ← length_planFrom 0 statements]
      rfl
    · rw [Cursor.given, take_ofSource_of_allState hall]
      refine filterMap_take_results _ (by simp [instruction?]) ?_
      rw [length_planFrom, ← hall.length_eq]
      exact hcalls
  · obtain ⟨told, htells, hevents⟩ := tells_of_allState hall
      (fun l hl => htrimmed l (hsource ▸ List.mem_append_left _ hl)) fileId 0 (line :: after)
    refine ⟨_, _, told, .failure ⟨fault, before.length + 1, line, fileId⟩, htells, ?_, ?_,
      fun calls hcalls => ?_⟩
    · rw [parse_of_first_faulty hsource hall hfault]
      exact .error hsource rfl
    · rw [parseLogged, hsource, hevents]
      simp only [parseLines, parseLine_of_faulty hfault, entries_of_faulty hfault, hall.length_eq,
        Nat.zero_add]
    · rw [Cursor.given, take_ofSource_of_first_faulty hsource hall hfault]
      refine filterMap_take_results _ (by simp [instruction?]) ?_
      rw [length_planFrom, ← hall.length_eq]
      rw [hsource, List.length_append] at hcalls
      omega

/-! ## 5. Reading the log -/

theorem find?_claims_parsedPlan (options : Options) :
    Form.all.find? (·.claims options LogEntry.parsedPlan) = none := by
  obtain ⟨lenient⟩ := options
  cases lenient <;> decide

/-- Among the entries for a line, one reports a step, and none has the message of
the summary: no form takes a line with that text. -/
theorem entries_of_line {line : Text} {form : Form}
    (hform : Form.all.find? (·.claims options line) = some form) (skipped : List Text) (step : Nat)
    (i : Instruction) :
    let entries := skipped.map LogEntry.skip ++ [.claim step form line, .step line i]
    entries.filter LogEntry.isStep = [.step line i] ∧
      ∀ entry ∈ entries, entry.message ≠ LogEntry.parsedPlan := by
  intro entries
  have hline : line ≠ LogEntry.parsedPlan := by
    rintro rfl
    rw [find?_claims_parsedPlan] at hform
    contradiction
  have hskips : (skipped.map LogEntry.skip).filter LogEntry.isStep = [] := by
    simp [List.filter_eq_nil_iff, LogEntry.isStep, LogEntry.skip]
  constructor
  · rw [List.filter_append, hskips]
    simp [LogEntry.isStep, LogEntry.claim, LogEntry.step, hline]
  · intro entry hentry
    simp only [entries, List.mem_append, List.mem_map, List.mem_cons, List.not_mem_nil,
      or_false] at hentry
    rcases hentry with ⟨t, _, rfl⟩ | rfl | rfl
    · show "skipping dict entry without `:`".toList ≠ LogEntry.parsedPlan
      decide
    · show "line claimed".toList ≠ LogEntry.parsedPlan
      decide
    · exact hline

/-- The steps that are told are those of the plan, in order. -/
theorem Tells.steps {done : Nat} {lines : List Line} {plan : List Instruction}
    {log : List LogEntry} (h : Tells options done lines plan log) :
    log.filter LogEntry.isStep = List.zipWith (fun line i => .step line.text i) lines plan ∧
      plan.length = lines.length ∧ ∀ entry ∈ log, entry.message ≠ LogEntry.parsedPlan := by
  induction h with
  | nil => exact ⟨rfl, rfl, by simp⟩
  | @cons done line _ _ skipped i _ _ _ hform _ _ ih =>
    obtain ⟨hsteps, hlength, hmessage⟩ := ih
    obtain ⟨hstep, hline⟩ := entries_of_line hform skipped (done + 1) i
    refine ⟨?_, congrArg Nat.succ hlength, ?_⟩
    · rw [List.filter_append, hstep, hsteps]
      rfl
    · intro entry hentry
      exact (List.mem_append.mp hentry).elim (hline entry) (hmessage entry)

theorem Fault.message_ne_parsedPlan (fault : Fault) : fault.message ≠ LogEntry.parsedPlan := by
  cases fault with
  | unparseable => decide
  | malformedNesting e =>
    intro h
    have hhead : some 'm' = some 'p' := congrArg List.head? h
    exact absurd hhead (by decide)
  | malformedLiteral e =>
    intro h
    have hhead : some 'm' = some 'p' := congrArg List.head? h
    exact absurd hhead (by decide)

theorem Concludes.reports {source : Text} {markdown : EventReader} {lines : List Line}
    {plan : List Instruction} {result : Except ParseError (List Instruction)} {last : LogEntry}
    (h : Concludes source markdown lines plan result last) :
    last.isStep = false ∧
      (last.message = LogEntry.parsedPlan ↔ ∃ instructions, result = .ok instructions) := by
  cases h with
  | plan => exact ⟨by simp [LogEntry.isStep, LogEntry.summary], by simp [LogEntry.summary]⟩
  | @error e =>
    have hmessage : (LogEntry.failure e).message ≠ LogEntry.parsedPlan :=
      e.fault.message_ne_parsedPlan
    exact ⟨by simp [LogEntry.isStep, LogEntry.failure], by simp [hmessage]⟩

/-- The log of a parse agrees with its result.

* For each line that succeeds it tells, in order, the skipped entries of its
  dict, the first form that takes the line, and the step with the function of
  its instruction. Then one entry concludes it: the fault of the first line that
  fails, or the number of the instructions.
* The instructions are those that the cursor gives, and the whole plan if there
  is one. The entries that report steps are theirs, one each and in order.
* The message of the conclusion is told exactly if there is a plan. -/
theorem log_agrees_with_result (options : Options) (fileId : Nat) (source : Text)
    (markdown : EventReader) :
    let log := (parseLogged options fileId source markdown).events.map Event.entry
    ∃ lines plan told last, log = told ++ [last] ∧ Tells options 0 lines plan told ∧
      Concludes source markdown lines plan (parse options fileId source markdown) last ∧
      (∀ calls ≥ (statementLines source markdown).length,
        (Cursor.ofSource options fileId source markdown).given calls = plan) ∧
      log.filter LogEntry.isStep = List.zipWith (fun line i => .step line.text i) lines plan ∧
      plan.length = lines.length ∧
      ((∃ entry ∈ log, entry.message = "parsed plan".toList) ↔
        ∃ result, parse options fileId source markdown = .ok result) := by
  intro log
  obtain ⟨lines, plan, told, last, htells, hlast, hsplit, hgiven⟩ :=
    exists_tells options fileId source markdown
  have hlog : log = told ++ [last] := hsplit
  obtain ⟨hsteps, hlength, hmessage⟩ := htells.steps
  obtain ⟨hnoStep, hparsed⟩ := hlast.reports
  refine ⟨lines, plan, told, last, hlog, htells, hlast, hgiven, ?_, hlength, ?_⟩
  · rw [hlog, List.filter_append, hsteps, List.filter_singleton, hnoStep]
    simp
  · rw [← hparsed, hlog]
    constructor
    · rintro ⟨entry, hentry, htext⟩
      rcases List.mem_append.mp hentry with htold | hconclusion
      · exact absurd htext (hmessage entry htold)
      · rwa [List.mem_singleton.mp hconclusion] at htext
    · intro htext
      exact ⟨last, by simp, htext⟩

/-- A dict with an entry too many becomes a step, and an open bracket ends the
parse: the call is not told as claimed. -/
example :
    (parseLogged .lenient 0 "d = \x7ba: 1, b\x7d\nf(d\n".toList Markdown.events).events.map
        Event.entry
      = [.skip ['b'], .claim 1 .assignment "d = \x7ba: 1, b\x7d".toList,
        .step "d = \x7ba: 1, b\x7d".toList ⟨1, some ['d'], .call dictFunction [['a'], ['1']] none⟩,
        .failure ⟨.malformedNesting (.unclosed .round), 2, ⟨"f(d".toList, 14⟩, 0⟩] := by
  decide

end PlanScript
