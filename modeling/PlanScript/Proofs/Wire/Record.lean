/-
PlanScript.Proofs.Wire.Record — records that travel as JSON.

A record is written as an object of its fields, without those that are
absent, and it is read back from every text that holds the object
(`Record.ofJsonText?_of_isText`), the printed one among them. How JSON is read
and printed is a parameter: any reader and any printer of the standard
encoding will do (`Json.IsReader`, `Json.IsPrinter`).

The step of a record has to fit in 64 bits, since other steps are refused.
This holds for every record that was read, whatever the text looked like
(`Record.step_lt_of_ofValue?`), and for every instruction of a source that
is not too long (`step_le_length_of_parse`).
-/
import PlanScript.Wire.Json
import PlanScript.Proofs.Json.Printer
import PlanScript.Proofs.Plan.Span

namespace PlanScript

open Markdown (EventReader)

/-! ## 1. Fields -/

namespace Json

theorem natural?_ofNat {n : Nat} (h : n < UInt64.size) : natural? (.ofNat n) = some n := by
  have hread : Decimal.toNat? (Decimal.ofNat n) = some n :=
    (Decimal.toNat?_eq_some_iff n _).mpr
      ⟨Nat.toDigits_ne_nil, Decimal.isDigit_of_mem_ofNat, (Decimal.valueOf_ofNat n).symm⟩
  simp [natural?, ofNat, hread, h]

/-- A number is never written as minus zero. -/
theorem ofInt_ne_minusZero (i : Int) : Decimal.ofInt i ≠ ['-', '0'] := by
  cases i with
  | ofNat n =>
    intro h
    have hminus : '-' ∈ Decimal.ofNat n := by
      rw [show Decimal.ofNat n = ['-', '0'] from h]
      exact List.mem_cons_self ..
    exact absurd (Decimal.isDigit_of_mem_ofNat _ hminus) (by decide)
  | negSucc n =>
    intro h
    have hdigits : Decimal.ofNat (n + 1) = ['0'] := (List.cons.inj h).2
    have hvalue := Decimal.valueOf_ofNat (n + 1)
    rw [hdigits] at hvalue
    exact absurd hvalue.symm (Nat.succ_ne_zero n)

theorem word?_ofInt (n : Int64) : word? (.ofInt n.toInt) = some n := by
  have hread := (Decimal.toInt64?_eq_some_iff n _).mpr (Decimal.spells_ofInt n.toInt)
  simp [word?, ofInt, ofInt_ne_minusZero, hread]

@[simp] theorem text?_ofText (t : Text) : format.text? (.ofText t) = some t := spelled?_written t

theorem texts?_ofText (ts : List Text) : format.texts? (.array (ts.map .ofText)) = some ts := by
  have hitems : (ts.map ofText).mapM format.text? = some ts := by
    induction ts with
    | nil => rfl
    | cons t ts ih => simp [ih]
  exact hitems

theorem tag?_kind (k : Kind) :
    (format.tag? (.ofText k.tag.toList)).bind Kind.ofTag? = some k := by
  have htag : format.tag? (.ofText k.tag.toList) = some k.tag.toList := by
    simp [Format.tag?]
  rw [htag]
  cases k <;> rfl

/-- The members of an object, by what their keys spell. -/
theorem members?_object (members : List (Text × Json)) :
    format.members? (.object (members.map fun (key, value) => (written key, value)))
      = some members := by
  have hmembers : (members.map fun (key, value) => (written key, value)).mapM
      (fun (key, value) => (spelled? key).map (·, value)) = some members := by
    induction members with
    | nil => rfl
    | cons m members ih => simp [spelled?_written, ih]
  exact hmembers

end Json

/-! ## 2. Records -/

namespace Record

/-- The members of a record's object, by name. -/
def members (r : Record) : List (Text × Json) :=
  [("step".toList, .ofNat r.step), ("kind".toList, .ofText r.kind.tag.toList),
    ("function_name".toList, .ofText r.functionName),
    ("inputs".toList, .array (r.inputs.map .ofText))]
  ++ (r.outputName.map fun o => ("output_name".toList, Json.ofText o)).toList
  ++ (r.resultIndex.map fun n => ("result_index".toList, Json.ofInt n.toInt)).toList

theorem toJson_eq (r : Record) :
    r.toJson = .object (r.members.map fun (key, value) => (Json.written key, value)) := by
  obtain ⟨step, kind, name, inputs, output, index⟩ := r
  cases output <;> cases index <;> rfl

/-- The values of the members are numbers and texts, and an array of texts. -/
theorem forall_mem_members {P : Json → Prop} (r : Record) (hnumber : ∀ n, P (.ofNat n))
    (htext : ∀ t, P (.ofText t)) (hinputs : P (.array (r.inputs.map .ofText)))
    (hindex : ∀ i, P (.ofInt i)) : ∀ m ∈ r.members, P m.2 := by
  simp only [members, List.mem_append, List.mem_cons, Option.mem_toList,
    Option.map_eq_some_iff]
  rintro m (((rfl | rfl | rfl | rfl | hm) | ⟨o, _, rfl⟩) | ⟨n, _, rfl⟩)
  · exact hnumber r.step
  · exact htext _
  · exact htext _
  · exact hinputs
  · contradiction
  · exact htext o
  · exact hindex n.toInt

theorem writable_toJson (r : Record) : Json.Writable r.toJson := by
  have hinputs : Json.Writable (.array (r.inputs.map .ofText)) := by
    refine Json.writable_array fun j hj => ?_
    obtain ⟨t, _, rfl⟩ := List.mem_map.mp hj
    exact Json.writable_ofText t
  have hvalues := r.forall_mem_members Json.writable_ofNat Json.writable_ofText hinputs
    Json.writable_ofInt
  rw [toJson_eq]
  refine Json.writable_object fun m hm => ?_
  obtain ⟨⟨key, value⟩, hmem, rfl⟩ := List.mem_map.mp hm
  exact ⟨Json.isBody_written key, hvalues (key, value) hmem⟩

/-- The object of a record holds an array, and that holds texts. -/
theorem nestsWithin_toJson (r : Record) (n : Nat) : Json.NestsWithin (n + 2) r.toJson := by
  have hinputs : Json.NestsWithin (n + 1) (.array (r.inputs.map .ofText)) := by
    refine .array fun j hj => ?_
    obtain ⟨t, _, rfl⟩ := List.mem_map.mp hj
    exact .string
  have hvalues := r.forall_mem_members (fun _ => .number) (fun _ => .string) hinputs
    fun _ => .number
  rw [toJson_eq]
  refine .object fun m hm => ?_
  obtain ⟨⟨key, value⟩, hmem, rfl⟩ := List.mem_map.mp hm
  exact hvalues (key, value) hmem

/-- The fields of a record are those that it has. -/
theorem fields?_toJson (r : Record) :
    Json.format.fields? false fieldNames r.toJson
      = some [some (.ofNat r.step), some (.ofText r.kind.tag.toList),
          some (.ofText r.functionName), some (.array (r.inputs.map .ofText)),
          r.outputName.map .ofText, r.resultIndex.map fun n => .ofInt n.toInt] := by
  have hmembers := Json.members?_object r.members
  have hfields : fieldNames.mapM (Format.member? r.members)
      = some [some (.ofNat r.step), some (.ofText r.kind.tag.toList),
          some (.ofText r.functionName), some (.array (r.inputs.map .ofText)),
          r.outputName.map .ofText, r.resultIndex.map fun n => .ofInt n.toInt] := by
    obtain ⟨step, kind, name, inputs, output, index⟩ := r
    cases output <;> cases index <;> rfl
  rw [toJson_eq, Format.fields?, hmembers]
  exact hfields

theorem ofValue?_toJson {r : Record} (h : r.step < UInt64.size) :
    ofValue? Json.format r.toJson = some r := by
  have hstep : Json.format.natural? (.ofNat r.step) = some r.step := Json.natural?_ofNat h
  have hword : ∀ n : Int64, Json.format.word? (.ofInt n.toInt) = some n := Json.word?_ofInt
  have habsent : ∀ t, Json.format.isAbsent (.ofText t) = false := fun _ => rfl
  have habsent' : ∀ i, Json.format.isAbsent (.ofInt i) = false := fun _ => rfl
  rw [ofValue?, fields?_toJson]
  simp only [Option.bind_eq_bind, Option.bind_some, hstep, Json.tag?_kind, Json.text?_ofText,
    Json.texts?_ofText]
  obtain ⟨step, kind, name, inputs, output, index⟩ := r
  cases output <;> cases index <;>
    simp [Format.optional?, habsent, habsent', hword]

/-- A record that is read has a step of 64 bits. -/
theorem step_lt_of_ofValue? {v : Json} {r : Record} (h : ofValue? Json.format v = some r) :
    r.step < UInt64.size := by
  have hnatural : ∀ {value n}, Json.format.natural? value = some n → n < UInt64.size := by
    intro value n hn
    cases value with
    | number token =>
      obtain ⟨_, hsize⟩ := Option.filter_eq_some_iff.mp hn
      simpa using hsize
    | _ => contradiction
  obtain ⟨fields, _, hfields⟩ := Option.bind_eq_some_iff.mp h
  split at hfields
  · simp only [Option.bind_eq_bind, Option.bind_eq_some_iff, Option.pure_def] at hfields
    obtain ⟨n, hn, _, _, _, _, hrest⟩ := hfields
    -- The inputs are read or missing; the step is the same in both cases.
    split at hrest
    · simp only [Option.bind_eq_some_iff] at hrest
      obtain ⟨_, _, _, _, _, _, hr⟩ := hrest
      cases hr
      exact hnatural hn
    · simp only [Option.bind_some, Option.bind_eq_some_iff] at hrest
      obtain ⟨_, _, _, _, hr⟩ := hrest
      cases hr
      exact hnatural hn
  · contradiction

variable {limit : Nat} {read? : Text → Option Json} {print : Json → Text}

/-- A record is read back from every text that holds it. -/
theorem ofJsonText?_of_isText (hlimit : 2 ≤ limit) (hread : Json.IsReader limit read?)
    {r : Record} (h : r.step < UInt64.size) {t : Text} (ht : Json.IsText r.toJson t) :
    ofJsonText? t read? = some r := by
  obtain ⟨n, rfl⟩ := Nat.exists_eq_add_of_le' hlimit
  rw [ofJsonText?, hread _ t (r.nestsWithin_toJson n) ht, Option.bind_some, ofValue?_toJson h]

theorem ofJsonText?_print (hlimit : 2 ≤ limit) (hread : Json.IsReader limit read?)
    (hprint : Json.IsPrinter print) {r : Record} (h : r.step < UInt64.size) :
    ofJsonText? (print r.toJson) read? = some r :=
  ofJsonText?_of_isText hlimit hread h (hprint _ (writable_toJson r))

end Record

/-! ## 3. Instructions -/

theorem length_linesFrom_le (offset : Nat) (raws : List Text) :
    (linesFrom offset raws).length ≤ raws.length := by
  induction raws generalizing offset with
  | nil => exact Nat.le_refl 0
  | cons raw raws ih =>
    have hline : (Line.ofRaw? offset raw).toList.length ≤ 1 := by
      cases Line.ofRaw? offset raw <;> simp
    have hlater := ih (offset + raw.bytes)
    rw [linesFrom, List.length_append, List.length_cons]
    omega

theorem Text.length_lines_le (t : Text) : t.lines.length ≤ t.length := by
  induction t with
  | nil => exact Nat.le_refl 0
  | cons c t ih =>
    rw [lines]
    split
    · exact Nat.succ_le_succ ih
    · split
      · next h => simp
      · next line more h =>
        rw [h] at ih
        exact Nat.le_succ_of_le ih

/-- There are no more statement lines than characters. -/
theorem length_statementLines_le (source : Text) (markdown : EventReader) :
    (statementLines source markdown).length ≤ source.length := by
  obtain ⟨outside, t, beyond, hsource, hread⟩ := exists_statementLines_eq source markdown
  have hlength := congrArg List.length hsource
  simp only [List.length_append] at hlength
  calc (statementLines source markdown).length
    _ = (linesFrom (Text.bytes outside) (Text.lines t)).length := congrArg List.length hread
    _ ≤ (Text.lines t).length := length_linesFrom_le _ _
    _ ≤ t.length := Text.length_lines_le t
    _ ≤ source.length := by omega

/-- The steps of a plan are bounded by the length of its source. -/
theorem step_le_length_of_parse {options : Options} {fileId : Nat} {source : Text}
    {markdown : EventReader} {plan : List Instruction}
    (h : parse options fileId source markdown = .ok plan) :
    ∀ i ∈ plan, i.step ≤ source.length := by
  intro i hi
  rcases allState_or_first_faulty options (statementLines source markdown) with
    ⟨statements, hall⟩ | ⟨before, line, after, statements, fault, hsource, hall, hfault⟩
  · rw [parse_of_allState hall] at h
    cases h
    obtain ⟨k, hk, rfl⟩ := List.mem_mapIdx.mp hi
    have hlines := length_statementLines_le source markdown
    rw [hall.length_eq] at hlines
    show 0 + k + 1 ≤ _
    omega
  · rw [parse_of_first_faulty hsource hall hfault] at h
    contradiction

/-! ## 4. The round trip -/

/-- Records travel as JSON and come back as they were, with every printer and
every reader of JSON that takes values nested as deep as records are.

* A record whose step fits in 64 bits is read back from its printed form, and
  from every other text that holds the same object.
* So are the records of the instructions of a source with fewer than `2 ^ 64`
  characters.
* What is read from any text at all, whatever its fields, their order and
  their layout, is read back when it is printed again. -/
theorem records_travel_as_json {limit : Nat} {read? : Text → Option Json} {print : Json → Text}
    (hlimit : 2 ≤ limit) (hread : Json.IsReader limit read?) (hprint : Json.IsPrinter print) :
    (∀ r : Record, r.step < UInt64.size →
      Record.ofJsonText? (print r.toJson) read? = some r ∧
        ∀ t, Json.IsText r.toJson t → Record.ofJsonText? t read? = some r) ∧
    (∀ options fileId source markdown plan,
      parse options fileId source markdown = .ok plan → source.length < UInt64.size →
        ∀ i ∈ plan, Record.ofJsonText? (print i.record.toJson) read? = some i.record) ∧
    ∀ t r, Record.ofJsonText? t read? = some r →
      Record.ofJsonText? (print r.toJson) read? = some r := by
  refine ⟨?_, ?_, ?_⟩
  · intro r hstep
    exact ⟨Record.ofJsonText?_print hlimit hread hprint hstep,
      fun t ht => Record.ofJsonText?_of_isText hlimit hread hstep ht⟩
  · intro options fileId source markdown plan hplan hsource i hi
    have hstep : i.record.step < UInt64.size :=
      Nat.lt_of_le_of_lt (step_le_length_of_parse hplan i hi) hsource
    exact Record.ofJsonText?_print hlimit hread hprint hstep
  · intro t r hr
    obtain ⟨v, _, hv⟩ := Option.bind_eq_some_iff.mp hr
    exact Record.ofJsonText?_print hlimit hread hprint (Record.step_lt_of_ofValue? hv)

/-- Quotes, backslashes, controls and characters beyond 16 bits come back, and
so does what an array of fields with an escape and a null in it holds. -/
theorem records_travel_as_json_extremes :
    let r : Record := ⟨0xFFFFFFFFFFFFFFFF, .functionExecution,
      ['"', '\\', '\n', '\x01', Char.ofNat 0x1F600], [[], ['é']], some ['x'],
      some (-0x8000000000000000)⟩
    let s : Record := ⟨1, .dataExtraction, ['a'], [], none, some (-2)⟩
    let i : Instruction := ⟨1, none, .call ['f'] [['1']] none⟩
    Record.ofJsonText? (Json.print r.toJson) Json.parse? = some r ∧
      parse {} 0 "f(1)".toList Markdown.events = .ok [i] ∧
      Record.ofJsonText? (Json.print i.record.toJson) Json.parse? = some i.record ∧
      Record.ofJsonText? "[1, \"data\", \"\\u0061\", [], null, -2]".toList Json.parse? = some s ∧
      Record.ofJsonText? (Json.print s.toJson) Json.parse? = some s := by
  intro r s i
  have hstep : 0xFFFFFFFFFFFFFFFF < UInt64.size := by decide
  have hsource : "f(1)".toList.length < UInt64.size := by decide
  have hparse : parse {} 0 "f(1)".toList Markdown.events = .ok [i] := rfl
  have hread : Record.ofJsonText? "[1, \"data\", \"\\u0061\", [], null, -2]".toList Json.parse?
      = some ⟨1, .dataExtraction, ['a'], [], none, some (-2)⟩ := by decide +kernel
  obtain ⟨hrecords, hplans, htexts⟩ :=
    records_travel_as_json (Nat.le_refl 2) (Json.isReader_parse? 2) Json.isPrinter_print
  exact ⟨(hrecords r hstep).1, hparse,
    hplans _ _ _ _ _ hparse hsource i (List.mem_cons_self ..), hread, htexts _ s hread⟩

end PlanScript
