/-
PlanScript.Proofs.Statement.Nested — the parts of a well nested line.

To read a line, the forms cut it several times: behind the sign, at the
first round bracket, at the bracket that closes a group, and at the commas
of a list. Each part is scanned on its own, from a fresh state. The lemmas
here carry well-nestedness through these cuts, one for each.

`ElementList line t` names the parts that are split at commas, and can
therefore fail: the arguments of a call, and the body of a list or dict.
A nesting error of a form is the error of such a part
(`exists_elementList_of_read`); on a well nested line there is none.
-/
import PlanScript.Proofs.Value.Elements
import PlanScript.Proofs.Statement.Form

namespace PlanScript

variable {options : Options} {line : Text}

/-! ## 1. Cutting a line -/

theorem isPlain_of_mem_signs {c : Char} (h : c ∈ signs) : isPlain c = true := by
  have hall : signs.all isPlain = true := by decide
  exact List.all_eq_true.mp hall c h

/-- What a well nested line binds is well nested. -/
theorem WellNested.of_binding (h : WellNested allKinds line) {b : Binding}
    (hb : Binding.ofText? line = some b) : WellNested allKinds b.source := by
  obtain ⟨left, right, hcut, rfl, _⟩ := Binding.cut_of_ofText? hb
  obtain ⟨p, hp, _, _, _, hright⟩ := h.of_cut marksSign_assigns.top hcut
  have hsign : ∀ c ∈ [p.char], isPlain c = true := by
    intro c hc
    rw [List.mem_singleton.mp hc]
    exact isPlain_of_mem_signs (marksSign_assigns.sign p hp)
  exact (hright.of_plain_append (u := [p.char]) hsign).trim

theorem Binding.trimmed_source {b : Binding} (hb : Binding.ofText? line = some b) :
    Text.Trimmed b.source := by
  obtain ⟨left, right, _, rfl, _⟩ := Binding.cut_of_ofText? hb
  exact Text.trimmed_trim _

theorem Binding.source_part {b : Binding} (hb : Binding.ofText? line = some b) :
    b.source <:+: line := by
  obtain ⟨left, right, hcut, rfl, _⟩ := Binding.cut_of_ofText? hb
  obtain ⟨p, _, hsplit⟩ := append_of_cut hcut
  obtain ⟨w₁, w₂, _, _, hright⟩ := Text.exists_eq_append_trim right
  refine ⟨left ++ p.char :: w₁, w₂, ?_⟩
  rw [hsplit]
  simpa using hright.symm

/-- The brackets of a call on a well nested text are the matching ones. -/
theorem WellNested.of_call {t : Text} (h : WellNested allKinds t) {c : Call}
    (hc : Call.ofText? t = some c) :
    WellNested allKinds c.body ∧ WellNested allKinds c.suffix := by
  obtain ⟨hfunction, w, rest, hw, rfl, hsuffix, hgroup⟩ := Call.group_of_ofText? hc
  obtain ⟨hbody, hrest⟩ := (h.of_plain_append (isPlain_of_name hfunction hw)).of_group hgroup
  rw [hsuffix]
  exact ⟨hbody, hrest.trim⟩

/-! ## 2. The lists of a line -/

/-- The call stands on the line alone, or on the right of its sign. -/
def CallOn (line : Text) (c : Call) : Prop :=
  Call.ofText? line = some c ∨
    ∃ b, Binding.ofText? line = some b ∧ Call.ofText? b.source = some c

/-- The text is a list of elements that a form reads on the line: the
arguments of a call, or the body of a list or dict that is the whole right
side. -/
inductive ElementList (line : Text) : Text → Prop
  | arguments {c : Call} : CallOn line c → ElementList line c.body
  | group {b : Binding} {kind : Bracket} {body : Text} : kind ≠ .round →
      Binding.ofText? line = some b → enclosed? kind b.source = some body → ElementList line body

/-- The lists of a well nested line are well nested. -/
theorem WellNested.of_elementList (h : WellNested allKinds line) {t : Text}
    (ht : ElementList line t) : WellNested allKinds t := by
  cases ht with
  | arguments hc =>
    rcases hc with hc | ⟨b, hb, hc⟩
    · exact (h.of_call hc).1
    · exact ((h.of_binding hb).of_call hc).1
  | group _ hb hbody => exact (h.of_binding hb).of_enclosed hbody

/-- A list of a line is a part of it. -/
theorem part_of_elementList {t : Text} (h : ElementList line t) : t <:+: line := by
  have hcall : ∀ {u : Text} {c : Call}, Call.ofText? u = some c → c.body <:+: u := by
    intro u c hc
    obtain ⟨_, w, rest, _, hsplit, _⟩ := Call.group_of_ofText? hc
    exact ⟨c.function ++ w ++ ['('], ')' :: rest, by simp [hsplit]⟩
  cases h with
  | arguments hc =>
    rcases hc with hc | ⟨b, hb, hc⟩
    · exact hcall hc
    · exact (hcall hc).trans (Binding.source_part hb)
  | @group b kind _ _ hb hbody =>
    have hsource : t <:+: b.source :=
      ⟨[kind.opener], [kind.closer], (eq_append_of_enclosed? hbody).symm⟩
    exact hsource.trans (Binding.source_part hb)

/-! ## 3. Where an error comes from -/

theorem Call.arguments_eq_error_iff (c : Call) (e : LiteralError) :
    c.arguments = .error e ↔ ∃ n, checkNesting c.body = .error n ∧ e = .nesting n := by
  simp only [Call.arguments, mapError_eq_error_iff, map_eq_error_iff, splitArguments_eq_error_iff]

theorem arguments_of_readIndexedCall {e : LiteralError} (h : readIndexedCall line = .error e) :
    ∃ c, CallOn line c ∧ c.arguments = .error e := by
  rcases readIndexedCall_cases line with ⟨_, hread⟩ | ⟨b, c, _, hb, hc, _, hread⟩
  · rw [hread] at h
    contradiction
  · rw [hread] at h
    exact ⟨c, .inr ⟨b, hb, hc⟩, (map_eq_error_iff _ _ e).mp h⟩

theorem arguments_of_readCallAssignment {e : LiteralError}
    (h : readCallAssignment line = .error e) : ∃ c, CallOn line c ∧ c.arguments = .error e := by
  rcases readCallAssignment_cases line with ⟨_, hread⟩ | ⟨b, c, hb, hc, _, hread⟩
  · rw [hread] at h
    contradiction
  · rw [hread] at h
    exact ⟨c, .inr ⟨b, hb, hc⟩, (map_eq_error_iff _ _ e).mp h⟩

theorem arguments_of_readBareCall {e : LiteralError} (h : readBareCall line = .error e) :
    ∃ c, CallOn line c ∧ c.arguments = .error e := by
  rcases readBareCall_cases line with ⟨_, hread⟩ | ⟨c, _, hc, _, hread⟩
  · rw [hread] at h
    contradiction
  · rw [hread] at h
    exact ⟨c, .inl hc, (map_eq_error_iff _ _ e).mp h⟩

/-- A form that fails on a line fails on the arguments of a call, or on the
value that the line assigns. -/
theorem error_of_read {form : Form} {e : LiteralError} (h : form.read options line = .error e) :
    (∃ c, CallOn line c ∧ c.arguments = .error e) ∨
      (form = .assignment ∧ ∃ b, Binding.ofText? line = some b ∧
        Value.read options b.source = .error e) := by
  cases form with
  | arithmetic => contradiction
  | indexedCall => exact .inl (arguments_of_readIndexedCall ((map_eq_error_iff _ _ e).mp h))
  | callAssignment =>
    exact .inl (arguments_of_readCallAssignment ((map_eq_error_iff _ _ e).mp h))
  | bareCall => exact .inl (arguments_of_readBareCall ((map_eq_error_iff _ _ e).mp h))
  | arrayAccess => contradiction
  | assignment =>
    refine .inr ⟨rfl, ?_⟩
    rcases readAssignment_cases options line with ⟨_, hread⟩ | ⟨b, hb, hread⟩
    · simp [Form.read, hread] at h
    · rw [Form.read, hread, map_eq_error_iff] at h
      exact ⟨b, hb, h⟩

/-- A nesting error of a form is the error of a list on the line, with the
offset that it has there. -/
theorem exists_elementList_of_read {form : Form} {n : NestingError}
    (h : form.read options line = .error (.nesting n)) :
    ∃ t, ElementList line t ∧ checkNesting t = .error n := by
  rcases error_of_read h with ⟨c, hc, hargs⟩ | ⟨-, b, hb, hvalue⟩
  · obtain ⟨m, hm, heq⟩ := (Call.arguments_eq_error_iff c _).mp hargs
    cases heq
    exact ⟨c.body, .arguments hc, hm⟩
  · obtain ⟨kind, body, hkind, hbody, hfail⟩ := exists_of_read_eq_error hvalue
    rw [Binding.trimmed_source hb] at hbody
    refine ⟨body, .group hkind hb hbody, ?_⟩
    rcases hfail with ⟨m, hm, heq⟩ | ⟨-, entries, -, hentries⟩
    · cases heq
      exact hm
    · obtain ⟨-, entry, -, heq⟩ := (readEntries_eq_error_iff options entries _).mp hentries
      contradiction

/-! ## 4. Well nested lines -/

/-- No form fails on the nesting of a well nested line. -/
theorem read_ne_nesting_error (h : WellNested allKinds line) (options : Options) (form : Form)
    (n : NestingError) : form.read options line ≠ .error (.nesting n) := by
  intro herror
  obtain ⟨t, ht, hfail⟩ := exists_elementList_of_read herror
  rw [(checkNesting_eq_ok_iff t).mpr (h.of_elementList ht).balanced] at hfail
  contradiction

/-- On well nested text, matching brackets by counting is right, and nothing
fails on nesting.

* The bracket that closes the first one of a text is found where it stands.
* No form fails on the nesting of a line, alone or in the chain.
* Every list on the line passes the check before it is split, and so does
  every element of it, a dict entry among them. -/
theorem nesting_holds_in_wellNested :
    (∀ b t, WellNested allKinds (Bracket.opener b :: t) →
      (∃ offset, ClosedAt (b.opener :: t) offset) ∧
        ∀ offset, closingOffset? (b.opener :: t) = some offset ↔
          ClosedAt (b.opener :: t) offset) ∧
    ∀ options line, WellNested allKinds line →
      (∀ form n, Form.read form options line ≠ .error (.nesting n)) ∧
      (∀ n, recognize options line ≠ .error (.nesting n)) ∧
      ∀ t, ElementList line t → checkNesting t = .ok () ∧
        ∃ args, splitArguments t = .ok args ∧ ∀ a ∈ args, checkNesting a = .ok () := by
  refine ⟨fun b t h => closingOffset?_eq_some_iff h, ?_⟩
  intro options line h
  refine ⟨read_ne_nesting_error h options, ?_, ?_⟩
  · intro n herror
    obtain ⟨form, _, hread⟩ := exists_read_of_firstClaim herror
    exact read_ne_nesting_error h options form n hread
  · intro t ht
    have hnested := h.of_elementList ht
    have hcheck := (checkNesting_eq_ok_iff t).mpr hnested.balanced
    obtain ⟨args, hargs⟩ := (exists_splitArguments_iff t).mpr hcheck
    refine ⟨hcheck, args, hargs, ?_⟩
    intro a ha
    exact (checkNesting_eq_ok_iff a).mpr (hnested.of_mem_splitArguments hargs a ha).balanced

/-- A bracket in a literal closes nothing, and a list in a dict is no
trouble. -/
theorem nesting_holds_in_wellNested_line :
    closingOffset? "(f(')'))[0]".toList = some 7 ∧
      (∀ n, recognize {} "d = {k: [1, 2]}".toList ≠ .error (.nesting n)) ∧
      ∃ args, splitArguments "k: [1, 2]".toList = .ok args ∧
        ∀ a ∈ args, checkNesting a = .ok () := by
  have hcall : WellNested allKinds "f(')')".toList :=
    (wellNested_of_plain (t := ['f']) (by decide)).append (.group (b := .round) trivial
      (.literal (q := '\x27') rfl (.plain (by decide) (by decide) .nil) .nil) .nil)
  have hindex : WellNested allKinds "[0]".toList :=
    .group (b := .square) trivial (wellNested_of_plain (t := ['0']) (by decide)) .nil
  have hbody : WellNested allKinds "k: [1, 2]".toList :=
    (wellNested_of_plain (t := "k: ".toList) (by decide)).append
      (.group (b := .square) trivial (wellNested_of_plain (t := "1, 2".toList) (by decide)) .nil)
  have hline : WellNested allKinds "d = {k: [1, 2]}".toList :=
    (wellNested_of_plain (t := "d = ".toList) (by decide)).append
      (.group (b := .curly) trivial hbody .nil)
  have hbrackets := nesting_holds_in_wellNested.1 .round _ (.group trivial hcall hindex)
  have hlist : ElementList "d = {k: [1, 2]}".toList "k: [1, 2]".toList :=
    @ElementList.group _ ⟨['d'], "{k: [1, 2]}".toList⟩ .curly _ (by decide) rfl rfl
  obtain ⟨_, hrecognize, hlists⟩ := nesting_holds_in_wellNested.2 {} _ hline
  exact ⟨(hbrackets.2 7).mpr ⟨.round, _, _, rfl, hcall, rfl⟩, hrecognize, (hlists _ hlist).2⟩

end PlanScript
