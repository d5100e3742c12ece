/-
PlanScript.Proofs.Statement.Order — when the order of the forms matters.

A chain gives what the one form that takes the line reads, wherever that
form stands in it. So two chains of the same forms agree on every line that
at most one of them takes (`firstClaim_perm`).

On a well nested line the first five forms exclude each other. `soleForm`
names the one that may take it, by three questions: is a name bound, does an
operator stand outside all brackets, and what follows the call. The third is
asked of a part that is cut out of the line, where the counts have to find
the brackets that the whole line has. With brackets that cross they do not:
`x = f([)]+(a)` has an operator outside all brackets, and it is a call.
-/
import PlanScript.Proofs.Statement.Nested

namespace PlanScript

variable {options : Options} {line : Text}

/-! ## 1. Chains of the same forms -/

/-- A form that takes the line ends the chain. -/
theorem firstClaim_cons_of_claims {form : Form} (h : form.claims options line = true)
    (rest : List Form) :
    firstClaim options line (form :: rest) = firstClaim options line [form] := by
  unfold Form.claims at h
  unfold firstClaim
  split at h
  · contradiction
  · next hnone =>
    cases hread : form.read options line with
    | error e => rfl
    | ok claim =>
      cases claim with
      | none => exact absurd hread hnone
      | some r => rfl

/-- The place of the only form that takes the line does not count. -/
theorem firstClaim_of_unique {forms : List Form} {form : Form} (hmem : form ∈ forms)
    (h : form.claims options line = true)
    (hone : ∀ g ∈ forms, g.claims options line = true → g = form) (rest : List Form) :
    firstClaim options line (forms ++ rest) = firstClaim options line [form] := by
  induction forms with
  | nil => contradiction
  | cons f forms ih =>
    rw [List.cons_append]
    cases hf : f.claims options line with
    | true =>
      rw [hone f (List.mem_cons_self ..) hf]
      exact firstClaim_cons_of_claims h _
    | false =>
      rw [firstClaim_cons_of_declines ((claims_eq_false_iff f options line).mp hf)]
      rcases List.mem_cons.mp hmem with rfl | hmem
      · rw [h] at hf
        contradiction
      · exact ih hmem fun g hg => hone g (List.mem_cons_of_mem _ hg)

/-- Where at most one form takes the line, a chain may try the forms in any
order. -/
theorem firstClaim_perm {forms forms' : List Form} (hperm : forms.Perm forms')
    (hone : ∀ f ∈ forms, ∀ g ∈ forms, f.claims options line = true →
      g.claims options line = true → g = f) (rest : List Form) :
    firstClaim options line (forms ++ rest) = firstClaim options line (forms' ++ rest) := by
  by_cases hsome : ∃ f ∈ forms, f.claims options line = true
  · obtain ⟨f, hf, hclaims⟩ := hsome
    have hunique : ∀ g ∈ forms, g.claims options line = true → g = f := by
      intro g hg hg'
      exact hone f hf g hg hclaims hg'
    rw [firstClaim_of_unique hf hclaims hunique,
      firstClaim_of_unique (hperm.mem_iff.mp hf) hclaims]
    intro g hg
    exact hunique g (hperm.mem_iff.mpr hg)
  · have hnone : ∀ f ∈ forms, f.Declines options line := by
      intro f hf
      rw [← claims_eq_false_iff, ← Bool.not_eq_true]
      intro hclaims
      exact hsome ⟨f, hf, hclaims⟩
    rw [firstClaim_append_of_declines hnone, firstClaim_append_of_declines]
    intro f hf
    exact hnone f (hperm.mem_iff.mpr hf)

/-! ## 2. The one form of a well nested line -/

/-- The form, assignments apart, that may take a well nested line. -/
def soleForm (line : Text) : Form :=
  match Binding.ofText? line with
  | none => .bareCall
  | some b =>
    if hasOperator b.source then .arithmetic
    else match Call.ofText? b.source with
      | none => .arrayAccess
      | some c => if c.suffix.isEmpty then .callAssignment else .indexedCall

/-- No operator stands outside the brackets of a call, or in what follows it
when none stands there. -/
theorem hasOperator_of_call {t : Text} (ht : WellNested allKinds t) {c : Call}
    (hc : Call.ofText? t = some c) (hsuffix : Quiet Place.isOperator c.suffix) :
    hasOperator t = false := by
  have hbody := (ht.of_call hc).1.balanced
  obtain ⟨hfunction, w, rest, hw, rfl, hrest, _⟩ := Call.group_of_ofText? hc
  obtain ⟨w₁, w₂, h₁, h₂, hends⟩ := Text.exists_eq_append_trim rest
  rw [← hrest] at hends
  have hname := marksSign_isOperator.quiet_word (isWordChar_of_name hfunction hw)
  have hgroup : Quiet Place.isOperator ('(' :: c.body ++ [')']) :=
    marksSign_isOperator.quiet_group .round hbody
  have hblank : ∀ {v : Text}, v.allBlank = true → Quiet Place.isOperator v := by
    intro v hv
    exact marksSign_isOperator.quiet_word (isWordChar_of_allBlank hv)
  have hquiet := (hname.append hgroup).append (((hblank h₁).append hsuffix).append (hblank h₂))
  rw [hends]
  show hasPlace Place.isOperator _ = false
  refine hasPlace_eq_false ?_
  simpa using hquiet.2

/-- The source of an array access is a name and an index, and holds no round
bracket. -/
theorem quiet_of_arrayAccess {source before found : Text} {n : Int64}
    (hbreak : Text.breakAt (· = '[') source = some (before, found))
    (hname : (Text.trimEnd before).isIdentifier = true) (hn : index? found = some n) :
    Quiet Place.isOperator source ∧ Call.ofText? source = none := by
  have hindex := (index?_eq_some_iff found n).mp hn
  have hword : ∀ c ∈ before, isWordChar c = true := by
    obtain ⟨w, hw, hbefore⟩ := Text.exists_eq_trimEnd_append before
    rw [hbefore]
    exact isWordChar_of_name hname hw
  rw [Text.append_of_breakAt hbreak]
  refine ⟨(marksSign_isOperator.quiet_word hword).append (hindex.quiet marksSign_isOperator), ?_⟩
  refine Call.ofText?_eq_none_of_no_opener ?_
  intro hmem
  rcases List.mem_append.mp hmem with hmem | hmem
  · exact ne_of_isWordChar (hword _ hmem) (show isWordChar '(' = false by decide) rfl
  · exact hindex.not_mem_opener hmem

/-- A form that takes a well nested line, and is no assignment, is the one
that the three questions name. -/
theorem eq_soleForm_of_claims (h : WellNested allKinds line) {form : Form}
    (hform : form ≠ .assignment) (hclaims : form.claims options line = true) :
    form = soleForm line := by
  have hasks := (claims_iff_asks form options line).mp hclaims
  unfold soleForm
  cases form with
  | arithmetic =>
    obtain ⟨b, hb, hoperator⟩ := hasks
    simp [hb, hoperator]
  | indexedCall =>
    obtain ⟨b, c, n, hb, hc, hn⟩ := hasks
    have hindex := (index?_eq_some_iff _ n).mp hn
    have hquiet := hasOperator_of_call (h.of_binding hb) hc (hindex.quiet marksSign_isOperator)
    simp [hb, hquiet, hc, hindex.ne_nil]
  | callAssignment =>
    obtain ⟨b, c, hb, hc, hsuffix⟩ := hasks
    have hnil : Quiet Place.isOperator c.suffix := by
      rw [hsuffix]
      exact ⟨balanced_nil, trivial⟩
    simp [hb, hasOperator_of_call (h.of_binding hb) hc hnil, hc, hsuffix]
  | bareCall =>
    obtain ⟨hassign, _⟩ := hasks
    simp [Binding.ofText?_eq_none hassign]
  | arrayAccess =>
    obtain ⟨b, before, found, n, hb, hbreak, hname, hn⟩ := hasks
    obtain ⟨hquiet, hcall⟩ := quiet_of_arrayAccess hbreak hname hn
    have hoperator : hasOperator b.source = false := hasPlace_eq_false hquiet.2
    simp [hb, hoperator, hcall]
  | assignment => contradiction

/-- On a well nested line at most one of the first five forms takes the
line. So they may be tried in any order, as long as assignments come last:
the chain gives the same form with the same statement, the same error, or
nothing. -/
theorem recognize_of_perm (options : Options) (line : Text) (h : WellNested allKinds line) :
    (∀ f g, f ≠ .assignment → g ≠ .assignment → Form.claims f options line = true →
      Form.claims g options line = true → f = g) ∧
    ∀ forms, List.Perm forms
        [.arithmetic, .indexedCall, .callAssignment, .bareCall, .arrayAccess] →
      firstClaim options line (forms ++ [.assignment]) = recognize options line := by
  have hone : ∀ f g, f ≠ .assignment → g ≠ .assignment → Form.claims f options line = true →
      Form.claims g options line = true → f = g := by
    intro f g hf hg hf' hg'
    rw [eq_soleForm_of_claims h hf hf', eq_soleForm_of_claims h hg hg']
  refine ⟨hone, ?_⟩
  intro forms hperm
  have hno : ∀ f ∈ forms, f ≠ .assignment := by
    rintro f hf rfl
    exact absurd (hperm.mem_iff.mp hf) (by decide)
  exact firstClaim_perm hperm (fun f hf g hg hf' hg' => hone g f (hno g hg) (hno f hf) hg' hf') _

/-- An indexed call whose argument holds an operator is found in the reverse
order too. -/
theorem recognize_of_perm_reversed :
    firstClaim {} "x = f(a + b)[-2]".toList
        [.arrayAccess, .bareCall, .callAssignment, .indexedCall, .arithmetic, .assignment]
      = .ok (some (.indexedCall,
          { statement := .indexedCall ['x'] ['f'] ["a + b".toList] (-2) })) := by
  have hline : WellNested allKinds "x = f(a + b)[-2]".toList :=
    (wellNested_of_plain (t := "x = f".toList) (by decide)).append
      (.group (b := .round) trivial (wellNested_of_plain (t := "a + b".toList) (by decide))
        (.group (b := .square) trivial (wellNested_of_plain (t := "-2".toList) (by decide)) .nil))
  have h := (recognize_of_perm {} _ hline).2
    [.arrayAccess, .bareCall, .callAssignment, .indexedCall, .arithmetic] (by decide)
  exact h.trans rfl

end PlanScript
