/-
PlanScript.Proofs.Plan.Strings — strings that travel through literals.

`Literal.print q s` writes a string between quotes of a kind. Whatever the
string holds, what is written is one element of a list (`isElement_print`) and
is handed over as the string (`normalizeArgument_print`): its commas,
brackets, signs and quotes stay inside the literal, and nothing in it reads as
an escape that was not written as one. So a line that binds a literal, or
calls a function with literals, makes an instruction that carries the strings
themselves (`strings_travel_in_literals`).
-/
import PlanScript.Proofs.Plan.RoundTrip
import PlanScript.Instruction.Record

namespace PlanScript

/-! ## 1. Literals as arguments -/

/-- A string as a literal between quotes of a kind. -/
def Literal.print (q : Char) (s : Text) : Text := q :: Literal.escape q s ++ [q]

variable {q : Char}

/-- A literal is handed over as the string that was written. -/
theorem normalizeArgument_print (hq : isQuote q = true) (s : Text) :
    normalizeArgument (Literal.print q s) = s := by
  have hformat : Literal.isFormat (Literal.print q s) = false := Literal.isFormat_of_isQuote hq _
  have hbody : Literal.body? (Literal.print q s) = some (Literal.escape q s) :=
    Literal.body?_literal hq (Literal.body_escape q s)
  rw [normalizeArgument, hformat, hbody]
  exact Literal.unescape_escape hq s

/-- No comma of a string cuts the literal. -/
theorem topLevelFree_print (hq : isQuote q = true) (s : Text) :
    TopLevelFree ',' (Literal.print q s) := by
  have htop : OnlyTopLevel (·.isTopLevelChar ',') := fun p hp => by
    simp [Place.isTopLevelChar, hp]
  have hcomma : q ≠ ',' := by
    rintro rfl
    exact absurd hq (by decide)
  exact (topLevelFree_iff_avoids ',' _).mpr
    (avoids_literal hq (Literal.body_escape q s) htop (isTopLevelChar_of_ne hcomma))

theorem isElement_print (hq : isQuote q = true) (s : Text) :
    IsElement (Literal.print q s) ∧ Literal.print q s ≠ [] := by
  have hbalanced := Literal.balanced_literal hq (Literal.body_escape q s)
  exact ⟨⟨trimmed_literal hq _, (checkNesting_eq_ok_iff _).mpr hbalanced,
    topLevelFree_print hq s⟩, List.cons_ne_nil _ _⟩

/-- Literals are handed over as the strings that were written. -/
theorem map_normalizeArgument_print {literals : List (Char × Text)}
    (h : ∀ l ∈ literals, isQuote l.1 = true) :
    (literals.map fun l => Literal.print l.1 l.2).map normalizeArgument
      = literals.map Prod.snd := by
  rw [List.map_map]
  exact List.map_congr_left fun l hl => normalizeArgument_print (h l hl) l.2

/-! ## 2. Lines with literals -/

/-- The line passes the nesting check and is recognized as a statement, and
this is built as the record at every step. -/
def IsBuiltAs (options : Options) (line : Text) (record : Nat → Record) : Prop :=
  ∃ s, States options line s ∧ ∀ step, (s.build step).record = record step

/-- Every string can be bound to a name and handed over to a function.

* A name that is bound to a literal has the string as its default value,
  character for character.
* A call with literals, bound to a name or not, has the strings as its
  inputs, whichever quotes each of them is written with. -/
theorem strings_travel_in_literals (options : Options) :
    (∀ (t : Text) (q : Char) (s : Text), t.isIdentifier = true → isQuote q = true →
      IsBuiltAs options (printBinding t (Literal.print q s)) fun step =>
        { step, kind := .defaultValue, functionName := s, outputName := some t }) ∧
    ∀ (f : Text) (literals : List (Char × Text)), f.isIdentifier = true →
      (∀ l ∈ literals, isQuote l.1 = true) →
      let call := printCall f (literals.map fun l => Literal.print l.1 l.2)
      let strings := literals.map Prod.snd
      (IsBuiltAs options call fun step =>
        { step, kind := .functionExecution, functionName := f, inputs := strings }) ∧
      ∀ t : Text, t.isIdentifier = true →
        IsBuiltAs options (printBinding t call) fun step =>
          { step, kind := .functionExecution, functionName := f, inputs := strings,
            outputName := some t } := by
  refine ⟨?_, ?_⟩
  · intro t q s ht hq
    exact ⟨.assignment t (.string s), (readsAs_text ht hq s).states, fun _ => rfl⟩
  · intro f literals hf hquotes call strings
    have hinputs := map_normalizeArgument_print hquotes
    have hargs : ∀ a ∈ literals.map (fun l => Literal.print l.1 l.2), IsElement a ∧ a ≠ [] := by
      intro a ha
      obtain ⟨l, hl, rfl⟩ := List.mem_map.mp ha
      exact isElement_print (hquotes l hl) l.2
    refine ⟨?_, ?_⟩
    · have hcall : ReadsAs options call _ := readsAs_of_call (isCall_printCall hf hargs)
      rw [hinputs] at hcall
      exact ⟨.bareCall f strings, hcall.states, fun _ => rfl⟩
    · intro t ht
      have hcall : ReadsAs options (printBinding t call) _ := readsAs_callAssignment ht hf hargs
      rw [hinputs] at hcall
      exact ⟨.callAssignment t f strings, hcall.states, fun _ => rfl⟩

/-- A string with a quote, a backslash, a line feed, and what would otherwise
be a comment, a bracket, a comma and an operator. -/
theorem strings_travel_in_literals_marks :
    (IsBuiltAs {} "x = \"# ]\\\\n\\\"\\n, +\"".toList fun step =>
      { step, kind := .defaultValue, functionName := "# ]\\n\"\n, +".toList,
        outputName := some ['x'] }) ∧
    (IsBuiltAs {} "f('it\\'s, (', \"it's = \")".toList fun step =>
      { step, kind := .functionExecution, functionName := ['f'],
        inputs := ["it's, (".toList, "it's = ".toList] }) ∧
    IsBuiltAs {} "x = f('it\\'s, (', \"it's = \")".toList fun step =>
      { step, kind := .functionExecution, functionName := ['f'],
        inputs := ["it's, (".toList, "it's = ".toList], outputName := some ['x'] } := by
  have hx : Text.isIdentifier ['x'] = true := by decide
  have hf : Text.isIdentifier ['f'] = true := by decide
  have hquotes : ∀ l ∈ [('\x27', "it's, (".toList), ('"', "it's = ".toList)],
      isQuote l.1 = true := by decide
  have hcalls := (strings_travel_in_literals {}).2 ['f'] _ hf hquotes
  exact ⟨(strings_travel_in_literals {}).1 ['x'] '"' "# ]\\n\"\n, +".toList hx rfl, hcalls.1,
    hcalls.2 ['x'] hx⟩

end PlanScript
