/-
PlanScript.Proofs.Plan.Indices — indices are exact, and never truncated.

`SpellsIndex index n` says that a text is a number of any size in square
brackets. Behind a name or a call such a text is an index when the number fits
in 64 bits, and the instruction then has exactly that number.

When it does not fit, none of the forms that look for an index takes the line,
and the search for one in the body of a call finds nothing either
(`declines_arrayAccess_of_call`). What a name starts is no literal and no
group (`read_of_name`), so the line binds its source as it is written
(`index_is_exact`).
-/
import PlanScript.Proofs.Plan.Strings
import PlanScript.Proofs.Value.Shape

namespace PlanScript

variable {options : Options} {line target : Text}

/-! ## 1. Sources that start with a name -/

theorem isQuote_of_isWordChar {c : Char} (hc : isWordChar c = true) : isQuote c = false :=
  isQuote_of_isPlain (isPlain_of_isWordChar hc)

/-- A text that goes on behind a name with a character that is no quote has
none of the shapes of a value. -/
theorem read_of_name {name w rest : Text} {c : Char} (hname : name.isIdentifier = true)
    (hw : w.allBlank = true) (hc : isQuote c = false)
    (htrimmed : Text.Trimmed (name ++ w ++ c :: rest)) (options : Options) :
    Value.read options (name ++ w ++ c :: rest) = .ok (.plain (name ++ w ++ c :: rest), []) := by
  have hword := isWordChar_of_name hname hw
  obtain ⟨d, more, rfl, _⟩ := Text.exists_start_of_isIdentifier hname
  have hd : isPlain d = true := isPlain_of_isWordChar (hword d (by simp))
  have hstart : d :: more ++ w ++ c :: rest = d :: (more ++ w ++ c :: rest) := by simp
  have hliteral : Literal.body? (d :: (more ++ w ++ c :: rest)) = none :=
    Literal.body?_of_not_isQuote (isQuote_of_isPlain hd) _
  -- Behind the first letter the name goes on, or ends at a character that is no quote.
  have hsecond : Literal.body? (more ++ w ++ c :: rest) = none := by
    cases hmore : more ++ w with
    | nil => exact Literal.body?_of_not_isQuote hc rest
    | cons e u =>
      have he : e ∈ d :: more ++ w := by simp [hmore]
      exact Literal.body?_of_not_isQuote (isQuote_of_isWordChar (hword e he)) _
  have hformat : Literal.isFormat (d :: (more ++ w ++ c :: rest)) = false := by
    rw [Literal.isFormat, hsecond, Option.isSome_none, Bool.and_false]
  have hgroup : ∀ b, enclosed? b (d :: (more ++ w ++ c :: rest)) = none := by
    intro b
    refine Option.eq_none_iff_forall_ne_some.mpr fun body hbody => ?_
    obtain ⟨rfl, _⟩ := List.cons.inj (eq_append_of_enclosed? hbody)
    simp [isPlain] at hd
  rw [Value.read, htrimmed, hstart]
  exact (readTrimmed_eq_plain_iff options _ _ _).mpr
    ⟨hformat, hliteral, hgroup .square, hgroup .curly, rfl, rfl⟩

/-- A line that binds a source without a shape has the source as its default
value, when no form that looks for a call or an index takes it. -/
theorem isBuiltAs_plain {source : Text} (hline : IsBinding line target source)
    (hb : Binding.ofText? line = some ⟨target, source⟩) (htrimmed : Text.Trimmed source)
    (hne : source ≠ []) (hquiet : Quiet Place.isOperator source)
    (hvalue : Value.read options source = .ok (.plain source, []))
    (hindexed : Form.indexedCall.Declines options line)
    (hassigns : Form.callAssignment.Declines options line)
    (haccess : Form.arrayAccess.Declines options line) :
    IsBuiltAs options line fun step =>
      { step, kind := .defaultValue, functionName := source, outputName := some target } := by
  have hform : Form.assignment.read options line
      = .ok (some { statement := .assignment target (.plain source) }) := by
    simp only [Form.read, readAssignment, hb, hvalue]
    rfl
  have harithmetic : Form.arithmetic.Declines options line :=
    declines_arithmetic_of_quiet hb hquiet
  have hbare : Form.bareCall.Declines options line :=
    declines_bareCall (hasAssignment_of_ofText? hb)
  have hforms : Form.assignment.earlier
      = [.arithmetic, .indexedCall, .callAssignment, .bareCall, .arrayAccess] := rfl
  have hearlier : ∀ f ∈ Form.assignment.earlier, f.Declines options line := by
    simp [hforms, harithmetic, hindexed, hassigns, hbare, haccess]
  have hreads : ReadsAs options line _ :=
    readsAs_of_binding hline htrimmed hne hquiet.1 (recognizes_of_read hform hearlier)
  exact ⟨_, hreads.states, fun _ => rfl⟩

/-! ## 2. Numbers that do not fit -/

section TooLarge

variable {index w : Text} {n : Int}

/-- A text with a character that no name has does not end a name. -/
theorem isIdentifier_trimEnd_eq_false {t : Text} {c : Char} (hc : c ∈ t)
    (hword : isWordChar c = false) : (Text.trimEnd t).isIdentifier = false := by
  obtain ⟨v, hv, ht⟩ := Text.exists_eq_trimEnd_append t
  rw [← Bool.not_eq_true]
  intro hname
  rw [ht] at hc
  exact ne_of_isWordChar (isWordChar_of_name hname hv c hc) hword rfl

/-- Behind a call no square bracket follows a name: the round bracket stands
before the first one, wherever that is. -/
theorem declines_arrayAccess_of_call {call f rest : Text} {args : List Text}
    (hcall : IsCall call f args) {b : Binding} (hb : Binding.ofText? line = some b)
    (hsource : b.source = call ++ rest) : Form.arrayAccess.Declines options line := by
  refine declines_arrayAccess (forall_binding hb fun before found hbreak => ?_)
  obtain ⟨hf, v, body, _, hv, rfl, _⟩ := hcall
  have hfront : ∀ c ∈ f ++ v ++ ['('], decide (c = '[') = false := by
    intro c hc
    rcases List.mem_append.mp hc with hc | hc
    · exact decide_eq_false (ne_of_isWordChar (isWordChar_of_name hf hv c hc) (by decide))
    · rw [List.mem_singleton.mp hc]
      rfl
  have hsplit : b.source = f ++ v ++ ['('] ++ (body ++ ')' :: rest) := by simp [hsource]
  rw [hsplit, Text.breakAt_append_of_forall hfront] at hbreak
  obtain ⟨⟨middle, _⟩, _, heq⟩ := Option.map_eq_some_iff.mp hbreak
  obtain rfl : f ++ v ++ ['('] ++ middle = before := (Prod.mk.inj heq).1
  exact isIdentifier_trimEnd_eq_false (c := '(') (by simp) (by decide)

/-- Behind a name, a number that does not fit leaves the source as it is. -/
theorem isBuiltAs_name_and_index {c : Text} (hline : IsBinding line target (c ++ w ++ index))
    (hc : c.isIdentifier = true) (hw : w.allBlank = true) (hindex : SpellsIndex index n)
    (hn : ¬ Decimal.FitsInt64 n) :
    IsBuiltAs options line fun step =>
      { step, kind := .defaultValue, functionName := c ++ w ++ index,
        outputName := some target } := by
  obtain ⟨hb, htrimmed, hquiet, hnocall, hbreak⟩ := reads_name_and_index hline hc hw hindex
  obtain ⟨hindexed, hassigns⟩ := declines_of_no_call options hb hnocall
  have haccess : Form.arrayAccess.Declines options line := by
    refine (declines_iff_not_asks _ options line).mpr ?_
    rintro ⟨b, before, found, m, hother, hfound, _, hm⟩
    obtain rfl : _ = b := Option.some.inj (hb.symm.trans hother)
    obtain ⟨rfl, rfl⟩ := Prod.mk.inj (Option.some.inj (hbreak.symm.trans hfound))
    rw [hindex.index?_eq, Decimal.int64?_eq_none hn] at hm
    contradiction
  have hvalue : Value.read options (c ++ w ++ index) = .ok (.plain (c ++ w ++ index), []) := by
    obtain ⟨body, hbody, _⟩ := hindex.exists_body
    rw [hbody] at htrimmed ⊢
    exact read_of_name hc hw (by decide) htrimmed options
  exact isBuiltAs_plain hline hb htrimmed (by simp [hindex.ne_nil]) hquiet hvalue hindexed hassigns
    haccess

/-- Behind a call, a number that does not fit leaves the source as it is. -/
theorem isBuiltAs_call_and_index {call f : Text} {args : List Text}
    (hline : IsBinding line target (call ++ w ++ index)) (hcall : IsCall call f args)
    (hw : w.allBlank = true) (hindex : SpellsIndex index n) (hn : ¬ Decimal.FitsInt64 n) :
    IsBuiltAs options line fun step =>
      { step, kind := .defaultValue, functionName := call ++ w ++ index,
        outputName := some target } := by
  obtain ⟨hb, htrimmed, hquiet, parts, hread, _, hsuffix, _⟩ :=
    reads_call_and_index hline hcall hw hindex
  have hindexed : Form.indexedCall.Declines options line := by
    refine declines_indexedCall (forall_binding hb fun other hother => ?_)
    obtain rfl : parts = other := Option.some.inj (hread.symm.trans hother)
    rw [hsuffix, hindex.index?_eq, Decimal.int64?_eq_none hn]
  have hassigns : Form.callAssignment.Declines options line := by
    refine declines_callAssignment (forall_binding hb fun other hother => ?_)
    obtain rfl : parts = other := Option.some.inj (hread.symm.trans hother)
    rw [hsuffix]
    exact hindex.ne_nil
  have haccess : Form.arrayAccess.Declines options line :=
    declines_arrayAccess_of_call hcall hb (List.append_assoc call w index)
  have hvalue : Value.read options (call ++ w ++ index)
      = .ok (.plain (call ++ w ++ index), []) := by
    obtain ⟨hf, v, body, _, hv, rfl, _⟩ := hcall
    have hopen : f ++ v ++ '(' :: body ++ [')'] ++ w ++ index
        = f ++ v ++ '(' :: (body ++ ')' :: (w ++ index)) := by simp
    rw [hopen] at htrimmed ⊢
    exact read_of_name hf hv (by decide) htrimmed options
  exact isBuiltAs_plain hline hb htrimmed (by simp [hindex.ne_nil]) hquiet hvalue hindexed hassigns
    haccess

end TooLarge

/-! ## 3. Numbers of any size -/

/-- An index is the number that is written, or no index at all.

* Behind a name, a number that fits in 64 bits makes an extraction with that
  index; a number that does not fit makes the whole source a default value.
* Behind a call, whatever its body, a number that fits makes the call with that
  index; a number that does not fit makes the whole source a default value. -/
theorem index_is_exact (options : Options) {line t index : Text} {n : Int}
    (hindex : SpellsIndex index n) :
    (∀ c w : Text, c.isIdentifier = true → w.allBlank = true →
      IsBinding line t (c ++ w ++ index) →
      (Decimal.FitsInt64 n → ∃ i : Int64, i.toInt = n ∧ IsBuiltAs options line fun step =>
        { step, kind := .dataExtraction, functionName := c, outputName := some t,
          resultIndex := some i }) ∧
      (¬ Decimal.FitsInt64 n → IsBuiltAs options line fun step =>
        { step, kind := .defaultValue, functionName := c ++ w ++ index,
          outputName := some t })) ∧
    ∀ f v body w : Text, f.isIdentifier = true → v.allBlank = true →
      checkNesting body = .ok () → w.allBlank = true →
      let source := f ++ v ++ '(' :: body ++ [')'] ++ w ++ index
      IsBinding line t source →
      (Decimal.FitsInt64 n → ∃ (i : Int64) (pieces : List Text), i.toInt = n ∧
        splitArguments body = .ok pieces ∧ IsBuiltAs options line fun step =>
          { step, kind := .functionExecution, functionName := f,
            inputs := pieces.map normalizeArgument, outputName := some t,
            resultIndex := some i }) ∧
      (¬ Decimal.FitsInt64 n → IsBuiltAs options line fun step =>
        { step, kind := .defaultValue, functionName := source, outputName := some t }) := by
  refine ⟨?_, ?_⟩
  · intro c w hc hw hline
    refine ⟨fun hn => ?_, isBuiltAs_name_and_index hline hc hw hindex⟩
    obtain ⟨i, _, rfl⟩ := Decimal.exists_int64?_of_fits hn
    obtain ⟨_, htrimmed, hquiet, _⟩ := reads_name_and_index hline hc hw hindex
    have hreads : ReadsAs options line _ := readsAs_of_binding hline htrimmed
      (by simp [hindex.ne_nil]) hquiet.1 (recognizes_arrayAccess hline hc hw hindex)
    exact ⟨i, rfl, _, hreads.states, fun _ => rfl⟩
  · intro f v body w hf hv hbody hw source hline
    obtain ⟨pieces, hpieces⟩ := (exists_splitArguments_iff body).mpr hbody
    have hcall : IsCall (f ++ v ++ '(' :: body ++ [')']) f (pieces.map normalizeArgument) :=
      ⟨hf, v, body, pieces, hv, rfl, hbody, hpieces, rfl⟩
    refine ⟨fun hn => ?_, isBuiltAs_call_and_index hline hcall hw hindex⟩
    obtain ⟨i, _, rfl⟩ := Decimal.exists_int64?_of_fits hn
    obtain ⟨_, htrimmed, hquiet, _⟩ := reads_call_and_index hline hcall hw hindex
    have hreads : ReadsAs options line _ := readsAs_of_binding hline htrimmed
      (by simp [source]) hquiet.1 (recognizes_indexedCall hline hcall hw hindex)
    exact ⟨i, pieces, rfl, hpieces, _, hreads.states, fun _ => rfl⟩

/-- The largest index, with a sign and zeros, and the number after it; the
smallest one, behind a call with brackets in its arguments, and the number
before it. -/
theorem index_is_exact_limits :
    let largest := "[ +009223372036854775807]".toList
    let after := "[9223372036854775808]".toList
    let smallest := "[-9223372036854775808]".toList
    let before := "[-9223372036854775809]".toList
    (∃ i : Int64, i.toInt = 9223372036854775807 ∧
      IsBuiltAs {} ("x = c".toList ++ largest) fun step =>
        { step, kind := .dataExtraction, functionName := ['c'], outputName := some ['x'],
          resultIndex := some i }) ∧
    (IsBuiltAs {} ("x = c".toList ++ after) fun step =>
      { step, kind := .defaultValue, functionName := 'c' :: after, outputName := some ['x'] }) ∧
    (∃ (i : Int64) (pieces : List Text), i.toInt = -9223372036854775808 ∧
      splitArguments "[1], \"](\"".toList = .ok pieces ∧
      IsBuiltAs {} ("x = f([1], \"](\")".toList ++ smallest) fun step =>
        { step, kind := .functionExecution, functionName := ['f'],
          inputs := pieces.map normalizeArgument, outputName := some ['x'],
          resultIndex := some i }) ∧
    IsBuiltAs {} ("x = f([1], \"](\")".toList ++ before) fun step =>
      { step, kind := .defaultValue, functionName := "f([1], \"](\")".toList ++ before,
        outputName := some ['x'] } := by
  intro largest after smallest before
  have hspells : ∀ (w lexeme : Text) (n : Int), w.allBlank = true → Decimal.toInt? lexeme = some n →
      SpellsIndex ('[' :: (w ++ lexeme ++ []) ++ [']']) n := fun w lexeme n hw hn =>
    ⟨w, lexeme, [], hw, rfl, (Decimal.toInt?_eq_some_iff n lexeme).mp hn, rfl⟩
  have hlargest : SpellsIndex largest 9223372036854775807 :=
    hspells [' '] "+009223372036854775807".toList _ rfl rfl
  have hafter : SpellsIndex after 9223372036854775808 :=
    hspells [] "9223372036854775808".toList _ rfl rfl
  have hsmallest : SpellsIndex smallest (-9223372036854775808) :=
    hspells [] "-9223372036854775808".toList _ rfl rfl
  have hbefore : SpellsIndex before (-9223372036854775809) :=
    hspells [] "-9223372036854775809".toList _ rfl rfl
  have hc : Text.isIdentifier ['c'] = true := by decide
  have hf : Text.isIdentifier ['f'] = true := by decide
  have hname : ∀ index, IsBinding ("x = c".toList ++ index) ['x'] (['c'] ++ [] ++ index) :=
    fun index => ⟨by decide, [' '], [' '], rfl, rfl, rfl⟩
  have hcall : ∀ index, IsBinding ("x = f([1], \"](\")".toList ++ index) ['x']
      (['f'] ++ [] ++ '(' :: "[1], \"](\"".toList ++ [')'] ++ [] ++ index) :=
    fun index => ⟨by decide, [' '], [' '], rfl, rfl, rfl⟩
  refine ⟨?_, ?_, ?_, ?_⟩
  · exact ((index_is_exact {} hlargest).1 ['c'] [] hc rfl (hname _)).1 (by decide)
  · exact ((index_is_exact {} hafter).1 ['c'] [] hc rfl (hname _)).2 (by decide)
  · exact ((index_is_exact {} hsmallest).2 ['f'] [] _ [] hf rfl rfl rfl (hcall _)).1 (by decide)
  · exact ((index_is_exact {} hbefore).2 ['f'] [] _ [] hf rfl rfl rfl (hcall _)).2 (by decide)

end PlanScript
