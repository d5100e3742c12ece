/-
PlanScript.Proofs.Value.Commas — the commas of an argument list.

The top-level scan knows where the commas outside every literal and bracket
stand (`commaOffsets`). Splitting an argument list cuts the text at these
places and at no other, so its pieces are the slices between them
(`slicesBetween_commaOffsets`, `splitArguments_cuts_at_commas`).

Behind a balanced text and a comma the splitter starts afresh
(`splitArguments_comma`). So splitting turns commas between texts into
concatenation of lists, arguments are split no further, and arguments that
are joined again come back (`splitArguments_concatenates`).
-/
import PlanScript.Proofs.Nesting.Compose
import PlanScript.Proofs.Text.Slice
import PlanScript.Proofs.Value.Elements

namespace PlanScript

/-! ## 1. Where the commas stand -/

/-- The byte offsets of the commas outside every literal and bracket. -/
def commaOffsets (t : Text) : List Nat :=
  ((topLevel t).filter fun v => v.char = ',').map Visit.offset

theorem commaOffsets_append {u : Text} (hu : Balanced u) (v : Text) :
    commaOffsets (u ++ v) = commaOffsets u ++ (commaOffsets v).map (· + u.bytes) := by
  rw [commaOffsets, topLevel_append hu, List.filter_append, List.map_append, List.filter_map,
    commaOffsets, commaOffsets, List.map_map, List.map_map]
  rfl

theorem commaOffsets_eq_nil_iff (t : Text) : commaOffsets t = [] ↔ TopLevelFree ',' t := by
  simp [commaOffsets, TopLevelFree, List.filter_eq_nil_iff]

/-- The first comma stands behind a balanced text without one. -/
theorem commaOffsets_comma {u : Text} (hu : Balanced u) (hfree : TopLevelFree ',' u) (v : Text) :
    commaOffsets (u ++ ',' :: v) = u.bytes :: (commaOffsets v).map (· + (u.bytes + 1)) := by
  have hcomma : Balanced [','] := rfl
  have hrest : commaOffsets (',' :: v) = 0 :: (commaOffsets v).map (· + 1) := by
    rw [← List.singleton_append, commaOffsets_append hcomma]
    rfl
  rw [commaOffsets_append hu, (commaOffsets_eq_nil_iff u).mpr hfree, hrest]
  simp [Function.comp_def, Nat.add_assoc, Nat.add_comm 1]

/-! ## 2. Slices between the commas -/

/-- The slices of a text between the one-byte characters at some offsets:
each starts behind one of them and stops before the next. -/
def Text.slicesBetween (offsets : List Nat) (t : Text) : List (Option Text) :=
  List.zipWith (fun start stop => Text.slice? start stop t)
    (0 :: offsets.map (· + 1)) (offsets ++ [t.bytes])

/-- The first slice stops before the first mark, and the others are slices of
the text behind it. -/
theorem slicesBetween_cons (u v : Text) (offsets : List Nat) :
    Text.slicesBetween (u.bytes :: offsets.map (· + (u.bytes + 1))) (u ++ ',' :: v)
      = some u :: Text.slicesBetween offsets v := by
  have hmark : Text.bytes (u ++ [',']) = u.bytes + 1 := by
    rw [Text.bytes_append]
    rfl
  have hfirst : Text.slice? 0 u.bytes (u ++ ',' :: v) = some u :=
    Text.slice?_eq_some_iff.mpr ⟨[], ',' :: v, rfl, rfl, Nat.zero_add _⟩
  have hrest : ∀ start stop,
      Text.slice? (start + (u.bytes + 1)) (stop + (u.bytes + 1)) (u ++ ',' :: v)
        = Text.slice? start stop v := by
    intro start stop
    rw [← hmark, ← Text.slice?_append start stop (u ++ [',']) v]
    simp
  have hstarts : (u.bytes :: offsets.map (· + (u.bytes + 1))).map (· + 1)
      = (0 :: offsets.map (· + 1)).map (· + (u.bytes + 1)) := by
    simp [Function.comp_def, Nat.add_right_comm]
  have hstops : offsets.map (· + (u.bytes + 1)) ++ [Text.bytes (u ++ ',' :: v)]
      = (offsets ++ [v.bytes]).map (· + (u.bytes + 1)) := by
    have hcomma : Char.utf8Size ',' = 1 := rfl
    simp only [List.map_append, List.map_cons, List.map_nil, Text.bytes_append, Text.bytes_cons,
      hcomma]
    congr 2
    omega
  rw [Text.slicesBetween, List.cons_append, List.zipWith_cons_cons, hfirst, hstarts, hstops,
    List.zipWith_map]
  simp only [hrest]
  rfl

/-- The pieces that a text splits into are the slices between its commas. -/
theorem slicesBetween_commaOffsets {t : Text} {pieces : List Text} (h : IsSplit t pieces) :
    t.slicesBetween (commaOffsets t) = pieces.map some := by
  obtain ⟨hne, rfl, hpieces⟩ := h
  induction pieces with
  | nil => contradiction
  | cons u us ih =>
    obtain ⟨hbal, hfree⟩ := hpieces u (List.mem_cons_self ..)
    cases us with
    | nil =>
      have hwhole : Text.slice? 0 u.bytes u = some u :=
        Text.slice?_eq_some_iff.mpr ⟨[], [], by simp, rfl, Nat.zero_add _⟩
      rw [Text.join, (commaOffsets_eq_nil_iff u).mpr hfree]
      simp [Text.slicesBetween, hwhole]
    | cons v vs =>
      have hjoin : Text.join [','] (u :: v :: vs) = u ++ ',' :: Text.join [','] (v :: vs) := by
        simp [Text.join]
      have hlater := ih (List.cons_ne_nil v vs) fun w hw => hpieces w (List.mem_cons_of_mem _ hw)
      rw [hjoin, commaOffsets_comma hbal hfree, slicesBetween_cons, hlater]
      rfl

/-- Leaving out what is empty after trimming is leaving out what is blank. -/
theorem filter_map_trim (pieces : List Text) :
    (pieces.map Text.trim).filter (!·.isEmpty)
      = (pieces.filter (!·.allBlank)).map Text.trim := by
  have hblank : ∀ t : Text, t.trim.isEmpty = t.allBlank := by
    intro t
    rw [Bool.eq_iff_iff, List.isEmpty_iff, Text.trim_eq_nil_iff]
  rw [List.filter_map]
  simp only [Function.comp_def, hblank]

/-- The splitter, the nesting check and the top-level scan agree.

* Splitting fails where the check fails, with the same error.
* Otherwise the text is cut at the commas that the scan lists, and the
  arguments are the pieces that are not blank, trimmed. The pieces with commas
  between them are the text, and trimming takes white space off their ends.
* Where the scan lists no comma, the only argument is the whole text. -/
theorem splitArguments_cuts_at_commas (t : Text) :
    (∀ e, splitArguments t = .error e ↔ checkNesting t = .error e) ∧
    (checkNesting t = .ok () → ∃ pieces : List Text,
      t.slicesBetween (commaOffsets t) = pieces.map some ∧
      splitArguments t = .ok ((pieces.filter (!·.allBlank)).map Text.trim) ∧
      t = Text.join [','] pieces ∧
      ∀ piece ∈ pieces, ∃ front back : Text, front.allBlank = true ∧ back.allBlank = true ∧
        piece = front ++ piece.trim ++ back) ∧
    (checkNesting t = .ok () → commaOffsets t = [] →
      splitArguments t = .ok (if t.allBlank then [] else [t.trim])) := by
  refine ⟨splitArguments_eq_error_iff t, ?_, ?_⟩
  · intro hnesting
    obtain ⟨args, hargs⟩ := (exists_splitArguments_iff t).mpr hnesting
    obtain ⟨pieces, hsplit, rfl⟩ := (splitArguments_eq_ok_iff t args).mp hargs
    rw [filter_map_trim] at hargs
    exact ⟨pieces, slicesBetween_commaOffsets hsplit, hargs, hsplit.join,
      fun piece _ => Text.exists_eq_append_trim piece⟩
  · intro hnesting hnone
    have hsplit : IsSplit t [t] := by
      refine ⟨List.cons_ne_nil t [], rfl, fun u hu => ?_⟩
      rw [List.mem_singleton.mp hu]
      exact ⟨(checkNesting_eq_ok_iff t).mp hnesting, (commaOffsets_eq_nil_iff t).mp hnone⟩
    refine (splitArguments_eq_ok_iff t _).mpr ⟨[t], hsplit, ?_⟩
    rw [filter_map_trim]
    cases hblank : t.allBlank <;> simp [hblank]

/-- Neither the comma in the call nor the one in the literal cuts the text,
and a call with commas inside alone is not cut at all. -/
theorem splitArguments_cuts_at_commas_nested :
    (checkNesting "é, g(1,2) ,,\"a,b\"".toList = .ok () ∧
      commaOffsets "é, g(1,2) ,,\"a,b\"".toList = [2, 11, 12] ∧
      splitArguments "é, g(1,2) ,,\"a,b\"".toList
        = .ok [['é'], "g(1,2)".toList, "\"a,b\"".toList]) ∧
    checkNesting " g(1,2)".toList = .ok () ∧ commaOffsets " g(1,2)".toList = [] ∧
      splitArguments " g(1,2)".toList = .ok ["g(1,2)".toList] := by
  have hnesting : checkNesting "é, g(1,2) ,,\"a,b\"".toList = .ok () := rfl
  have hcommas : commaOffsets "é, g(1,2) ,,\"a,b\"".toList = [2, 11, 12] := rfl
  obtain ⟨pieces, hslices, hargs, _⟩ := (splitArguments_cuts_at_commas _).2.1 hnesting
  have hpieces : [['é'], " g(1,2) ".toList, [], "\"a,b\"".toList] = pieces := by
    rw [hcommas] at hslices
    exact (List.map_inj_right fun _ _ => Option.some.inj).mp hslices
  have hcall : checkNesting " g(1,2)".toList = .ok () := rfl
  have hnone : commaOffsets " g(1,2)".toList = [] := rfl
  refine ⟨⟨hnesting, hcommas, ?_⟩, hcall, hnone,
    (splitArguments_cuts_at_commas _).2.2 hcall hnone⟩
  rw [hargs, ← hpieces]
  rfl

/-! ## 3. Joining lists of arguments -/

theorem join_append {as bs : List Text} (ha : as ≠ []) (hb : bs ≠ []) :
    Text.join [','] (as ++ bs) = Text.join [','] as ++ ',' :: Text.join [','] bs := by
  induction as with
  | nil => contradiction
  | cons a as ih =>
    cases as with
    | nil =>
      cases bs with
      | nil => contradiction
      | cons b bs => simp [Text.join]
    | cons a' as =>
      have hlater := ih (List.cons_ne_nil a' as)
      simp only [List.cons_append, Text.join] at hlater ⊢
      rw [hlater]
      simp

theorem IsSplit.append {a b : Text} {as bs : List Text} (ha : IsSplit a as) (hb : IsSplit b bs) :
    IsSplit (a ++ ',' :: b) (as ++ bs) := by
  refine ⟨by simp [ha.ne_nil], ?_, fun u hu => ?_⟩
  · rw [join_append ha.ne_nil hb.ne_nil, ← ha.join, ← hb.join]
  · rcases List.mem_append.mp hu with hu | hu
    · exact ha.pieces u hu
    · exact hb.pieces u hu

/-- Behind a text that splits and a comma, the rest is split on its own. -/
theorem splitArguments_comma {a b : Text} {args more : List Text}
    (ha : splitArguments a = .ok args) (hb : splitArguments b = .ok more) :
    splitArguments (a ++ ',' :: b) = .ok (args ++ more) := by
  obtain ⟨as, has, rfl⟩ := (splitArguments_eq_ok_iff a args).mp ha
  obtain ⟨bs, hbs, rfl⟩ := (splitArguments_eq_ok_iff b more).mp hb
  refine (splitArguments_eq_ok_iff _ _).mpr ⟨as ++ bs, has.append hbs, ?_⟩
  rw [List.map_append, List.filter_append]

/-- An error of the rest is reported behind the text and the comma. -/
theorem splitArguments_comma_error {a b : Text} (ha : checkNesting a = .ok ()) {e : NestingError}
    (hb : splitArguments b = .error e) :
    splitArguments (a ++ ',' :: b) = .error (e.shift (a.bytes + 1)) := by
  have hcomma : Balanced [','] := rfl
  have hfront : Balanced (a ++ [',']) := ((checkNesting_eq_ok_iff a).mp ha).append hcomma
  have hbytes : Text.bytes (a ++ [',']) = a.bytes + 1 := by
    rw [Text.bytes_append]
    rfl
  have hcheck := checkNesting_append hfront b
  rw [(splitArguments_eq_error_iff b e).mp hb, hbytes, List.append_assoc] at hcheck
  exact (splitArguments_eq_error_iff _ _).mpr hcheck

/-- An argument is trimmed, not blank, balanced and without a comma of its
own. -/
theorem isElement_of_mem_splitArguments {t : Text} {args : List Text}
    (h : splitArguments t = .ok args) : ∀ x ∈ args, IsElement x ∧ x ≠ [] := by
  obtain ⟨pieces, hsplit, rfl⟩ := (splitArguments_eq_ok_iff t args).mp h
  intro x hx
  obtain ⟨hx, hne⟩ := List.mem_filter.mp hx
  obtain ⟨piece, hpiece, rfl⟩ := List.mem_map.mp hx
  obtain ⟨hbal, hfree⟩ := hsplit.pieces piece hpiece
  exact ⟨⟨Text.trimmed_trim piece, (checkNesting_eq_ok_iff _).mpr hbal.trim,
    (topLevelFree_trim_iff (by decide) piece).mpr hfree⟩, by simpa using hne⟩

/-- Arguments that are joined by commas come back. -/
theorem splitArguments_join_comma {args : List Text} (h : ∀ x ∈ args, IsElement x ∧ x ≠ []) :
    splitArguments (Text.join [','] args) = .ok args := by
  cases args with
  | nil => rfl
  | cons x xs =>
    refine (splitArguments_eq_ok_iff _ _).mpr ⟨x :: xs, ⟨List.cons_ne_nil x xs, rfl, ?_⟩, ?_⟩
    · exact fun u hu => ⟨(h u hu).1.quiet.1, (h u hu).1.noComma⟩
    · have htrim : (x :: xs).map Text.trim = x :: xs := by
        rw [List.map_congr_left fun u hu => (h u hu).1.trimmed, List.map_id']
      rw [htrim]
      exact (List.filter_eq_self.mpr fun u hu => by simpa using (h u hu).2).symm

/-- Splitting takes commas to concatenation.

* A text that splits, a comma and a second text split into the arguments of
  both. When the second text does not split, its error is reported as far
  further on as it stands.
* An argument is split no further, and arguments that are joined by commas,
  with a space behind each or without, come back as they were. -/
theorem splitArguments_concatenates :
    (∀ a b : Text, checkNesting a = .ok () → ∃ args, splitArguments a = .ok args ∧
      (∀ more, splitArguments b = .ok more → splitArguments (a ++ ',' :: b) = .ok (args ++ more)) ∧
      ∀ e, splitArguments b = .error e →
        splitArguments (a ++ ',' :: b) = .error (e.shift (a.bytes + 1))) ∧
    ∀ (t : Text) (args : List Text), splitArguments t = .ok args →
      (∀ x ∈ args, splitArguments x = .ok [x] ∧ checkNesting x = .ok ()) ∧
      splitArguments (Text.join [','] args) = .ok args ∧
      splitArguments (Text.join [',', ' '] args) = .ok args := by
  refine ⟨?_, ?_⟩
  · intro a b ha
    obtain ⟨args, hargs⟩ := (exists_splitArguments_iff a).mpr ha
    exact ⟨args, hargs, fun more hmore => splitArguments_comma hargs hmore,
      fun e he => splitArguments_comma_error ha he⟩
  · intro t args hargs
    have helements := isElement_of_mem_splitArguments hargs
    refine ⟨?_, splitArguments_join_comma helements, splitArguments_elements helements⟩
    intro x hx
    have hsingle : ∀ y ∈ [x], IsElement y ∧ y ≠ [] := by
      intro y hy
      rw [List.mem_singleton.mp hy]
      exact helements x hx
    exact ⟨splitArguments_join_comma hsingle, (helements x hx).1.nested⟩

/-- The second text has a bracket too many, at its byte 1; the third splits. -/
theorem splitArguments_concatenates_texts :
    (checkNesting "f(é, 1)".toList = .ok () ∧
      splitArguments "a]".toList = .error (.unexpectedClose .square 1) ∧
      splitArguments "f(é, 1),a]".toList = .error (.unexpectedClose .square 10) ∧
      splitArguments " b,".toList = .ok [['b']] ∧
      splitArguments "f(é, 1), b,".toList = .ok ["f(é, 1)".toList, ['b']]) ∧
    splitArguments " é,, g(1,2) ,".toList = .ok [['é'], "g(1,2)".toList] ∧
      splitArguments "é,g(1,2)".toList = .ok [['é'], "g(1,2)".toList] := by
  have ha : checkNesting "f(é, 1)".toList = .ok () := rfl
  have hb : splitArguments "a]".toList = .error (.unexpectedClose .square 1) := rfl
  have hc : splitArguments " b,".toList = .ok [['b']] := rfl
  have ht : splitArguments " é,, g(1,2) ,".toList = .ok [['é'], "g(1,2)".toList] := rfl
  obtain ⟨_, _, _, herror⟩ := splitArguments_concatenates.1 _ "a]".toList ha
  obtain ⟨args, hargs, hjoin, _⟩ := splitArguments_concatenates.1 _ " b,".toList ha
  obtain rfl : ["f(é, 1)".toList] = args := Except.ok.inj hargs
  exact ⟨⟨ha, hb, herror _ hb, hc, hjoin _ hc⟩, ht, (splitArguments_concatenates.2 _ _ ht).2.1⟩

end PlanScript
