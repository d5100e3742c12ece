/-
PlanScript.Proofs.Value.Read — values that are written and read back.

A written literal is read as the string it stands for (`read_literal`), a
square group as its elements (`read_list`), and a curly group as the keys
and values of its entries (`read_dict`). A key or a value may be empty, so
an entry can end or start with its colon.
-/
import PlanScript.Proofs.Value.Arguments

namespace PlanScript

/-! ## 1. Elements -/

/-- An element of an argument list, a list or a dict as it is written:
trimmed, well nested and without a comma at its top level. -/
structure IsElement (t : Text) : Prop where
  trimmed : Text.Trimmed t
  nested : checkNesting t = .ok ()
  noComma : TopLevelFree ',' t

theorem IsElement.quiet {t : Text} (h : IsElement t) : Quiet (·.isTopLevelChar ',') t :=
  ⟨(checkNesting_eq_ok_iff t).mp h.nested, (topLevelFree_iff_avoids ',' t).mp h.noComma⟩

theorem splitArguments_elements {ts : List Text} (h : ∀ t ∈ ts, IsElement t ∧ t ≠ []) :
    splitArguments (Text.join [',', ' '] ts) = .ok ts := by
  refine splitArguments_join_trimmed (fun t ht => ?_) (fun t ht => (h t ht).1.trimmed)
    fun t ht => (h t ht).2
  exact ⟨(h t ht).1.quiet.1, (h t ht).1.noComma⟩

theorem splitElements_of_ok {body : Text} {items : List Text}
    (h : splitArguments body = .ok items) : splitElements body = .ok items := by
  rw [splitElements, h]
  rfl

theorem balanced_elements {ts : List Text} (h : ∀ t ∈ ts, IsElement t) :
    Balanced (Text.join [',', ' '] ts) :=
  Balanced.join (show Balanced [',', ' '] from rfl) fun t ht => (h t ht).quiet.1

/-! ## 2. Literals -/

theorem trimmed_group (b : Bracket) (body : Text) :
    Text.Trimmed (b.opener :: body ++ [b.closer]) := by
  have hopen : Text.Trimmed [b.opener] := by cases b <;> rfl
  have hclose : Text.Trimmed [b.closer] := by cases b <;> rfl
  exact hopen.join hclose (List.cons_ne_nil _ _) (List.cons_ne_nil _ _) body

theorem trimmed_literal {q : Char} (hq : isQuote q = true) (body : Text) :
    Text.Trimmed (q :: body ++ [q]) := by
  have hquote : Text.Trimmed [q] := by
    simp only [isQuote, Bool.or_eq_true, decide_eq_true_eq] at hq
    rcases hq with rfl | rfl <;> rfl
  exact hquote.join hquote (List.cons_ne_nil _ _) (List.cons_ne_nil _ _) body

/-- A string is read back from its literal. -/
theorem read_literal (options : Options) {q : Char} (hq : isQuote q = true) (s : Text) :
    Value.read options (q :: Literal.escape q s ++ [q]) = .ok (.string s, []) := by
  have hformat : Literal.isFormat (q :: Literal.escape q s ++ [q]) = false :=
    Literal.isFormat_of_isQuote hq _
  have hbody := Literal.body?_literal hq (Literal.body_escape q s)
  rw [Value.read, trimmed_literal hq, Value.readTrimmed, hformat, hbody]
  simp only [Literal.unescape_escape hq s]
  rfl

/-! ## 3. Lists -/

theorem isFormat_group (b : Bracket) (body : Text) :
    Literal.isFormat (b.opener :: body ++ [b.closer]) = false := by
  cases b <;> rfl

theorem body?_group (b : Bracket) (body : Text) :
    Literal.body? (b.opener :: body ++ [b.closer]) = none :=
  Literal.body?_of_not_isQuote (Bracket.isQuote_opener b) _

theorem read_square (options : Options) {body : Text} (hbody : Balanced body) :
    Value.read options ('[' :: body ++ [']'])
      = (splitElements body).map fun items => (.list items, []) := by
  have htrim : Text.trim ('[' :: body ++ [']']) = '[' :: body ++ [']'] := trimmed_group .square body
  have hformat : Literal.isFormat ('[' :: body ++ [']']) = false := isFormat_group .square body
  have hliteral : Literal.body? ('[' :: body ++ [']']) = none := body?_group .square body
  have hgroup : enclosed? .square ('[' :: body ++ [']']) = some body :=
    enclosed?_group hbody .square
  rw [Value.read, htrim, Value.readTrimmed, hformat, hliteral, hgroup]
  rfl

/-- A list is read back from its elements. -/
theorem read_list (options : Options) {items : List Text}
    (h : ∀ t ∈ items, IsElement t ∧ t ≠ []) :
    Value.read options ('[' :: Text.join [',', ' '] items ++ [']']) = .ok (.list items, []) := by
  rw [read_square options (balanced_elements fun t ht => (h t ht).1),
    splitElements_of_ok (splitArguments_elements h)]
  rfl

/-! ## 4. Dicts -/

theorem read_curly (options : Options) {body : Text} (hbody : Balanced body) :
    Value.read options ('{' :: body ++ ['}']) = do
      let (entries, skipped) ← readEntries options (← splitElements body)
      return (.dict entries, skipped) := by
  have htrim : Text.trim ('{' :: body ++ ['}']) = '{' :: body ++ ['}'] := trimmed_group .curly body
  have hformat : Literal.isFormat ('{' :: body ++ ['}']) = false := isFormat_group .curly body
  have hliteral : Literal.body? ('{' :: body ++ ['}']) = none := body?_group .curly body
  have hsquare : enclosed? .square ('{' :: body ++ ['}']) = none :=
    enclosed?_group_of_ne hbody (show Bracket.curly ≠ .square by decide)
  have hgroup : enclosed? .curly ('{' :: body ++ ['}']) = some body := enclosed?_group hbody .curly
  rw [Value.read, htrim, Value.readTrimmed, hformat, hliteral, hsquare, hgroup]
  rfl

/-- A key and its value as they are written. -/
def writeEntry (key value : Text) : Text := key ++ [':', ' '] ++ value

/-- Trimming a written entry may drop the space behind its colon, and
nothing else. -/
theorem trim_writeEntry {key value : Text} (hkey : Text.Trimmed key)
    (hvalue : Text.Trimmed value) :
    ∃ rest, (writeEntry key value).trim = key ++ ':' :: rest ∧ Text.trim rest = value := by
  have hcolon : Text.Trimmed [':'] := rfl
  have hspace : Text.allBlank [' '] = true := rfl
  have hhead : Text.Trimmed (key ++ [':']) := by
    cases key with
    | nil => exact hcolon
    | cons c key =>
      simpa using hkey.join hcolon (List.cons_ne_nil c key) (List.cons_ne_nil _ _) []
  have hne : key ++ [':'] ≠ [] := by simp
  by_cases hempty : value = []
  · refine ⟨[], ?_, hempty.symm⟩
    have hwrite : writeEntry key value = [] ++ (key ++ [':']) ++ [' '] := by
      simp [writeEntry, hempty]
    rw [hwrite, hhead.trim_surround Text.allBlank_nil hspace]
  · refine ⟨' ' :: value, ?_, ?_⟩
    · have hwrite : writeEntry key value = key ++ [':'] ++ [' '] ++ value := by simp [writeEntry]
      rw [hwrite, hhead.join hvalue hne hempty [' ']]
      simp
    · simpa using hvalue.trim_surround hspace Text.allBlank_nil

theorem quiet_writeEntry {key value : Text} (hkey : IsElement key) (hvalue : IsElement value) :
    Quiet (·.isTopLevelChar ',') (writeEntry key value) := by
  have hcolon : Quiet (·.isTopLevelChar ',') [':', ' '] := by
    refine ⟨rfl, avoids_of_forall_mem (fun c hc => isTopLevelChar_of_ne ?_) {}⟩
    rintro rfl
    exact absurd hc (by decide)
  exact (hkey.quiet.append hcolon).append hvalue.quiet

/-- Entries are read back as their keys and values in turn. -/
theorem readEntries_trim (options : Options) {entries : List (Text × Text)}
    (h : ∀ e ∈ entries, IsElement e.1 ∧ TopLevelFree ':' e.1 ∧ IsElement e.2) :
    readEntries options (entries.map fun e => (writeEntry e.1 e.2).trim)
      = .ok (entries.flatMap fun e => [e.1, e.2], []) := by
  induction entries with
  | nil => rfl
  | cons e entries ih =>
    obtain ⟨hkey, hcolon, hvalue⟩ := h e (List.mem_cons_self ..)
    obtain ⟨rest, htrim, hrest⟩ := trim_writeEntry hkey.trimmed hvalue.trimmed
    have hsplit : splitEntry? (writeEntry e.1 e.2).trim = some (e.1, e.2) := by
      rw [htrim, splitEntry?_colon hkey.quiet.1 hcolon, hkey.trimmed, hrest]
    have hlater := ih fun other hother => h other (List.mem_cons_of_mem _ hother)
    rw [List.map_cons, readEntries, hsplit]
    simp only [hlater]
    rfl

theorem balanced_entries {entries : List (Text × Text)}
    (h : ∀ e ∈ entries, IsElement e.1 ∧ TopLevelFree ':' e.1 ∧ IsElement e.2) :
    Balanced (Text.join [',', ' '] (entries.map fun e => writeEntry e.1 e.2)) := by
  refine Balanced.join (show Balanced [',', ' '] from rfl) fun t ht => ?_
  obtain ⟨e, he, rfl⟩ := List.mem_map.mp ht
  exact (quiet_writeEntry (h e he).1 (h e he).2.2).1

/-- A dict is read back as its keys and values in turn. -/
theorem read_dict (options : Options) {entries : List (Text × Text)}
    (h : ∀ e ∈ entries, IsElement e.1 ∧ TopLevelFree ':' e.1 ∧ IsElement e.2) :
    Value.read options
        ('{' :: Text.join [',', ' '] (entries.map fun e => writeEntry e.1 e.2) ++ ['}'])
      = .ok (.dict (entries.flatMap fun e => [e.1, e.2]), []) := by
  have hquiet : ∀ t ∈ entries.map (fun e => writeEntry e.1 e.2),
      Quiet (·.isTopLevelChar ',') t := by
    intro t ht
    obtain ⟨e, he, rfl⟩ := List.mem_map.mp ht
    exact quiet_writeEntry (h e he).1 (h e he).2.2
  have hsplit := splitArguments_join fun t ht =>
    ⟨(hquiet t ht).1, (topLevelFree_iff_avoids ',' t).mpr (hquiet t ht).2⟩
  -- An entry is never blank, since its colon stays.
  have hfilter : ((entries.map fun e => writeEntry e.1 e.2).map Text.trim).filter (!·.isEmpty)
      = entries.map fun e => (writeEntry e.1 e.2).trim := by
    rw [List.map_map]
    refine List.filter_eq_self.mpr fun t ht => ?_
    obtain ⟨e, he, rfl⟩ := List.mem_map.mp ht
    obtain ⟨rest, htrim, _⟩ := trim_writeEntry (h e he).1.trimmed (h e he).2.2.trimmed
    simp [htrim]
  rw [hfilter] at hsplit
  rw [read_curly options (balanced_entries h), splitElements_of_ok hsplit]
  simp only [bind, Except.bind, readEntries_trim options h]
  rfl

end PlanScript
