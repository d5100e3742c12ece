/-
PlanScript.Proofs.Plan.Entries — no dict entry is lost or invented.

`SplitsAtColon entry before after` says that an entry is cut at its first
colon outside every literal and bracket, by the offset that the top-level scan
gives (`colonOffset?`). This is where the reader cuts it
(`splitEntry?_eq_some_iff`); what it keeps are the two sides without the white
space around the colon (`SplitsAtColon.exists_blanks`).

Reading a list of entries keeps the two sides of each entry that has such a
colon, in order, and skips the other ones (`readEntries_eq_ok`). With strict
options one entry without a colon is enough to fail. So every entry of a dict
is accounted for, in its strings or among the skipped ones, which a parse
reports one by one (`dict_accounts_for_every_entry`).
-/
import Mathlib.Data.List.Forall2
import PlanScript.Proofs.Plan.Lenient
import PlanScript.Proofs.Plan.RoundTrip
import PlanScript.Proofs.Value.Commas

namespace PlanScript

/-! ## 1. The colon of an entry -/

/-- The byte offset of the first colon outside every literal and bracket. -/
def colonOffset? (entry : Text) : Option Nat :=
  ((topLevel entry).find? (·.char = ':')).map Visit.offset

theorem colonOffset?_eq_none_iff (entry : Text) :
    colonOffset? entry = none ↔ TopLevelFree ':' entry := by
  simp [colonOffset?, TopLevelFree, List.find?_eq_none]

/-- The entry is cut at its first top-level colon. -/
structure SplitsAtColon (entry before after : Text) : Prop where
  append : entry = before ++ ':' :: after
  offset : colonOffset? entry = some before.bytes

theorem splitsAtColon_of_cut {entry before after : Text}
    (h : cut (·.isTopLevelChar ':') entry = some (before, after)) :
    SplitsAtColon entry before after := by
  have havoid := avoids_of_cutFrom (isLocal_isTopLevelChar ':') h
  obtain ⟨m, c, rfl, hm, hc⟩ := place_of_cutFrom h
  simp only [Place.isTopLevelChar, Bool.and_eq_true, decide_eq_true_eq] at hc
  obtain ⟨htop, rfl⟩ := hc
  -- At the top level a scan is where it began.
  obtain rfl := ScanState.eq_start_of_isTopLevel htop (ScanState.escaped_of_after? hm fun _ => rfl)
  have hfree : (topLevel before).find? (·.char = ':') = none := by
    have hnone := (topLevelFree_iff_avoids ':' before).mpr havoid
    rwa [← colonOffset?_eq_none_iff, colonOffset?, Option.map_eq_none_iff] at hnone
  refine ⟨rfl, ?_⟩
  rw [colonOffset?, topLevel_append hm, List.find?_append, hfree]
  simp [topLevel, scan, scanFrom, Visit.shift, ScanState.isTopLevel]

/-- An entry is cut in one way only. -/
theorem SplitsAtColon.unique {entry before after before' after' : Text}
    (h : SplitsAtColon entry before after) (h' : SplitsAtColon entry before' after') :
    before = before' ∧ after = after' := by
  have hbytes : before.bytes = before'.bytes := Option.some.inj (h.offset.symm.trans h'.offset)
  have hcut := Text.cutAfter?_eq_some_iff.mpr ⟨h.append, hbytes⟩
  rw [Text.cutAfter?_eq_some_iff.mpr ⟨h'.append, rfl⟩] at hcut
  cases hcut
  exact ⟨rfl, rfl⟩

/-- The key and the value of an entry are the sides of its first top-level
colon, trimmed. -/
theorem splitEntry?_eq_some_iff (entry key value : Text) :
    splitEntry? entry = some (key, value) ↔
      ∃ before after, SplitsAtColon entry before after ∧ key = before.trim ∧
        value = after.trim := by
  constructor
  · intro h
    obtain ⟨⟨before, after⟩, hcut, heq⟩ := Option.map_eq_some_iff.mp h
    cases heq
    exact ⟨before, after, splitsAtColon_of_cut hcut, rfl, rfl⟩
  · intro ⟨before, after, h, hkey, hvalue⟩
    cases hcut : cut (·.isTopLevelChar ':') entry with
    | none =>
      have hnone : splitEntry? entry = none := by
        unfold splitEntry?
        rw [hcut, Option.map_none]
      rw [splitEntry?_eq_none_iff, ← colonOffset?_eq_none_iff, h.offset] at hnone
      contradiction
    | some sides =>
      obtain ⟨rfl, rfl⟩ := (splitsAtColon_of_cut hcut).unique h
      unfold splitEntry?
      rw [hcut, Option.map_some, hkey, hvalue]

/-- An entry has a top-level colon when it is cut at one. -/
theorem exists_splitsAtColon {entry : Text} (h : ¬ TopLevelFree ':' entry) :
    ∃ side : Text × Text, SplitsAtColon entry side.1 side.2 := by
  cases hsplit : splitEntry? entry with
  | none => exact absurd ((splitEntry?_eq_none_iff entry).mp hsplit) h
  | some sides =>
    obtain ⟨before, after, hsides, _⟩ := (splitEntry?_eq_some_iff entry _ _).mp hsplit
    exact ⟨(before, after), hsides⟩

/-- A trimmed entry is its key, the colon and its value, but for white space
around the colon. -/
theorem SplitsAtColon.exists_blanks {entry before after : Text}
    (h : SplitsAtColon entry before after) (hentry : Text.Trimmed entry) :
    ∃ w₁ w₂ : Text, w₁.allBlank = true ∧ w₂.allBlank = true ∧
      entry = before.trim ++ w₁ ++ ':' :: (w₂ ++ after.trim) := by
  obtain ⟨v, w₁, hv, h₁, hbefore⟩ := Text.exists_eq_append_trim before
  obtain ⟨w₂, w, h₂, hw, hafter⟩ := Text.exists_eq_append_trim after
  have hall : entry = v ++ (before.trim ++ w₁ ++ ':' :: (w₂ ++ after.trim)) ++ w :=
    calc entry = before ++ ':' :: after := h.append
      _ = v ++ before.trim ++ w₁ ++ ':' :: (w₂ ++ after.trim ++ w) := by rw [← hbefore, ← hafter]
      _ = v ++ (before.trim ++ w₁ ++ ':' :: (w₂ ++ after.trim)) ++ w := by simp
  -- No white space stands at the ends of the entry.
  obtain rfl : v = [] := by
    rw [hall, List.append_assoc] at hentry
    exact hentry.eq_nil_of_blank_append hv
  obtain rfl : w = [] := (hall ▸ hentry).eq_nil_of_append_blank hw
  exact ⟨w₁, w₂, h₁, h₂, by simpa using hall⟩

/-! ## 2. The entries of a dict -/

/-- The pairs are the sides of the entries. -/
def AreSides (entries : List Text) (sides : List (Text × Text)) : Prop :=
  List.Forall₂ (fun entry side => SplitsAtColon entry side.1 side.2) entries sides

/-- The entries with a colon outside every literal and bracket. -/
def withColon (entries : List Text) : List Text := entries.filter (¬ TopLevelFree ':' ·)

/-- The entries without one. -/
def withoutColon (entries : List Text) : List Text := entries.filter (TopLevelFree ':' ·)

theorem exists_areSides (entries : List Text) : ∃ sides, AreSides (withColon entries) sides := by
  induction entries with
  | nil => exact ⟨[], .nil⟩
  | cons entry rest ih =>
    obtain ⟨sides, hsides⟩ := ih
    by_cases hfree : TopLevelFree ':' entry
    · exact ⟨sides, by simpa [withColon, hfree] using hsides⟩
    · obtain ⟨side, hside⟩ := exists_splitsAtColon hfree
      have hboth : AreSides (entry :: withColon rest) (side :: sides) := .cons hside hsides
      exact ⟨side :: sides, by simpa [withColon, hfree] using hboth⟩

/-- The sides of entries as they are kept: trimmed keys and values in turn. -/
def keysAndValues (sides : List (Text × Text)) : List Text :=
  sides.flatMap fun side => [side.1.trim, side.2.trim]

/-- Reading entries keeps the sides of each one with a colon and skips the
others, when it may skip or need not. -/
theorem readEntries_eq_ok {options : Options} {entries : List Text}
    (h : options.lenientDicts = true ∨ withoutColon entries = []) {sides : List (Text × Text)}
    (hsides : AreSides (withColon entries) sides) :
    readEntries options entries = .ok (keysAndValues sides, withoutColon entries) := by
  induction entries generalizing sides with
  | nil =>
    cases hsides
    rfl
  | cons entry rest ih =>
    by_cases hfree : TopLevelFree ':' entry
    · have hlenient : options.lenientDicts = true := by simpa [withoutColon, hfree] using h
      have hrest := ih (.inl hlenient) (by simpa [withColon, hfree] using hsides)
      rw [readEntries, (splitEntry?_eq_none_iff entry).mpr hfree]
      simp only [hlenient, if_true, hrest]
      simp [withoutColon, hfree, bind, Except.bind, pure, Except.pure]
    · have hkept : withColon (entry :: rest) = entry :: withColon rest := by
        simp [withColon, hfree]
      have hskipped : withoutColon (entry :: rest) = withoutColon rest := by
        simp [withoutColon, hfree]
      rw [hskipped] at h
      rw [hkept] at hsides
      cases hsides with
      | cons hside hsides =>
        have hsplit := (splitEntry?_eq_some_iff entry _ _).mpr ⟨_, _, hside, rfl, rfl⟩
        rw [readEntries, hsplit, hskipped]
        simp only [ih h hsides]
        rfl

/-- Every entry makes two strings or is skipped. -/
theorem length_keysAndValues {entries : List Text} {sides : List (Text × Text)}
    (hsides : AreSides (withColon entries) sides) :
    (keysAndValues sides).length / 2 + (withoutColon entries).length = entries.length := by
  have hstrings : (keysAndValues sides).length = sides.length * 2 := by
    simp [keysAndValues, List.length_flatMap]
  have hkept : sides.length = (withColon entries).length := hsides.length_eq.symm
  have hall := List.length_eq_length_filter_add (l := entries) (TopLevelFree ':' ·)
  rw [hstrings, Nat.mul_div_cancel _ (by decide), hkept]
  simp only [withColon, withoutColon, decide_not]
  omega

/-- The dict with a body has the entries that the body splits into. -/
theorem read_dict_of_splitArguments (options : Options) {body : Text} {entries : List Text}
    (h : splitArguments body = .ok entries) :
    Value.read options ('{' :: body ++ ['}'])
      = (readEntries options entries).map fun r => (.dict r.1, r.2) := by
  have hbody := (checkNesting_eq_ok_iff body).mp ((exists_splitArguments_iff body).mp ⟨entries, h⟩)
  rw [read_curly options hbody, splitElements_of_ok h]
  rfl

/-- Texts that are joined by commas come back trimmed, without the blank ones. -/
theorem splitArguments_join_pieces {pieces : List Text}
    (h : ∀ piece ∈ pieces, Balanced piece ∧ TopLevelFree ',' piece) :
    splitArguments (Text.join [','] pieces)
      = .ok ((pieces.map Text.trim).filter (!·.isEmpty)) := by
  cases pieces with
  | nil => rfl
  | cons piece pieces =>
    exact (splitArguments_eq_ok_iff _ _).mpr ⟨_, ⟨List.cons_ne_nil _ _, rfl, h⟩, rfl⟩

/-- The body without the pieces that lack a colon splits into the entries that
have one. -/
theorem splitArguments_of_isSplit_filter {body : Text} {pieces : List Text}
    (h : IsSplit body pieces) {entries : List Text} (hentries : splitArguments body = .ok entries) :
    splitArguments (Text.join [','] (pieces.filter (¬ LacksColon ·)))
      = .ok (withColon entries) := by
  rw [(splitArguments_eq_ok_iff body _).mpr ⟨pieces, h, rfl⟩] at hentries
  have hpiece : ∀ piece : Text, ¬ LacksColon piece ∧ piece.trim ≠ [] ↔
      piece.trim ≠ [] ∧ ¬ TopLevelFree ':' piece.trim := by
    intro piece
    rw [topLevelFree_trim_iff (by decide), LacksColon, ne_eq, Text.trim_eq_nil_iff]
    grind
  rw [splitArguments_join_pieces fun piece hp => h.pieces piece (List.mem_filter.mp hp).1,
    ← Except.ok.inj hentries, withColon, List.filter_map, List.filter_map, List.filter_filter,
    List.filter_map, List.filter_filter]
  refine congrArg _ (congrArg _ (List.filter_congr fun piece _ => ?_))
  have hp := hpiece piece
  simp only [Function.comp_apply]
  grind

/-- Strict options refuse a dict for its first entry without a colon. -/
theorem read_strict_dict_eq_error_iff {body : Text} {entries : List Text}
    (h : splitArguments body = .ok entries) (e : LiteralError) :
    Value.read .strict ('{' :: body ++ ['}']) = .error e ↔
      ∃ entry, entries.find? (TopLevelFree ':' ·) = some entry ∧ e = .entryWithoutColon entry := by
  rw [read_dict_of_splitArguments .strict h, map_eq_error_iff, readEntries_eq_error_iff]
  exact and_iff_right rfl

/-- Strict options read a dict when each entry has a colon. -/
theorem exists_read_strict_dict_iff {body : Text} {entries : List Text}
    (h : splitArguments body = .ok entries) :
    (∃ r, Value.read .strict ('{' :: body ++ ['}']) = .ok r) ↔
      ∀ entry ∈ entries, ¬ TopLevelFree ':' entry := by
  have hnone : (∀ entry ∈ entries, ¬ TopLevelFree ':' entry) ↔
      entries.find? (TopLevelFree ':' ·) = none := by simp [List.find?_eq_none]
  rw [hnone]
  cases hread : Value.read .strict ('{' :: body ++ ['}']) with
  | ok r =>
    cases hfind : entries.find? (TopLevelFree ':' ·) with
    | none => simp
    | some entry =>
      rw [(read_strict_dict_eq_error_iff h _).mpr ⟨entry, hfind, rfl⟩] at hread
      contradiction
  | error e =>
    obtain ⟨entry, hfind, _⟩ := (read_strict_dict_eq_error_iff h e).mp hread
    simp [hfind]

/-- Lenient options read every dict, and skip the entries without a colon. -/
theorem read_lenient_dict {body : Text} {entries : List Text}
    (h : splitArguments body = .ok entries) {sides : List (Text × Text)}
    (hsides : AreSides (withColon entries) sides) :
    Value.read .lenient ('{' :: body ++ ['}'])
      = .ok (.dict (keysAndValues sides), withoutColon entries) := by
  have hread : readEntries .lenient entries = _ := readEntries_eq_ok (.inl rfl) hsides
  rw [read_dict_of_splitArguments .lenient h, hread]
  rfl

/-- Strict options read the same dict once the entries without a colon are
taken out of the body. -/
theorem read_strict_dict_withColon {body : Text} {entries : List Text}
    (h : splitArguments body = .ok entries) {sides : List (Text × Text)}
    (hsides : AreSides (withColon entries) sides) {pieces : List Text}
    (hsplit : IsSplit body pieces) :
    Value.read .strict ('{' :: Text.join [','] (pieces.filter (¬ LacksColon ·)) ++ ['}'])
      = .ok (.dict (keysAndValues sides), []) := by
  have hkept : withColon (withColon entries) = withColon entries := by simp [withColon]
  have hnone : withoutColon (withColon entries) = [] := by
    simp [withoutColon, withColon, List.filter_filter]
  rw [read_dict_of_splitArguments .strict (splitArguments_of_isSplit_filter hsplit h),
    readEntries_eq_ok (.inr hnone) (by rwa [hkept]), hnone]
  rfl

/-! ## 3. The line of a dict -/

/-- A line that binds a dict is read as an assignment of it. -/
theorem readLine_dict {options : Options} {line target body : Text}
    (hline : IsBinding line target ('{' :: body ++ ['}'])) (hbody : Balanced body)
    {strings skipped : List Text}
    (hread : Value.read options ('{' :: body ++ ['}']) = .ok (.dict strings, skipped)) :
    readLine options line = .ok (.assignment, ⟨.assignment target (.dict strings), skipped⟩) := by
  have htrimmed : Text.Trimmed ('{' :: body ++ ['}']) := trimmed_group .curly body
  have hquiet : Quiet Place.isOperator ('{' :: body ++ ['}']) :=
    marksSign_isOperator.quiet_group .curly hbody
  have hb := hline.ofText?_of_ne htrimmed rfl (by decide)
  have hform : Form.assignment.read options line
      = .ok (some ⟨.assignment target (.dict strings), skipped⟩) := by
    simp only [Form.read, readAssignment, hb, hread]
    rfl
  have hrecognize := recognize_of_read hform (declines_of_value hb hquiet rfl (by decide))
  have hnesting := (readsAs_of_binding hline htrimmed (List.cons_ne_nil _ _) hquiet.1
    ⟨_, _, hrecognize, rfl⟩).states.1
  simp only [readLine, hnesting, hrecognize]

/-- Such a line becomes a call that makes the dict, and the skipped entries are
reported first, one by one. -/
theorem parseLine_dict {options : Options} {line : Line} {target body : Text}
    (hline : IsBinding line.text target ('{' :: body ++ ['}'])) (hbody : Balanced body)
    {strings skipped : List Text}
    (hread : Value.read options ('{' :: body ++ ['}']) = .ok (.dict strings, skipped))
    (fileId step : Nat) :
    parseLine options fileId step line =
      { result := .ok ⟨step, some target, .call dictFunction strings none⟩
        events := skipped.map .skipped ++
          [.claimed step .assignment line.text, .built step line.text dictFunction] } := by
  simp only [parseLine, readLine_dict hline hbody hread]
  rfl

/-- No entry of a dict is lost or invented.

* Strict options refuse the dict when some entry has no colon outside every
  literal and bracket, and the error names the first one.
* Lenient options always read it: the sides of each entry with such a colon,
  trimmed and in order, and the other entries as skipped ones. That is what
  strict options read once the others are taken out of the body.
* Each entry is its key, a colon and its value, but for white space around
  that colon; and a line that binds the dict reports each skipped entry. -/
theorem dict_accounts_for_every_entry {body : Text} {entries : List Text}
    (h : splitArguments body = .ok entries) :
    let dict := '{' :: body ++ ['}']
    ((∃ r, Value.read .strict dict = .ok r) ↔ ∀ entry ∈ entries, ¬ TopLevelFree ':' entry) ∧
    (∀ e, Value.read .strict dict = .error e ↔
      ∃ entry, entries.find? (TopLevelFree ':' ·) = some entry ∧ e = .entryWithoutColon entry) ∧
    ∃ sides : List (Text × Text), AreSides (withColon entries) sides ∧
      Value.read .lenient dict = .ok (.dict (keysAndValues sides), withoutColon entries) ∧
      (keysAndValues sides).length / 2 + (withoutColon entries).length = entries.length ∧
      (∀ pieces, IsSplit body pieces →
        Value.read .strict ('{' :: Text.join [','] (pieces.filter (¬ LacksColon ·)) ++ ['}'])
          = .ok (.dict (keysAndValues sides), [])) ∧
      (∀ entry ∈ entries, ∀ before after, SplitsAtColon entry before after →
        ∃ w₁ w₂ : Text, w₁.allBlank = true ∧ w₂.allBlank = true ∧
          entry = before.trim ++ w₁ ++ ':' :: (w₂ ++ after.trim)) ∧
      ∀ (line : Line) (target : Text) (fileId step : Nat), IsBinding line.text target dict →
        parseLine .lenient fileId step line =
          { result := .ok ⟨step, some target, .call dictFunction (keysAndValues sides) none⟩
            events := (withoutColon entries).map .skipped ++
              [.claimed step .assignment line.text, .built step line.text dictFunction] } := by
  intro dict
  obtain ⟨sides, hsides⟩ := exists_areSides entries
  have hlenient : Value.read .lenient dict = _ := read_lenient_dict h hsides
  refine ⟨exists_read_strict_dict_iff h, read_strict_dict_eq_error_iff h, sides, hsides, hlenient,
    length_keysAndValues hsides, fun _ => read_strict_dict_withColon h hsides, ?_, ?_⟩
  · intro entry hentry before after hsplit
    exact hsplit.exists_blanks (isElement_of_mem_splitArguments h entry hentry).1.trimmed
  · intro line target fileId step hline
    have hbody : Balanced body :=
      (checkNesting_eq_ok_iff body).mp ((exists_splitArguments_iff body).mp ⟨entries, h⟩)
    exact parseLine_dict hline hbody hlenient fileId step

/-- The middle entry has no colon, and the colon in the key of the last one
does not count. -/
theorem dict_accounts_for_every_entry_skipped :
    let body := "k: 1, b, \"x:\": [y: 2]".toList
    let line : Line := ⟨"d = ".toList ++ ('{' :: body ++ ['}']), 0⟩
    splitArguments body = .ok ["k: 1".toList, ['b'], "\"x:\": [y: 2]".toList] ∧
    Value.read .strict ('{' :: body ++ ['}']) = .error (.entryWithoutColon ['b']) ∧
    ∃ sides : List (Text × Text), AreSides ["k: 1".toList, "\"x:\": [y: 2]".toList] sides ∧
      Value.read .lenient ('{' :: body ++ ['}']) = .ok (.dict (keysAndValues sides), [['b']]) ∧
      Value.read .strict ('{' :: "k: 1, \"x:\": [y: 2]".toList ++ ['}'])
        = .ok (.dict (keysAndValues sides), []) ∧
      (∃ w₁ w₂ : Text, w₁.allBlank = true ∧ w₂.allBlank = true ∧
        "k: 1".toList = ['k'] ++ w₁ ++ ':' :: (w₂ ++ ['1'])) ∧
      (parseLine .lenient 0 1 line).events = [.skipped ['b'], .claimed 1 .assignment line.text,
        .built 1 line.text dictFunction] := by
  intro body line
  have hentries : splitArguments body
      = .ok ["k: 1".toList, ['b'], "\"x:\": [y: 2]".toList] := rfl
  have hpieces : IsSplit body ["k: 1".toList, " b".toList, " \"x:\": [y: 2]".toList] :=
    (pieces_eq_ok_iff body _).mp rfl
  have hcolon : SplitsAtColon "k: 1".toList ['k'] " 1".toList := ⟨rfl, rfl⟩
  have hline : IsBinding line.text ['d'] ('{' :: body ++ ['}']) :=
    ⟨by decide, [' '], [' '], rfl, rfl, rfl⟩
  obtain ⟨-, herror, sides, hsides, hlenient, -, hstrict, hblanks, hlog⟩ :=
    dict_accounts_for_every_entry hentries
  have hevents := congrArg Logged.events (hlog line ['d'] 0 1 hline)
  exact ⟨hentries, (herror _).mpr ⟨['b'], rfl, rfl⟩, sides, hsides, hlenient, hstrict _ hpieces,
    hblanks _ (List.mem_cons_self ..) _ _ hcolon, hevents⟩

end PlanScript
