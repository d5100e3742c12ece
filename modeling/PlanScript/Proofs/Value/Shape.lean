/-
PlanScript.Proofs.Value.Shape — which texts are read as which values.

A value has one of four shapes, or none: a format literal, a literal, a square
group, a curly group. The shapes are described without the scans that find
them (`IsFormatLiteral`, `IsLiteral`, `IsGroup`), and each test of the
classifier is right about its shape (`isFormat_iff`, `body?_eq_some_iff`,
`enclosed?_eq_some_iff`). Only the test for groups needs the text to be well
nested.

`Reads options t result` says what is read from a text by its shape. It holds
of one result for each well nested text, which is what the classifier gives
(`classify_eq_iff_reads`), so each kind of value comes from its own shape
(`classify_by_shape`).
-/
import PlanScript.Proofs.Value.Elements

namespace PlanScript

/-! ## 1. Shapes -/

/-- The text is one literal with this body. -/
def IsLiteral (t body : Text) : Prop :=
  ∃ q, isQuote q = true ∧ Literal.Body q body ∧ t = q :: body ++ [q]

/-- The text is `f` or `F` and one literal. -/
def IsFormatLiteral (t : Text) : Prop :=
  ∃ c literal body, (c = 'f' ∨ c = 'F') ∧ IsLiteral literal body ∧ t = c :: literal

/-- The text is one group of a kind: a body that passes the nesting check,
between its brackets. -/
def IsGroup (b : Bracket) (t body : Text) : Prop :=
  t = b.opener :: body ++ [b.closer] ∧ checkNesting body = .ok ()

theorem body?_eq_some_iff (t body : Text) : Literal.body? t = some body ↔ IsLiteral t body := by
  constructor
  · intro h
    obtain ⟨⟨inner, rest⟩, hsplit, hwhole⟩ := Option.bind_eq_some_iff.mp h
    obtain ⟨hrest, hinner⟩ := Option.ite_none_right_eq_some.mp hwhole
    obtain rfl : rest = [] := List.isEmpty_iff.mp hrest
    obtain rfl : inner = body := Option.some.inj hinner
    cases t with
    | nil => contradiction
    | cons q t =>
      obtain ⟨hq, huntil⟩ := Option.ite_none_right_eq_some.mp hsplit
      obtain ⟨hbody, rfl⟩ := Literal.body_of_untilQuote huntil
      exact ⟨q, hq, hbody, rfl⟩
  · rintro ⟨q, hq, hbody, rfl⟩
    exact Literal.body?_literal hq hbody

theorem isFormat_iff (t : Text) : Literal.isFormat t = true ↔ IsFormatLiteral t := by
  cases t with
  | nil => simp [Literal.isFormat, IsFormatLiteral]
  | cons c rest =>
    simp only [Literal.isFormat, Bool.and_eq_true, Bool.or_eq_true, decide_eq_true_eq,
      Option.isSome_iff_exists, body?_eq_some_iff]
    constructor
    · intro h
      obtain ⟨hc, body, hbody⟩ := h
      exact ⟨c, rest, body, hc, hbody, rfl⟩
    · intro h
      obtain ⟨d, literal, body, hd, hbody, heq⟩ := h
      obtain ⟨rfl, rfl⟩ := List.cons.inj heq
      exact ⟨hd, body, hbody⟩

/-- In a well nested text, the brackets at both ends are found to belong
together exactly when the text between them passes the nesting check. -/
theorem enclosed?_eq_some_iff {t : Text} (h : WellNested allKinds t) (b : Bracket) (body : Text) :
    enclosed? b t = some body ↔ IsGroup b t body := by
  constructor
  · intro hbody
    exact ⟨eq_append_of_enclosed? hbody,
      (checkNesting_eq_ok_iff body).mpr (h.of_enclosed hbody).balanced⟩
  · rintro ⟨rfl, hbody⟩
    exact enclosed?_group ((checkNesting_eq_ok_iff body).mp hbody) b

theorem IsLiteral.not_isFormat {t body : Text} (h : IsLiteral t body) :
    Literal.isFormat t = false := by
  obtain ⟨q, hq, _, rfl⟩ := h
  exact Literal.isFormat_of_isQuote hq _

/-- What a body stands for is no longer than the body. -/
theorem length_unescape_le (body : Text) : (Literal.unescape body).length ≤ body.length := by
  fun_induction Literal.unescape body <;> grind

/-- No literal stands for its own text. -/
theorem IsLiteral.unescape_ne {t body : Text} (h : IsLiteral t body) :
    Literal.unescape body ≠ t := by
  obtain ⟨q, _, _, rfl⟩ := h
  intro heq
  have hle := length_unescape_le body
  rw [heq, List.length_append, List.length_cons, List.length_singleton] at hle
  omega

/-! ## 2. Reading by shape -/

/-- None of the four shapes. -/
structure IsShapeless (t : Text) : Prop where
  format : ¬ IsFormatLiteral t
  literal : ∀ body, ¬ IsLiteral t body
  square : ∀ body, ¬ IsGroup .square t body
  curly : ∀ body, ¬ IsGroup .curly t body

/-- What is read from a text, by its shape. -/
inductive Reads (options : Options) (t : Text) : Except LiteralError Value → Prop
  | format : IsFormatLiteral t → Reads options t (.ok (.string t))
  | literal {body : Text} : IsLiteral t body → Reads options t (.ok (.string (Literal.unescape body)))
  | list {body : Text} {items : List Text} : IsGroup .square t body →
    splitArguments body = .ok items → Reads options t (.ok (.list items))
  | dict {body : Text} {entries strings skipped : List Text} : IsGroup .curly t body →
    splitArguments body = .ok entries → readEntries options entries = .ok (strings, skipped) →
    Reads options t (.ok (.dict strings))
  | refused {body : Text} {entries : List Text} {e : LiteralError} : IsGroup .curly t body →
    splitArguments body = .ok entries → readEntries options entries = .error e →
    Reads options t (.error e)
  | plain : IsShapeless t → Reads options t (.ok (.plain t))

variable {options : Options} {t : Text}

/-- Every text has a shape or none, and so a result. -/
theorem exists_reads (options : Options) (t : Text) : ∃ result, Reads options t result := by
  by_cases hformat : IsFormatLiteral t
  · exact ⟨_, .format hformat⟩
  · by_cases hliteral : ∃ body, IsLiteral t body
    · obtain ⟨body, hbody⟩ := hliteral
      exact ⟨_, .literal hbody⟩
    · by_cases hsquare : ∃ body, IsGroup .square t body
      · obtain ⟨body, hbody⟩ := hsquare
        obtain ⟨items, hitems⟩ := (exists_splitArguments_iff body).mpr hbody.2
        exact ⟨_, .list hbody hitems⟩
      · by_cases hcurly : ∃ body, IsGroup .curly t body
        · obtain ⟨body, hbody⟩ := hcurly
          obtain ⟨entries, hentries⟩ := (exists_splitArguments_iff body).mpr hbody.2
          cases hread : readEntries options entries with
          | ok r => exact ⟨_, .dict hbody hentries hread⟩
          | error e => exact ⟨_, .refused hbody hentries hread⟩
        · exact ⟨_, .plain ⟨hformat, not_exists.mp hliteral, not_exists.mp hsquare,
            not_exists.mp hcurly⟩⟩

/-- A text is kept as it stands when none of the tests finds a shape. -/
theorem readTrimmed_eq_plain_iff (options : Options) (t s : Text) (skipped : List Text) :
    Value.readTrimmed options t = .ok (.plain s, skipped) ↔
      Literal.isFormat t = false ∧ Literal.body? t = none ∧ enclosed? .square t = none ∧
        enclosed? .curly t = none ∧ s = t ∧ skipped = [] := by
  unfold Value.readTrimmed
  split
  · next hformat => simp [hformat]
  · next hformat =>
    split
    · next hbody => simp [hbody]
    · next hbody =>
      split
      · next body hsquare =>
        cases splitElements body <;> simp [hsquare, Except.map]
      · next hsquare =>
        split
        · next body hcurly =>
          cases splitElements body with
          | error e => simp [hcurly, bind, Except.bind]
          | ok entries =>
            cases hread : readEntries options entries <;>
              simp [hcurly, hread, bind, Except.bind, pure, Except.pure]
        · next hcurly => simp [hformat, hbody, hsquare, hcurly, eq_comm]

/-- A well nested text is classified as it is read. -/
theorem Reads.classify_eq {result : Except LiteralError Value} (h : Reads options t result)
    (ht : WellNested allKinds t) (htrimmed : Text.Trimmed t) :
    Value.classify options t = result := by
  have hread : Value.read options t = Value.readTrimmed options t := by rw [Value.read, htrimmed]
  cases h with
  | format hformat =>
    rw [Value.classify, hread, Value.readTrimmed, (isFormat_iff t).mpr hformat]
    rfl
  | literal hliteral =>
    rw [Value.classify, hread, Value.readTrimmed, hliteral.not_isFormat,
      (body?_eq_some_iff t _).mpr hliteral]
    rfl
  | list hgroup hitems =>
    obtain ⟨rfl, hbody⟩ := hgroup
    have hlist := read_square options ((checkNesting_eq_ok_iff _).mp hbody)
    rw [splitElements_of_ok hitems] at hlist
    exact congrArg (Except.map Prod.fst) hlist
  | dict hgroup hentries hstrings =>
    obtain ⟨rfl, hbody⟩ := hgroup
    have hdict := read_curly options ((checkNesting_eq_ok_iff _).mp hbody)
    simp only [splitElements_of_ok hentries, bind, Except.bind, hstrings] at hdict
    exact congrArg (Except.map Prod.fst) hdict
  | refused hgroup hentries herror =>
    obtain ⟨rfl, hbody⟩ := hgroup
    have hdict := read_curly options ((checkNesting_eq_ok_iff _).mp hbody)
    simp only [splitElements_of_ok hentries, bind, Except.bind, herror] at hdict
    exact congrArg (Except.map Prod.fst) hdict
  | plain hnone =>
    have hformat : Literal.isFormat t = false := by
      rw [← Bool.not_eq_true, isFormat_iff]
      exact hnone.format
    have hliteral : Literal.body? t = none :=
      Option.eq_none_iff_forall_ne_some.mpr fun body hbody =>
        hnone.literal body ((body?_eq_some_iff t body).mp hbody)
    have hsquare : enclosed? .square t = none :=
      Option.eq_none_iff_forall_ne_some.mpr fun body hbody =>
        hnone.square body ((enclosed?_eq_some_iff ht _ body).mp hbody)
    have hcurly : enclosed? .curly t = none :=
      Option.eq_none_iff_forall_ne_some.mpr fun body hbody =>
        hnone.curly body ((enclosed?_eq_some_iff ht _ body).mp hbody)
    have hplain := (readTrimmed_eq_plain_iff options t t []).mpr
      ⟨hformat, hliteral, hsquare, hcurly, rfl, rfl⟩
    rw [Value.classify, hread, hplain]
    rfl

theorem classify_trim (options : Options) (token : Text) :
    Value.classify options token.trim = Value.classify options token := by
  rw [Value.classify, Value.classify, Value.read, Value.read, Text.trimmed_trim]

theorem classify_eq_iff_reads {token : Text} (h : WellNested allKinds token.trim)
    (result : Except LiteralError Value) :
    Value.classify options token = result ↔ Reads options token.trim result := by
  rw [← classify_trim]
  constructor
  · intro hclassify
    obtain ⟨result', hreads⟩ := exists_reads options token.trim
    have heq := hreads.classify_eq h (Text.trimmed_trim token)
    rw [hclassify] at heq
    rwa [heq]
  · intro hreads
    exact hreads.classify_eq h (Text.trimmed_trim token)

/-- What is kept as it stands is kept so again. -/
theorem classify_plain_again {token s : Text} (h : Value.classify options token = .ok (.plain s))
    (options' : Options) : Value.classify options' s = .ok (.plain s) := by
  cases hread : Value.readTrimmed options token.trim with
  | error e =>
    rw [Value.classify, Value.read, hread] at h
    contradiction
  | ok r =>
    obtain ⟨value, skipped⟩ := r
    rw [Value.classify, Value.read, hread] at h
    obtain rfl : value = .plain s := Except.ok.inj h
    obtain ⟨hformat, hliteral, hsquare, hcurly, rfl, _⟩ :=
      (readTrimmed_eq_plain_iff options _ s skipped).mp hread
    have hagain := (readTrimmed_eq_plain_iff options' token.trim token.trim []).mpr
      ⟨hformat, hliteral, hsquare, hcurly, rfl, rfl⟩
    rw [classify_trim, Value.classify, Value.read, hagain]
    rfl

/-! ## 3. Each kind of value -/

section Kinds

variable {token : Text}

theorem classify_eq_string_iff (h : WellNested allKinds token.trim) (s : Text) :
    Value.classify options token = .ok (.string s) ↔
      IsFormatLiteral token.trim ∧ s = token.trim ∨
        ∃ body, IsLiteral token.trim body ∧ s = Literal.unescape body := by
  rw [classify_eq_iff_reads h]
  constructor
  · intro hreads
    cases hreads with
    | format hformat => exact .inl ⟨hformat, rfl⟩
    | literal hliteral => exact .inr ⟨_, hliteral, rfl⟩
  · rintro (⟨hformat, rfl⟩ | ⟨body, hliteral, rfl⟩)
    · exact .format hformat
    · exact .literal hliteral

/-- Only a format literal is a string as it stands. -/
theorem classify_eq_string_self_iff (h : WellNested allKinds token.trim) :
    Value.classify options token = .ok (.string token.trim) ↔ IsFormatLiteral token.trim := by
  rw [classify_eq_string_iff h]
  constructor
  · rintro (⟨hformat, _⟩ | ⟨body, hliteral, heq⟩)
    · exact hformat
    · exact absurd heq.symm hliteral.unescape_ne
  · intro hformat
    exact .inl ⟨hformat, rfl⟩

theorem classify_eq_list_iff (h : WellNested allKinds token.trim) (items : List Text) :
    Value.classify options token = .ok (.list items) ↔
      ∃ body, IsGroup .square token.trim body ∧ splitArguments body = .ok items := by
  rw [classify_eq_iff_reads h]
  constructor
  · intro hreads
    cases hreads with
    | list hgroup hitems => exact ⟨_, hgroup, hitems⟩
  · intro ⟨body, hgroup, hitems⟩
    exact .list hgroup hitems

theorem classify_eq_dict_iff (h : WellNested allKinds token.trim) (strings : List Text) :
    Value.classify options token = .ok (.dict strings) ↔
      ∃ body entries skipped, IsGroup .curly token.trim body ∧
        splitArguments body = .ok entries ∧ readEntries options entries = .ok (strings, skipped) := by
  rw [classify_eq_iff_reads h]
  constructor
  · intro hreads
    cases hreads with
    | dict hgroup hentries hread => exact ⟨_, _, _, hgroup, hentries, hread⟩
  · intro ⟨body, entries, skipped, hgroup, hentries, hread⟩
    exact .dict hgroup hentries hread

theorem classify_eq_error_iff (h : WellNested allKinds token.trim) (e : LiteralError) :
    Value.classify options token = .error e ↔
      options.lenientDicts = false ∧ ∃ body entries entry, IsGroup .curly token.trim body ∧
        splitArguments body = .ok entries ∧
        entries.find? (TopLevelFree ':' ·) = some entry ∧ e = .entryWithoutColon entry := by
  rw [classify_eq_iff_reads h]
  constructor
  · intro hreads
    cases hreads with
    | refused hgroup hentries hread =>
      obtain ⟨hstrict, entry, hfind, he⟩ := (readEntries_eq_error_iff options _ e).mp hread
      exact ⟨hstrict, _, _, entry, hgroup, hentries, hfind, he⟩
  · intro ⟨hstrict, body, entries, entry, hgroup, hentries, hfind, he⟩
    have hread := (readEntries_eq_error_iff options entries e).mpr ⟨hstrict, entry, hfind, he⟩
    exact .refused hgroup hentries hread

theorem classify_eq_plain_iff (h : WellNested allKinds token.trim) (s : Text) :
    Value.classify options token = .ok (.plain s) ↔ s = token.trim ∧ IsShapeless token.trim := by
  rw [classify_eq_iff_reads h]
  constructor
  · intro hreads
    cases hreads with
    | plain hnone => exact ⟨rfl, hnone⟩
  · rintro ⟨rfl, hnone⟩
    exact .plain hnone

/-- A square group is always a list. -/
theorem exists_classify_list_iff (h : WellNested allKinds token.trim) :
    (∃ items, Value.classify options token = .ok (.list items)) ↔
      ∃ body, IsGroup .square token.trim body := by
  simp only [classify_eq_list_iff h]
  constructor
  · intro ⟨_, body, hgroup, _⟩
    exact ⟨body, hgroup⟩
  · intro ⟨body, hgroup⟩
    obtain ⟨items, hitems⟩ := (exists_splitArguments_iff body).mpr hgroup.2
    exact ⟨items, body, hgroup, hitems⟩

/-- A curly group is always a dict, or refused. -/
theorem exists_classify_dict_iff (h : WellNested allKinds token.trim) :
    (∃ strings, Value.classify options token = .ok (.dict strings)) ∨
        (∃ e, Value.classify options token = .error e) ↔
      ∃ body, IsGroup .curly token.trim body := by
  simp only [classify_eq_iff_reads h]
  constructor
  · rintro (⟨_, hreads⟩ | ⟨_, hreads⟩)
    · cases hreads with
      | dict hgroup _ _ => exact ⟨_, hgroup⟩
    · cases hreads with
      | refused hgroup _ _ => exact ⟨_, hgroup⟩
  · intro ⟨body, hgroup⟩
    obtain ⟨entries, hentries⟩ := (exists_splitArguments_iff body).mpr hgroup.2
    cases hread : readEntries options entries with
    | ok r => exact .inl ⟨r.1, .dict hgroup hentries hread⟩
    | error e => exact .inr ⟨e, .refused hgroup hentries hread⟩

end Kinds

/-- The classifier follows the shape of a text, after trimming.

* A format literal is a string as it stands; a literal is the string that its
  body stands for; nothing else is a string.
* A square group is the list of its arguments, and a curly one the dict of its
  entries, or with strict options the error that names its first entry without
  a colon.
* All else is kept as it stands. What is kept so, of any text, is kept so
  again, whatever the options. -/
theorem classify_by_shape (options : Options) (token : Text) :
    (WellNested allKinds token.trim →
      (Value.classify options token = .ok (.string token.trim) ↔ IsFormatLiteral token.trim) ∧
      (∀ s, Value.classify options token = .ok (.string s) ↔
        IsFormatLiteral token.trim ∧ s = token.trim ∨
          ∃ body, IsLiteral token.trim body ∧ s = Literal.unescape body) ∧
      (∀ items, Value.classify options token = .ok (.list items) ↔
        ∃ body, IsGroup .square token.trim body ∧ splitArguments body = .ok items) ∧
      ((∃ items, Value.classify options token = .ok (.list items)) ↔
        ∃ body, IsGroup .square token.trim body) ∧
      (∀ strings, Value.classify options token = .ok (.dict strings) ↔
        ∃ body entries skipped, IsGroup .curly token.trim body ∧
          splitArguments body = .ok entries ∧ readEntries options entries = .ok (strings, skipped)) ∧
      (∀ e, Value.classify options token = .error e ↔
        options.lenientDicts = false ∧ ∃ body entries entry, IsGroup .curly token.trim body ∧
          splitArguments body = .ok entries ∧
          entries.find? (TopLevelFree ':' ·) = some entry ∧ e = .entryWithoutColon entry) ∧
      ((∃ strings, Value.classify options token = .ok (.dict strings)) ∨
          (∃ e, Value.classify options token = .error e) ↔
        ∃ body, IsGroup .curly token.trim body) ∧
      ∀ s, Value.classify options token = .ok (.plain s) ↔
        s = token.trim ∧ IsShapeless token.trim) ∧
    ∀ s, Value.classify options token = .ok (.plain s) →
      ∀ options', Value.classify options' s = .ok (.plain s) := by
  constructor
  · intro h
    exact ⟨classify_eq_string_self_iff h, classify_eq_string_iff h, classify_eq_list_iff h,
      exists_classify_list_iff h, classify_eq_dict_iff h, classify_eq_error_iff h,
      exists_classify_dict_iff h, classify_eq_plain_iff h⟩
  · intro s hplain options'
    exact classify_plain_again hplain options'

/-- Two groups, and two literals, have no shape together, though brackets and
quotes stand at their ends. One literal with an escaped quote has one. -/
theorem classify_by_shape_near_misses :
    WellNested allKinds (Text.trim " [1][0] ".toList) ∧ IsShapeless "[1][0]".toList ∧
    (∀ options, Value.classify options "[1][0]".toList = .ok (.plain "[1][0]".toList)) ∧
    WellNested allKinds (Text.trim "'a' 'b'".toList) ∧ IsShapeless "'a' 'b'".toList ∧
    WellNested allKinds (Text.trim "f'a\\'b'".toList) ∧
      Value.classify {} "f'a\\'b'".toList = .ok (.string "f'a\\'b'".toList) := by
  have hone : WellNested allKinds ['1'] := wellNested_of_plain (by decide)
  have hzero : WellNested allKinds ['0'] := wellNested_of_plain (by decide)
  have hgroups : WellNested allKinds (Text.trim " [1][0] ".toList) :=
    .group (b := .square) trivial hone (.group (b := .square) trivial hzero .nil)
  have hletter : ∀ c, c = 'a' ∨ c = 'b' → Literal.Body '\x27' [c] := by
    rintro c (rfl | rfl) <;> exact .plain (by decide) (by decide) .nil
  have hliterals : WellNested allKinds (Text.trim "'a' 'b'".toList) :=
    .literal (q := '\x27') rfl (hletter 'a' (.inl rfl))
      ((wellNested_of_plain (t := [' ']) (by decide)).append
        (.literal (q := '\x27') rfl (hletter 'b' (.inr rfl)) .nil))
  have hbody : Literal.Body '\x27' "a\\'b".toList :=
    .plain (by decide) (by decide) (.escaped '\x27' (hletter 'b' (.inr rfl)))
  have hformat : WellNested allKinds (Text.trim "f'a\\'b'".toList) :=
    (wellNested_of_plain (t := ['f']) (by decide)).append
      (.literal (q := '\x27') rfl hbody .nil)
  obtain ⟨hkinds, hagain⟩ := classify_by_shape {} " [1][0] ".toList
  have hplain : Value.classify {} " [1][0] ".toList = .ok (.plain "[1][0]".toList) := rfl
  have htwo : Value.classify {} "'a' 'b'".toList = .ok (.plain "'a' 'b'".toList) := rfl
  exact ⟨hgroups, (((hkinds hgroups).2.2.2.2.2.2.2 _).mp hplain).2, hagain _ hplain, hliterals,
    ((((classify_by_shape {} _).1 hliterals).2.2.2.2.2.2.2 _).mp htwo).2, hformat,
    ((classify_by_shape {} _).1 hformat).1.mpr
      ⟨'f', _, _, .inl rfl, ⟨'\x27', rfl, hbody, rfl⟩, rfl⟩⟩

end PlanScript
