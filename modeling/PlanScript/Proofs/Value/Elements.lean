/-
PlanScript.Proofs.Value.Elements — the elements of a list or dict, and when
a value cannot be read.

What stands between two commas of a well nested list is well nested itself
(`WellNested.of_mem_splitArguments`), so no element fails where the list
does not.

A value has two ways to fail. The list or dict body between its brackets is
not balanced; or the value is a dict, entries without a colon are not
skipped, and there is one (`exists_of_read_eq_error`). The error then names
the first such entry (`readEntries_eq_error_iff`). On well nested text only
the second can happen, and `IsDictLacking` says which entry is named, in
terms of the written dict (`read_eq_error_iff`).
-/
import PlanScript.Proofs.Nesting.Matching
import PlanScript.Proofs.Value.Read

namespace PlanScript

/-! ## 1. Well nested elements -/

/-- The elements of a well nested list are well nested. -/
theorem WellNested.of_mem_splitArguments {t : Text} {args : List Text}
    (h : WellNested allKinds t) (hargs : splitArguments t = .ok args) :
    ∀ a ∈ args, WellNested allKinds a := by
  refine forall_mem_splitArguments (P := WellNested allKinds) (fun hjoin hu => ?_)
    (fun hu => hu.trim) hargs h
  obtain ⟨hleft, hright⟩ := hjoin.of_append hu
  exact ⟨hleft, hright.of_plain_append (u := [',']) (List.all_eq_true.mp rfl)⟩

/-! ## 2. Colons -/

/-- White space around a text hides no character of its top level. -/
theorem topLevelFree_trim_iff {c : Char} (hc : isBlank c = false) (t : Text) :
    TopLevelFree c t.trim ↔ TopLevelFree c t := by
  obtain ⟨w₁, w₂, h₁, h₂, ht⟩ := Text.exists_eq_append_trim t
  have havoid : ∀ {w : Text}, w.allBlank = true → ∀ s, Avoids (·.isTopLevelChar c) s w := by
    intro w hw
    refine avoids_of_forall_mem ?_
    intro d hd
    refine isTopLevelChar_of_ne ?_
    rintro rfl
    rw [(Text.allBlank_iff w).mp hw d hd] at hc
    contradiction
  have hstart : ({} : ScanState).after? w₁ = some {} :=
    ScanState.after?_of_plain (isPlain_of_allBlank h₁) rfl
  rw [topLevelFree_iff_avoids, topLevelFree_iff_avoids]
  constructor
  · intro h
    rw [ht, List.append_assoc]
    refine (havoid h₁ {}).append hstart (avoids_append_iff.mpr ⟨h, ?_⟩)
    intro m _
    exact havoid h₂ m
  · intro h
    rw [ht, List.append_assoc] at h
    exact (avoids_append_iff.mp ((avoids_append_iff.mp h).2 {} hstart)).1

/-- An entry is no key and value when no colon stands at its top level. -/
theorem splitEntry?_eq_none_iff (entry : Text) :
    splitEntry? entry = none ↔ TopLevelFree ':' entry := by
  rw [topLevelFree_iff_avoids, splitEntry?, Option.map_eq_none_iff]
  constructor
  · intro h
    exact avoids_of_cutFrom_eq_none (isLocal_isTopLevelChar ':') h
  · intro h
    exact cutFrom_eq_none h none

/-- Reading entries fails at the first one without a colon, unless these are
skipped. -/
theorem readEntries_eq_error_iff (options : Options) (entries : List Text) (e : LiteralError) :
    readEntries options entries = .error e ↔ options.lenientDicts = false ∧
      ∃ entry, entries.find? (TopLevelFree ':' ·) = some entry ∧ e = .entryWithoutColon entry := by
  induction entries with
  | nil => simp [readEntries, pure, Except.pure]
  | cons entry rest ih =>
    rw [readEntries, List.find?_cons]
    cases hsplit : splitEntry? entry with
    | some sides =>
      have hcolon : ¬ TopLevelFree ':' entry := by
        intro hfree
        rw [(splitEntry?_eq_none_iff entry).mpr hfree] at hsplit
        contradiction
      simp only [hcolon, decide_false, ← ih, bind, Except.bind]
      cases readEntries options rest <;> simp [pure, Except.pure]
    | none =>
      have hcolon := (splitEntry?_eq_none_iff entry).mp hsplit
      cases hlenient : options.lenientDicts with
      | false => simp [hcolon, throw, throwThe, MonadExceptOf.throw, eq_comm]
      | true =>
        have hok : readEntries options rest ≠ .error e := by
          intro herror
          rw [(ih.mp herror).1] at hlenient
          contradiction
        cases hrest : readEntries options rest with
        | ok r => simp [bind, Except.bind, pure, Except.pure]
        | error f => simpa [bind, Except.bind, hrest] using hok

/-! ## 3. Values that cannot be read -/

theorem mapError_eq_error_iff {ε ε' α : Type} (x : Except ε α) (f : ε → ε') (e : ε') :
    x.mapError f = .error e ↔ ∃ n, x = .error n ∧ e = f n := by
  cases x with
  | error n =>
    show Except.error (f n) = .error e ↔ _
    simp [eq_comm]
  | ok a =>
    show Except.ok a = .error e ↔ _
    simp

theorem splitElements_eq_error_iff (body : Text) (e : LiteralError) :
    splitElements body = .error e ↔ ∃ n, checkNesting body = .error n ∧ e = .nesting n := by
  simp only [splitElements, mapError_eq_error_iff, splitArguments_eq_error_iff]

/-- A value that cannot be read is a list or a dict. Its body is not balanced,
or it is a dict with an entry that cannot be read. -/
theorem exists_of_read_eq_error {options : Options} {source : Text} {e : LiteralError}
    (h : Value.read options source = .error e) :
    ∃ b body, b ≠ .round ∧ enclosed? b source.trim = some body ∧
      ((∃ n, checkNesting body = .error n ∧ e = .nesting n) ∨
        (b = .curly ∧ ∃ entries, splitArguments body = .ok entries ∧
          readEntries options entries = .error e)) := by
  unfold Value.read Value.readTrimmed at h
  split at h
  · contradiction
  · split at h
    · contradiction
    · split at h
      · next body hbody =>
        have helements := (map_eq_error_iff _ _ e).mp h
        have herror := (splitElements_eq_error_iff body e).mp helements
        exact ⟨.square, body, by decide, hbody, .inl herror⟩
      · split at h
        · next body hbody =>
          refine ⟨.curly, body, by decide, hbody, ?_⟩
          cases hsplit : splitArguments body with
          | error n =>
            have hn := (splitArguments_eq_error_iff body n).mp hsplit
            have helements : splitElements body = .error (.nesting n) :=
              (splitElements_eq_error_iff body _).mpr ⟨n, hn, rfl⟩
            simp only [helements, bind, Except.bind, Except.error.injEq] at h
            exact .inl ⟨n, hn, h.symm⟩
          | ok entries =>
            simp only [splitElements_of_ok hsplit, bind, Except.bind] at h
            refine .inr ⟨rfl, entries, rfl, ?_⟩
            cases hread : readEntries options entries with
            | error f => simpa [hread] using h
            | ok r => simp [hread, pure, Except.pure] at h
        · contradiction

/-! ## 4. Well nested values -/

/-- A piece of a dict body that makes no entry: it is not blank, and has no
colon at its top level. -/
def LacksColon (piece : Text) : Prop := piece.allBlank = false ∧ TopLevelFree ':' piece

instance (piece : Text) : Decidable (LacksColon piece) :=
  inferInstanceAs (Decidable (piece.allBlank = false ∧ TopLevelFree ':' piece))

/-- The first entry without a colon is the first piece that lacks one. -/
theorem find?_entries (pieces : List Text) :
    ((pieces.map Text.trim).filter (!·.isEmpty)).find? (TopLevelFree ':' ·)
      = (pieces.find? (LacksColon ·)).map Text.trim := by
  have hpiece : ∀ piece : Text,
      (!piece.trim.isEmpty) = true ∧ TopLevelFree ':' piece.trim ↔ LacksColon piece := by
    intro piece
    rw [topLevelFree_trim_iff (by decide), LacksColon, Bool.not_eq_true', ← Bool.not_eq_true,
      List.isEmpty_iff, Text.trim_eq_nil_iff, Bool.not_eq_true]
  rw [List.find?_filter, List.find?_map]
  simp only [Function.comp_def, decide_eq_true_eq, hpiece]

/-- The text is a dict, and the entry is the first piece of it that lacks a
colon. -/
def IsDictLacking (source entry : Text) : Prop :=
  ∃ body pieces piece, source = '{' :: body ++ ['}'] ∧ WellNested allKinds body ∧
    IsSplit body pieces ∧ pieces.find? (LacksColon ·) = some piece ∧ entry = piece.trim

/-- A well nested value cannot be read when it is a dict with a piece that
lacks a colon, and such pieces are not skipped. -/
theorem read_eq_error_iff {source : Text} (h : WellNested allKinds source)
    (hsource : Text.Trimmed source) (options : Options) (e : LiteralError) :
    Value.read options source = .error e ↔ options.lenientDicts = false ∧
      ∃ entry, IsDictLacking source entry ∧ e = .entryWithoutColon entry := by
  constructor
  · intro herror
    obtain ⟨b, body, _, hbody, hfail⟩ := exists_of_read_eq_error herror
    rw [hsource] at hbody
    have hnested := h.of_enclosed hbody
    rcases hfail with ⟨n, hn, _⟩ | ⟨rfl, entries, hentries, hread⟩
    · rw [(checkNesting_eq_ok_iff body).mpr hnested.balanced] at hn
      contradiction
    · obtain ⟨hstrict, entry, hfind, he⟩ := (readEntries_eq_error_iff options entries e).mp hread
      obtain ⟨pieces, hsplit, rfl⟩ := (splitArguments_eq_ok_iff body entries).mp hentries
      rw [find?_entries, Option.map_eq_some_iff] at hfind
      obtain ⟨piece, hpiece, rfl⟩ := hfind
      have hwhole : source = '{' :: body ++ ['}'] := eq_append_of_enclosed? hbody
      exact ⟨hstrict, _, ⟨body, pieces, piece, hwhole, hnested, hsplit, hpiece, rfl⟩, he⟩
  · rintro ⟨hstrict, entry, ⟨body, pieces, piece, rfl, hnested, hsplit, hpiece, rfl⟩, rfl⟩
    have hentries := (splitArguments_eq_ok_iff body _).mpr ⟨pieces, hsplit, rfl⟩
    have hfind := find?_entries pieces
    rw [hpiece, Option.map_some] at hfind
    have hread := (readEntries_eq_error_iff options _ _).mpr ⟨hstrict, _, hfind, rfl⟩
    rw [read_curly options hnested.balanced, splitElements_of_ok hentries]
    simp only [bind, Except.bind, hread]

end PlanScript
