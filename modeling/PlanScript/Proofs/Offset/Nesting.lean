/-
PlanScript.Proofs.Offset.Nesting — scanning with counts of 32 bits.

The scans of the library count brackets without a bound. Here the counts are
32-bit numbers, so opening one more bracket can be a breach, and places in a
text are byte offsets into it. A text is `Shallow` when no scan of it opens
too many brackets at once; every part of it that starts outside a literal is
shallow as well (`Shallow.of_append`), since a scan of the part runs below
the scan of the whole.

On a shallow text nothing breaches, and each search gives what the library
gives by cutting the text: `findOffset_eq` for the first place with a
property, `checkNesting_eq`, `closingOffset_eq` and `tokenize_eq` for the
rest.
-/
import PlanScript.Proofs.Offset.Basic
import PlanScript.Proofs.Nesting.Matching

namespace PlanScript

/-! ## 1. Shallow texts -/

/-- At no point of a scan of the text from a state are `2 ^ 32` brackets of
one kind open. -/
def ShallowFrom (s : ScanState) (t : Text) : Prop :=
  ∀ u, u <+: t → ∀ m, s.after? u = some m → ∀ b, m.depth.count b < UInt32.size

/-- At no point of a scan of the text are `2 ^ 32` brackets of one kind
open. -/
def Shallow (t : Text) : Prop := ShallowFrom {} t

theorem ShallowFrom.lt {s : ScanState} {t : Text} (h : ShallowFrom s t) (b : Bracket) :
    s.depth.count b < UInt32.size :=
  h [] List.nil_prefix s rfl b

theorem ShallowFrom.of_step {s next : ScanState} {c : Char} {t : Text}
    (h : ShallowFrom s (c :: t)) (hstep : s.step c = .ok next) : ShallowFrom next t := by
  intro u hu m hm
  refine h (c :: u) (List.cons_prefix_cons.mpr ⟨rfl, hu⟩) m ?_
  rw [ScanState.after?_cons_of_step hstep, hm]

theorem Shallow.of_append_left {u v : Text} (h : Shallow (u ++ v)) : Shallow u :=
  fun w hw => h w (hw.trans (List.prefix_append u v))

/-- A part of a shallow text is shallow when it starts outside every
literal: a scan of the part runs below the scan of the whole. -/
theorem Shallow.of_append {u v : Text} (h : Shallow (u ++ v)) {m : ScanState}
    (hm : ({} : ScanState).after? u = some m) (hquote : m.quote = none) : Shallow v := by
  intro w hw k hk b
  have habove : m = ({} : ScanState).above m.depth := by
    have hescaped := ScanState.escaped_of_after? hm (fun _ => rfl) hquote
    obtain ⟨d, q, e⟩ := m
    obtain rfl : q = none := hquote
    obtain rfl : e = false := hescaped
    rfl
  have hwhole : ({} : ScanState).after? (u ++ w) = some (k.above m.depth) := by
    rw [ScanState.after?_append_of_eq hm, habove]
    exact ScanState.after?_above hk m.depth
  have hcount := h (u ++ w) ((List.prefix_append_right_inj u).mpr hw) _ hwhole b
  simp only [ScanState.above, Depth.count_add] at hcount
  omega

theorem Shallow.of_plain_append {u v : Text} (hu : ∀ c ∈ u, isPlain c = true)
    (h : Shallow (u ++ v)) : Shallow v :=
  h.of_append (ScanState.after?_of_plain hu rfl) rfl

theorem Shallow.trim {t : Text} (h : Shallow t) : Shallow t.trim := by
  obtain ⟨w₁, w₂, h₁, _, ht⟩ := Text.exists_eq_append_trim t
  rw [ht, List.append_assoc] at h
  have hblank : ∀ c ∈ w₁, isPlain c = true := fun c hc =>
    isPlain_of_isBlank ((Text.allBlank_iff w₁).mp h₁ c hc)
  exact (h.of_plain_append hblank).of_append_left

/-- A cut at a place outside every literal, behind a plain character, leaves
shallow texts. -/
theorem Shallow.of_cut {wanted : Place → Bool} {t left right : Text} (h : Shallow t)
    (hcut : cut wanted t = some (left, right))
    (hplain : ∀ p, wanted p = true → p.before.quote = none ∧ isPlain p.char = true) :
    Shallow left ∧ Shallow right := by
  obtain ⟨m, c, rfl, hm, hc⟩ := place_of_cutFrom hcut
  obtain ⟨hquote, hchar⟩ := hplain _ hc
  refine ⟨h.of_append_left, (h.of_append hm hquote).of_plain_append (u := [c]) ?_⟩
  intro d hd
  rwa [List.mem_singleton.mp hd]

/-- The body of the group that a shallow text starts with is shallow. -/
theorem Shallow.of_group {t : Text} (h : Shallow t) {g : Group} (hg : Group.ofText? t = some g) :
    Shallow g.body := by
  rw [eq_append_of_ofText? hg] at h
  have hopen := ScanState.step_opener (s := {}) rfl g.bracket
  have hinside : ({} : ScanState).after? [g.bracket.opener]
      = some { depth := Depth.inside g.bracket } := ScanState.after?_cons_of_step hopen []
  exact (h.of_append (u := [g.bracket.opener]) hinside rfl).of_append_left

theorem Shallow.of_enclosed {b : Bracket} {t body : Text} (h : Shallow t)
    (hbody : enclosed? b t = some body) : Shallow body :=
  h.of_group (group_of_enclosed? hbody)

/-- The arguments of a shallow list are shallow. -/
theorem Shallow.of_mem_splitArguments {t : Text} {args : List Text} (h : Shallow t)
    (hargs : splitArguments t = .ok args) : ∀ a ∈ args, Shallow a := by
  refine forall_mem_splitArguments (P := Shallow) (fun hjoin hu => ?_) (fun hu => hu.trim) hargs h
  have hright := (hjoin.of_append hu rfl).of_plain_append (u := [',']) (List.all_eq_true.mp rfl)
  exact ⟨hjoin.of_append_left, hright⟩

theorem count_le_of_step {s next : ScanState} {c : Char} (h : s.step c = .ok next) (b : Bracket) :
    next.depth.count b ≤ s.depth.count b + 1 := by
  cases hquote : s.quote with
  | some q =>
    have hdepth : next.depth = s.depth := by
      simp only [ScanState.step, hquote] at h
      grind
    rw [hdepth]
    exact Nat.le_succ _
  | none =>
    rcases char_cases c with hc | hc | ⟨a, rfl⟩ | ⟨a, rfl⟩
    · rw [ScanState.step_of_plain hquote hc] at h
      cases h
      exact Nat.le_succ _
    · rw [ScanState.step_of_quote hquote hc] at h
      cases h
      exact Nat.le_succ _
    · rw [ScanState.step_opener hquote] at h
      cases h
      simp only [Depth.count_raise]
      split <;> omega
    · rw [ScanState.step_closer hquote] at h
      cases hlow : s.depth.lower? a with
      | none => simp [hlow] at h
      | some d =>
        simp only [hlow] at h
        cases h
        rw [(Depth.lower?_eq_some_iff _ _ _).mp hlow, Depth.count_raise]
        simp only
        omega

theorem count_le_of_after? {s last : ScanState} {t : Text} (h : s.after? t = some last)
    (b : Bracket) : last.depth.count b ≤ s.depth.count b + t.length := by
  induction t generalizing s with
  | nil =>
    cases h
    exact Nat.le_refl _
  | cons c t ih =>
    obtain ⟨next, hstep, hrest⟩ := ScanState.step_of_after?_cons h
    have hnext := count_le_of_step hstep b
    have hlast := ih hrest
    rw [List.length_cons]
    omega

/-- A text opens at most as many brackets as it has characters. -/
theorem shallow_of_length_lt {t : Text} (h : t.length < UInt32.size) : Shallow t := by
  intro u hu m hm b
  have hcount := count_le_of_after? hm b
  have hlength := hu.length_le
  have hzero : ({} : ScanState).depth.count b = 0 := by cases b <;> rfl
  omega

namespace Offset

/-! ## 2. One step -/

/-- One more open bracket of a kind, counted in 32 bits. -/
def raise (d : Depth) (b : Bracket) : Checked Depth :=
  if d.count b + 1 < UInt32.size then .ok (d.raise b) else .error (.depth b)

/-- The state after a character that stands at a byte offset. -/
def advance (s : ScanState) (c : Char) (offset : Nat) :
    Checked (Except NestingError ScanState) :=
  match s.quote, Bracket.ofOpener? c with
  | none, some b => do return .ok { s with depth := ← raise s.depth b }
  | _, _ => return s.advance c offset

theorem advance_eq {s : ScanState} {c : Char} {t : Text} (h : ShallowFrom s (c :: t))
    (offset : Nat) : advance s c offset = .ok (s.advance c offset) := by
  unfold advance
  split
  · next b hquote hopen =>
    rw [Bracket.ofOpener?_eq_some_iff] at hopen
    subst hopen
    have hstep := ScanState.step_opener hquote b
    have hlt := (h.of_step hstep).lt b
    simp only [Depth.count_raise, if_true] at hlt
    rw [ScanState.advance_of_step hstep, raise, if_pos hlt]
    rfl
  · rfl

/-! ## 3. Whole scans -/

/-- The state after a text that is scanned from a state and an offset on. -/
def runFrom (s : ScanState) (offset : Nat) : Text → Checked (Except NestingError ScanState)
  | [] => return .ok s
  | c :: rest => do
    match ← advance s c offset with
    | .ok next => runFrom next (offset + c.utf8Size) rest
    | .error e => return .error e

/-- Checks that every quote and bracket of a text is closed. -/
def checkNesting (t : Text) : Checked (Except NestingError Unit) := do
  match ← runFrom {} 0 t with
  | .ok last => return last.finish
  | .error e => return .error e

theorem runFrom_eq {s : ScanState} {t : Text} (h : ShallowFrom s t) (offset : Nat) :
    runFrom s offset t = .ok (PlanScript.runFrom s offset t) := by
  induction t generalizing s offset with
  | nil => rfl
  | cons c t ih =>
    rw [runFrom, PlanScript.runFrom, advance_eq h]
    cases hstep : s.step c with
    | ok next =>
      rw [ScanState.advance_of_step hstep]
      exact ih (h.of_step hstep) _
    | error b =>
      rw [ScanState.advance_of_step_error hstep]
      rfl

theorem checkNesting_eq {t : Text} (h : Shallow t) :
    checkNesting t = .ok (PlanScript.checkNesting t) := by
  rw [checkNesting, PlanScript.checkNesting, runFrom_eq h]
  cases PlanScript.runFrom {} 0 t <;> rfl

/-! ## 4. The first place with a property -/

/-- The byte offset of the first place with a property. -/
def findOffset (wanted : Visit → Checked Bool) (s : ScanState) (offset : Nat) :
    Text → Checked (Option Nat)
  | [] => return none
  | c :: rest => do
    let next ← advance s c offset
    if ← wanted ⟨offset, c, s⟩ then return some offset
    match next with
    | .ok next => findOffset wanted next (offset + c.utf8Size) rest
    | .error _ => return none

/-- A property that does not look at the neighbours of a place. -/
def sees (wanted : Place → Bool) (v : Visit) : Checked Bool :=
  return wanted ⟨v.before, none, v.char, none⟩

/-- The first place is the one that a cut is made at, if the property can be
decided at every place of the scan. -/
theorem findOffset_eq {wanted : Visit → Checked Bool} {place : Place → Bool} {s : ScanState}
    {t : Text} (ht : ShallowFrom s t) (offset : Nat) (previous : Option Char)
    (h : ∀ left c right m, t = left ++ c :: right → s.after? left = some m →
      wanted ⟨offset + left.bytes, c, m⟩
        = .ok (place ⟨m, left.getLast?.or previous, c, right.head?⟩)) :
    findOffset wanted s offset t
      = .ok ((cutFrom place s previous t).map fun (left, _) => offset + left.bytes) := by
  induction t generalizing s offset previous with
  | nil => rfl
  | cons c t ih =>
    have hhere : wanted ⟨offset, c, s⟩ = .ok (place ⟨s, previous, c, t.head?⟩) :=
      h [] c t s rfl rfl
    rw [findOffset, cutFrom, advance_eq ht, ok_bind, hhere, ok_bind]
    split
    · simp
    · cases hstep : s.step c with
      | error b =>
        rw [ScanState.advance_of_step_error hstep]
        rfl
      | ok next =>
        rw [ScanState.advance_of_step hstep]
        have hrest := ih (ht.of_step hstep) (offset + c.utf8Size) (some c) ?_
        · simp only [hrest, Option.map_map]
          congr 2
          funext sides
          simp [Nat.add_assoc]
        · intro left d right m hsplit hm
          have hthere := h (c :: left) d right m (by rw [hsplit]; rfl)
            (by rw [ScanState.after?_cons_of_step hstep, hm])
          rwa [Text.bytes_cons, ← Nat.add_assoc, getLast?_cons_or] at hthere

theorem findOffset_sees {place : Place → Bool} (hlocal : IsLocal place) {s : ScanState} {t : Text}
    (ht : ShallowFrom s t) (offset : Nat) (previous : Option Char) :
    findOffset (sees place) s offset t
      = .ok ((cutFrom place s previous t).map fun (left, _) => offset + left.bytes) := by
  refine findOffset_eq ht offset previous fun left c right m _ _ => ?_
  rw [hlocal]
  rfl

/-! ## 5. Groups -/

/-- The byte offset of the bracket that closes the group a text starts
with. -/
def closingOffset : Text → Checked (Option Nat)
  | [] => return none
  | c :: rest => do
    match Bracket.ofOpener? c, ← advance {} c 0 with
    | some b, .ok inside => findOffset (sees (·.closes b)) inside c.utf8Size rest
    | _, _ => return none

theorem isLocal_closes (b : Bracket) : IsLocal (·.closes b) := fun _ _ _ _ => rfl

theorem closingOffset_eq {t : Text} (h : Shallow t) :
    closingOffset t = .ok (closingOffset? t) := by
  cases t with
  | nil => rfl
  | cons c t =>
    rw [closingOffset, advance_eq h, ok_bind, closingOffset?, Group.ofText?]
    cases hopen : Bracket.ofOpener? c with
    | none => rfl
    | some b =>
      obtain rfl := (Bracket.ofOpener?_eq_some_iff c b).mp hopen
      have hstep := ScanState.step_opener (s := {}) rfl b
      rw [ScanState.advance_of_step hstep]
      simp only
      rw [findOffset_sees (isLocal_closes b) (h.of_step hstep) _ (some b.opener),
        b.utf8Size_opener]
      simp [Depth.inside, Function.comp_def]

/-! ## 6. Arguments -/

/-- The arguments so far with the trimmed run behind them, unless that is
blank. -/
def pushArgument (arguments : List Text) (run : Text) : List Text :=
  if run.trim.isEmpty then arguments else arguments ++ [run.trim]

/-- The arguments of a list, scanning from a state and an offset on. The run
at hand began at the byte offset `start` of the text. -/
def argumentsFrom (t : Text) (s : ScanState) (arguments : List Text) (start offset : Nat) :
    Text → Checked (Except NestingError (List Text))
  | [] => do
    match s.finish with
    | .ok () => return .ok (pushArgument arguments (← sliceFrom t start))
    | .error e => return .error e
  | c :: rest => do
    if c = ',' && s.isTopLevel then
      let run ← slice t start offset
      argumentsFrom t s (pushArgument arguments run) (offset + 1) (offset + c.utf8Size) rest
    else
      match ← advance s c offset with
      | .ok next => argumentsFrom t next arguments start (offset + c.utf8Size) rest
      | .error e => return .error e

/-- The arguments of an argument list. -/
def tokenize (t : Text) : Checked (Except NestingError (List Text)) := argumentsFrom t {} [] 0 0 t

theorem pushArgument_append (arguments : List Text) (run : Text) (more : List Text) :
    pushArgument arguments run ++ (more.map Text.trim).filter (!·.isEmpty)
      = arguments ++ ((run :: more).map Text.trim).filter (!·.isEmpty) := by
  rw [pushArgument]
  split
  · next h => simp [h]
  · next h => simp [h]

theorem argumentsFrom_eq {s : ScanState} {rest : Text} (h : ShallowFrom s rest) (front run : Text)
    (arguments : List Text) :
    argumentsFrom (front ++ run ++ rest) s arguments front.bytes (front ++ run).bytes rest
      = .ok ((piecesFrom s (front ++ run).bytes rest).map fun (piece, more) =>
          arguments ++ (((run ++ piece) :: more).map Text.trim).filter (!·.isEmpty)) := by
  induction rest generalizing s front run arguments with
  | nil =>
    have hlast : sliceFrom (front ++ run ++ []) front.bytes = .ok run := by simp
    rw [argumentsFrom, piecesFrom]
    cases s.finish with
    | ok _ =>
      have hpush := pushArgument_append arguments run []
      rw [List.map_nil, List.filter_nil, List.append_nil] at hpush
      simp only [hlast, ok_bind, hpush]
      simp [bind, Except.bind, Except.map, pure, Except.pure]
    | error e => rfl
  | cons c rest ih =>
    rw [argumentsFrom, piecesFrom]
    split
    · next hcomma =>
      obtain ⟨hc, htop⟩ := Bool.and_eq_true_iff.mp hcomma
      obtain rfl := of_decide_eq_true hc
      have hquote : s.quote = none := by
        simp only [ScanState.isTopLevel, Bool.and_eq_true, Option.isNone_iff_eq_none] at htop
        exact htop.1
      have hstep := ScanState.step_of_plain hquote (show isPlain ',' = true from rfl)
      have hslice : slice (front ++ run ++ ',' :: rest) front.bytes (front ++ run).bytes
          = .ok run := slice_of_eq rfl rfl (Text.bytes_append front run)
      have hrest := ih (h.of_step hstep) (front ++ run ++ [',']) [] (pushArgument arguments run)
      have htext : front ++ run ++ [','] ++ [] ++ rest = front ++ run ++ ',' :: rest := by simp
      have hbytes : Text.bytes (front ++ run ++ [',']) = (front ++ run).bytes + 1 := by
        rw [Text.bytes_append]
        rfl
      rw [htext, List.append_nil, hbytes] at hrest
      rw [hslice, ok_bind, show ','.utf8Size = 1 from rfl, hrest, ScanState.advance_of_step hstep]
      simp only [bind, Except.bind]
      cases piecesFrom s ((front ++ run).bytes + 1) rest with
      | error e => rfl
      | ok pieces =>
        have hpush := pushArgument_append arguments run (pieces.1 :: pieces.2)
        simp only [Except.map, pure, Except.pure, List.nil_append, List.append_nil, hpush]
    · next hcomma =>
      rw [advance_eq h]
      cases hstep : s.step c with
      | error b =>
        rw [ScanState.advance_of_step_error hstep]
        rfl
      | ok next =>
        rw [ScanState.advance_of_step hstep]
        have hrest := ih (h.of_step hstep) front (run ++ [c]) arguments
        have htext : front ++ (run ++ [c]) ++ rest = front ++ run ++ c :: rest := by simp
        have hbytes : Text.bytes (front ++ (run ++ [c])) = (front ++ run).bytes + c.utf8Size := by
          simp [Nat.add_assoc]
        rw [htext, hbytes] at hrest
        simp only [hrest, bind, Except.bind]
        cases piecesFrom next ((front ++ run).bytes + c.utf8Size) rest with
        | error e => rfl
        | ok pieces => simp [Except.map, pure, Except.pure]

theorem tokenize_eq {t : Text} (h : Shallow t) : tokenize t = .ok (splitArguments t) := by
  have hrun : argumentsFrom t {} [] 0 0 t = _ := argumentsFrom_eq h [] [] []
  rw [tokenize, hrun, splitArguments, pieces]
  simp only [bind, Except.bind]
  cases hpieces : piecesFrom {} 0 t with
  | error e => simp [hpieces, Except.map]
  | ok pieces => simp [hpieces, Except.map, pure, Except.pure]

end Offset

end PlanScript
