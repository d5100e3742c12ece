/-
PlanScript.Proofs.Nesting.Group — scanning a text between brackets.

A scan may start with brackets open already. It takes the same steps, and at
each place knows of those brackets as well (`scanFrom_above`). So a bracketed
text is scanned in four parts: the opening bracket, the body one bracket
deeper, the closing bracket, and the text behind it from the start again
(`scan_group`). Nothing between the opening bracket and the text behind the
closing one is at top level (`topLevel_group`).

With the laws of two parts (`scan_append` and those after it) this is how
scans are put together from scans of balanced texts (`scan_composes`).
-/
import PlanScript.Proofs.Nesting.Compose
import PlanScript.Proofs.Nesting.Matching

namespace PlanScript

/-! ## 1. Around a text -/

/-- The visit when some more brackets are open around its text. -/
def Visit.above (base : Depth) (v : Visit) : Visit := { v with before := v.before.above base }

/-- The visit when its text stands behind an opening bracket: one byte further
on, with one bracket of the kind more open. -/
def Visit.within (b : Bracket) (v : Visit) : Visit :=
  { v with offset := v.offset + 1, before := { v.before with depth := v.before.depth.raise b } }

theorem Depth.inside_add (b : Bracket) (d : Depth) : inside b + d = d.raise b := by
  cases b <;> simp [inside, raise, add_def, Nat.add_comm]

/-- One byte further on and inside a bracket is behind its opening one. -/
theorem Visit.shift_above (b : Bracket) (v : Visit) :
    (v.above (Depth.inside b)).shift 1 = v.within b := by
  rw [above, shift, within, ScanState.above, Depth.inside_add]

/-- A scan with more brackets open lists the same visits with those brackets
open around them. -/
theorem scanFrom_above {s last : ScanState} {t : Text} (h : s.after? t = some last)
    (base : Depth) (offset : Nat) :
    scanFrom (s.above base) offset t = (scanFrom s offset t).map (Visit.above base) := by
  induction t generalizing s offset with
  | nil => rfl
  | cons c t ih =>
    obtain ⟨next, hstep, hrest⟩ := ScanState.step_of_after?_cons h
    rw [scanFrom, scanFrom, ScanState.step_above hstep base, hstep, List.map_cons]
    simp only [ih hrest, Visit.above]

/-! ## 2. A group in front of a text -/

section Group

variable {body : Text} (hbody : Balanced body) (b : Bracket) (rest : Text)
include hbody

theorem scanFrom_inside :
    scanFrom { depth := Depth.inside b } 1 body = (scan body).map (Visit.within b) := by
  have hdeeper : scanFrom { depth := Depth.inside b } 0 body
      = (scan body).map (Visit.above (Depth.inside b)) := scanFrom_above hbody _ 0
  calc scanFrom { depth := Depth.inside b } (0 + 1) body
      = ((scan body).map (Visit.above (Depth.inside b))).map (Visit.shift 1) := by
        rw [scanFrom_add, hdeeper]
    _ = (scan body).map (Visit.within b) := by
        rw [List.map_map]
        exact List.map_congr_left fun v _ => v.shift_above b

/-- The visits of a group are those of its body, one bracket deeper, between
the visits of its brackets; behind it a scan starts again. -/
theorem scan_group :
    scan (b.opener :: (body ++ b.closer :: rest)) =
      ⟨0, b.opener, {}⟩ :: ((scan body).map (Visit.within b) ++
        ⟨body.bytes + 1, b.closer, { depth := Depth.inside b }⟩ ::
          (scan rest).map (Visit.shift (body.bytes + 2))) := by
  have hopen : scan (b.opener :: (body ++ b.closer :: rest)) = ⟨0, b.opener, {}⟩ ::
      scanFrom { depth := Depth.inside b } 1 (body ++ b.closer :: rest) := by
    rw [scan, scanFrom, ScanState.step_opener rfl, b.utf8Size_opener]
    rfl
  have hclose : ({ depth := Depth.inside b } : ScanState).step b.closer = .ok {} := by
    rw [ScanState.step_closer rfl, Depth.inside, Depth.lower?_raise]
  rw [hopen, scanFrom_append (hbody.after? (Depth.inside b)), scanFrom_inside hbody, scanFrom,
    hclose, b.utf8Size_closer, Nat.add_comm 1]
  simp only [scanFrom_start]

/-- Of a group, only the opening bracket is at top level. -/
theorem topLevel_group :
    topLevel (b.opener :: (body ++ b.closer :: rest)) =
      ⟨0, b.opener, {}⟩ :: (topLevel rest).map (Visit.shift (body.bytes + 2)) := by
  have hbodyNone : ((scan body).map (Visit.within b)).filter (·.before.isTopLevel) = [] := by
    rw [List.filter_eq_nil_iff]
    intro v hv
    obtain ⟨w, _, rfl⟩ := List.mem_map.mp hv
    rw [← w.shift_above b]
    simp [Visit.shift, Visit.above, isTopLevel_above_inside]
  have hclose : ({ depth := Depth.inside b } : ScanState).isTopLevel = false :=
    isTopLevel_above_inside b {}
  rw [topLevel, scan_group hbody, List.filter_cons_of_pos rfl, List.filter_append, hbodyNone,
    List.nil_append, List.filter_cons_of_neg (by simp [hclose]), List.filter_map, topLevel]
  rfl

end Group

/-! ## 3. Balanced cuts -/

/-- Scans are put together at the end of a balanced text and around it.

* Behind a balanced text a scan, its top level and the nesting check are those
  of the rest, further on.
* Between brackets a balanced text is scanned one bracket deeper, so that
  neither a character of it nor the closing bracket is at top level, and the
  closing bracket is found at its place. -/
theorem scan_composes {u : Text} (hu : checkNesting u = .ok ()) (v : Text) :
    scan (u ++ v) = scan u ++ (scan v).map (Visit.shift u.bytes) ∧
    topLevel (u ++ v) = topLevel u ++ (topLevel v).map (Visit.shift u.bytes) ∧
    checkNesting (u ++ v) = (checkNesting v).mapError (NestingError.shift u.bytes) ∧
    ∀ b : Bracket,
      scan (b.opener :: (u ++ b.closer :: v)) =
        ⟨0, b.opener, {}⟩ :: ((scan u).map (Visit.within b) ++
          ⟨u.bytes + 1, b.closer, { depth := Depth.inside b }⟩ ::
            (scan v).map (Visit.shift (u.bytes + 2))) ∧
      topLevel (b.opener :: (u ++ b.closer :: v)) =
        ⟨0, b.opener, {}⟩ :: (topLevel v).map (Visit.shift (u.bytes + 2)) ∧
      closingOffset? (b.opener :: (u ++ b.closer :: v)) = some (u.bytes + 1) := by
  have hbalanced := (checkNesting_eq_ok_iff u).mp hu
  refine ⟨scan_append hbalanced v, topLevel_append hbalanced v, checkNesting_append hbalanced v, ?_⟩
  intro b
  refine ⟨scan_group hbalanced b v, topLevel_group hbalanced b v, ?_⟩
  rw [closingOffset?_group hbalanced, Text.bytes_cons, b.utf8Size_opener, Nat.add_comm]

/-- A group of four bytes moves an unexpected bracket by four, and is closed
behind them when it stands in a bracket itself. -/
theorem scan_composes_around_group :
    checkNesting "(é)".toList = .ok () ∧
      checkNesting "(é)x]".toList = .error (.unexpectedClose .square 5) ∧
      topLevel "[(é)]x".toList = [⟨0, '[', {}⟩, ⟨6, 'x', {}⟩] ∧
      closingOffset? "[(é)]x".toList = some 5 := by
  have hgroup : checkNesting "(é)".toList = .ok () := rfl
  obtain ⟨_, _, hcheck, _⟩ := scan_composes hgroup "x]".toList
  obtain ⟨_, htop, hclosing⟩ := (scan_composes hgroup "x".toList).2.2.2 .square
  exact ⟨hgroup, hcheck, htop, hclosing⟩

end PlanScript
