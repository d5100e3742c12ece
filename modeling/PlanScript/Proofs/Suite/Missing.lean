/-
PlanScript.Proofs.Suite.Missing — which requests are reported as missing.

A request is reported when its turn adds nothing to the categories chosen so
far. These are the categories that the requests before it cover, so a request
is reported exactly when all that it covers is covered by earlier ones
(`AddsNothing`), whatever comes after it (`missing_foldl_append`).

A request that covers no category is always among the reported ones, but it
need not be alone: a category that is there is reported as well when it is
asked for again (`category_asked_for_again_is_reported`). Only where no
category is covered twice are the reported requests the ones without a
category.
-/
import Mathlib.Data.List.Infix
import PlanScript.Proofs.Suite.Select
import PlanScript.Suite.Report

namespace PlanScript.Suite

/-! ## 1. One turn -/

/-- Every category that the request covers is covered by an earlier one. -/
def AddsNothing (all earlier : List Text) (request : Text) : Prop :=
  ∀ category ∈ all, Covers request category → ∃ q ∈ earlier, Covers q category

instance (all earlier : List Text) (request : Text) : Decidable (AddsNothing all earlier request) :=
  inferInstanceAs (Decidable (∀ category ∈ all, _))

variable (all : List Text)

/-- What a request is reported as at its turn, if it is. -/
def report? (earlier : List Text) (request : Text) : Option Text :=
  if AddsNothing all earlier request then some (Path.trimSlashes request) else none

/-- A turn reports its request when it adds nothing to the turns before, by
which the categories that they cover are chosen. -/
theorem missing_add {s : Selection} {earlier : List Text}
    (hchosen : ∀ c ∈ all, c ∈ s.chosen ↔ ∃ q ∈ earlier, Covers q c) (request : Text) :
    (s.add all request).missing = s.missing ++ (report? all earlier request).toList := by
  have hnew : (all.filter fun c =>
      isRequested (Path.trimSlashes request) c && !s.chosen.contains c).isEmpty = true ↔
        AddsNothing all earlier request := by
    rw [List.isEmpty_iff, List.filter_eq_nil_iff]
    refine forall₂_congr fun c hc => ?_
    simp [isRequested_trimSlashes_iff, hchosen c hc]
  simp only [Selection.add, report?]
  by_cases hnothing : AddsNothing all earlier request
  · rw [if_pos (hnew.mpr hnothing), if_pos hnothing]
    rfl
  · rw [if_neg (mt hnew.mp hnothing), if_neg hnothing]
    exact (List.append_nil _).symm

/-! ## 2. All turns -/

/-- The reports of some requests, each from what comes before it. -/
def reports (earlier requests : List Text) : List Text :=
  (requests.inits.zip requests).filterMap fun turn => report? all (earlier ++ turn.1) turn.2

theorem reports_cons (earlier : List Text) (r : Text) (requests : List Text) :
    reports all earlier (r :: requests) =
      (report? all earlier r).toList ++ reports all (earlier ++ [r]) requests := by
  rw [reports, reports, List.inits_cons, List.zip_cons_cons, List.filterMap_cons,
    List.zip_map_left, List.filterMap_map, List.append_nil]
  cases report? all earlier r <;> simp

/-- Requests after some earlier ones add their reports to those of the earlier
ones, which stay as they are. -/
theorem missing_foldl_append (earlier requests : List Text) :
    ((earlier ++ requests).foldl (Selection.add all) {}).missing =
      (earlier.foldl (Selection.add all) {}).missing ++ reports all earlier requests := by
  induction requests generalizing earlier with
  | nil => simp [reports]
  | cons r requests ih =>
    have hchosen : ∀ c ∈ all, c ∈ (earlier.foldl (Selection.add all) {}).chosen ↔
        ∃ q ∈ earlier, Covers q c := by
      intro c hc
      simp [mem_chosen_foldl_add_iff, hc]
    have hturn : ((earlier ++ [r]).foldl (Selection.add all) {}).missing =
        (earlier.foldl (Selection.add all) {}).missing ++ (report? all earlier r).toList := by
      rw [List.foldl_append, List.foldl_cons, List.foldl_nil, missing_add all hchosen]
    rw [List.append_cons, ih (earlier ++ [r]), hturn, reports_cons, List.append_assoc]

theorem missing_select_eq_reports (requests : List Text) :
    (select all requests).missing = reports all [] requests := by
  have hturns := missing_foldl_append all [] requests
  rw [List.nil_append] at hturns
  rw [select]
  split
  · next h => simp [List.isEmpty_iff.mp h, reports]
  · simpa using hturns

/-! ## 3. Requests without a category -/

/-- The request covers no category. -/
def CoversNone (request : Text) : Prop := ∀ category ∈ all, ¬Covers request category

instance (request : Text) : Decidable (CoversNone all request) :=
  inferInstanceAs (Decidable (∀ category ∈ all, _))

/-- No category is covered by both requests. -/
def Apart (q r : Text) : Prop := ∀ category ∈ all, Covers q category → ¬Covers r category

instance (q r : Text) : Decidable (Apart all q r) :=
  inferInstanceAs (Decidable (∀ category ∈ all, _))

variable {all}

theorem CoversNone.addsNothing {request : Text} (h : CoversNone all request)
    (earlier : List Text) : AddsNothing all earlier request :=
  fun c hc hcovers => absurd hcovers (h c hc)

/-- Apart from all that came before it, a request adds what it covers. -/
theorem addsNothing_iff_of_apart {earlier : List Text} {request : Text}
    (h : ∀ q ∈ earlier, Apart all q request) :
    AddsNothing all earlier request ↔ CoversNone all request := by
  refine ⟨fun hnothing c hc hcovers => ?_, fun hnone => hnone.addsNothing earlier⟩
  obtain ⟨q, hq, hcovered⟩ := hnothing c hc hcovers
  exact h q hq c hc hcovered hcovers

theorem mem_reports_of_coversNone {r : Text} (hnone : CoversNone all r) {requests : List Text}
    (hr : r ∈ requests) (earlier : List Text) :
    Path.trimSlashes r ∈ reports all earlier requests := by
  induction requests generalizing earlier with
  | nil => contradiction
  | cons q requests ih =>
    rw [reports_cons, List.mem_append]
    obtain rfl | hr := List.mem_cons.mp hr
    · rw [report?, if_pos (hnone.addsNothing earlier)]
      exact .inl (List.mem_singleton_self _)
    · exact .inr (ih hr _)

theorem reports_of_pairwise_apart {earlier requests : List Text}
    (h : (earlier ++ requests).Pairwise (Apart all)) :
    reports all earlier requests =
      (requests.filter fun r => CoversNone all r).map Path.trimSlashes := by
  induction requests generalizing earlier with
  | nil => rfl
  | cons r requests ih =>
    have hr : ∀ q ∈ earlier, Apart all q r := fun q hq =>
      (List.pairwise_append.mp h).2.2 q hq r (List.mem_cons_self ..)
    rw [reports_cons, report?, ih (by simpa using h)]
    by_cases hnone : CoversNone all r
    · rw [if_pos (hnone.addsNothing earlier),
        List.filter_cons_of_pos (by simpa using hnone)]
      rfl
    · rw [if_neg (mt (addsNothing_iff_of_apart hr).mp hnone),
        List.filter_cons_of_neg (by simpa using hnone)]
      rfl

/-! ## 4. What a run reports -/

/-- A run of some categories tells first what is missing. -/
theorem missing_prefix_notices (libraries : Libraries) {categories : List Category}
    (hsome : categories ≠ []) (requests : List Text) (painted : Bool) (path : Text) :
    (select (categories.map Category.name) requests).missing.map (fun m => .line (missingLine m))
      <+: (runSuite libraries categories requests).notices painted path := by
  rw [runSuite, if_neg (mt List.isEmpty_iff.mp hsome)]
  simp only
  split
  · exact List.prefix_append ..
  · rw [Result.notices, List.append_assoc]
    exact List.prefix_append ..

variable (all)

/-- The requests that are reported, first thing in a run, are those that add
nothing at their turn. A request that covers no category is one of them, and
the others are asked for again: there are none if no category is covered
twice. -/
theorem reports_requests_that_add_nothing (requests : List Text) :
    (select all requests).missing =
      ((requests.inits.zip requests).filterMap fun (earlier, r) =>
        if AddsNothing all earlier r then some (Path.trimSlashes r) else none) ∧
    (∀ r ∈ requests, CoversNone all r → Path.trimSlashes r ∈ (select all requests).missing) ∧
    (requests.Pairwise (Apart all) → (select all requests).missing =
      (requests.filter fun r => CoversNone all r).map Path.trimSlashes) ∧
    ∀ categories : List Category, categories ≠ [] → categories.map Category.name = all →
      ∀ libraries painted path,
        (select all requests).missing.map (fun m => .line (missingLine m))
          <+: (runSuite libraries categories requests).notices painted path := by
  rw [missing_select_eq_reports]
  refine ⟨rfl, fun r hr hnone => mem_reports_of_coversNone hnone hr [],
    fun hapart => reports_of_pairwise_apart hapart, ?_⟩
  rintro categories hsome rfl libraries painted path
  rw [← missing_select_eq_reports]
  exact missing_prefix_notices libraries hsome requests painted path

/-- A category of one case, whose file cannot be read. -/
def calls : Category :=
  { name := "calls".toList
    cases := [{
      path := "t/calls/a.test.plan".toList
      folder := ["calls".toList]
      name := "a.test.plan".toList
      file := .file (.error .denied) }] }

/-- Of a category and one that is not there, the latter is reported. -/
theorem reports_requests_that_add_nothing_absent :
    (select ["calls".toList] ["calls".toList, "/types/".toList]).missing = ["types".toList] ∧
      "types".toList ∈ (select ["calls".toList] ["calls".toList, "/types/".toList]).missing ∧
      [.line "warning: category 'types' not found".toList] <+:
        (runSuite {} [calls] ["calls".toList, "/types/".toList]).notices false [] := by
  obtain ⟨_, hnone, hapart, hnotices⟩ := reports_requests_that_add_nothing ["calls".toList]
    ["calls".toList, "/types/".toList]
  have hmissing := hapart (by decide)
  have hreport := hnotices [calls] (List.cons_ne_nil _ _) rfl {} false []
  rw [hmissing] at hreport
  exact ⟨hmissing.trans (by decide), hnone "/types/".toList (by decide) (by decide), hreport⟩

/-- A category is reported although it is there when it is asked for again, be
it by its name or, once the one above it was chosen, from below. In the other
order nothing is reported. -/
theorem category_asked_for_again_is_reported :
    Covers "calls".toList "calls".toList ∧
      (select ["calls".toList] ["calls".toList, "calls".toList]).missing = ["calls".toList] ∧
      (select ["calls".toList, "calls/deep".toList]
        ["calls".toList, "calls/deep".toList]).missing = ["calls/deep".toList] ∧
      (select ["calls".toList, "calls/deep".toList]
        ["calls/deep".toList, "calls".toList]).missing = [] := by
  decide

end PlanScript.Suite
