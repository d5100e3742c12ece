/-
PlanScript.Proofs.Suite.Run — a run of a suite runs what it should, and says
what came of it.

`chosenCases` are the cases of the categories that some requests choose. A run
has one result for each of them (`results_runSuite`), it succeeds when there
is one and none fails (`succeeded_runSuite_iff`), and it ends with the line
that counts them (`getLast?_notices_runSuite`). For a tidy tree they are the
cases of the fixture files in the requested folders, each of them once
(`areSelected_chosenCases`). Which libraries the cases are run with makes no
difference to any of this.
-/
import PlanScript.Proofs.Suite.Discover
import PlanScript.Proofs.Suite.Select
import PlanScript.Command.Run

namespace PlanScript.Suite

/-! ## 1. The cases that are run -/

/-- The categories that some requests choose. -/
def chosenCategories (categories : List Category) (requests : List Text) : List Category :=
  categories.filter fun k =>
    (select (categories.map Category.name) requests).chosen.contains k.name

/-- The cases of the categories that some requests choose. -/
def chosenCases (categories : List Category) (requests : List Text) : List Case :=
  (chosenCategories categories requests).flatMap Category.cases

/-- The cases are those of the fixture files in the requested folders, each of
them once. -/
structure AreSelected (path : Text) (entries : List (Text × Tree)) (requests : List Text)
    (cases : List Case) : Prop where
  mem_iff : ∀ c : Case, c ∈ cases ↔ ∃ content, HoldsFile entries c.folder c.name content ∧
    fixtureSuffix <:+ c.name ∧
    (requests = [] ∨ ∃ r ∈ requests, Covers r (Text.join ['/'] c.folder)) ∧
    c = caseAt path [] c.folder c.name content
  nodup_location : (cases.map Case.location).Nodup

variable {path : Text} {entries : List (Text × Tree)} {categories : List Category}

theorem mem_names_categorize_iff (cases : List Case) (name : Text) :
    name ∈ (categorize cases).map Category.name ↔ ∃ c ∈ cases, c.category = name := by
  rw [categorize, List.map_map, Function.comp_def, List.map_id', distinct, List.mem_eraseDups,
    List.mem_mergeSort, List.mem_map]

/-- A category is listed for the sake of a case. -/
theorem cases_ne_nil_of_mem_categorize {cases : List Case} {k : Category}
    (h : k ∈ categorize cases) : k.cases ≠ [] := by
  have hname : k.name ∈ (categorize cases).map Category.name := List.mem_map_of_mem h
  obtain ⟨c, hc, hcategory⟩ := (mem_names_categorize_iff cases k.name).mp hname
  obtain ⟨name, _, rfl⟩ := List.mem_map.mp h
  refine List.ne_nil_of_mem (a := c) ?_
  rw [List.mem_mergeSort, List.mem_filter]
  exact ⟨hc, decide_eq_true hcategory⟩

theorem areSelected_chosenCases (htidy : TidyEntries entries) (path : Text)
    (requests : List Text) :
    AreSelected path entries requests
      (chosenCases (discover path (.ok (.folder entries))) requests) := by
  have hperm := perm_categorize (casesIn path [] entries) fun name =>
    (select ((categorize (casesIn path [] entries)).map Category.name) requests).chosen.contains
      name
  refine ⟨fun c => ?_, ?_⟩
  · rw [chosenCases, chosenCategories, discover, hperm.mem_iff, List.mem_filter,
      List.contains_iff_mem, mem_chosen_select_iff, mem_names_categorize_iff]
    constructor
    · rintro ⟨hc, _, hrequests⟩
      rw [category_eq_join htidy hc] at hrequests
      obtain ⟨names, file, content, hfile, hname, rfl⟩ := (mem_casesIn_iff path [] c entries).mp hc
      exact ⟨content, hfile, (isFixtureName_iff file).mp hname, hrequests, rfl⟩
    · rintro ⟨content, hfile, hname, hrequests, hcase⟩
      have hc : c ∈ casesIn path [] entries :=
        (mem_casesIn_iff path [] c entries).mpr
          ⟨_, _, content, hfile, (isFixtureName_iff c.name).mpr hname, hcase⟩
      rw [category_eq_join htidy hc]
      exact ⟨hc, ⟨c, hc, category_eq_join htidy hc⟩, hrequests⟩
  · rw [chosenCases, chosenCategories, discover, (hperm.map Case.location).nodup_iff]
    exact (nodup_location_casesIn path [] entries htidy).sublist
      (List.filter_sublist.map Case.location)

/-! ## 2. What a run leaves -/

variable (libraries : Libraries)

/-- A run runs the chosen categories, if there are any. -/
theorem runSuite_cases (categories : List Category) (requests : List Text) :
    (chosenCategories categories requests = [] ∧
      (runSuite libraries categories requests = .nothingFound ∨
        ∃ missing, runSuite libraries categories requests = .nothingChosen missing)) ∨
    (chosenCategories categories requests ≠ [] ∧
      ∃ missing, runSuite libraries categories requests = .ran missing
        ((chosenCategories categories requests).map fun k =>
          ⟨k.name, k.cases.map (Case.run libraries)⟩)) := by
  by_cases hall : categories = []
  · exact .inl ⟨by rw [chosenCategories, hall, List.filter_nil], .inl (by rw [runSuite, hall]; rfl)⟩
  · have hrun : runSuite libraries categories requests =
        if (chosenCategories categories requests).isEmpty then
          .nothingChosen (select (categories.map Category.name) requests).missing
        else .ran (select (categories.map Category.name) requests).missing
          ((chosenCategories categories requests).map fun k =>
            ⟨k.name, k.cases.map (Case.run libraries)⟩) :=
      if_neg (mt List.isEmpty_iff.mp hall)
    by_cases hchosen : chosenCategories categories requests = []
    · exact .inl ⟨hchosen, .inr ⟨_, hrun.trans (if_pos (List.isEmpty_iff.mpr hchosen))⟩⟩
    · exact .inr ⟨hchosen, _, hrun.trans (if_neg (mt List.isEmpty_iff.mp hchosen))⟩

/-- Every chosen case has its result, in the order of the cases. -/
theorem results_runSuite (categories : List Category) (requests : List Text) :
    (runSuite libraries categories requests).results =
      (chosenCases categories requests).map (Case.run libraries) := by
  rw [chosenCases]
  rcases runSuite_cases libraries categories requests with
    ⟨hnone, hrun | ⟨_, hrun⟩⟩ | ⟨_, _, hrun⟩
  · rw [hrun, hnone]
    rfl
  · rw [hrun, hnone]
    rfl
  · simp only [hrun, Result.results, List.flatMap_map, List.map_flatMap]

/-- Some case is chosen exactly when some category is. -/
theorem chosenCases_eq_nil_iff (hcases : ∀ k ∈ categories, k.cases ≠ []) (requests : List Text) :
    chosenCases categories requests = [] ↔ chosenCategories categories requests = [] := by
  rw [chosenCases, List.flatMap_eq_nil_iff]
  constructor
  · intro hnil
    refine List.eq_nil_iff_forall_not_mem.mpr fun k hk => ?_
    exact hcases k (List.mem_of_mem_filter hk) (hnil k hk)
  · intro hnil k hk
    rw [hnil] at hk
    contradiction

/-- A run succeeds when there is something to run and nothing fails. -/
theorem succeeded_runSuite_iff (hcases : ∀ k ∈ categories, k.cases ≠ []) (requests : List Text) :
    (runSuite libraries categories requests).succeeded = true ↔
      chosenCases categories requests ≠ [] ∧
        ∀ c ∈ chosenCases categories requests, (c.run libraries).failure = none := by
  have hresults := results_runSuite libraries categories requests
  have hnil := chosenCases_eq_nil_iff hcases requests
  rcases runSuite_cases libraries categories requests with
    ⟨hnone, hrun | ⟨_, hrun⟩⟩ | ⟨hsome, _, hrun⟩
  · simp [hrun, hnil.mpr hnone, Result.succeeded]
  · simp [hrun, hnil.mpr hnone, Result.succeeded]
  · rw [hrun] at hresults ⊢
    rw [Result.succeeded, Result.failures, hresults]
    simp [mt hnil.mp hsome, List.filter_eq_nil_iff]

/-- The line that tells how many cases passed and how many failed. -/
def countLine (painted : Bool) (passed failed : Nat) : Text :=
  "test result: ".toList
    ++ (if failed = 0 then Text.paint painted "32" "ok".toList
      else Text.paint painted "31" "FAILED".toList)
    ++ ". ".toList ++ Decimal.ofNat passed ++ " passed, ".toList ++ Decimal.ofNat failed
    ++ " failed".toList
    ++ if failed = 0 then [] else " (of ".toList ++ Decimal.ofNat (passed + failed) ++ [')']

/-- The number of cases that pass. -/
def passing (cases : List Case) : Nat := cases.countP fun c => (c.run libraries).failure.isNone

/-- The number of cases that fail. -/
def failing (cases : List Case) : Nat := cases.countP fun c => (c.run libraries).failure.isSome

theorem passing_add_failing (cases : List Case) :
    passing libraries cases + failing libraries cases = cases.length := by
  rw [List.length_eq_countP_add_countP fun c => (c.run libraries).failure.isNone, passing, failing]
  congr 2
  funext c
  cases (c.run libraries).failure <;> rfl

variable {libraries}

/-- A run that leaves the results of some cases ends with their count. -/
theorem summary_eq_countLine {r : Result} {cases : List Case} (painted : Bool)
    (hsucceeded : r.succeeded = r.failures.isEmpty)
    (h : r.results = cases.map (Case.run libraries)) :
    r.summary painted =
      countLine painted (passing libraries cases) (failing libraries cases) := by
  have hfailures : r.failures.length = failing libraries cases := by
    rw [Result.failures, h, ← List.countP_eq_length_filter, List.countP_map, failing]
    rfl
  have htotal : r.results.length = passing libraries cases + failing libraries cases := by
    rw [h, List.length_map, passing_add_failing]
  unfold Result.summary countLine
  by_cases hzero : failing libraries cases = 0
  · have hnone : r.succeeded = true := by
      rw [hsucceeded, List.isEmpty_iff, ← List.length_eq_zero_iff, hfailures, hzero]
    simp only [hnone, htotal, hzero, Nat.add_zero, if_true, List.append_nil, List.append_assoc]
    rfl
  · have hsome : r.succeeded = false := by
      rw [hsucceeded, List.isEmpty_eq_false_iff, ne_eq, ← List.length_eq_zero_iff, hfailures]
      exact hzero
    simp only [hsome, hfailures, htotal, if_neg hzero, Nat.add_sub_cancel, Bool.false_eq_true,
      if_false, List.append_assoc]
    rfl

variable (libraries)

/-- The count of the cases is the last thing that a run of some cases shows. -/
theorem getLast?_notices_runSuite (hcases : ∀ k ∈ categories, k.cases ≠ [])
    (requests : List Text) (hsome : chosenCases categories requests ≠ []) (painted : Bool)
    (path : Text) :
    ((runSuite libraries categories requests).notices painted path).getLast? =
      some (.line (countLine painted (passing libraries (chosenCases categories requests))
        (failing libraries (chosenCases categories requests)))) := by
  have hresults := results_runSuite libraries categories requests
  have hnil := chosenCases_eq_nil_iff hcases requests
  rcases runSuite_cases libraries categories requests with ⟨hnone, _⟩ | ⟨_, _, hrun⟩
  · exact absurd (hnil.mpr hnone) hsome
  · rw [hrun] at hresults ⊢
    rw [← summary_eq_countLine painted rfl hresults, Result.notices, List.getLast?_append,
      List.map_append, List.getLast?_append]
    rfl

/-! ## 3. The answer to a request -/

/-- A suite runs the fixture files in the requested folders, each of them once,
counts those that pass and those that fail, and succeeds when there is one and
none fails. -/
theorem suite_runs_each_case_once (terminal : Command.Terminal) (request : Command.Request)
    (r : Command.TestRequest) (entries : List (Text × Tree)) (hrun : r.listCategories = false)
    (htidy : TidyEntries entries) :
    ∃ cases : List Case, AreSelected r.path entries r.categories cases ∧
      (runSuite libraries (discover r.path (.ok (.folder entries))) r.categories).results
        = cases.map (Case.run libraries) ∧
      passing libraries cases + failing libraries cases = cases.length ∧
      (cases ≠ [] → ∀ painted,
        ((runSuite libraries (discover r.path (.ok (.folder entries))) r.categories).notices
          painted r.path).getLast? =
            some (.line
              (countLine painted (passing libraries cases) (failing libraries cases)))) ∧
      (Command.answerTest libraries terminal request r (.ok (.folder entries))).exit =
        if cases ≠ [] ∧ ∀ c ∈ cases, (c.run libraries).failure = none then 0 else 1 := by
  have hcases : ∀ k ∈ discover r.path (.ok (.folder entries)), k.cases ≠ [] :=
    fun k hk => cases_ne_nil_of_mem_categorize hk
  refine ⟨chosenCases (discover r.path (.ok (.folder entries))) r.categories,
    areSelected_chosenCases htidy r.path r.categories, results_runSuite libraries _ _,
    passing_add_failing libraries _, fun hsome painted =>
      getLast?_notices_runSuite libraries hcases r.categories hsome painted r.path, ?_⟩
  have hsucceeded := succeeded_runSuite_iff libraries hcases r.categories
  simp only [Command.answerTest, hrun, Bool.false_eq_true, if_false, ← hsucceeded]

/-- A suite with fixtures in two folders, where the name of one starts the name
of the other, and at the root. -/
def callsAndOthers : List (Text × Tree) :=
  [("calls".toList, .folder [("a.test.plan".toList, .file (.ok "---\n---\n".toUTF8)),
      ("notes.txt".toList, .file (.error .denied))]),
    ("callsx".toList, .folder [("b.test.plan".toList, .file (.error .denied))]),
    ("root.test.plan".toList, .file (.error .denied))]

/-- A folder that is asked for twice is run once, and the one beside it is
not run. -/
theorem suite_runs_each_case_once_overlap :
    TidyEntries callsAndOthers ∧
      ∃ c : Case, c.location = ["calls".toList, "a.test.plan".toList] ∧
        (runSuite {} (discover "suite".toList (.ok (.folder callsAndOthers)))
          ["calls/".toList, "/calls".toList]).results = [c.run {}] ∧
        ((runSuite {} (discover "suite".toList (.ok (.folder callsAndOthers)))
          ["calls/".toList, "/calls".toList]).notices false "suite".toList).getLast?
            = some (.line "test result: ok. 1 passed, 0 failed".toList) ∧
        (Command.answerTest {} {} { job := .test { path := "suite".toList } }
          { path := "suite".toList, categories := ["calls/".toList, "/calls".toList] }
          (.ok (.folder callsAndOthers))).exit = 0 := by
  have htidy : TidyEntries callsAndOthers := by
    simp [callsAndOthers, TidyEntries, TidyTree]
  obtain ⟨cases, hselected, hresults, _, hcount, hexit⟩ := suite_runs_each_case_once {} {}
    { job := .test { path := "suite".toList } }
    { path := "suite".toList, categories := ["calls/".toList, "/calls".toList] }
    callsAndOthers rfl htidy
  have hmem : ∀ c, c ∈ cases ↔ c ∈ [caseAt "suite".toList [] ["calls".toList] "a.test.plan".toList
      (.ok "---\n---\n".toUTF8)] := by
    intro c
    rw [hselected.mem_iff, List.mem_singleton]
    constructor
    · rintro ⟨content, hfile, hname, hrequests, hcase⟩
      have hfound : c ∈ casesIn "suite".toList [] callsAndOthers :=
        (mem_casesIn_iff _ [] c _).mpr
          ⟨_, _, content, hfile, (isFixtureName_iff c.name).mpr hname, hcase⟩
      rcases hfound with _ | ⟨_, _ | ⟨_, _ | ⟨_, hnone⟩⟩⟩
      · rfl
      · exact absurd hrequests (by decide)
      · exact absurd hrequests (by decide)
      · contradiction
    · rintro rfl
      refine ⟨_, .inside (List.mem_cons_self ..) (.here (List.mem_cons_self ..)), ?_, .inr ?_, rfl⟩
      · decide
      · exact ⟨"calls/".toList, List.mem_cons_self .., .inl rfl⟩
  obtain rfl : cases = [_] := List.perm_singleton.mp <|
    (List.perm_ext_iff_of_nodup
      (List.Pairwise.of_map _ (fun _ _ hne heq => hne (congrArg _ heq)) hselected.nodup_location)
      (List.pairwise_singleton _ _)).mpr hmem
  refine ⟨htidy, _, rfl, hresults, (hcount (List.cons_ne_nil _ _) false).trans ?_, ?_⟩
  · decide +kernel
  · rw [hexit]
    refine if_pos ⟨List.cons_ne_nil _ _, fun c hc => ?_⟩
    rw [List.mem_singleton.mp hc]
    decide +kernel

end PlanScript.Suite
