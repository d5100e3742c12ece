/-
PlanScript.Proofs.Suite.Select — which categories some requests choose.

`Covers request category` says that a request, without the slashes at its
ends, is the category or a folder above it. One step adds the categories that
its request covers (`mem_chosen_add_iff`), and so all requests together choose
what one of them covers (`mem_chosen_select_iff`), however they overlap and in
whatever order they come.
-/
import PlanScript.Suite.Select
import PlanScript.Proofs.Text.Search

namespace PlanScript.Suite

/-- The request names the category or one above it. -/
def Covers (request category : Text) : Prop :=
  category = Path.trimSlashes request ∨ Path.trimSlashes request ++ ['/'] <+: category

instance (request category : Text) : Decidable (Covers request category) :=
  inferInstanceAs (Decidable (_ ∨ _))

theorem isRequested_trimSlashes_iff (request category : Text) :
    isRequested (Path.trimSlashes request) category = true ↔ Covers request category := by
  rw [isRequested, Bool.or_eq_true, decide_eq_true_iff, Text.startsWith_iff, Covers]

/-- A request adds the categories that it covers to those chosen before. -/
theorem mem_chosen_add_iff (all : List Text) (s : Selection) (request category : Text) :
    category ∈ (s.add all request).chosen ↔
      category ∈ s.chosen ∨ category ∈ all ∧ Covers request category := by
  rw [Selection.add, List.mem_append, List.mem_filter, Bool.and_eq_true,
    isRequested_trimSlashes_iff]
  by_cases h : category ∈ s.chosen <;> simp [h]

/-- Requests in turn add the categories that one of them covers. -/
theorem mem_chosen_foldl_add_iff (all requests : List Text) (s : Selection) (category : Text) :
    category ∈ (requests.foldl (Selection.add all) s).chosen ↔
      category ∈ s.chosen ∨ category ∈ all ∧ ∃ r ∈ requests, Covers r category := by
  induction requests generalizing s with
  | nil => simp
  | cons r requests ih =>
    rw [List.foldl_cons, ih, mem_chosen_add_iff]
    simp only [List.mem_cons, exists_eq_or_imp, and_or_left, or_assoc]

/-- The chosen categories are those that a request covers, or all if there is
no request. -/
theorem mem_chosen_select_iff (all requests : List Text) (category : Text) :
    category ∈ (select all requests).chosen ↔
      category ∈ all ∧ (requests = [] ∨ ∃ r ∈ requests, Covers r category) := by
  rw [select]
  split
  · next h => simp [List.isEmpty_iff.mp h]
  · next h =>
    have hsome : requests ≠ [] := by simpa using h
    simp only [List.mem_filter, List.contains_iff_mem, mem_chosen_foldl_add_iff,
      List.not_mem_nil, false_or, hsome]
    constructor
    · rintro ⟨_, hchosen⟩
      exact hchosen
    · intro hchosen
      exact ⟨hchosen.1, hchosen⟩

end PlanScript.Suite
