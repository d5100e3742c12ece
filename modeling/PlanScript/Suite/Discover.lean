/-
PlanScript.Suite.Discover — the cases of a tree, by category.

Every fixture file under the root is a case; a folder is searched whatever
its name. Categories are in the order of their names, and the cases of a
category in the order of the names along their paths.
-/
import PlanScript.Suite.Basic

namespace PlanScript.Suite

/-! ## 1. Cases -/

mutual

/-- The cases of a tree that has a path, a folder and a name. -/
def casesOf (path : Text) (folder : List Text) (name : Text) : Tree → List Case
  | .file content => if isFixtureName name then [⟨path, folder, name, .file content⟩] else []
  | .folder entries => casesIn path (folder ++ [name]) entries

/-- The cases of the entries of a folder. -/
def casesIn (path : Text) (folder : List Text) : List (Text × Tree) → List Case
  | [] => []
  | (name, tree) :: rest =>
    casesOf (Path.join path name) folder name tree ++ casesIn path folder rest

end

/-! ## 2. Categories -/

/-- Lexicographic order of lists of names. -/
def namesLe : List Text → List Text → Bool
  | [], _ => true
  | _ :: _, [] => false
  | a :: s, b :: t => if a = b then namesLe s t else Text.le a b

/-- The names of a list, in order and once each. -/
def distinct (names : List Text) : List Text := (names.mergeSort Text.le).eraseDups

/-- The cases grouped by category. -/
def categorize (cases : List Case) : List Category :=
  (distinct (cases.map Case.category)).map fun name =>
    ⟨name, (cases.filter fun c => c.category = name).mergeSort fun a b =>
      namesLe (a.folder ++ [a.name]) (b.folder ++ [b.name])⟩

/-- The categories under a path. A file is a category of its own, and a path
that leads nowhere has none. -/
def discover (path : Text) : Except ReadError Tree → List Category
  | .ok (.file content) => [⟨[], [⟨path, [], path, .file content⟩]⟩]
  | .ok (.folder entries) => categorize (casesIn path [] entries)
  | .error _ => []

end PlanScript.Suite
