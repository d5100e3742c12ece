/-
PlanScript.Suite.Basic — cases, categories and labels.

A case is a fixture file. The folder it lies in, seen from the root of the
suite, is its category; the root itself has the empty name. A case goes by
its description, or else by its file name without the fixture suffix.
-/
import PlanScript.Files.Tree

namespace PlanScript.Suite

/-- What the name of a fixture file ends with. -/
def fixtureSuffix : Text := ".test.plan".toList

/-- Whether a file of this name is a fixture. -/
def isFixtureName (name : Text) : Bool := (Text.dropSuffix? fixtureSuffix name).isSome

/-- A fixture file of a suite. -/
structure Case where
  /-- The path that is shown. -/
  path : Text
  /-- The names of the folders from the root of the suite to the file. -/
  folder : List Text
  /-- The name of the file. -/
  name : Text
  file : Tree

/-- The category of a case: the names of its folders between slashes, with
every backslash read as a slash. -/
def Case.category (c : Case) : Text :=
  (Text.join ['/'] c.folder).map fun ch => if ch = '\\' then '/' else ch

/-- Cases that are run under one heading. -/
structure Category where
  name : Text
  cases : List Case

/-- The name that a category is shown with. -/
def categoryTitle (name : Text) : Text := if name.isEmpty then "(root)".toList else name

/-- The text without the repetitions of `start` that it starts with. -/
def dropRepeated (start t : Text) : Text :=
  match Text.dropPrefix? start t with
  | none => t
  | some rest => if rest.length < t.length then dropRepeated start rest else t
termination_by t.length

/-- The name that a result is shown with. -/
def caseLabel (path : Text) (description : Option Text) : Text :=
  match description, Path.fileName? path with
  | some d, _ => d
  | none, some name => (dropRepeated fixtureSuffix.reverse name.reverse).reverse
  | none, none => ['?']

end PlanScript.Suite
