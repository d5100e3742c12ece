/-
PlanScript.Files.Path — paths and the names along them.

A path is a text in which slashes separate names. A name that is empty or a
single dot stays where it is, so it is not counted; two dots go back up, so
they name no file.
-/
import PlanScript.Text.Basic

namespace PlanScript.Path

/-- The pieces of a text between slashes. -/
def pieces : Text → List Text
  | [] => [[]]
  | c :: rest =>
    match pieces rest with
    | [] => [[c]]
    | piece :: more => if c = '/' then [] :: piece :: more else (c :: piece) :: more

theorem pieces_ne_nil (t : Text) : pieces t ≠ [] := by
  cases t with
  | nil => simp [pieces]
  | cons c rest =>
    simp only [pieces]
    split
    · simp
    · split <;> simp

/-- The pieces with slashes between them are the text. -/
theorem join_pieces (t : Text) : Text.join ['/'] (pieces t) = t := by
  induction t with
  | nil => rfl
  | cons c rest ih =>
    simp only [pieces]
    split
    · next h => exact absurd h (pieces_ne_nil rest)
    · next piece more h =>
      rw [h] at ih
      by_cases hc : c = '/'
      · simp [hc, Text.join, ih]
      · cases more <;> simp_all [Text.join]

/-- Whether a name stays where it is. -/
def isIdle (name : Text) : Bool := name.isEmpty || name = ['.']

/-- The name that goes back up. -/
def up : Text := ['.', '.']

/-- The names along a path. -/
def names (path : Text) : List Text := (pieces path).filter fun n => !isIdle n

/-- The name of the file that a path leads to. -/
def fileName? (path : Text) : Option Text := (names path).getLast?.filter (· ≠ up)

/-- The path of a name in a folder. -/
def join (folder name : Text) : Text :=
  match folder.getLast? with
  | none | some '/' => folder ++ name
  | some _ => folder ++ '/' :: name

/-- The path without the slashes at its ends. -/
def trimSlashes (path : Text) : Text :=
  ((path.dropWhile (· = '/')).reverse.dropWhile (· = '/')).reverse

end PlanScript.Path
