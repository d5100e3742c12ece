/-
PlanScript.Fixture.Frontmatter — the two parts of a fixture.

Byte order marks before the opening mark are passed over. The closing mark is
the first `---` at the start of a line after the opening one, and a line
ending right after either mark belongs to the mark. The frontmatter loses
the line endings it ends with; the body is kept as it is.
-/
import PlanScript.Fixture.Basic
import PlanScript.Text.Blank

namespace PlanScript

namespace Frontmatter

/-- What stands before the frontmatter and after it. -/
def mark : Text := ['-', '-', '-']

/-- The text without the line ending it may start with. -/
def dropLineEnd : Text → Text
  | '\n' :: rest => rest
  | '\r' :: '\n' :: rest => rest
  | t => t

/-- The text without the line feeds and carriage returns it ends with. -/
def dropLineEnds (t : Text) : Text :=
  (t.reverse.dropWhile fun c => c = '\n' || c = '\r').reverse

/-- Cuts at the first mark that starts a line: the text before that line, and
the text after the mark. -/
def breakAtMark (t : Text) : Option (Text × Text) :=
  match Text.dropPrefix? mark t with
  | some rest => some ([], rest)
  | none => do
    let (before, found) ← Text.breakOn ('\n' :: mark) t
    return (before, found.drop (mark.length + 1))

/-- The frontmatter of a fixture and its body. -/
def split (content : Text) : Except FixtureError (Text × Text) :=
  match Text.dropPrefix? mark (content.dropWhile (· = '\uFEFF')) with
  | none => .error .missingOpening
  | some rest => match breakAtMark (dropLineEnd rest) with
    | none => .error .missingClosing
    | some (front, rest) => .ok (dropLineEnds front, dropLineEnd rest)

end Frontmatter

end PlanScript
