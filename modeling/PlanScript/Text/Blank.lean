/-
PlanScript.Text.Blank — white space, and trimming it.

White space is the `White_Space` property of Unicode: the no-break space,
the ideographic space and the line and paragraph separators belong to it,
the zero width space and the byte order mark do not. Trimming an end of a
text drops the longest run of white space there.
-/
import PlanScript.Text.Basic
import PlanScript.Text.Ranges

namespace PlanScript

/-- The code points with the `White_Space` property. -/
def blankRanges : Ranges :=
  [(0x9, 0xD), (0x20, 0x20), (0x85, 0x85), (0xA0, 0xA0), (0x1680, 0x1680), (0x2000, 0x200A),
   (0x2028, 0x2029), (0x202F, 0x202F), (0x205F, 0x205F), (0x3000, 0x3000)]

/-- Whether a character is white space. -/
def isBlank (c : Char) : Bool := blankRanges.has c.toNat

namespace Text

/-- Drops white space at the start. -/
def trimStart (t : Text) : Text := t.dropWhile isBlank

/-- Drops white space at the end. -/
def trimEnd (t : Text) : Text := (t.reverse.dropWhile isBlank).reverse

/-- Drops white space at both ends. -/
def trim (t : Text) : Text := trimEnd (trimStart t)

/-- Whether a text holds nothing but white space. -/
def allBlank (t : Text) : Bool := t.all isBlank

/-- Trimming the start drops a run of white space and nothing else. -/
theorem takeWhile_append_trimStart (t : Text) :
    t.takeWhile isBlank ++ trimStart t = t :=
  List.takeWhile_append_dropWhile

/-- Trimming the end drops a run of white space and nothing else. -/
theorem trimEnd_append (t : Text) :
    trimEnd t ++ (t.reverse.takeWhile isBlank).reverse = t := by
  rw [trimEnd, ← List.reverse_append, List.takeWhile_append_dropWhile, List.reverse_reverse]

end Text

end PlanScript
