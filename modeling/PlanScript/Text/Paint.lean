/-
PlanScript.Text.Paint — marks that make a terminal change its style.

A painted text stands between a mark for its style and the mark that ends
all styles. Painting is switched off by leaving both out.
-/
import PlanScript.Text.Basic

namespace PlanScript

namespace Text

/-- The mark that switches a style on. -/
def styleMark (style : String) : Text := '\x1b' :: '[' :: style.toList ++ ['m']

/-- A text in a style. -/
def paint (painted : Bool) (style : String) (t : Text) : Text :=
  if painted then styleMark style ++ t ++ styleMark "0" else t

end Text

end PlanScript
