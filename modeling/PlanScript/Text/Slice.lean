/-
PlanScript.Text.Slice — stretches of a text by their byte offsets.

Offsets count bytes of UTF-8. A stretch is read from one offset to another;
offsets beyond the text or inside a character are refused.
-/
import PlanScript.Text.Basic

namespace PlanScript.Text

/-- Cuts a text after some bytes, unless the text is shorter or the cut falls
inside a character. -/
def cutAfter? : Nat → Text → Option (Text × Text)
  | n, [] => if n = 0 then some ([], []) else none
  | n, c :: t =>
    if n = 0 then some ([], c :: t)
    else if c.utf8Size ≤ n then
      (cutAfter? (n - c.utf8Size) t).map fun (front, rest) => (c :: front, rest)
    else none

/-- The stretch of a text from one byte offset to another. -/
def slice? (start stop : Nat) (t : Text) : Option Text :=
  if start ≤ stop then
    (cutAfter? start t).bind fun (_, rest) => (cutAfter? (stop - start) rest).map Prod.fst
  else none

end PlanScript.Text
