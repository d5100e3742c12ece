/-
PlanScript.Value.Literal — quoted literals.

A literal is a quote, a body in which a backslash takes the next character
with it, and the same quote. `Literal.body?` gives the body of a text that
is exactly one literal, and `Literal.unescape` the string the body stands
for: `\n` and `\t` are a line feed and a tab, an escaped quote or backslash
is itself, and a backslash before anything else stays. A format literal is a
literal with an `f` or `F` before it; it is never unescaped.
-/
import PlanScript.Nesting.Basic

namespace PlanScript.Literal

/-! ## 1. Where a literal ends -/

/-- Cuts at the first `quote` that no backslash takes: the body before it
and the text after it. -/
def untilQuote (quote : Char) : Text → Option (Text × Text)
  | [] => none
  | [c] => if c = quote then some ([], []) else none
  | c :: d :: rest =>
    if c = '\\' then
      (untilQuote quote rest).map fun (body, after) => (c :: d :: body, after)
    else if c = quote then some ([], d :: rest)
    else (untilQuote quote (d :: rest)).map fun (body, after) => (c :: body, after)

/-- The body and the text after the literal that a text starts with. -/
def split? : Text → Option (Text × Text)
  | [] => none
  | c :: rest => if isQuote c then untilQuote c rest else none

/-- The body of a text that is exactly one literal. -/
def body? (t : Text) : Option Text :=
  (split? t).bind fun (body, after) => if after.isEmpty then some body else none

/-- Whether a text is `f` or `F` followed by exactly one literal. -/
def isFormat : Text → Bool
  | [] => false
  | c :: rest => (c = 'f' || c = 'F') && (body? rest).isSome

/-! ## 2. What a body stands for -/

/-- The string that a literal's body stands for. -/
def unescape : Text → Text
  | [] => []
  | [c] => [c]
  | c :: d :: rest =>
    if c = '\\' then
      if d = 'n' then '\n' :: unescape rest
      else if d = 't' then '\t' :: unescape rest
      else if isQuote d || d = '\\' then d :: unescape rest
      else c :: d :: unescape rest
    else c :: unescape (d :: rest)

end PlanScript.Literal
