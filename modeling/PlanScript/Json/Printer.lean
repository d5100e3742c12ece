/-
PlanScript.Json.Printer — JSON values as indented text.

Each item and each member stands on a line of its own, two columns further
in than the bracket around it; an empty array or object is a pair of
brackets. The last line has no line feed.
-/
import PlanScript.Json.Basic

namespace PlanScript.Json

/-- A string between its quotes. -/
def quotedBody (body : Text) : Text := '"' :: body ++ ['"']

/-- A line feed and the indentation of the line it starts. -/
def newLine (level : Nat) : Text := '\n' :: List.replicate (2 * level) ' '

mutual

/-- A value as text, for a line at a level of nesting. -/
def pretty (level : Nat) : Json → Text
  | null => "null".toList
  | bool true => "true".toList
  | bool false => "false".toList
  | number token => token
  | string body => quotedBody body
  | array [] => "[]".toList
  | array (item :: items) =>
    '[' :: newLine (level + 1) ++ pretty (level + 1) item ++ prettyItems (level + 1) items
      ++ newLine level ++ [']']
  | object [] => ['{', '}']
  | object ((key, value) :: members) =>
    '{' :: newLine (level + 1) ++ quotedBody key ++ [':', ' '] ++ pretty (level + 1) value
      ++ prettyMembers (level + 1) members ++ newLine level ++ ['}']

/-- The items after the first, each with the comma before it. -/
def prettyItems (level : Nat) : List Json → Text
  | [] => []
  | item :: items => ',' :: newLine level ++ pretty level item ++ prettyItems level items

/-- The members after the first, each with the comma before it. -/
def prettyMembers (level : Nat) : List (Text × Json) → Text
  | [] => []
  | (key, value) :: members =>
    ',' :: newLine level ++ quotedBody key ++ [':', ' '] ++ pretty level value
      ++ prettyMembers level members

end

/-- A value as indented text. -/
def print (j : Json) : Text := pretty 0 j

end PlanScript.Json
