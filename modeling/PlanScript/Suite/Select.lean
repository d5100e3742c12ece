/-
PlanScript.Suite.Select — the categories that a user asks for.

A request, without the slashes at its ends, names a category and all
categories below it. Requests are taken in turn, and one that adds no
category to those already chosen is reported as missing. No request at all
chooses everything.
-/
import PlanScript.Suite.Discover

namespace PlanScript.Suite

/-- Whether a category is the requested one or lies below it. -/
def isRequested (request category : Text) : Bool :=
  category = request || Text.startsWith (request ++ ['/']) category

/-- The outcome of some requests. -/
structure Selection where
  chosen : List Text := []
  /-- The requests that chose nothing new. -/
  missing : List Text := []
deriving DecidableEq, Repr

namespace Selection

/-- Takes one request. -/
def add (all : List Text) (s : Selection) (request : Text) : Selection :=
  let request := Path.trimSlashes request
  let found := all.filter fun c => isRequested request c && !s.chosen.contains c
  { chosen := s.chosen ++ found
    missing := if found.isEmpty then s.missing ++ [request] else s.missing }

end Selection

/-- The names that some requests choose, in the order of `all`. -/
def select (all requests : List Text) : Selection :=
  if requests.isEmpty then { chosen := all }
  else
    let s := requests.foldl (Selection.add all) {}
    { s with chosen := all.filter s.chosen.contains }

/-- The line that tells of a missing category. -/
def missingLine (request : Text) : Text :=
  "warning: category '".toList ++ request ++ "' not found".toList

end PlanScript.Suite
