/-
PlanScript.Options — what a caller may choose about a parse.
-/
namespace PlanScript

/-- The settings of a parse. -/
structure Options where
  /-- Skip dict entries that have no colon instead of refusing the line. -/
  lenientDicts : Bool := false
deriving DecidableEq, Repr

end PlanScript
