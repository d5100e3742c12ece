/-
PlanScript.Suite.Report — what a run of a suite tells its user.

Missing categories come first, then each category with one line a case, then
the reasons of all failures, then the count. The events of a parse come
before the line of its case, as notices that a log may show or drop.
-/
import PlanScript.Suite.Run
import PlanScript.Text.Paint

namespace PlanScript.Suite

/-- The lines of a reason, without their endings. -/
def reasonLines (t : Text) : List Text :=
  (Text.lines t).map fun line =>
    match Text.dropSuffix? ['\r', '\n'] line with
    | some l => l
    | none => (Text.dropSuffix? ['\n'] line).getD line

namespace CaseResult

/-- The notices of a case. -/
def notices (painted : Bool) (r : CaseResult) : List Notice :=
  let verdict := match r.failure with
    | none => Text.paint painted "32" "PASS".toList
    | some _ => Text.paint painted "31" "FAIL".toList
  r.events.map .event
    ++ [.line ("  ".toList ++ verdict ++ "  ".toList ++ caseLabel r.path r.description)]

/-- The lines that say why a case failed. -/
def failureLines (r : CaseResult) : List Text :=
  match r.failure with
  | none => []
  | some f =>
    [[], "  --- ".toList ++ r.path ++ " ---".toList]
      ++ (reasonLines f.message).map ("  ".toList ++ ·)

end CaseResult

/-- The line that tells of a path without fixtures. -/
def noneFound (path : Text) : Text := "no .test.plan files found in ".toList ++ path

/-- The notices of a category. -/
def CategoryResult.notices (painted : Bool) (c : CategoryResult) : List Notice :=
  [.line [], .line (Text.paint painted "1" (categoryTitle c.name))]
    ++ c.results.flatMap (CaseResult.notices painted)

namespace Result

/-- The last line of a run. -/
def summary (painted : Bool) (r : Result) : Text :=
  let total := r.results.length
  let failed := r.failures.length
  if r.succeeded then
    "test result: ".toList ++ Text.paint painted "32" "ok".toList ++ ". ".toList
      ++ Decimal.ofNat total ++ " passed, 0 failed".toList
  else
    "test result: ".toList ++ Text.paint painted "31" "FAILED".toList ++ ". ".toList
      ++ Decimal.ofNat (total - failed) ++ " passed, ".toList ++ Decimal.ofNat failed
      ++ " failed (of ".toList ++ Decimal.ofNat total ++ [')']

/-- The notices of a run under a path. -/
def notices (painted : Bool) (path : Text) (r : Result) : List Notice :=
  match r with
  | nothingFound => [.line (noneFound path)]
  | nothingChosen missing =>
    missing.map (fun m => .line (missingLine m))
      ++ [.line "no matching categories found".toList]
  | ran missing categories =>
    missing.map (fun m => .line (missingLine m))
      ++ categories.flatMap (CategoryResult.notices painted)
      ++ ((if r.failures.isEmpty then [] else [[], "failures:".toList])
          ++ r.failures.flatMap CaseResult.failureLines
          ++ [[], r.summary painted]).map .line
end Result

/-- The list of the categories under a path. -/
def categoryList (path : Text) (found : Except ReadError Tree) : List Text :=
  match found with
  | .ok (.file _) => ["(single file, no categories)".toList]
  | _ =>
    match discover path found with
    | [] => [noneFound path]
    | categories =>
      "available categories:".toList :: categories.map fun c =>
        "  ".toList ++ categoryTitle c.name ++ " (".toList ++ Decimal.ofNat c.cases.length
          ++ " tests)".toList

end PlanScript.Suite
