/-
PlanScript.Instruction.Build — from statements to instructions.

Arithmetic, lists and dicts have no operation of their own: they become
calls of three host functions with fixed names.
-/
import PlanScript.Statement.Basic
import PlanScript.Instruction.Basic

namespace PlanScript

/-- The host function that evaluates an expression. -/
def arithmeticFunction : Text := "arithmetic_expression".toList

/-- The host function that makes a list of its inputs. -/
def listFunction : Text := "create_list".toList

/-- The host function that makes a dict of keys and values in turn. -/
def dictFunction : Text := "create_dict".toList

/-- What binding a value does. -/
def Value.operation : Value → Operation
  | string contents => .literal contents
  | list items => .call listFunction items none
  | dict entries => .call dictFunction entries none
  | plain source => .literal source

/-- The name a statement binds; only a bare call binds none. -/
def Statement.output : Statement → Option Text
  | arithmetic target _ => some target
  | indexedCall target _ _ _ => some target
  | callAssignment target _ _ => some target
  | bareCall _ _ => none
  | arrayAccess target _ _ => some target
  | assignment target _ => some target

/-- What a statement does. -/
def Statement.operation : Statement → Operation
  | arithmetic _ expression => .call arithmeticFunction [expression] none
  | indexedCall _ function arguments index => .call function arguments (some index)
  | callAssignment _ function arguments => .call function arguments none
  | bareCall function arguments => .call function arguments none
  | arrayAccess _ collection index => .extract collection index
  | assignment _ value => value.operation

/-- The instruction of a statement at a step. -/
def Statement.build (step : Nat) (s : Statement) : Instruction := ⟨step, s.output, s.operation⟩

end PlanScript
