import TextTemplate.Eval.Call
import TextTemplate.Tree.Basic

/-! Evaluation of expressions. Operands come before their operator and from left to right, and the
first failure ends the evaluation. -/

namespace TextTemplate

abbrev Env := String → Option Value

mutual

def Expr.eval (env : Env) : Expr → Except EvalError Value
  | .const v => .ok v
  | .var name => .ok ((env name).getD .empty)
  | .attr object name => do (← Expr.eval env object).subscript name
  | .index object position => do
    let v ← Expr.eval env object
    let i ← Expr.eval env position
    v.index i
  | .list items => do return .list (← Expr.evalAll env items)
  | .not operand => do return .bool !(← Expr.eval env operand).isTruthy
  | .call name args => do Value.callFunction name (← Expr.evalAll env args)
  | .method object name args => do
    let receiver ← Expr.eval env object
    let vs ← Expr.evalAll env args
    receiver.callMethod name vs
termination_by structural e => e

def Expr.evalAll (env : Env) : List Expr → Except EvalError (List Value)
  | [] => .ok []
  | e :: es => do
    let v ← Expr.eval env e
    let vs ← Expr.evalAll env es
    return v :: vs
termination_by structural es => es

end

end TextTemplate
