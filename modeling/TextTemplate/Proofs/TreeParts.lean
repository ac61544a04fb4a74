import TextTemplate.Tree.Basic

/-! What there is inside a tree: the expressions in it, and how deep its loops are nested. -/

namespace TextTemplate

mutual

/-- The expressions inside an expression, operands before their operator and from left to right. The
expression itself comes last. -/
def Expr.subexprs : Expr → List Expr
  | .const v => [.const v]
  | .var name => [.var name]
  | .attr object name => Expr.subexprs object ++ [.attr object name]
  | .index object position =>
    Expr.subexprs object ++ Expr.subexprs position ++ [.index object position]
  | .list items => Expr.subexprsAll items ++ [.list items]
  | .not operand => Expr.subexprs operand ++ [.not operand]
  | .call name args => Expr.subexprsAll args ++ [.call name args]
  | .method object name args =>
    Expr.subexprs object ++ Expr.subexprsAll args ++ [.method object name args]
termination_by structural e => e

def Expr.subexprsAll : List Expr → List Expr
  | [] => []
  | e :: es => Expr.subexprs e ++ Expr.subexprsAll es
termination_by structural es => es

end

mutual

def Stmt.exprs : Stmt → List Expr
  | .text _ => []
  | .output e => e.subexprs
  | .forLoop _ iterable body other =>
    iterable.subexprs ++ Stmt.exprsAll body ++ Stmt.exprsElse other
  | .ifChain cond body branches =>
    cond.subexprs ++ Stmt.exprsAll body ++ Stmt.exprsBranches branches
  | .assign _ none => []
  | .assign _ (some e) => e.subexprs
termination_by structural s => s

def Stmt.exprsAll : List Stmt → List Expr
  | [] => []
  | s :: ss => Stmt.exprs s ++ Stmt.exprsAll ss
termination_by structural ss => ss

def Stmt.exprsElse : Option (List Stmt) → List Expr
  | none => []
  | some body => Stmt.exprsAll body
termination_by structural body => body

def Stmt.exprsBranches : List (BranchOf Stmt) → List Expr
  | [] => []
  | ⟨none, body⟩ :: rest => Stmt.exprsAll body ++ Stmt.exprsBranches rest
  | ⟨some cond, body⟩ :: rest =>
    cond.subexprs ++ Stmt.exprsAll body ++ Stmt.exprsBranches rest
termination_by structural branches => branches

end

mutual

/-- How many loop bodies a statement puts inside one another. An else body is outside its loop. -/
def Stmt.nesting : Stmt → Nat
  | .text _ => 0
  | .output _ => 0
  | .forLoop _ _ body other => max (1 + Stmt.nestingAll body) (Stmt.nestingElse other)
  | .ifChain _ body branches => max (Stmt.nestingAll body) (Stmt.nestingBranches branches)
  | .assign _ _ => 0
termination_by structural s => s

def Stmt.nestingAll : List Stmt → Nat
  | [] => 0
  | s :: ss => max (Stmt.nesting s) (Stmt.nestingAll ss)
termination_by structural ss => ss

def Stmt.nestingElse : Option (List Stmt) → Nat
  | none => 0
  | some body => Stmt.nestingAll body
termination_by structural body => body

def Stmt.nestingBranches : List (BranchOf Stmt) → Nat
  | [] => 0
  | ⟨_, body⟩ :: rest => max (Stmt.nestingAll body) (Stmt.nestingBranches rest)
termination_by structural branches => branches

end

end TextTemplate
