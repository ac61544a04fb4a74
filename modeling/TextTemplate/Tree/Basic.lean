import TextTemplate.Value.Access

/-! Templates as trees: expressions, and statements that hold them. -/

namespace TextTemplate

inductive Expr where
  | const (value : Value)
  | var (name : String)
  | attr (object : Expr) (name : String)
  | index (object index : Expr)
  | list (items : List Expr)
  | not (operand : Expr)
  | call (name : String) (args : List Expr)
  | method (object : Expr) (name : String) (args : List Expr)

namespace Expr

instance : Inhabited Expr := ⟨const .empty⟩

def int (n : Int64) : Expr := const (.int n)

def bool (b : Bool) : Expr := const (.bool b)

def loopField (field : String) : Expr := attr (var "loop") field

end Expr

/-- A later branch of a conditional. One without a condition is always taken. -/
structure BranchOf (σ : Type) where
  cond : Option Expr
  body : List σ

inductive Stmt where
  | text (text : String)
  | output (expr : Expr)
  | forLoop (vars : List String) (iterable : Expr) (body : List Stmt)
      (elseBody : Option (List Stmt))
  | ifChain (cond : Expr) (body : List Stmt) (branches : List (BranchOf Stmt))
  /-- Binds one target to the value, or several to its entries of their names. -/
  | assign (targets : List String) (value : Option Expr)

namespace Stmt

instance : Inhabited Stmt := ⟨text ""⟩

end Stmt

abbrev Branch := BranchOf Stmt

abbrev Template := List Stmt

end TextTemplate
