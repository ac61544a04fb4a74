import TextTemplate.Tree.Basic
import TextTemplate.Value.Equality

/-! Equality of trees: the same shape and names, with constants compared as values. -/

namespace TextTemplate

mutual

def Expr.equals : Expr → Expr → Bool
  | .const v, .const w => v.equals w
  | .var a, .var b => a == b
  | .attr e a, .attr f b => Expr.equals e f && a == b
  | .index e i, .index f j => Expr.equals e f && Expr.equals i j
  | .list es, .list fs => Expr.allEqual es fs
  | .not e, .not f => Expr.equals e f
  | .call a es, .call b fs => a == b && Expr.allEqual es fs
  | .method e a es, .method f b fs => Expr.equals e f && a == b && Expr.allEqual es fs
  | _, _ => false
termination_by structural e => e

def Expr.allEqual : List Expr → List Expr → Bool
  | [], [] => true
  | e :: es, f :: fs => Expr.equals e f && Expr.allEqual es fs
  | _, _ => false
termination_by structural es => es

end

def Expr.optionEquals : Option Expr → Option Expr → Bool
  | none, none => true
  | some e, some f => e.equals f
  | _, _ => false

mutual

def Stmt.equals : Stmt → Stmt → Bool
  | .text a, .text b => a == b
  | .output e, .output f => e.equals f
  | .forLoop vs e body other, .forLoop ws f body' other' =>
    vs == ws && e.equals f && Stmt.allEqual body body' && Stmt.elseEquals other other'
  | .ifChain c body bs, .ifChain c' body' bs' =>
    c.equals c' && Stmt.allEqual body body' && Stmt.branchesEqual bs bs'
  | .assign vs e, .assign ws f => vs == ws && Expr.optionEquals e f
  | _, _ => false
termination_by structural s => s

def Stmt.allEqual : List Stmt → List Stmt → Bool
  | [], [] => true
  | s :: ss, t :: ts => Stmt.equals s t && Stmt.allEqual ss ts
  | _, _ => false
termination_by structural ss => ss

def Stmt.elseEquals : Option (List Stmt) → Option (List Stmt) → Bool
  | none, none => true
  | some ss, some ts => Stmt.allEqual ss ts
  | _, _ => false
termination_by structural body => body

def Stmt.branchesEqual : List (BranchOf Stmt) → List (BranchOf Stmt) → Bool
  | [], [] => true
  | ⟨c, body⟩ :: bs, ⟨c', body'⟩ :: bs' =>
    Expr.optionEquals c c' && Stmt.allEqual body body' && Stmt.branchesEqual bs bs'
  | _, _ => false
termination_by structural bs => bs

end

end TextTemplate
