import TextTemplate.Render.Loop
import TextTemplate.Eval.Expr

/-! Rendering of statements. The first failure ends the render. -/

namespace TextTemplate

namespace Context

def eval (c : Context) (e : Expr) : Except EvalError Value :=
  e.eval c.lookup

/-- Whether a condition holds. One that is not there does. -/
def holds (c : Context) : Option Expr → Except EvalError Bool
  | none => .ok true
  | some e => do return (← c.eval e).isTruthy

end Context

def BranchOf.isTaken {σ : Type} (b : BranchOf σ) (c : Context) : Except EvalError Bool :=
  c.holds b.cond

mutual

/-- A loop opens its scope before it looks at its items, so the limit counts for an empty list too.
Its else body renders outside that scope. -/
def Stmt.render : Stmt → Rendering
  | .text s => fun sink c => Outcome.done (sink.write s) c
  | .output e => fun sink c =>
    Outcome.withValue (c.eval e) (fun v sink c => Outcome.done (sink.writeValue v) c) sink c
  | .forLoop vars iterable body other => fun sink c =>
    Outcome.withValue (c.eval iterable) (fun source sink c =>
      let items := source.items
      (Outcome.inScope (Loop.run items vars (Stmt.renderAll body)) sink c).andThen
        (if items.size = 0 then Stmt.renderElse other else Outcome.done)) sink c
  | .ifChain cond body branches => fun sink c =>
    Outcome.withValue (c.eval cond) (fun v =>
      if v.isTruthy then Stmt.renderAll body else Stmt.renderBranches branches) sink c
  | .assign targets value => fun sink c =>
    match value with
    | none => Outcome.done sink c
    | some e =>
      Outcome.withValue (c.eval e) (fun v sink c =>
        match targets with
        | [name] => Outcome.done sink (c.define name v)
        | names => Outcome.defineFields names v sink c) sink c
termination_by structural s => s

def Stmt.renderAll : List Stmt → Rendering
  | [] => Outcome.done
  | s :: ss => fun sink c => (Stmt.render s sink c).andThen (Stmt.renderAll ss)
termination_by structural ss => ss

def Stmt.renderElse : Option (List Stmt) → Rendering
  | none => Outcome.done
  | some body => Stmt.renderAll body
termination_by structural body => body

def Stmt.renderBranches : List (BranchOf Stmt) → Rendering
  | [] => Outcome.done
  | ⟨cond, body⟩ :: rest => fun sink c =>
    match c.holds cond with
    | .ok true => Stmt.renderAll body sink c
    | .ok false => Stmt.renderBranches rest sink c
    | .error e => Outcome.fail e sink c
termination_by structural branches => branches

end

theorem Context.holds_some (c : Context) (cond : Expr) :
    c.holds (some cond) = (c.eval cond).map Value.isTruthy := by
  rw [holds]
  cases c.eval cond <;> rfl

theorem Stmt.renderBranches_cond (cond : Expr) (body : List Stmt) (rest : List Branch)
    (sink : Sink) (c : Context) : renderBranches (⟨some cond, body⟩ :: rest) sink c =
      Outcome.withValue (c.eval cond)
        (fun v => if v.isTruthy then renderAll body else renderBranches rest) sink c := by
  simp only [renderBranches, Context.holds_some]
  cases c.eval cond with
  | error e => rfl
  | ok v =>
    rw [Except.map, Outcome.withValue]
    cases v.isTruthy <;> rfl

theorem Stmt.renderAll_append (a b : Template) (sink : Sink) (c : Context) :
    renderAll (a ++ b) sink c = (renderAll a sink c).andThen (renderAll b) := by
  induction a generalizing sink c with
  | nil => rfl
  | cons s ss ih =>
    simp only [List.cons_append, renderAll, Outcome.andThen_assoc]
    congr 1
    funext sink c
    exact ih sink c

namespace Template

/-- The text of a template, and the context that rendering it leaves, also after a failure. -/
def renderText (t : Template) (c : Context) : Context × Except EvalError String :=
  let o := Stmt.renderAll t .empty c
  (o.context, o.result.map fun _ => o.sink.output)

def renderWith (t : Template) (params : Bindings Value) : Except EvalError String :=
  (t.renderText (.new params)).2

end Template
end TextTemplate
