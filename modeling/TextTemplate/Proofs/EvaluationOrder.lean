import TextTemplate.Render.Stmt
import TextTemplate.Proofs.TreeParts
import Mathlib.Data.List.Forall2

/-! What an evaluation fails with. Every expression evaluates its operands from left to right and
then applies an operator to their values. So an evaluation succeeds just when it does so in every
part, and else its error is that of the first part, in postorder, that fails by itself. -/

namespace TextTemplate

def EvalError.ofResult? {α : Type} : Except EvalError α → Option EvalError
  | .ok _ => none
  | .error e => some e

namespace EvalError

variable {α β : Type}

theorem ofResult?_eq_some_iff {r : Except EvalError α} {e : EvalError} :
    ofResult? r = some e ↔ r = .error e := by
  cases r <;> simp [ofResult?]

theorem ofResult?_bind (r : Except EvalError α) (f : α → Except EvalError β) :
    ofResult? (r >>= f) = (ofResult? r).or (r.toOption.bind fun a => ofResult? (f a)) := by
  cases r <;> rfl

end EvalError

namespace Expr

def operands : Expr → List Expr
  | .const _ => []
  | .var _ => []
  | .attr object _ => [object]
  | .index object position => [object, position]
  | .list items => items
  | .not operand => [operand]
  | .call _ args => args
  | .method object _ args => object :: args

def operator (env : Env) : Expr → List Value → Except EvalError Value
  | .const v, _ => .ok v
  | .var name, _ => .ok ((env name).getD .empty)
  | .attr _ name, [v] => v.subscript name
  | .index _ _, [v, i] => v.index i
  | .list _, vs => .ok (.list vs)
  | .not _, [v] => .ok (.bool !v.isTruthy)
  | .call name _, vs => Value.callFunction name vs
  | .method _ name _, receiver :: vs => receiver.callMethod name vs
  | _, _ => .ok .empty

section operands

variable (env : Env)

theorem evalAll_singleton (e : Expr) :
    evalAll env [e] = (e.eval env).map fun v => [v] := by
  rw [evalAll]
  cases e.eval env <;> rfl

theorem eval_eq_operator (e : Expr) :
    e.eval env = evalAll env e.operands >>= e.operator env := by
  cases e with
  | const v => rfl
  | var name => rfl
  | attr object name =>
    rw [operands, evalAll_singleton, eval]
    cases object.eval env <;> rfl
  | index object position =>
    rw [operands, evalAll, evalAll_singleton, eval]
    cases object.eval env with
    | error e => rfl
    | ok v => cases position.eval env <;> rfl
  | list items =>
    rw [operands, eval]
    rfl
  | not operand =>
    rw [operands, evalAll_singleton, eval]
    cases operand.eval env <;> rfl
  | call name args => rfl
  | method object name args =>
    rw [operands, evalAll, eval]
    cases object.eval env with
    | error e => rfl
    | ok receiver => cases evalAll env args <;> rfl

theorem subexprs_eq (e : Expr) : e.subexprs = subexprsAll e.operands ++ [e] := by
  cases e <;> simp [subexprs, subexprsAll, operands]

end operands

-- The recursion goes through the lists of operands that some expressions have.
mutual

@[elab_as_elim]
theorem operandsInduction {motive : Expr → Prop}
    (step : ∀ e, (∀ o ∈ e.operands, motive o) → motive e) : ∀ e, motive e
  | .const v => step (.const v) nofun
  | .var name => step (.var name) nofun
  | .attr object name =>
    step (.attr object name) (List.forall_mem_singleton.mpr (operandsInduction step object))
  | .index object position =>
    step (.index object position) (List.forall_mem_cons.mpr ⟨operandsInduction step object,
      List.forall_mem_singleton.mpr (operandsInduction step position)⟩)
  | .list items => step (.list items) (operandsInductionAll step items)
  | .not operand =>
    step (.not operand) (List.forall_mem_singleton.mpr (operandsInduction step operand))
  | .call name args => step (.call name args) (operandsInductionAll step args)
  | .method object name args =>
    step (.method object name args) (List.forall_mem_cons.mpr ⟨operandsInduction step object,
      operandsInductionAll step args⟩)

theorem operandsInductionAll {motive : Expr → Prop}
    (step : ∀ e, (∀ o ∈ e.operands, motive o) → motive e) : ∀ es : List Expr, ∀ e ∈ es, motive e
  | [] => nofun
  | e :: es => List.forall_mem_cons.mpr ⟨operandsInduction step e, operandsInductionAll step es⟩

end

section evalAll

variable {env : Env} {es : List Expr}

theorem evalAll_eq_ok_iff {vs : List Value} :
    evalAll env es = .ok vs ↔ List.Forall₂ (fun e v => e.eval env = .ok v) es vs := by
  induction es generalizing vs with
  | nil =>
    rw [evalAll, List.forall₂_nil_left_iff, Except.ok.injEq]
    exact eq_comm
  | cons e es ih =>
    rw [List.forall₂_cons_left_iff, evalAll]
    cases he : e.eval env with
    | error error =>
      refine ⟨nofun, ?_⟩
      rintro ⟨v, _, hv, -⟩
      cases hv
    | ok v =>
      cases hes : evalAll env es with
      | error error =>
        refine ⟨nofun, ?_⟩
        rintro ⟨_, ws, -, hws, -⟩
        cases hes.symm.trans (ih.mpr hws)
      | ok ws =>
        constructor
        · rintro ⟨⟩
          exact ⟨v, ws, rfl, ih.mp hes, rfl⟩
        · rintro ⟨w, us, hw, hus, rfl⟩
          cases hw
          cases hes.symm.trans (ih.mpr hus)
          rfl

theorem exists_evalAll_iff :
    (∃ vs, evalAll env es = .ok vs) ↔ ∀ e ∈ es, ∃ v, e.eval env = .ok v := by
  simp only [evalAll_eq_ok_iff]
  induction es with
  | nil => simp
  | cons e es ih =>
    rw [List.forall_mem_cons, ← ih]
    constructor
    · rintro ⟨_, _ | ⟨hv, hvs⟩⟩
      exact ⟨⟨_, hv⟩, _, hvs⟩
    · rintro ⟨⟨v, hv⟩, vs, hvs⟩
      exact ⟨v :: vs, .cons hv hvs⟩

theorem getElem?_of_evalAll {vs : List Value} (h : evalAll env es = .ok vs) {i : Nat} {e : Expr}
    (he : es[i]? = some e) : ∃ v, vs[i]? = some v ∧ e.eval env = .ok v := by
  induction evalAll_eq_ok_iff.mp h generalizing i with
  | nil => cases he
  | cons hfirst hrest ih =>
    cases i with
    | zero =>
      cases he
      exact ⟨_, rfl, hfirst⟩
    | succ i => exact ih (evalAll_eq_ok_iff.mpr hrest) he

theorem evalAll_of_error {before after : List Expr} {e : Expr} {error : EvalError}
    (hbefore : ∀ e ∈ before, ∃ v, e.eval env = .ok v) (he : e.eval env = .error error) :
    evalAll env (before ++ e :: after) = .error error := by
  induction before with
  | nil =>
    rw [List.nil_append, evalAll, he]
    rfl
  | cons first before ih =>
    obtain ⟨⟨v, hv⟩, hrest⟩ := List.forall_mem_cons.mp hbefore
    rw [List.cons_append, evalAll, hv, ih hrest]
    rfl

theorem mem_subexprsAll {s : Expr} : s ∈ subexprsAll es ↔ ∃ e ∈ es, s ∈ e.subexprs := by
  induction es with
  | nil => simp [subexprsAll]
  | cons e es ih => simp [subexprsAll, ih]

end evalAll

/-- The operands have values, and the operator fails when it is applied to them. -/
def FailsByItself (env : Env) (e : Expr) (error : EvalError) : Prop :=
  ∃ vs, List.Forall₂ (fun o v => o.eval env = .ok v) e.operands vs ∧
    e.operator env vs = .error error

def ownError? (env : Env) (e : Expr) : Option EvalError :=
  (evalAll env e.operands).toOption.bind fun vs => EvalError.ofResult? (e.operator env vs)

section ownError

variable {env : Env}

theorem ownError?_eq_some_iff {e : Expr} {error : EvalError} :
    e.ownError? env = some error ↔ e.FailsByItself env error := by
  simp only [ownError?, FailsByItself, Option.bind_eq_some_iff, EvalError.ofResult?_eq_some_iff,
    ← evalAll_eq_ok_iff]
  refine exists_congr fun vs => and_congr_left fun _ => ?_
  cases evalAll env e.operands <;> simp [Except.toOption]

theorem ownError?_eq_none_iff {e : Expr} :
    e.ownError? env = none ↔ ∀ error, ¬e.FailsByItself env error := by
  simp only [← ownError?_eq_some_iff, Option.eq_none_iff_forall_ne_some]

theorem ofResult?_evalAll {es : List Expr}
    (h : ∀ e ∈ es, EvalError.ofResult? (e.eval env) = e.subexprs.findSome? (ownError? env)) :
    EvalError.ofResult? (evalAll env es) = (subexprsAll es).findSome? (ownError? env) := by
  induction es with
  | nil => rfl
  | cons e es ih =>
    obtain ⟨he, hes⟩ := List.forall_mem_cons.mp h
    rw [subexprsAll, List.findSome?_append, ← he, ← ih hes, evalAll]
    cases e.eval env with
    | error error => rfl
    | ok v => cases evalAll env es <;> rfl

theorem ofResult?_eval (env : Env) (e : Expr) :
    EvalError.ofResult? (e.eval env) = e.subexprs.findSome? (ownError? env) := by
  induction e using operandsInduction with
  | step e ih =>
    rw [eval_eq_operator, EvalError.ofResult?_bind, ofResult?_evalAll ih, subexprs_eq,
      List.findSome?_append, List.findSome?_singleton]
    rfl

theorem exists_eval_of_mem_subexprs {e : Expr} (he : ∃ v, e.eval env = .ok v) :
    ∀ s ∈ e.subexprs, ∃ v, s.eval env = .ok v := by
  induction e using operandsInduction with
  | step e ih =>
    intro s hs
    obtain ⟨v, hv⟩ := he
    rw [eval_eq_operator] at hv
    cases hvs : evalAll env e.operands with
    | error error =>
      rw [hvs] at hv
      cases hv
    | ok vs =>
      have hoperands := exists_evalAll_iff.mp ⟨vs, hvs⟩
      rw [subexprs_eq, List.mem_append, mem_subexprsAll, List.mem_singleton] at hs
      rcases hs with ⟨o, ho, hs⟩ | rfl
      · exact ih o ho (hoperands o ho) s hs
      · rw [hvs] at hv
        exact ⟨v, by rw [eval_eq_operator, hvs, hv]⟩

end ownError

/-- Evaluation is strict. Its error is that of the first part, operands before operators and from
left to right, whose operands have values that its operator refuses. -/
theorem eval_firstFailure (e : Expr) (c : Context) :
    ((∃ v, c.eval e = .ok v) ↔ ∀ s ∈ e.subexprs, ∃ v, c.eval s = .ok v) ∧
      (∀ error, c.eval e = .error error ↔ ∃ before s after, e.subexprs = before ++ s :: after ∧
        s.FailsByItself c.lookup error ∧
          ∀ s' ∈ before, ∀ error', ¬s'.FailsByItself c.lookup error') ∧
      ∀ before operand after error, e.operands = before ++ operand :: after →
        (∀ o ∈ before, ∃ v, c.eval o = .ok v) → c.eval operand = .error error →
          c.eval e = .error error := by
  refine ⟨⟨exists_eval_of_mem_subexprs, fun h => h e ?_⟩, fun error => ?_, ?_⟩
  · rw [subexprs_eq]
    exact List.mem_append_right _ (List.mem_singleton_self e)
  · rw [Context.eval, ← EvalError.ofResult?_eq_some_iff, ofResult?_eval,
      List.findSome?_eq_some_iff]
    simp only [ownError?_eq_some_iff, ownError?_eq_none_iff]
  · intro before operand after error hsplit hbefore hoperand
    rw [Context.eval, eval_eq_operator, hsplit, evalAll_of_error hbefore hoperand]
    rfl

theorem eval_firstFailure_threeFaults :
    let e : Expr := .method (.call "range" [.const (.str "x")]) "shout" [.call "lost" []]
    let c := Context.new .empty
    let error : EvalError := .typeMismatch "int" "str"
    c.eval e = .error error ∧ ∃ before s after, e.subexprs = before ++ s :: after ∧
      s.FailsByItself c.lookup error ∧
        ∀ s' ∈ before, ∀ error', ¬s'.FailsByItself c.lookup error' := by
  intro e c error
  have hfail : c.eval e = .error error := rfl
  exact ⟨hfail, ((eval_firstFailure e c).2.1 error).mp hfail⟩

end Expr

end TextTemplate
