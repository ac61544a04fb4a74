import TextTemplate.Render.Stmt

/-! The branch that a conditional takes. It is found by evaluating the conditions one after the
other, just as far as is needed, and the conditional is as good as a nest of conditionals that have
one condition each. -/

namespace TextTemplate

namespace BranchOf

/-- Goes through branches to the first one that is taken, and gives its body. What it means to
evaluate a condition is left open. -/
def search {m : Type → Type} [Monad m] (evaluate : Expr → m Value) :
    List Branch → m (Option Template)
  | [] => return none
  | ⟨none, body⟩ :: _ => return some body
  | ⟨some cond, body⟩ :: rest => do
    let v ← evaluate cond
    if v.isTruthy then return some body else search evaluate rest

def conditions (branches : List Branch) : List Expr :=
  branches.filterMap fun b => b.cond

end BranchOf

abbrev Recording := ExceptT EvalError (StateM (List Expr))

namespace Context

def evalRecorded (c : Context) (e : Expr) : Recording Value := do
  modify fun record => record ++ [e]
  liftExcept (c.eval e)

def findBody (c : Context) (branches : List Branch) (record : List Expr) :
    Except EvalError (Option Template) × List Expr :=
  (BranchOf.search c.evalRecorded branches).run.run record

section findBody

variable (c : Context)

theorem run_evalRecorded (e : Expr) (record : List Expr) :
    (c.evalRecorded e).run.run record = (c.eval e, record ++ [e]) := by
  unfold evalRecorded
  cases c.eval e <;> rfl

theorem findBody_cond (cond : Expr) (body : Template) (rest : List Branch) (record : List Expr) :
    c.findBody (⟨some cond, body⟩ :: rest) record =
      match c.eval cond with
      | .ok v =>
        if v.isTruthy then (.ok (some body), record ++ [cond])
        else c.findBody rest (record ++ [cond])
      | .error e => (.error e, record ++ [cond]) := by
  have hrun := c.run_evalRecorded cond record
  simp only [findBody, BranchOf.search, ExceptT.run_bind, StateT.run_bind]
  rw [hrun]
  cases c.eval cond with
  | error e => rfl
  | ok v =>
    change StateT.run (ExceptT.run (if v.isTruthy then return some body else
      BranchOf.search c.evalRecorded rest)) (record ++ [cond]) = if v.isTruthy then _ else _
    split
    · rfl
    · rfl

variable {c}

theorem isTaken_cond {cond : Expr} {body : Template} {taken : Bool}
    (h : BranchOf.isTaken ⟨some cond, body⟩ c = .ok taken) :
    ∃ v, c.eval cond = .ok v ∧ v.isTruthy = taken := by
  rw [BranchOf.isTaken, holds_some] at h
  cases hv : c.eval cond with
  | error e =>
    rw [hv] at h
    cases h
  | ok v =>
    rw [hv] at h
    exact ⟨v, rfl, Except.ok.inj h⟩

theorem findBody_passed {passed : List Branch} (h : ∀ b ∈ passed, b.isTaken c = .ok false)
    (rest : List Branch) (record : List Expr) :
    c.findBody (passed ++ rest) record =
      c.findBody rest (record ++ BranchOf.conditions passed) := by
  induction passed generalizing record with
  | nil => rw [List.nil_append, BranchOf.conditions, List.filterMap_nil, List.append_nil]
  | cons b passed ih =>
    obtain ⟨hb, hrest⟩ := List.forall_mem_cons.mp h
    obtain ⟨cond, body⟩ := b
    cases cond with
    | none => cases hb
    | some cond =>
      obtain ⟨v, hv, hfalse⟩ := isTaken_cond hb
      rw [List.cons_append, findBody_cond, hv]
      simp only [hfalse, Bool.false_eq_true, if_false]
      rw [ih hrest, List.append_assoc]
      rfl

theorem findBody_stopped {b : Branch} (h : b.isTaken c ≠ .ok false) (after : List Branch)
    (record : List Expr) : c.findBody (b :: after) record =
      ((b.isTaken c).map fun _ => some b.body, record ++ BranchOf.conditions [b]) := by
  obtain ⟨cond, body⟩ := b
  cases cond with
  | none => exact Prod.ext rfl (List.append_nil record).symm
  | some cond =>
    rw [BranchOf.isTaken, holds_some] at h ⊢
    rw [findBody_cond]
    cases hv : c.eval cond with
    | error e => rfl
    | ok v =>
      rw [hv] at h
      have htrue : v.isTruthy = true := by
        rw [← Bool.not_eq_false]
        exact fun hfalse => h (congrArg Except.ok hfalse)
      simp only [htrue, if_true]
      rfl

theorem findBody_split {before : List Branch} (hbefore : ∀ b' ∈ before, b'.isTaken c = .ok false)
    {b : Branch} (h : b.isTaken c ≠ .ok false) (after : List Branch) :
    c.findBody (before ++ b :: after) [] =
      ((b.isTaken c).map fun _ => some b.body, BranchOf.conditions (before ++ [b])) := by
  rw [findBody_passed hbefore, findBody_stopped h, List.nil_append]
  simp only [BranchOf.conditions, List.filterMap_append]

end findBody

end Context

namespace Stmt

def renderFound : Except EvalError (Option Template) → Rendering
  | .ok (some body) => renderAll body
  | .ok none => Outcome.done
  | .error e => Outcome.fail e

theorem renderBranches_eq_found (branches : List Branch) (record : List Expr) (sink : Sink)
    (c : Context) :
    renderBranches branches sink c = renderFound (c.findBody branches record).1 sink c := by
  induction branches generalizing record with
  | nil => rfl
  | cons b rest ih =>
    obtain ⟨cond, body⟩ := b
    cases cond with
    | none => rfl
    | some cond =>
      rw [renderBranches_cond, Context.findBody_cond]
      cases c.eval cond with
      | error e => rfl
      | ok v =>
        cases hv : v.isTruthy with
        | true => simp only [Outcome.withValue, hv, if_true, renderFound]
        | false =>
          simp only [Outcome.withValue, hv, Bool.false_eq_true, if_false]
          exact ih (record ++ [cond])

theorem render_ifChain_eq_branches (cond : Expr) (body : Template) (branches : List Branch)
    (sink : Sink) (c : Context) : render (.ifChain cond body branches) sink c =
      renderBranches (⟨some cond, body⟩ :: branches) sink c :=
  (renderBranches_cond cond body branches sink c).symm

theorem renderBranches_eq_nested (cond : Expr) (body : Template) (rest : List Branch) :
    renderBranches (⟨some cond, body⟩ :: rest) =
      renderBranches [⟨none, [.ifChain cond body rest]⟩] := by
  funext sink c
  rw [← render_ifChain_eq_branches]
  exact (Outcome.andThen_done_right _).symm

theorem render_ifChain_congr {branches branches' : List Branch}
    (h : renderBranches branches = renderBranches branches') (cond : Expr) (body : Template) :
    render (.ifChain cond body branches) = render (.ifChain cond body branches') := by
  funext sink c
  simp only [render, h]

/-- Each later condition has a conditional of its own, alone in the bare branch before it. -/
def nestedIfs (cond : Expr) (body : Template) : List Branch → Stmt
  | [] => .ifChain cond body []
  | ⟨none, other⟩ :: _ => .ifChain cond body [⟨none, other⟩]
  | ⟨some next, other⟩ :: rest => .ifChain cond body [⟨none, [nestedIfs next other rest]⟩]

theorem render_nestedIfs (cond : Expr) (body : Template) (branches : List Branch) :
    render (nestedIfs cond body branches) = render (.ifChain cond body branches) := by
  induction branches generalizing cond body with
  | nil => rfl
  | cons b rest ih =>
    obtain ⟨next, other⟩ := b
    cases next with
    | none => exact render_ifChain_congr rfl cond body
    | some next =>
      refine render_ifChain_congr ?_ cond body
      rw [renderBranches_eq_nested]
      simp only [renderBranches, renderAll, ih]

/-- A chain of conditions is a nest of conditionals. They are evaluated in the context as it is at
the start, and none after the first that holds or fails. -/
theorem render_ifChain_eq_nested (cond : Expr) (body : Template) (branches : List Branch)
    (sink : Sink) (c : Context) :
    let arms : List Branch := ⟨some cond, body⟩ :: branches
    let o := render (.ifChain cond body branches) sink c
    let found := c.findBody arms []
    o = render (nestedIfs cond body branches) sink c ∧
      (∀ next other rest, branches = ⟨some next, other⟩ :: rest →
        o = render (.ifChain cond body [⟨none, [.ifChain next other rest]⟩]) sink c) ∧
      (∀ other rest, branches = ⟨none, other⟩ :: rest →
        o = render (.ifChain cond body [⟨none, other⟩]) sink c) ∧
      o = renderFound found.1 sink c ∧
      ((∀ b ∈ arms, b.isTaken c = .ok false) → found = (.ok none, BranchOf.conditions arms)) ∧
      ∀ before b after, arms = before ++ b :: after →
        (∀ b' ∈ before, b'.isTaken c = .ok false) →
          (b.isTaken c = .ok true →
            found = (.ok (some b.body), BranchOf.conditions (before ++ [b]))) ∧
          ∀ e, b.isTaken c = .error e →
            found = (.error e, BranchOf.conditions (before ++ [b])) := by
  intro arms o found
  refine ⟨?_, ?_, ?_, ?_, ?_, ?_⟩
  · rw [render_nestedIfs]
  · rintro next other rest rfl
    exact congrFun (congrFun (render_ifChain_congr (renderBranches_eq_nested next other rest)
      cond body) sink) c
  · rintro other rest rfl
    rfl
  · rw [← renderBranches_eq_found]
    exact render_ifChain_eq_branches cond body branches sink c
  · intro hall
    have hpassed := Context.findBody_passed hall [] []
    rwa [List.append_nil] at hpassed
  · intro before b after hsplit hbefore
    have hfound : found = c.findBody (before ++ b :: after) [] := by
      rw [← hsplit]
    refine ⟨fun htaken => ?_, fun e hfail => ?_⟩
    · have hstop : b.isTaken c ≠ .ok false := htaken ▸ nofun
      rw [hfound, Context.findBody_split hbefore hstop, htaken]
      rfl
    · have hstop : b.isTaken c ≠ .ok false := hfail ▸ nofun
      rw [hfound, Context.findBody_split hbefore hstop, hfail]
      rfl

end Stmt
end TextTemplate
