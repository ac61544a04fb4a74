import TextTemplate.Proofs.BranchChoice
import TextTemplate.Proofs.LoopVariables
import TextTemplate.Proofs.ScopeLimit

/-! Loops with an else body. Such a loop goes the way of the truth of its source: it is the
conditional that has the loop without an else body for its one branch and the else body for the
other. -/

namespace TextTemplate

theorem Value.size_eq_zero_of_falsy {v : Value} (h : v.isTruthy = false) : v.items.size = 0 := by
  cases hv : v.isList with
  | true =>
    rw [isTruthy_of_isList hv] at h
    simpa using h
  | false =>
    rw [items_of_not_isList hv]
    rfl

theorem Value.size_pos_of_truthy {v : Value} (hv : v.isList) (h : v.isTruthy = true) :
    0 < v.items.size := by
  rw [isTruthy_of_isList hv] at h
  exact Nat.pos_of_ne_zero (of_decide_eq_true h)

theorem Value.answers_or_refuses (v : Value) (names : List String) :
    (∀ name ∈ names, ∃ x, v.subscript name = .ok x) ∨
      ∃ e before name after, names = before ++ name :: after ∧
        (∀ n ∈ before, ∃ x, v.subscript n = .ok x) ∧ v.subscript name = .error e := by
  induction names with
  | nil => exact .inl nofun
  | cons first names ih =>
    cases hfirst : v.subscript first with
    | error e => exact .inr ⟨e, [], first, names, rfl, nofun, hfirst⟩
    | ok x =>
      rcases ih with hall | ⟨e, before, name, after, rfl, hbefore, hname⟩
      · exact .inl (List.forall_mem_cons.mpr ⟨⟨x, hfirst⟩, hall⟩)
      · exact .inr ⟨e, first :: before, name, after, rfl,
          List.forall_mem_cons.mpr ⟨⟨x, hfirst⟩, hbefore⟩, hname⟩

theorem Context.defineFields_refused {value : Value} {before after : List String} {name : String}
    {e : EvalError} (hbefore : ∀ n ∈ before, ∃ x, value.subscript n = .ok x)
    (hname : value.subscript name = .error e) (c : Context) :
    (c.defineFields value (before ++ name :: after)).2 = .error e := by
  induction before generalizing c with
  | nil => simp only [List.nil_append, defineFields, hname]
  | cons n before ih =>
    obtain ⟨⟨x, hx⟩, hrest⟩ := List.forall_mem_cons.mp hbefore
    simp only [List.cons_append, defineFields, hx]
    exact ih hrest _

namespace Loop

/-- The first of several variables that an item has no answer for, and the error instead. -/
def Refuses (vars : List String) (item : Value) (e : EvalError) : Prop :=
  1 < vars.length ∧ ∃ before name after, vars = before ++ name :: after ∧
    (∀ n ∈ before, ∃ x, item.subscript n = .ok x) ∧ item.subscript name = .error e

theorem binds_or_refuses (vars : List String) (item : Value) :
    Binds vars item ∨ ∃ e, Refuses vars item e := by
  by_cases hseveral : 1 < vars.length
  · rcases item.answers_or_refuses vars with hall | ⟨e, hrefused⟩
    · exact .inl fun _ => hall
    · exact .inr ⟨e, hseveral, hrefused⟩
  · exact .inl fun h => absurd h hseveral

variable {vars : List String} {item : Value} {e : EvalError}

theorem Refuses.bindItem (h : Refuses vars item e) (sink : Sink) (c : Context) :
    ∃ c', Loop.bindItem vars item sink c = Outcome.fail e sink c' := by
  obtain ⟨hseveral, before, name, after, rfl, hbefore, hname⟩ := h
  have hmap : item.isMap := by
    cases hm : item.isMap with
    | true => rfl
    | false =>
      rw [Value.subscript_of_not_isMap hm] at hname
      cases hname
  have hresult : (c.defineFields item (before ++ name :: after)).2 = .error e :=
    Context.defineFields_refused hbefore hname c
  refine ⟨(c.defineFields item (before ++ name :: after)).1, ?_⟩
  rw [Loop.bindItem.eq_def, if_pos ⟨hseveral, hmap⟩]
  simp only [Outcome.defineFields, hresult, Outcome.fail]

end Loop

namespace Stmt

variable {vars : List String} {iterable : Expr} {c : Context} {v : Value}

theorem render_forElse (hroom : c.depth < c.maxDepth)
    (hsource : ∀ v, c.eval iterable = .ok v → v.isList ∨ v.isTruthy = false) (vars : List String)
    (body other : Template) (sink : Sink) :
    render (.forLoop vars iterable body (some other)) sink c =
      render (.ifChain iterable [.forLoop vars iterable body none] [⟨none, other⟩]) sink c := by
  rw [render_ifChain_eq_branches, renderBranches_cond]
  cases hv : c.eval iterable with
  | error e => simp only [render, hv, Outcome.withValue]
  | ok v =>
    cases htruthy : v.isTruthy with
    | false =>
      have hempty : v.items.size = 0 := Value.size_eq_zero_of_falsy htruthy
      rw [render_forLoop_of_empty hroom hv hempty]
      simp only [Outcome.withValue, htruthy, Bool.false_eq_true, if_false]
      rfl
    | true =>
      have hlist : v.isList := (hsource v hv).resolve_right (by simp [htruthy])
      have hitems : 0 < v.items.size := Value.size_pos_of_truthy hlist htruthy
      rw [render_forLoop_of_items hv hitems vars body (some other) none]
      simp only [Outcome.withValue, htruthy, if_true]
      exact (Outcome.andThen_done_right _).symm

section starts

variable {opened : Context} (hsource : c.eval iterable = .ok v) (hopened : c.enter = .ok opened)
include hsource hopened

theorem bodyStarts_of_empty (hempty : v.items.size = 0) (vars : List String) (body : Template)
    (sink : Sink) : bodyStarts vars iterable body sink c = [] := by
  rw [bodyStarts_of_ok hsource hopened, Loop.starts, hempty]
  rfl

variable (hitems : 0 < v.items.size)
include hitems

theorem bodyStarts_of_binds (hbinds : Loop.Binds vars (v.items.item 0)) (body : Template)
    (sink : Sink) : bodyStarts vars iterable body sink c ≠ [] := by
  obtain ⟨n, hn⟩ := Nat.exists_eq_add_one_of_ne_zero (Nat.ne_of_gt hitems)
  obtain ⟨c', hbind, -⟩ := hbinds.exists_bindItem sink
    (opened.define "loop" (.ofBindings (Loop.fieldsAt v.items 0)))
  have hhead : (Loop.startsFrom v.items vars (renderAll body) (n + 1) 0 sink opened).head? =
      some (sink, c') := Loop.head?_startsFrom (renderAll body) hbind
  rw [bodyStarts_of_ok hsource hopened, Loop.starts, hn]
  exact fun hnil => by simp [hnil] at hhead

theorem render_forLoop_of_refuses {e : EvalError} (h : Loop.Refuses vars (v.items.item 0) e)
    (body : Template) (other : Option Template) (sink : Sink) :
    bodyStarts vars iterable body sink c = [] ∧
      render (.forLoop vars iterable body other) sink c = Outcome.fail e sink c := by
  obtain ⟨n, hn⟩ := Nat.exists_eq_add_one_of_ne_zero (Nat.ne_of_gt hitems)
  obtain ⟨c', hbind⟩ := h.bindItem sink
    (opened.define "loop" (.ofBindings (Loop.fieldsAt v.items 0)))
  constructor
  · rw [bodyStarts_of_ok hsource hopened, Loop.starts, hn]
    simp only [Loop.startsFrom, hbind, Outcome.fail]
  · have hrun : Loop.run v.items vars (renderAll body) sink opened = Outcome.fail e sink c' := by
      rw [Loop.run_eq_plain, Loop.plain, hn]
      simp only [Loop.plainFrom, Loop.step, hbind, Outcome.andThen_fail]
    rw [render_forLoop_of_enter hsource hitems hopened, hrun]
    rfl

end starts

/-- A loop with an else body is the conditional on its source, but that a truthy list whose first
item cannot be bound sends it to neither body. -/
theorem render_forElse_eq_ifChain (hroom : c.depth < c.maxDepth)
    (hsource : ∀ v, c.eval iterable = .ok v → v.isList ∨ v.isTruthy = false) (vars : List String)
    (body other : Template) (sink : Sink) :
    let loop (otherwise : Option Template) : Stmt := .forLoop vars iterable body otherwise
    let o := render (loop (some other)) sink c
    let starts := bodyStarts vars iterable body sink c
    o = render (.ifChain iterable [loop none] [⟨none, other⟩]) sink c ∧
      ∀ v, c.eval iterable = .ok v → v.isList →
        (v.isTruthy = false → starts = [] ∧ o = renderAll other sink c) ∧
        (v.isTruthy = true → (∀ otherwise, render (loop otherwise) sink c = o) ∧
          (Loop.Binds vars (v.items.item 0) ∧ starts ≠ [] ∨
            ∃ e, Loop.Refuses vars (v.items.item 0) e ∧ starts = [] ∧
              o = Outcome.fail e sink c)) := by
  intro loop o starts
  obtain ⟨opened, hopened⟩ := Context.exists_enter hroom
  refine ⟨render_forElse hroom hsource vars body other sink, fun v hv hlist => ⟨fun hfalse => ?_,
    fun htrue => ?_⟩⟩
  · have hempty : v.items.size = 0 := Value.size_eq_zero_of_falsy hfalse
    exact ⟨bodyStarts_of_empty hv hopened hempty vars body sink,
      render_forLoop_of_empty hroom hv hempty vars body (some other) sink⟩
  · have hitems : 0 < v.items.size := Value.size_pos_of_truthy hlist htrue
    refine ⟨fun otherwise => render_forLoop_of_items hv hitems vars body otherwise _ sink, ?_⟩
    rcases Loop.binds_or_refuses vars (v.items.item 0) with hbinds | ⟨e, hrefuses⟩
    · exact .inl ⟨hbinds, bodyStarts_of_binds hv hopened hitems hbinds body sink⟩
    · exact .inr ⟨e, hrefuses, render_forLoop_of_refuses hv hopened hitems hrefuses body _ sink⟩

theorem render_forElse_eq_ifChain_lazyList :
    let source (n : Nat) : Expr := .const (.genericList ⟨n, fun _ => .int 7⟩)
    let loop (n : Nat) : Stmt := .forLoop ["x"] (source n) [.output (.var "x")] none
    let conditional (n : Nat) : Stmt := .ifChain (source n) [loop n] [⟨none, [.text "none"]⟩]
    let c := Context.new .empty
    let starts (n : Nat) := bodyStarts ["x"] (source n) [.output (.var "x")] .empty c
    (render (conditional 0) .empty c).sink = .buffer "none" ∧ starts 0 = [] ∧
      (render (conditional 2) .empty c).sink = .buffer "77" ∧ starts 2 ≠ [] := by
  intro source loop conditional c starts
  have hroom : c.depth < c.maxDepth := by decide
  have hsource (n : Nat) : ∀ v, c.eval (source n) = .ok v → v.isList ∨ v.isTruthy = false := by
    rintro v hv
    cases hv
    exact .inl rfl
  have h (n : Nat) := render_forElse_eq_ifChain hroom (hsource n) ["x"] [.output (.var "x")]
    [.text "none"] .empty
  obtain ⟨hempty, hfalsy⟩ := h 0
  obtain ⟨hitems, htruthy⟩ := h 2
  have hnone := ((hfalsy _ rfl rfl).1 rfl).1
  have hsome : starts 2 ≠ [] := by
    rcases ((htruthy _ rfl rfl).2 rfl).2 with hstarts | ⟨_, hrefuses, _⟩
    · exact hstarts.2
    · exact absurd hrefuses.1 (Nat.lt_irrefl 1)
  exact ⟨congrArg Outcome.sink hempty.symm, hnone, congrArg Outcome.sink hitems.symm, hsome⟩

/-- The list is truthy, but its one item refuses the first of the names. -/
theorem bodyStarts_refusedFirst :
    let c := Context.new .empty
    let blank : MapView Value := .ofBindings (Bindings.empty : Bindings Value) id
    let source := Value.list [.genericMap blank]
    let body : Template := [.text "body"]
    let loop : Stmt := .forLoop ["a", "b"] (.const source) body (some [.text "else"])
    c.depth < c.maxDepth ∧ source.isList = true ∧
      ¬(source.isTruthy = true ↔ bodyStarts ["a", "b"] (.const source) body .empty c ≠ []) ∧
      loop.render .empty c = Outcome.fail (.invalidField "a") .empty c := by
  intro c blank source body loop
  refine ⟨by decide, rfl, fun h => h.mp rfl rfl, rfl⟩

end Stmt

end TextTemplate
