import TextTemplate.Proofs.ScopeFrame
import TextTemplate.Proofs.PlainLoop
import TextTemplate.Proofs.ValueShape
import TextTemplate.Proofs.TreeParts
import Mathlib.Tactic.SplitIfs

/-! Properties of values that a render keeps. What is asked of a property is that a step into a
value keeps it and that new values get it from their parts; then every binding a render makes has
it. The errors of a render are those that reading such values can give, and that of the scope limit,
which only loops nested deeper than the limit allows can reach. -/

namespace TextTemplate

inductive Yields {α : Type} (P : α → Prop) (Q : EvalError → Prop) : Except EvalError α → Prop
  | ok {a : α} : P a → Yields P Q (.ok a)
  | error {e : EvalError} : Q e → Yields P Q (.error e)

theorem Yields.bind {α β : Type} {P : α → Prop} {R : β → Prop} {Q : EvalError → Prop}
    {x : Except EvalError α} {f : α → Except EvalError β} (h : Yields P Q x)
    (hf : ∀ a, x = .ok a → P a → Yields R Q (f a)) : Yields R Q (x >>= f) := by
  cases h with
  | ok ha => exact hf _ rfl ha
  | error he => exact .error he

namespace Value

/-- A property that values have from their parts and pass on to them. An entry that cannot be read
gives an error of `Q`. -/
structure Hereditary (P : Value → Prop) (Q : EvalError → Prop) : Prop where
  scalar : ∀ v : Value, v.isList = false → v.isMap = false → P v
  list : ∀ v : Value, v.isList → (∀ i < v.items.size, P (v.items.item i)) → P v
  map : ∀ entries, (∀ name x, Entries.get? entries name = some x → P x) → P (.map entries)
  item : ∀ {v : Value}, P v → ∀ i < v.items.size, P (v.items.item i)
  subscript : ∀ {v : Value}, P v → ∀ name, Yields P Q (v.subscript name)

namespace Hereditary

variable {P : Value → Prop} {Q : EvalError → Prop} (hP : Hereditary P Q)
include hP

theorem empty : P .empty :=
  hP.scalar _ rfl rfl

theorem ownedList {vs : List Value} (h : ∀ v ∈ vs, P v) : P (.list vs) :=
  hP.list _ rfl fun _ hi => h _ (item_listView_mem hi)

theorem ofBindings {b : Bindings Value} (h : ∀ name v, b.get? name = some v → P v) :
    P (.ofBindings b) :=
  hP.map _ h

theorem intOrEmpty (n : Int) : P (Progression.intOrEmpty n) := by
  unfold Progression.intOrEmpty
  split
  · exact hP.scalar _ rfl rfl
  · exact hP.empty

theorem progression (p : Progression) : P (.genericList p.view) := by
  refine hP.list _ rfl fun i _ => ?_
  change P (if i < p.length then _ else _)
  split
  · exact hP.intOrEmpty _
  · exact hP.empty

theorem getD {vs : List Value} (h : ∀ v ∈ vs, P v) (i : Nat) : P (vs.getD i .empty) := by
  rw [List.getD_eq_getElem?_getD]
  cases hi : vs[i]? with
  | none => exact hP.empty
  | some v => exact h v (List.mem_of_getElem? hi)

theorem index {v : Value} (hv : P v) (i : Value) : Yields P Q (v.index i) := by
  cases i with
  | str name => exact hP.subscript hv name
  | int n =>
    rw [Value.index]
    split
    · rename_i hn
      exact .ok (hP.item hv _ hn.2.2)
    · exact .ok hP.empty
  | _ => exact .ok hP.empty

section operators

variable (hQ : ∀ e, (∀ limit, e ≠ .scopeDepthExceeded limit) → Q e)
include hQ

omit hP in
theorem integers (vs : List Value) : Yields (fun _ => True) Q (Value.integers vs) := by
  induction vs with
  | nil => exact .ok trivial
  | cons v vs ih =>
    rw [integers_cons]
    cases v.asInt? with
    | none => exact .error (hQ _ fun _ h => nomatch h)
    | some n => exact ih.bind fun ns _ _ => .ok trivial

theorem ofProgression (p : Progression) : Yields P Q (Value.ofProgression p) := by
  unfold Value.ofProgression
  split
  · exact .error (hQ _ fun _ h => nomatch h)
  · split
    · exact .error (hQ _ fun _ h => nomatch h)
    · exact .ok (hP.progression p)

theorem range (vs : List Value) : Yields P Q (Value.range vs) := by
  rw [range_eq]
  refine (integers hQ vs).bind fun ns _ _ => ?_
  split
  · exact hP.ofProgression hQ _
  · exact hP.ofProgression hQ _
  · exact hP.ofProgression hQ _
  · exact .error (hQ _ fun _ h => nomatch h)

theorem callFunction (name : String) (vs : List Value) :
    Yields P Q (Value.callFunction name vs) := by
  unfold Value.callFunction
  split
  · exact hP.range hQ vs
  · exact .error (hQ _ fun _ h => nomatch h)

theorem callMethod (receiver : Value) (name : String) {vs : List Value} (h : ∀ v ∈ vs, P v) :
    Yields P Q (receiver.callMethod name vs) := by
  by_cases hname : name = "cycle"
  · rw [hname, callMethod_cycle]
    split
    · exact .ok (hP.getD h _)
    · exact .error (hQ _ fun _ h => nomatch h)
  · rw [callMethod_of_ne hname]
    exact .error (hQ _ fun _ h => nomatch h)

end operators
end Hereditary
end Value

section expressions

variable {P : Value → Prop} {Q : EvalError → Prop} {env : Env}

/-- A constant has the property, and a call gives values that have it when its operands do. -/
def Expr.Fits (P : Value → Prop) (Q : EvalError → Prop) : Expr → Prop
  | .const v => P v
  -- The operands of a call are given, since a function may fail on other values than these.
  | .call name args => ∀ env vs, Expr.evalAll env args = .ok vs → (∀ v ∈ vs, P v) →
      Yields P Q (Value.callFunction name vs)
  | .method _ name _ => ∀ receiver vs, P receiver → (∀ v ∈ vs, P v) →
      Yields P Q (receiver.callMethod name vs)
  | _ => True

mutual

theorem Expr.eval_yields (hP : Value.Hereditary P Q) (henv : ∀ name v, env name = some v → P v) :
    ∀ e : Expr, (∀ x ∈ e.subexprs, x.Fits P Q) → Yields P Q (e.eval env)
  | .const v, h => .ok (h _ (List.mem_singleton_self _))
  | .var name, _ => by
    rw [Expr.eval]
    cases hv : env name with
    | none => exact .ok hP.empty
    | some v => exact .ok (henv name v hv)
  | .attr object name, h => by
    have hobject := Expr.eval_yields hP henv object (List.forall_mem_append.mp h).1
    exact hobject.bind fun v _ hv => hP.subscript hv name
  | .index object position, h => by
    obtain ⟨hoperands, -⟩ := List.forall_mem_append.mp h
    obtain ⟨hobject, hposition⟩ := List.forall_mem_append.mp hoperands
    have hv := Expr.eval_yields hP henv object hobject
    have hi := Expr.eval_yields hP henv position hposition
    exact hv.bind fun v _ hv => hi.bind fun i _ _ => hP.index hv i
  | .list items, h => by
    have hitems := Expr.evalAll_yields hP henv items (List.forall_mem_append.mp h).1
    exact hitems.bind fun vs _ hvs => .ok (hP.ownedList hvs)
  | .not operand, h => by
    have hoperand := Expr.eval_yields hP henv operand (List.forall_mem_append.mp h).1
    exact hoperand.bind fun v _ _ => .ok (hP.scalar _ rfl rfl)
  | .call name args, h => by
    obtain ⟨hoperands, hself⟩ := List.forall_mem_append.mp h
    have hargs := Expr.evalAll_yields hP henv args hoperands
    exact hargs.bind fun vs heval hvs => hself _ (List.mem_singleton_self _) env vs heval hvs
  | .method object name args, h => by
    obtain ⟨hoperands, hself⟩ := List.forall_mem_append.mp h
    obtain ⟨hobject, hargs⟩ := List.forall_mem_append.mp hoperands
    have hreceiver := Expr.eval_yields hP henv object hobject
    have hvalues := Expr.evalAll_yields hP henv args hargs
    exact hreceiver.bind fun v _ hv => hvalues.bind fun vs _ hvs =>
      hself _ (List.mem_singleton_self _) v vs hv hvs

theorem Expr.evalAll_yields (hP : Value.Hereditary P Q)
    (henv : ∀ name v, env name = some v → P v) : ∀ es : List Expr,
      (∀ x ∈ Expr.subexprsAll es, x.Fits P Q) →
        Yields (fun vs => ∀ v ∈ vs, P v) Q (Expr.evalAll env es)
  | [], _ => .ok fun _ hv => nomatch hv
  | e :: es, h => by
    obtain ⟨he, hes⟩ := List.forall_mem_append.mp h
    have hfirst := Expr.eval_yields hP henv e he
    have hrest := Expr.evalAll_yields hP henv es hes
    exact hfirst.bind fun v _ hv => hrest.bind fun vs _ hvs =>
      .ok (List.forall_mem_cons.mpr ⟨hv, hvs⟩)

end

end expressions

def Context.All (P : Value → Prop) (c : Context) : Prop :=
  ∀ s ∈ c.scopes, ∀ name v, s.get? name = some v → P v

namespace Context.All

variable {P : Value → Prop} {c : Context}

theorem lookup (h : c.All P) (name : String) (v : Value) (hv : c.lookup name = some v) : P v := by
  obtain ⟨s, hs, hget⟩ := List.exists_of_findSome?_eq_some hv
  exact h s hs name v hget

theorem define (h : c.All P) {v : Value} (hv : P v) (name : String) :
    (c.define name v).All P := by
  rw [Context.All, scopes_eq_cons] at h
  rw [Context.All, scopes_define]
  obtain ⟨hcurrent, houter⟩ := List.forall_mem_cons.mp h
  refine List.forall_mem_cons.mpr ⟨fun other w hw => ?_, houter⟩
  rw [Bindings.get?_insert] at hw
  split at hw
  · exact Option.some.inj hw ▸ hv
  · exact hcurrent other w hw

theorem enter (h : c.All P) {opened : Context} (he : c.enter = .ok opened) : opened.All P := by
  rw [Context.All, (enter_eq_ok_iff.mp he).2.1]
  exact List.forall_mem_cons.mpr ⟨fun _ _ hv => (nomatch hv), h⟩

end Context.All

/-- The bindings have a property, and a failure is an error of `Q` unless the limit was too low for
`n` more scopes. -/
structure Outcome.Keeps (P : Value → Prop) (Q : EvalError → Prop) (n : Nat) (c : Context)
    (o : Outcome) : Prop where
  all : o.context.All P
  around : c.SameAround o.context
  error : ∀ e, o.result = .error e →
    Q e ∨ e = .scopeDepthExceeded c.maxDepth ∧ c.maxDepth < c.depth + n

def Rendering.Keeps (P : Value → Prop) (Q : EvalError → Prop) (n : Nat) (r : Rendering) : Prop :=
  ∀ sink c, c.All P → (r sink c).Keeps P Q n c

section steps

variable {P : Value → Prop} {Q : EvalError → Prop} {n : Nat}

theorem Outcome.done_keeps : Rendering.Keeps P Q n done :=
  fun _ c hc => ⟨hc, refl_of Context.SameAround c, fun _ h => nomatch h⟩

theorem Outcome.fail_keeps {e : EvalError} (he : Q e) : Rendering.Keeps P Q n (fail e) :=
  fun _ c hc => ⟨hc, refl_of Context.SameAround c, fun _ h => .inl (Except.error.inj h ▸ he)⟩

theorem Rendering.Keeps.mono {m : Nat} {r : Rendering} (h : r.Keeps P Q n) (hle : n ≤ m) :
    r.Keeps P Q m := by
  intro sink c hc
  obtain ⟨hall, haround, herror⟩ := h sink c hc
  refine ⟨hall, haround, fun e he => (herror e he).imp_right fun ⟨hlimit, hlt⟩ => ⟨hlimit, ?_⟩⟩
  omega

theorem Outcome.Keeps.andThen {c : Context} {o : Outcome} {next : Rendering}
    (h : o.Keeps P Q n c) (hnext : next.Keeps P Q n) : (o.andThen next).Keeps P Q n c := by
  obtain ⟨sink, after, result⟩ := o
  cases result with
  | error e => exact h
  | ok _ =>
    have hafter := hnext sink after h.all
    refine ⟨hafter.all, trans_of Context.SameAround h.around hafter.around, ?_⟩
    rw [← h.around.maxDepth_eq, ← h.around.depth_eq]
    exact hafter.error

theorem Outcome.withValue_keeps {value : Except EvalError Value} {next : Value → Rendering}
    (hvalue : Yields P Q value) (hnext : ∀ v, P v → (next v).Keeps P Q n) :
    Rendering.Keeps P Q n (withValue value next) := by
  cases hvalue with
  | ok hv => exact hnext _ hv
  | error he => exact fail_keeps he

theorem Outcome.Keeps.of_define {c : Context} {name : String} {v : Value} {o : Outcome}
    (h : o.Keeps P Q n (c.define name v)) : o.Keeps P Q n c := by
  have hdefine := c.define_sameAround name v
  refine ⟨h.all, trans_of Context.SameAround hdefine h.around, ?_⟩
  rw [← hdefine.maxDepth_eq, ← hdefine.depth_eq]
  exact h.error

variable (hP : Value.Hereditary P Q)
include hP

theorem Outcome.defineFields_keeps {v : Value} (hv : P v) (names : List String) :
    Rendering.Keeps P Q n (defineFields names v) := by
  induction names with
  | nil => exact done_keeps
  | cons name names ih =>
    intro sink c hc
    simp only [defineFields, Context.defineFields]
    have hfield := hP.subscript hv name
    generalize v.subscript name = x at hfield ⊢
    cases hfield with
    | error he => exact fail_keeps he sink c hc
    | ok hx => exact (ih sink _ (hc.define hx name)).of_define

theorem Loop.bindItem_keeps {item : Value} (hitem : P item) (vars : List String) :
    Rendering.Keeps P Q n (bindItem vars item) := by
  unfold bindItem
  split
  · exact Outcome.defineFields_keeps hP hitem vars
  · cases vars with
    | nil => exact Outcome.done_keeps
    | cons name rest =>
      exact fun sink c hc => (Outcome.done_keeps sink _ (hc.define hitem name)).of_define

section loop

variable {items : ListView Value} (hitem : ∀ i < items.size, P (items.item i))
include hitem

theorem Loop.fieldsAt_property {i : Nat} (hi : i < items.size) (name : String) (v : Value)
    (h : (fieldsAt items i).get? name = some v) : P v := by
  have hscalar (w : Value) (hl : w.isList = false) (hm : w.isMap = false) (hw : some w = some v) :
      P v := Option.some.inj hw ▸ hP.scalar w hl hm
  rw [get?_fieldsAt] at h
  split_ifs at h
  · exact hscalar _ rfl rfl h
  · exact hscalar _ rfl rfl h
  · exact hscalar _ rfl rfl h
  · exact hscalar _ rfl rfl h
  · exact hscalar _ rfl rfl h
  · unfold previousItem at h
    split at h
    · exact Option.some.inj h ▸ hitem _ (by omega)
    · cases h
  · unfold nextItem at h
    split at h
    · exact Option.some.inj h ▸ hitem _ ‹_›
    · cases h

variable {body : Rendering} (hbody : body.Keeps P Q n) (vars : List String)
include hbody

theorem Loop.step_keeps {i : Nat} (hi : i < items.size) :
    Rendering.Keeps P Q n (step vars body (fieldsAt items i) (items.item i)) := by
  intro sink c hc
  have hloop := hc.define (hP.ofBindings (Loop.fieldsAt_property hP hitem hi)) "loop"
  have hbind : Rendering.Keeps P Q n (bindItem vars (items.item i)) :=
    Loop.bindItem_keeps hP (hitem i hi) vars
  exact ((hbind sink _ hloop).andThen hbody).of_define

theorem Loop.plainFrom_keeps (count i : Nat) (hi : i + count ≤ items.size) :
    Rendering.Keeps P Q n (plainFrom items vars body count i) := by
  induction count generalizing i with
  | zero => exact Outcome.done_keeps
  | succ count ih =>
    intro sink c hc
    have hlt : i < items.size := by omega
    have hstep := Loop.step_keeps hP hitem hbody vars hlt sink c hc
    exact hstep.andThen (ih (i + 1) (by omega))

theorem Loop.run_keeps : Rendering.Keeps P Q n (run items vars body) := by
  rw [run_eq_plain, plain]
  exact Loop.plainFrom_keeps hP hitem hbody vars items.size 0 (by omega)

end loop

omit hP in
theorem Outcome.inScope_keeps {step : Rendering} (h : step.Keeps P Q n) :
    Rendering.Keeps P Q (1 + n) (inScope step) := by
  intro sink c hc
  rcases Nat.lt_or_eq_of_le c.depth_le_maxDepth with hlt | hfull
  · obtain ⟨opened, he⟩ := Context.exists_enter hlt
    have hrun := h sink opened (hc.enter he)
    have hexit : (step sink opened).context.exit = c := Context.exit_of_sameAround he hrun.around
    simp only [inScope, he, hexit]
    refine ⟨hc, refl_of Context.SameAround c, fun e herror => ?_⟩
    have := hrun.error e herror
    rwa [Context.maxDepth_of_enter he, Context.depth_of_enter he, Nat.add_assoc] at this
  · simp only [inScope, Context.enter_of_full hfull]
    refine ⟨hc, refl_of Context.SameAround c, fun e herror => .inr ⟨?_, ?_⟩⟩
    · exact (Except.error.inj herror).symm
    · omega

end steps

section statements

variable {P : Value → Prop} {Q : EvalError → Prop}

theorem Context.All.eval {c : Context} (hc : c.All P) (hP : Value.Hereditary P Q) {e : Expr}
    (h : ∀ x ∈ e.subexprs, x.Fits P Q) : Yields P Q (c.eval e) :=
  e.eval_yields hP hc.lookup h

-- A statement needs as much room as the body in it that needs most. For each of the others what is
-- proved is more than is asked, which is what `mono` is for.
mutual

theorem Stmt.render_keeps (hP : Value.Hereditary P Q) : ∀ s : Stmt,
    (∀ x ∈ s.exprs, x.Fits P Q) → s.render.Keeps P Q s.nesting
  | .text s, _ => fun _ c hc => ⟨hc, refl_of Context.SameAround c, fun _ h => nomatch h⟩
  | .output e, h => by
    intro sink c hc
    simp only [Stmt.render]
    refine Outcome.withValue_keeps (hc.eval hP h) (fun v _ _ c hc => ?_) sink c hc
    exact ⟨hc, refl_of Context.SameAround c, fun _ h => nomatch h⟩
  | .forLoop vars iterable body other, h => by
    obtain ⟨hinside, hother⟩ := List.forall_mem_append.mp h
    obtain ⟨hiterable, hbody⟩ := List.forall_mem_append.mp hinside
    intro sink c hc
    simp only [Stmt.render]
    refine Outcome.withValue_keeps (hc.eval hP hiterable) (fun source hsource sink c hc => ?_)
      sink c hc
    have hrun := Loop.run_keeps hP (hP.item hsource) (Stmt.renderAll_keeps hP body hbody) vars
    have hscope := (Outcome.inScope_keeps hrun).mono (Nat.le_max_left _ (nestingElse other))
    refine (hscope sink c hc).andThen ?_
    split
    · exact (Stmt.renderElse_keeps hP other hother).mono (Nat.le_max_right ..)
    · exact Outcome.done_keeps
  | .ifChain cond body branches, h => by
    obtain ⟨hinside, hbranches⟩ := List.forall_mem_append.mp h
    obtain ⟨hcond, hbody⟩ := List.forall_mem_append.mp hinside
    intro sink c hc
    refine Outcome.withValue_keeps (hc.eval hP hcond) (fun v _ => ?_) sink c hc
    split
    · exact (Stmt.renderAll_keeps hP body hbody).mono (Nat.le_max_left ..)
    · exact (Stmt.renderBranches_keeps hP branches hbranches).mono (Nat.le_max_right ..)
  | .assign _ none, _ => Outcome.done_keeps
  | .assign names (some e), h => by
    intro sink c hc
    simp only [Stmt.render]
    refine Outcome.withValue_keeps (hc.eval hP h) (fun v hv sink c hc => ?_) sink c hc
    match names with
    | [] => exact Outcome.defineFields_keeps hP hv [] sink c hc
    | [name] => exact (Outcome.done_keeps sink _ (hc.define hv name)).of_define
    | first :: second :: rest =>
      exact Outcome.defineFields_keeps hP hv (first :: second :: rest) sink c hc

theorem Stmt.renderAll_keeps (hP : Value.Hereditary P Q) : ∀ ss : List Stmt,
    (∀ x ∈ Stmt.exprsAll ss, x.Fits P Q) →
      (Stmt.renderAll ss).Keeps P Q (Stmt.nestingAll ss)
  | [], _ => Outcome.done_keeps
  | s :: ss, h => by
    obtain ⟨hs, hss⟩ := List.forall_mem_append.mp h
    intro sink c hc
    have hfirst := (Stmt.render_keeps hP s hs).mono (Nat.le_max_left _ (nestingAll ss)) sink c hc
    exact hfirst.andThen ((Stmt.renderAll_keeps hP ss hss).mono (Nat.le_max_right ..))

theorem Stmt.renderElse_keeps (hP : Value.Hereditary P Q) : ∀ body : Option (List Stmt),
    (∀ x ∈ Stmt.exprsElse body, x.Fits P Q) →
      (Stmt.renderElse body).Keeps P Q (Stmt.nestingElse body)
  | none, _ => Outcome.done_keeps
  | some body, h => Stmt.renderAll_keeps hP body h

theorem Stmt.renderBranches_keeps (hP : Value.Hereditary P Q) :
    ∀ branches : List (BranchOf Stmt), (∀ x ∈ Stmt.exprsBranches branches, x.Fits P Q) →
      (Stmt.renderBranches branches).Keeps P Q (Stmt.nestingBranches branches)
  | [], _ => Outcome.done_keeps
  | ⟨none, body⟩ :: rest, h => by
    have hbody := Stmt.renderAll_keeps hP body (List.forall_mem_append.mp h).1
    exact hbody.mono (Nat.le_max_left ..)
  | ⟨some cond, body⟩ :: rest, h => by
    obtain ⟨hinside, hrest⟩ := List.forall_mem_append.mp h
    obtain ⟨hcond, hbody⟩ := List.forall_mem_append.mp hinside
    intro sink c hc
    rw [Stmt.renderBranches_cond]
    refine Outcome.withValue_keeps (hc.eval hP hcond) (fun v _ => ?_) sink c hc
    split
    · exact (Stmt.renderAll_keeps hP body hbody).mono (Nat.le_max_left ..)
    · exact (Stmt.renderBranches_keeps hP rest hrest).mono (Nat.le_max_right ..)

end

end statements

end TextTemplate
