import TextTemplate.Proofs.ScopeFrame
import TextTemplate.Proofs.PlainLoop

/-! Rendering without a stack of scopes: an environment is passed from statement to statement, and a
loop gives back the one it was entered with. All that is left of the stack is how many more scopes
there may be. -/

namespace TextTemplate

def Env.bind (env : Env) (name : String) (value : Value) : Env := fun other =>
  if name = other then some value else env other

namespace Lexical

structure Outcome where
  text : String
  env : Env
  result : Except EvalError Unit

abbrev Action := Env → Outcome

def done : Action := fun env => ⟨"", env, .ok ()⟩

def fail (e : EvalError) : Action := fun env => ⟨"", env, .error e⟩

def write (text : String) : Action := fun env => ⟨text, env, .ok ()⟩

def Outcome.andThen (o : Outcome) (next : Action) : Outcome :=
  match o.result with
  | .ok _ => ⟨o.text ++ (next o.env).text, (next o.env).env, (next o.env).result⟩
  | .error _ => o

def withValue (value : Except EvalError Value) (next : Value → Action) : Action :=
  match value with
  | .ok v => next v
  | .error e => fail e

def bindFields (value : Value) : List String → Action
  | [] => done
  | name :: names => fun env =>
    match value.subscript name with
    | .ok field => bindFields value names (env.bind name field)
    | .error e => fail e env

def bindItem (vars : List String) (item : Value) : Action :=
  if 1 < vars.length ∧ item.isMap then bindFields item vars
  else match vars with
    | [] => done
    | name :: _ => fun env => done (env.bind name item)

def iterations (items : ListView Value) (vars : List String) (body : Action) :
    (count i : Nat) → Action
  | 0, _ => done
  | count + 1, i => fun env =>
    ((bindItem vars (items.item i) (env.bind "loop" (.ofBindings (Loop.fieldsAt items i)))).andThen
      body).andThen (iterations items vars body count (i + 1))

def restoring (action : Action) : Action := fun env =>
  ⟨(action env).text, env, (action env).result⟩

def loop (limit : Nat) (items : ListView Value) (vars : List String) (body : Nat → Action) :
    (free : Nat) → Action
  | 0 => fail (.scopeDepthExceeded limit)
  | free + 1 => restoring (iterations items vars (body free) items.size 0)

mutual

/-- Renders a statement when there may be `free` more scopes. The limit is for the error only. -/
def render (limit : Nat) : Stmt → (free : Nat) → Action
  | .text s, _ => write s
  | .output e, _ => fun env => withValue (e.eval env) (fun v => write v.display) env
  | .forLoop vars iterable body other, free => fun env =>
    withValue (iterable.eval env) (fun source env =>
      (loop limit source.items vars (renderAll limit body) free env).andThen
        (if source.items.size = 0 then renderElse limit other free else done)) env
  | .ifChain cond body branches, free => fun env =>
    withValue (cond.eval env) (fun v =>
      if v.isTruthy then renderAll limit body free else renderBranches limit branches free) env
  | .assign _ none, _ => done
  | .assign names (some e), _ => fun env =>
    withValue (e.eval env) (fun v =>
      match names with
      | [name] => fun env => done (env.bind name v)
      | names => bindFields v names) env
termination_by structural s => s

def renderAll (limit : Nat) : List Stmt → (free : Nat) → Action
  | [], _ => done
  | s :: ss, free => fun env => (render limit s free env).andThen (renderAll limit ss free)
termination_by structural ss => ss

def renderElse (limit : Nat) : Option (List Stmt) → (free : Nat) → Action
  | none, _ => done
  | some body, free => renderAll limit body free
termination_by structural body => body

def renderBranches (limit : Nat) : List (BranchOf Stmt) → (free : Nat) → Action
  | [], _ => done
  | ⟨none, body⟩ :: _, free => renderAll limit body free
  | ⟨some cond, body⟩ :: rest, free => fun env =>
    withValue (cond.eval env) (fun v =>
      if v.isTruthy then renderAll limit body free else renderBranches limit rest free) env
termination_by structural branches => branches

end

structure Room (limit free : Nat) (c : Context) : Prop where
  maxDepth_eq : c.maxDepth = limit
  depth_add : c.depth + free = limit

/-- An outcome is that of an action. The scopes around are as before, so that the next step can be
compared too. -/
structure Matches (sink : Sink) (c : Context) (o : TextTemplate.Outcome) (p : Outcome) : Prop where
  sink_eq : o.sink = sink.write p.text
  lookup_eq : o.context.lookup = p.env
  result_eq : o.result = p.result
  around : c.SameAround o.context

def Simulates (limit free : Nat) (r : Rendering) (action : Action) : Prop :=
  ∀ sink c, Room limit free c → Matches sink c (r sink c) (action c.lookup)

section rules

variable {limit free : Nat} {sink : Sink} {c : Context}

theorem Room.of_sameAround {c' : Context} (h : Room limit free c) (ha : c.SameAround c') :
    Room limit free c' :=
  ⟨ha.maxDepth_eq.trans h.maxDepth_eq, ha.depth_eq ▸ h.depth_add⟩

theorem matches_fail (e : EvalError) :
    Matches sink c (TextTemplate.Outcome.fail e sink c) (fail e c.lookup) :=
  ⟨sink.write_empty.symm, rfl, rfl, refl_of Context.SameAround c⟩

theorem matches_done : Matches sink c (TextTemplate.Outcome.done sink c) (done c.lookup) :=
  ⟨sink.write_empty.symm, rfl, rfl, refl_of Context.SameAround c⟩

theorem simulates_done : Simulates limit free TextTemplate.Outcome.done done :=
  fun _ _ _ => matches_done

theorem lookup_define_eq_bind (name : String) (value : Value) :
    (c.define name value).lookup = Env.bind c.lookup name value :=
  funext fun other => c.lookup_define name other value

theorem Matches.of_define {name : String} {value : Value} {o : TextTemplate.Outcome} {p : Outcome}
    (h : Matches sink (c.define name value) o p) : Matches sink c o p :=
  { h with around := trans_of Context.SameAround (c.define_sameAround name value) h.around }

theorem matches_define (name : String) (value : Value) :
    Matches sink c (TextTemplate.Outcome.done sink (c.define name value))
      (done (Env.bind c.lookup name value)) := by
  rw [← lookup_define_eq_bind]
  exact matches_done.of_define

theorem Matches.andThen {o : TextTemplate.Outcome} {p : Outcome} {next : Rendering}
    {action : Action} (h : Matches sink c o p) (hc : Room limit free c)
    (hnext : Simulates limit free next action) :
    Matches sink c (o.andThen next) (p.andThen action) := by
  obtain ⟨sink', after, result⟩ := o
  obtain ⟨text, env, result'⟩ := p
  obtain ⟨hsink, hlookup, hresult, haround⟩ := h
  simp only at hsink hlookup hresult haround
  subst hsink hlookup hresult
  cases result with
  | error e => exact ⟨rfl, rfl, rfl, haround⟩
  | ok _ =>
    have h := hnext (sink.write text) after (hc.of_sameAround haround)
    exact ⟨h.sink_eq.trans (Sink.write_write ..), h.lookup_eq, h.result_eq,
      trans_of Context.SameAround haround h.around⟩

theorem matches_withValue {value : Except EvalError Value} {next : Value → Rendering}
    {action : Value → Action} (hc : Room limit free c)
    (h : ∀ v, Simulates limit free (next v) (action v)) :
    Matches sink c (TextTemplate.Outcome.withValue value next sink c)
      (withValue value action c.lookup) := by
  cases value with
  | ok v => exact h v sink c hc
  | error e => exact matches_fail e

theorem simulates_bindFields (names : List String) (value : Value) :
    Simulates limit free (TextTemplate.Outcome.defineFields names value)
      (bindFields value names) := by
  induction names with
  | nil => exact simulates_done
  | cons name names ih =>
    intro sink c hc
    simp only [TextTemplate.Outcome.defineFields, Context.defineFields, bindFields]
    cases value.subscript name with
    | error e => exact matches_fail e
    | ok field =>
      have h := ih sink (c.define name field) (hc.of_sameAround (c.define_sameAround name field))
      rw [lookup_define_eq_bind] at h
      exact h.of_define

theorem simulates_bindItem (vars : List String) (item : Value) :
    Simulates limit free (Loop.bindItem vars item) (bindItem vars item) := by
  intro sink c hc
  unfold Loop.bindItem bindItem
  split
  · exact simulates_bindFields vars item sink c hc
  · cases vars with
    | nil => exact matches_done
    | cons name rest => exact matches_define name item

section loop

variable {items : ListView Value} {vars : List String} {body : Rendering}

theorem simulates_plainFrom {action : Action} (hbody : Simulates limit free body action)
    (count i : Nat) :
    Simulates limit free (Loop.plainFrom items vars body count i)
      (iterations items vars action count i) := by
  induction count generalizing i with
  | zero => exact simulates_done
  | succ count ih =>
    intro sink c hc
    refine Matches.andThen ?_ hc (ih (i + 1))
    have haround := c.define_sameAround "loop" (.ofBindings (Loop.fieldsAt items i))
    have hbind := simulates_bindItem vars (items.item i) sink _ (hc.of_sameAround haround)
    rw [lookup_define_eq_bind] at hbind
    exact hbind.of_define.andThen hc hbody

theorem simulates_loop {action : Nat → Action}
    (hbody : ∀ free, Simulates limit free body (action free)) :
    Simulates limit free (TextTemplate.Outcome.inScope (Loop.run items vars body))
      (loop limit items vars action free) := by
  intro sink c hc
  cases free with
  | zero =>
    have hfull : c.enter = .error (.scopeDepthExceeded limit) := by
      rw [Context.enter_of_full (hc.depth_add.trans hc.maxDepth_eq.symm), hc.maxDepth_eq]
    simp only [TextTemplate.Outcome.inScope, hfull]
    exact matches_fail _
  | succ free =>
    have hroom : c.depth < c.maxDepth := by
      have hadd := hc.depth_add
      rw [← hc.maxDepth_eq] at hadd
      omega
    obtain ⟨opened, he⟩ := Context.exists_enter hroom
    have hopened : Room limit free opened := by
      refine ⟨(Context.maxDepth_of_enter he).trans hc.maxDepth_eq, ?_⟩
      rw [Context.depth_of_enter he, ← hc.depth_add]
      omega
    -- The opened scope is empty, so names mean in it what they meant outside.
    have hrun : Matches sink opened (Loop.run items vars body sink opened)
        (iterations items vars (action free) items.size 0 c.lookup) := by
      rw [Loop.run_eq_plain, ← Context.lookup_of_enter he]
      exact simulates_plainFrom (hbody free) items.size 0 sink opened hopened
    have hexit : (Loop.run items vars body sink opened).context.exit = c :=
      Context.exit_of_sameAround he hrun.around
    simp only [TextTemplate.Outcome.inScope, he, hexit]
    exact ⟨hrun.sink_eq, rfl, hrun.result_eq, refl_of Context.SameAround c⟩

end loop
end rules

-- The number of free scopes is the same for all parts of a statement but the body of a loop, so it
-- is not fixed for the recursion.
mutual

theorem simulates_render (limit : Nat) : ∀ (s : Stmt) (free : Nat),
    Simulates limit free s.render (render limit s free)
  | .text s, _ => fun sink c _ => ⟨rfl, rfl, rfl, refl_of Context.SameAround c⟩
  | .output e, _ => by
    intro sink c hc
    simp only [Stmt.render, render]
    refine matches_withValue hc fun v sink c _ => ?_
    exact ⟨sink.writeValue_eq v, rfl, rfl, refl_of Context.SameAround c⟩
  | .forLoop vars iterable body other, free => by
    intro sink c hc
    simp only [Stmt.render, render]
    refine matches_withValue hc fun source sink c hc => ?_
    refine (simulates_loop (simulates_renderAll limit body) sink c hc).andThen hc ?_
    split
    · exact simulates_renderElse limit other free
    · exact simulates_done
  | .ifChain cond body branches, free => by
    intro sink c hc
    simp only [Stmt.render, render]
    refine matches_withValue hc fun v => ?_
    split
    · exact simulates_renderAll limit body free
    · exact simulates_renderBranches limit branches free
  | .assign names none, _ => simulates_done
  | .assign names (some e), free => by
    intro sink c hc
    simp only [Stmt.render, render]
    refine matches_withValue hc fun v sink c hc => ?_
    match names with
    | [] => exact simulates_bindFields [] v sink c hc
    | [name] => exact matches_define name v
    | first :: second :: rest =>
      exact simulates_bindFields (first :: second :: rest) v sink c hc

theorem simulates_renderAll (limit : Nat) : ∀ (ss : List Stmt) (free : Nat),
    Simulates limit free (Stmt.renderAll ss) (renderAll limit ss free)
  | [], _ => simulates_done
  | s :: ss, free => fun sink c hc =>
    (simulates_render limit s free sink c hc).andThen hc (simulates_renderAll limit ss free)

theorem simulates_renderElse (limit : Nat) : ∀ (body : Option (List Stmt)) (free : Nat),
    Simulates limit free (Stmt.renderElse body) (renderElse limit body free)
  | none, _ => simulates_done
  | some body, free => simulates_renderAll limit body free

theorem simulates_renderBranches (limit : Nat) :
    ∀ (branches : List (BranchOf Stmt)) (free : Nat),
      Simulates limit free (Stmt.renderBranches branches) (renderBranches limit branches free)
  | [], _ => simulates_done
  | ⟨none, body⟩ :: _, free => simulates_renderAll limit body free
  | ⟨some cond, body⟩ :: rest, free => by
    intro sink c hc
    rw [Stmt.renderBranches_cond, renderBranches]
    refine matches_withValue hc fun v => ?_
    split
    · exact simulates_renderAll limit body free
    · exact simulates_renderBranches limit rest free

end

end Lexical

/-- A render is lexical: the scopes of the context matter only through what each name means at the
start and how many more there may be. -/
theorem Template.render_eq_lexical (body : Template) (sink : Sink) (c : Context) :
    let o := Stmt.renderAll body sink c
    let p := Lexical.renderAll c.maxDepth body (c.maxDepth - c.depth) c.lookup
    o.sink = sink.write p.text ∧ o.result = p.result ∧
      ∀ name, o.context.lookup name = p.env name := by
  have hroom : Lexical.Room c.maxDepth (c.maxDepth - c.depth) c :=
    ⟨rfl, Nat.add_sub_cancel' c.depth_le_maxDepth⟩
  have h := Lexical.simulates_renderAll c.maxDepth body _ sink c hroom
  exact ⟨h.sink_eq, h.result_eq, fun name => congrFun h.lookup_eq name⟩

end TextTemplate
