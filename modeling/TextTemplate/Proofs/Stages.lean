import TextTemplate.Proofs.ScopeFrame
import TextTemplate.Proofs.AppendOnly
import Mathlib.Logic.Relation

/-! The moments of a render. From a template a render comes to its statements one after the other,
and from a statement to the bodies in it. A failure at any such moment is the failure of the whole
render, and nothing is written after it. -/

namespace TextTemplate

namespace Loop

variable {items : ListView Value} {vars : List String} {body : Rendering}

theorem startsFrom_sameAround (hbody : body.Along Context.SameAround) {count i : Nat} {sink : Sink}
    {c : Context} {start : Sink × Context}
    (h : start ∈ startsFrom items vars body count i sink c) : c.SameAround start.2 := by
  induction count generalizing i sink c with
  | zero => cases h
  | succ count ih =>
    have hbind : c.SameAround (bindItem vars (items.item i) sink
        (c.define "loop" (.ofBindings (fieldsAt items i)))).context :=
      trans_of Context.SameAround (c.define_sameAround "loop" _)
        (bindItem_sameAround vars (items.item i) sink _)
    simp only [startsFrom] at h
    split at h
    · cases h
    · rcases List.mem_cons.mp h with rfl | h
      · exact hbind
      · split at h
        · cases h
        · exact trans_of Context.SameAround hbind
            (trans_of Context.SameAround (hbody _ _) (ih h))

theorem effect_plainFrom_succ (hbody : body.AppendOnly) (count i : Nat) (c : Context) :
    (plainFrom items vars body (count + 1) i).effect c =
      ((bindItem vars (items.item i)).effect
        (c.define "loop" (.ofBindings (fieldsAt items i)))).andThen
          fun c => (body.effect c).andThen (plainFrom items vars body count (i + 1)).effect := by
  have hrest : (plainFrom items vars body count (i + 1)).AppendOnly :=
    plainFrom_appendOnly items hbody count (i + 1)
  let iteration : Rendering := fun sink c =>
    (body sink c).andThen (plainFrom items vars body count (i + 1))
  have hiteration : iteration.AppendOnly := fun c => (hbody c).andThen hrest
  have heffect : iteration.effect =
      fun c => (body.effect c).andThen (plainFrom items vars body count (i + 1)).effect :=
    funext fun _ => Rendering.effect_eq_andThen hbody hrest fun _ => rfl
  rw [← heffect]
  refine Rendering.effect_eq_andThen (bindItem_appendOnly vars _) hiteration fun sink => ?_
  simp only [plainFrom, step, Outcome.andThen_assoc]
  rfl

theorem exists_includes_of_start (hbody : body.AppendOnly) {count i : Nat} {sink : Sink}
    {c : Context} {start : Sink × Context}
    (h : start ∈ startsFrom items vars body count i sink c) :
    ∃ written, start.1 = sink.write written ∧
      ((plainFrom items vars body count i).effect c).Includes written (body.effect start.2) := by
  -- By iterations: a start is the one of this iteration, or it comes after what the variables and
  -- the body of this one have written.
  induction count generalizing i sink c with
  | zero => cases h
  | succ count ih =>
    rw [effect_plainFrom_succ hbody]
    simp only [startsFrom, (bindItem_appendOnly vars _).eq_on, hbody.eq_on, Effect.on] at h
    generalize (bindItem vars (items.item i)).effect
      (c.define "loop" (.ofBindings (fieldsAt items i))) = bound at h ⊢
    cases hbound : bound.result with
    | error _ =>
      rw [hbound] at h
      cases h
    | ok _ =>
      rw [hbound] at h
      rcases List.mem_cons.mp h with rfl | h
      · exact ⟨bound.text ++ "", by rw [String.append_empty],
          .of_next hbound ((Effect.includes_refl _).andThen _)⟩
      · cases hresult : (body.effect bound.context).result with
        | error _ =>
          rw [hresult] at h
          cases h
        | ok _ =>
          rw [hresult] at h
          obtain ⟨written, hwritten, hincludes⟩ := ih h
          refine ⟨_, ?_, .of_next hbound (.of_next hresult hincludes)⟩
          rw [hwritten, Sink.write_write, Sink.write_write]

end Loop

namespace Stmt

theorem render_ifChain_of_true {cond : Expr} {c : Context} {v : Value} (hcond : c.eval cond = .ok v)
    (htrue : v.isTruthy = true) (body : Template) (branches : List Branch) (sink : Sink) :
    render (.ifChain cond body branches) sink c = renderAll body sink c := by
  simp only [render, hcond, Outcome.withValue, htrue, if_true]

theorem render_ifChain_of_false {cond : Expr} {c : Context} {v : Value}
    (hcond : c.eval cond = .ok v) (hfalse : v.isTruthy = false) (body : Template)
    (branches : List Branch) (sink : Sink) :
    render (.ifChain cond body branches) sink c = renderBranches branches sink c := by
  simp only [render, hcond, Outcome.withValue, hfalse, Bool.false_eq_true, if_false]

theorem renderBranches_taken {before after : List Branch} {b : Branch} {c : Context}
    (hbefore : ∀ b' ∈ before, b'.isTaken c = .ok false) (htaken : b.isTaken c = .ok true)
    (sink : Sink) : renderBranches (before ++ b :: after) sink c = renderAll b.body sink c := by
  induction before with
  | nil =>
    rw [List.nil_append, renderBranches]
    rw [BranchOf.isTaken] at htaken
    simp only [htaken]
  | cons b' before ih =>
    obtain ⟨hfirst, hrest⟩ := List.forall_mem_cons.mp hbefore
    rw [BranchOf.isTaken] at hfirst
    rw [List.cons_append, renderBranches]
    simp only [hfirst, ih hrest]

end Stmt

/-- A moment of a render: what is still to be rendered of some body, and the sink and the context at
that time. -/
structure Stage where
  rest : Template
  sink : Sink
  context : Context

namespace Stage

def outcome (g : Stage) : Outcome :=
  Stmt.renderAll g.rest g.sink g.context

def effect (g : Stage) : Effect :=
  g.rest.effect g.context

theorem outcome_eq_on (g : Stage) : g.outcome = g.effect.on g.sink :=
  g.rest.renderAll_eq_on g.sink g.context

/-- What comes after a statement that succeeds, or what the first statement begins with. -/
inductive Next : Stage → Stage → Prop
  | after {s : Stmt} {rest : Template} {sink sink' : Sink} {c c' : Context}
      (h : s.render sink c = ⟨sink', c', .ok ()⟩) : Next ⟨s :: rest, sink, c⟩ ⟨rest, sink', c'⟩
  | loopScope {vars : List String} {iterable : Expr} {body rest : Template}
      {other : Option Template} {sink : Sink} {c opened : Context} {source : Value}
      (hsource : c.eval iterable = .ok source) (hopened : c.enter = .ok opened) :
      Next ⟨.forLoop vars iterable body other :: rest, sink, c⟩ ⟨[], sink, opened⟩
  | iteration {vars : List String} {iterable : Expr} {body rest : Template}
      {other : Option Template} {sink : Sink} {c opened : Context} {source : Value}
      {start : Sink × Context}
      (hsource : c.eval iterable = .ok source) (hopened : c.enter = .ok opened)
      (hstart : start ∈ Loop.starts source.items vars (Stmt.renderAll body) sink opened) :
      Next ⟨.forLoop vars iterable body other :: rest, sink, c⟩ ⟨body, start.1, start.2⟩
  | elseBody {vars : List String} {iterable : Expr} {body other rest : Template} {sink : Sink}
      {c : Context} {source : Value} (hsource : c.eval iterable = .ok source)
      (hroom : c.depth < c.maxDepth) (hempty : source.items.size = 0) :
      Next ⟨.forLoop vars iterable body (some other) :: rest, sink, c⟩ ⟨other, sink, c⟩
  | ifBody {cond : Expr} {body rest : Template} {branches : List Branch} {sink : Sink}
      {c : Context} {v : Value} (hcond : c.eval cond = .ok v) (htrue : v.isTruthy = true) :
      Next ⟨.ifChain cond body branches :: rest, sink, c⟩ ⟨body, sink, c⟩
  | branch {cond : Expr} {body rest : Template} {before after : List Branch} {b : Branch}
      {sink : Sink} {c : Context} {v : Value} (hcond : c.eval cond = .ok v)
      (hfalse : v.isTruthy = false) (hbefore : ∀ b' ∈ before, b'.isTaken c = .ok false)
      (htaken : b.isTaken c = .ok true) :
      Next ⟨.ifChain cond body (before ++ b :: after) :: rest, sink, c⟩ ⟨b.body, sink, c⟩

abbrev Reaches : Stage → Stage → Prop :=
  Relation.ReflTransGen Next

theorem Next.maxDepth_eq {g g' : Stage} (h : Next g g') :
    g'.context.maxDepth = g.context.maxDepth := by
  cases h with
  | @after s rest sink _ c _ h =>
    have hframe := Stmt.render_along s sink c
    rw [h] at hframe
    exact hframe.maxDepth_eq
  | loopScope _ hopened => exact Context.maxDepth_of_enter hopened
  | iteration _ hopened hstart =>
    have hsame := Loop.startsFrom_sameAround (Stmt.renderAll_sameAround _) hstart
    exact hsame.maxDepth_eq.trans (Context.maxDepth_of_enter hopened)
  | elseBody _ _ _ => rfl
  | ifBody _ _ => rfl
  | branch _ _ _ _ => rfl

theorem Next.includes {g g' : Stage} (h : Next g g') :
    ∃ written, g'.sink = g.sink.write written ∧ g.effect.Includes written g'.effect := by
  -- A statement that comes to a body at once has the effect of that body.
  have hbody {s : Stmt} {body rest : Template} {sink : Sink} {c : Context}
      (hs : ∀ sink, s.render sink c = Stmt.renderAll body sink c) :
      ∃ written, sink = sink.write written ∧
        (Template.effect (s :: rest) c).Includes written (Template.effect body c) := by
    have heffect : s.render.effect c = Template.effect body c :=
      Rendering.effect_eq fun sink => (hs sink).trans (body.renderAll_eq_on sink c)
    rw [Template.effect_cons, heffect]
    exact ⟨"", sink.write_empty.symm, (Effect.includes_refl _).andThen _⟩
  cases h with
  | @after s rest sink sink' c c' h =>
    rw [(Stmt.render_appendOnly s).eq_on, Effect.on, Outcome.mk.injEq] at h
    obtain ⟨rfl, rfl, hresult⟩ := h
    refine ⟨_ ++ "", by rw [String.append_empty], ?_⟩
    rw [effect, Template.effect_cons]
    exact .of_next hresult (Effect.includes_refl _)
  | loopScope _ _ =>
    refine ⟨"", rfl, _, (String.empty_append).symm, fun error h => ?_⟩
    cases h
  | @iteration vars iterable body rest other sink c opened source start hsource hopened hstart =>
    have happend := Stmt.renderAll_appendOnly body
    obtain ⟨written, hwritten, hincludes⟩ := Loop.exists_includes_of_start happend hstart
    rw [← Loop.plain, ← Loop.run_eq_plain] at hincludes
    rw [effect, Template.effect_cons, Stmt.effect_forLoop hsource, Outcome.effect_inScope hopened]
    refine ⟨written, hwritten, .andThen (.andThen ?_ _) _⟩
    exact hincludes
  | elseBody hsource hroom hempty =>
    exact hbody fun sink => Stmt.render_forLoop_of_empty hroom hsource hempty _ _ _ sink
  | ifBody hcond htrue => exact hbody fun sink => Stmt.render_ifChain_of_true hcond htrue _ _ sink
  | branch hcond hfalse hbefore htaken =>
    exact hbody fun sink => (Stmt.render_ifChain_of_false hcond hfalse _ _ sink).trans
      (Stmt.renderBranches_taken hbefore htaken sink)

theorem Reaches.maxDepth_eq {g g' : Stage} (h : Reaches g g') :
    g'.context.maxDepth = g.context.maxDepth := by
  induction h with
  | refl => rfl
  | tail _ hnext ih => exact hnext.maxDepth_eq.trans ih

/-- What has been written at a moment of a render is the beginning of its text, and what comes from
there on follows it. -/
theorem Reaches.includes {g g' : Stage} (h : Reaches g g') :
    ∃ written, g'.sink = g.sink.write written ∧ g.effect.Includes written g'.effect := by
  induction h with
  | refl => exact ⟨"", g.sink.write_empty.symm, g.effect.includes_refl⟩
  | tail _ hnext ih =>
    obtain ⟨written, hsink, hincludes⟩ := ih
    obtain ⟨more, hmore, hnext⟩ := hnext.includes
    exact ⟨written ++ more, by rw [hmore, hsink, Sink.write_write], hincludes.trans hnext⟩

theorem Reaches.failure {g g' : Stage} (h : Reaches g g') {e : EvalError}
    (he : g'.outcome.result = .error e) :
    g.outcome.result = .error e ∧ g.outcome.sink = g'.outcome.sink := by
  obtain ⟨written, hsink, more, htext, hfail⟩ := h.includes
  rw [outcome_eq_on] at he
  obtain ⟨hresult, rfl⟩ := hfail e he
  rw [g.outcome_eq_on, g'.outcome_eq_on]
  refine ⟨hresult, ?_⟩
  simp only [Effect.on, htext, hsink, Sink.write_write, String.append_empty]

end Stage

end TextTemplate
