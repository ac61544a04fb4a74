import TextTemplate.Proofs.Stages

/-! The moment of a failure. A render that fails has come to a statement, however deep inside loops
and branches, that fails by itself, and its text is what had been written by then. -/

namespace TextTemplate

theorem Loop.bindItem_sink (vars : List String) (item : Value) (sink : Sink) (c : Context) :
    (bindItem vars item sink c).sink = sink := by
  unfold bindItem
  split
  · rfl
  · cases vars with
    | nil => rfl
    | cons name rest => rfl

theorem BranchOf.sizeOf_body_lt {branches : List Branch} {b : Branch} (h : b ∈ branches) :
    sizeOf b.body < sizeOf branches := by
  have hmem : sizeOf b < sizeOf branches := List.sizeOf_lt_of_mem h
  have hbody : sizeOf b.body < sizeOf b := by
    cases b
    simp only [BranchOf.mk.sizeOf_spec]
    omega
  exact Nat.lt_trans hbody hmem

namespace Stmt

theorem renderBranches_of_error {branches : List Branch} {sink : Sink} {c : Context}
    {e : EvalError} (h : (renderBranches branches sink c).result = .error e) :
    (renderBranches branches sink c).sink = sink ∨
      ∃ before b after, branches = before ++ b :: after ∧
        (∀ b' ∈ before, b'.isTaken c = .ok false) ∧ b.isTaken c = .ok true := by
  induction branches with
  | nil => exact .inl rfl
  | cons b rest ih =>
    cases htaken : b.isTaken c with
    | error e' =>
      refine .inl ?_
      rw [BranchOf.isTaken] at htaken
      simp only [renderBranches, htaken, Outcome.fail]
    | ok taken =>
      cases taken with
      | true => exact .inr ⟨[], b, rest, rfl, List.forall_mem_nil _, htaken⟩
      | false =>
        have hrest : renderBranches (b :: rest) sink c = renderBranches rest sink c := by
          rw [BranchOf.isTaken] at htaken
          simp only [renderBranches, htaken]
        rw [hrest] at h ⊢
        rcases ih h with hsink | ⟨before, b', after, rfl, hbefore, htaken'⟩
        · exact .inl hsink
        · exact .inr ⟨b :: before, b', after, rfl, List.forall_mem_cons.mpr ⟨htaken, hbefore⟩,
            htaken'⟩

theorem render_assign_sink (names : List String) (value : Option Expr) (sink : Sink) (c : Context) :
    (render (.assign names value) sink c).sink = sink := by
  cases value with
  | none => rfl
  | some e =>
    simp only [render]
    cases c.eval e with
    | error _ => rfl
    | ok v =>
      simp only [Outcome.withValue]
      split
      · rfl
      · rfl

end Stmt

namespace Stage

theorem reaches_end {g : Stage} (h : g.outcome.result = .ok ()) :
    g.Reaches ⟨[], g.outcome.sink, g.outcome.context⟩ := by
  obtain ⟨rest, sink, c⟩ := g
  induction rest generalizing sink c with
  | nil => exact .refl
  | cons s rest ih =>
    simp only [outcome, Stmt.renderAll] at h ih ⊢
    cases hs : s.render sink c with
    | mk sink' c' result =>
    rw [hs] at h
    cases result with
    | error _ => cases h
    | ok _ => exact .head (.after hs) (ih sink' c' h)

theorem Next.sizeOf_lt {g g' : Stage} (h : Next g g') : sizeOf g'.rest < sizeOf g.rest := by
  cases h with
  | after _ =>
    simp only [List.cons.sizeOf_spec]
    omega
  | loopScope _ _ | iteration _ _ _ | elseBody _ _ _ =>
    simp only [List.cons.sizeOf_spec, List.nil.sizeOf_spec, Stmt.forLoop.sizeOf_spec,
      Option.some.sizeOf_spec]
    omega
  | ifBody _ _ =>
    simp only [List.cons.sizeOf_spec, Stmt.ifChain.sizeOf_spec]
    omega
  | @branch _ _ _ before after b _ _ _ _ _ _ _ =>
    have hbody : sizeOf b.body < sizeOf (before ++ b :: after) :=
      BranchOf.sizeOf_body_lt List.mem_append_cons_self
    simp only [List.cons.sizeOf_spec, Stmt.ifChain.sizeOf_spec]
    omega

/-- The first statement fails by itself, and not as something does that it comes to. -/
def FailsHere (g : Stage) (e : EvalError) : Prop :=
  g.outcome.result = .error e ∧ ∀ g', Next g g' → g'.outcome.result = .ok ()

theorem exists_failsHere {g : Stage} {e : EvalError} (h : g.outcome.result = .error e) :
    ∃ g', g.Reaches g' ∧ g'.FailsHere e := by
  -- Descend to something that fails and comes next, as long as there is any: it is smaller.
  by_cases hnext : ∀ g', Next g g' → g'.outcome.result = .ok ()
  · exact ⟨g, .refl, h, hnext⟩
  · obtain ⟨g', hstep, hfail⟩ : ∃ g', Next g g' ∧ g'.outcome.result ≠ .ok () := by
      simpa using hnext
    cases hresult : g'.outcome.result with
    | ok _ => exact absurd hresult hfail
    | error e' =>
      have he : g.outcome.result = .error e' := (Reaches.failure (.single hstep) hresult).1
      cases h.symm.trans he
      obtain ⟨g'', hreached, hhere⟩ := exists_failsHere hresult
      exact ⟨g'', .head hstep hreached, hhere⟩
termination_by sizeOf g.rest
decreasing_by exact hstep.sizeOf_lt

theorem FailsHere.first {s : Stmt} {rest : Template} {sink : Sink} {c : Context} {e : EvalError}
    (h : FailsHere ⟨s :: rest, sink, c⟩ e) :
    (s.render sink c).result = .error e ∧ outcome ⟨s :: rest, sink, c⟩ = s.render sink c := by
  obtain ⟨hfail, hnext⟩ := h
  simp only [outcome, Stmt.renderAll] at hfail ⊢
  cases hs : s.render sink c with
  | mk sink' c' result =>
  rw [hs] at hfail
  cases result with
  | ok _ => cases (hnext _ (.after hs)).symm.trans hfail
  | error _ => exact ⟨hfail, rfl⟩

section last

variable {rest : Template} {sink : Sink} {c : Context} {e : EvalError}

theorem FailsHere.exists_last_forLoop {vars : List String} {iterable : Expr} {body : Template}
    {other : Option Template}
    (h : FailsHere ⟨.forLoop vars iterable body other :: rest, sink, c⟩ e) :
    ∃ last, Reaches ⟨.forLoop vars iterable body other :: rest, sink, c⟩ last ∧
      last.sink = ((Stmt.forLoop vars iterable body other).render sink c).sink := by
  have hfail := h.first.1
  cases hsource : c.eval iterable with
  | error _ =>
    refine ⟨_, .refl, ?_⟩
    simp only [Stmt.render, hsource, Outcome.withValue, Outcome.fail]
  | ok source =>
    cases hopened : c.enter with
    | error _ =>
      refine ⟨_, .refl, ?_⟩
      simp only [Stmt.render, hsource, Outcome.withValue, Outcome.inScope, hopened,
        Outcome.andThen_fail]
      rfl
    | ok opened =>
      rcases Nat.eq_zero_or_pos source.items.size with hempty | hitems
      · have hroom : c.depth < c.maxDepth := (Context.enter_eq_ok_iff.mp hopened).1
        rw [Stmt.render_forLoop_of_empty hroom hsource hempty] at hfail
        cases other with
        | none => cases hfail
        | some other => cases (h.2 _ (.elseBody hsource hroom hempty)).symm.trans hfail
      · rw [Stmt.render_forLoop_of_enter hsource hitems hopened, Loop.run_eq_plain] at hfail ⊢
        -- No body fails, so some item cannot be bound. The binding itself writes nothing.
        rcases Loop.startsFrom_of_error hfail with
          ⟨_, start, hstart, hbody⟩ | ⟨_, sink', c', hlast, hbind⟩
        · have hok := h.2 _ (.iteration hsource hopened (List.mem_of_getLast? hstart))
          rw [outcome, hbody] at hok
          cases hok.symm.trans hfail
        · have hsink := (Loop.bindItem_sink ..).symm.trans (congrArg Outcome.sink hbind)
          rcases hlast with rfl | ⟨start, hstart, rfl⟩
          · exact ⟨_, .single (.loopScope hsource hopened), hsink⟩
          · have hend := reaches_end (h.2 _ (.iteration hsource hopened hstart))
            exact ⟨_, .head (.iteration hsource hopened hstart) hend, hsink⟩

theorem FailsHere.exists_last {g : Stage} (h : g.FailsHere e) :
    ∃ last, g.Reaches last ∧ last.sink = g.outcome.sink := by
  obtain ⟨rest, sink, c⟩ := g
  cases rest with
  | nil => cases h.1
  | cons s rest =>
    obtain ⟨hfail, houtcome⟩ := h.first
    rw [houtcome]
    -- Where the statement comes to a body, that body does not fail, and so neither does it.
    cases s with
    | text s => cases hfail
    | output e =>
      refine ⟨_, .refl, ?_⟩
      cases hvalue : c.eval e with
      | error _ => simp only [Stmt.render, hvalue, Outcome.withValue, Outcome.fail]
      | ok v =>
        simp only [Stmt.render, hvalue, Outcome.withValue] at hfail
        cases hfail
    | forLoop vars iterable body other => exact h.exists_last_forLoop
    | ifChain cond body branches =>
      refine ⟨_, .refl, ?_⟩
      cases hcond : c.eval cond with
      | error _ => simp only [Stmt.render, hcond, Outcome.withValue, Outcome.fail]
      | ok v =>
        cases htruthy : v.isTruthy with
        | true =>
          rw [Stmt.render_ifChain_of_true hcond htruthy] at hfail
          cases (h.2 _ (.ifBody hcond htruthy)).symm.trans hfail
        | false =>
          rw [Stmt.render_ifChain_of_false hcond htruthy] at hfail ⊢
          rcases Stmt.renderBranches_of_error hfail with hsink | ⟨before, b, after, rfl, hbefore, htaken⟩
          · exact hsink.symm
          · rw [Stmt.renderBranches_taken hbefore htaken] at hfail
            cases (h.2 _ (.branch hcond htruthy hbefore htaken)).symm.trans hfail
    | assign names value => exact ⟨_, .refl, (Stmt.render_assign_sink names value sink c).symm⟩

theorem exists_failing_moment {g : Stage} (h : g.outcome.result = .error e) :
    ∃ g' last, g.Reaches g' ∧ g'.FailsHere e ∧ g'.Reaches last ∧ last.sink = g.outcome.sink := by
  obtain ⟨g', hreached, hhere⟩ := exists_failsHere h
  obtain ⟨last, hlast, hsink⟩ := hhere.exists_last
  have hwhole : g.outcome.sink = g'.outcome.sink := (hreached.failure hhere.1).2
  exact ⟨g', last, hreached, hhere, hlast, hsink.trans hwhole.symm⟩

end last

end Stage

namespace Template

/-- Every sink gets the one text after what it held. What has been written at any moment stays, and
a render that fails has come to a statement that fails by itself, with just its text written. -/
theorem render_appends (body : Template) (c : Context) :
    let e := body.effect c
    (∀ held, Stmt.renderAll body (.buffer held) c =
        ⟨.buffer (held ++ e.text), e.context, e.result⟩) ∧
      Stmt.renderAll body .silent c = ⟨.silent, e.context, e.result⟩ ∧
      (∀ printed, Stmt.renderAll body (.stdout printed) c =
        ⟨.stdout (printed ++ e.text), e.context, e.result⟩) ∧
      (∀ f : Effect, (∀ sink, Stmt.renderAll body sink c = f.on sink) → f = e) ∧
      (∀ sink g, Stage.Reaches ⟨body, sink, c⟩ g →
        ∃ written, g.sink = sink.write written ∧ e.Includes written g.effect) ∧
      (∀ sink error, e.result = .error error → ∃ g last,
        Stage.Reaches ⟨body, sink, c⟩ g ∧ g.FailsHere error ∧ g.Reaches last ∧
          last.sink = sink.write e.text) ∧
      (∀ error, e.result = .error error → ∃ before s after, body = before ++ s :: after ∧
        (effect before c).result = .ok () ∧
        (effect [s] (effect before c).context).result = .error error ∧
        e = (effect before c).andThen (effect [s])) ∧
      (∀ rest : Template, (body ++ rest).effect c = e.andThen rest.effect) ∧
      body.renderText c = (e.context, e.result.map fun _ => e.text) ∧
      ∀ params, body.renderWith params = (body.renderText (.new params)).2 := by
  intro e
  have hon : ∀ sink, Stmt.renderAll body sink c = e.on sink := (body.renderAll_eq_on · c)
  have hbuffer (held : String) : Stmt.renderAll body (.buffer held) c =
      ⟨.buffer (held ++ e.text), e.context, e.result⟩ := (hon _).trans (e.on_buffer held)
  have hstdout (printed : String) : Stmt.renderAll body (.stdout printed) c =
      ⟨.stdout (printed ++ e.text), e.context, e.result⟩ := (hon _).trans (e.on_stdout printed)
  have hsilent : Stmt.renderAll body .silent c = ⟨.silent, e.context, e.result⟩ :=
    (hon _).trans e.on_silent
  have hfailure (sink : Sink) (error : EvalError) (h : e.result = .error error) : ∃ g last,
      Stage.Reaches ⟨body, sink, c⟩ g ∧ g.FailsHere error ∧ g.Reaches last ∧
        last.sink = sink.write e.text := by
    have houtcome : Stage.outcome ⟨body, sink, c⟩ = e.on sink := hon sink
    have hfail : (Stage.outcome ⟨body, sink, c⟩).result = .error error := by
      rw [houtcome]
      exact h
    have hmoment := Stage.exists_failing_moment hfail
    rw [houtcome] at hmoment
    exact hmoment
  exact ⟨hbuffer, hsilent, hstdout, fun _ hf => (Rendering.effect_eq hf).symm,
    fun _ _ hreached => hreached.includes, hfailure, fun _ he => effect_of_error he,
    fun rest => effect_append body rest c, rfl, fun _ => rfl⟩

theorem render_appends_failing_iteration :
    let c := Context.new .empty
    let loop : Stmt := .forLoop ["x"] (.const (.list [.bool false, .bool true]))
      [.text "a;", .ifChain (.var "x") [.output (.call "f" [])] []] none
    let body : Template := [.text "before ", loop, .text "after"]
    (body.effect c).result = .error (.undefinedFunction "f") ∧
      ∃ g last, Stage.Reaches ⟨body, .empty, c⟩ g ∧ g.FailsHere (.undefinedFunction "f") ∧
        g.Reaches last ∧ last.sink = .buffer "before a;a;" := by
  intro c loop body
  have hresult : (body.effect c).result = .error (.undefinedFunction "f") := rfl
  have htext : (body.effect c).text = "before a;a;" := rfl
  obtain ⟨g, last, hreached, hhere, hlast, hsink⟩ :=
    (render_appends body c).2.2.2.2.2.1 .empty _ hresult
  rw [htext] at hsink
  exact ⟨hresult, g, last, hreached, hhere, hlast, hsink⟩

end Template

end TextTemplate
