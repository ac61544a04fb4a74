import TextTemplate.Proofs.PlainLoop

/-! Rendering only appends. From a context a render has one effect, which is some text, the context
afterwards and the result; the sink decides no more than where the text goes, and keeps whatever it
held before. -/

namespace TextTemplate

/-- What a step does, apart from what is done with its text. -/
structure Effect where
  text : String
  context : Context
  result : Except EvalError Unit

namespace Effect

def on (e : Effect) (sink : Sink) : Outcome :=
  ⟨sink.write e.text, e.context, e.result⟩

def andThen (e : Effect) (next : Context → Effect) : Effect :=
  match e.result with
  | .ok _ => ⟨e.text ++ (next e.context).text, (next e.context).context, (next e.context).result⟩
  | .error _ => e

theorem on_andThen {e : Effect} {next : Rendering} {effect : Context → Effect}
    (h : ∀ sink, next sink e.context = (effect e.context).on sink) (sink : Sink) :
    (e.on sink).andThen next = (e.andThen effect).on sink := by
  obtain ⟨text, c, result⟩ := e
  cases result with
  | ok _ =>
    change next (sink.write text) c = _
    rw [h, on, Sink.write_write]
    rfl
  | error _ => rfl

theorem andThen_of_ok {e : Effect} (h : e.result = .ok ()) (next : Context → Effect) :
    e.andThen next =
      ⟨e.text ++ (next e.context).text, (next e.context).context, (next e.context).result⟩ := by
  rw [andThen, h]

theorem andThen_of_error {e : Effect} {error : EvalError} (h : e.result = .error error)
    (next : Context → Effect) : e.andThen next = e := by
  rw [andThen, h]

theorem on_buffer (e : Effect) (held : String) :
    e.on (.buffer held) = ⟨.buffer (held ++ e.text), e.context, e.result⟩ := by
  rw [on, Sink.write_buffer]

theorem on_stdout (e : Effect) (printed : String) :
    e.on (.stdout printed) = ⟨.stdout (printed ++ e.text), e.context, e.result⟩ := by
  rw [on, Sink.write_stdout]

theorem on_silent (e : Effect) : e.on .silent = ⟨.silent, e.context, e.result⟩ := by
  rw [on, Sink.write_silent]

theorem on_empty (e : Effect) : e.on .empty = ⟨.buffer e.text, e.context, e.result⟩ := by
  rw [Sink.empty, on_buffer, String.empty_append]

/-- One effect as a part of another: it comes after what had been written by then, and where it
fails it is the last part. -/
def Includes (e : Effect) (written : String) (f : Effect) : Prop :=
  ∃ more, e.text = written ++ f.text ++ more ∧
    ∀ error, f.result = .error error → e.result = .error error ∧ more = ""

section Includes

variable {d e f : Effect} {written written' : String}

theorem includes_refl (e : Effect) : e.Includes "" e :=
  ⟨"", by rw [String.empty_append, String.append_empty], fun _ h => ⟨h, rfl⟩⟩

theorem Includes.trans (h : d.Includes written e) (h' : e.Includes written' f) :
    d.Includes (written ++ written') f := by
  obtain ⟨more, htext, hfail⟩ := h
  obtain ⟨more', htext', hfail'⟩ := h'
  refine ⟨more' ++ more, ?_, fun error hf => ?_⟩
  · simp only [htext, htext', String.append_assoc]
  · obtain ⟨he, rfl⟩ := hfail' error hf
    obtain ⟨hd, rfl⟩ := hfail error he
    exact ⟨hd, rfl⟩

theorem Includes.andThen (h : e.Includes written f) (next : Context → Effect) :
    (e.andThen next).Includes written f := by
  obtain ⟨more, htext, hfail⟩ := h
  cases hresult : e.result with
  | ok _ =>
    rw [andThen_of_ok hresult]
    refine ⟨more ++ (next e.context).text, ?_, fun error hf => ?_⟩
    · simp only [htext, String.append_assoc]
    · cases (hfail error hf).1.symm.trans hresult
  | error _ =>
    rw [andThen_of_error hresult]
    exact ⟨more, htext, hfail⟩

theorem Includes.of_next (hresult : e.result = .ok ()) {next : Context → Effect}
    (h : (next e.context).Includes written f) :
    (e.andThen next).Includes (e.text ++ written) f := by
  obtain ⟨more, htext, hfail⟩ := h
  rw [andThen_of_ok hresult]
  refine ⟨more, ?_, hfail⟩
  simp only [htext, String.append_assoc]

end Includes

end Effect

def Outcome.AppendOnly (o : Sink → Outcome) : Prop :=
  ∃ e : Effect, ∀ sink, o sink = e.on sink

def Rendering.AppendOnly (r : Rendering) : Prop :=
  ∀ c, Outcome.AppendOnly fun sink => r sink c

namespace Rendering

def effect (r : Rendering) (c : Context) : Effect :=
  let o := r .empty c
  ⟨o.sink.output, o.context, o.result⟩

theorem effect_eq {r : Rendering} {c : Context} {e : Effect} (h : ∀ sink, r sink c = e.on sink) :
    r.effect c = e := by
  simp only [effect, h, Effect.on_empty]
  rfl

theorem AppendOnly.eq_on {r : Rendering} (h : r.AppendOnly) (sink : Sink) (c : Context) :
    r sink c = (r.effect c).on sink := by
  obtain ⟨e, he⟩ := h c
  rw [effect_eq he]
  exact he sink

theorem effect_eq_andThen {r first next : Rendering} (hfirst : first.AppendOnly)
    (hnext : next.AppendOnly) {c c' : Context}
    (h : ∀ sink, r sink c = (first sink c').andThen next) :
    r.effect c = (first.effect c').andThen next.effect := by
  refine effect_eq fun sink => ?_
  rw [h, hfirst.eq_on]
  exact Effect.on_andThen (fun sink => hnext.eq_on sink _) sink

end Rendering

theorem Outcome.AppendOnly.exists_sink_eq {o : Sink → Outcome} (h : Outcome.AppendOnly o)
    (sink : Sink) : ∃ text, (o sink).sink = sink.write text := by
  obtain ⟨e, he⟩ := h
  exact ⟨e.text, congrArg Outcome.sink (he sink)⟩

namespace Outcome

theorem appendOnly_unwritten (c : Context) (result : Except EvalError Unit) :
    AppendOnly fun sink => ⟨sink, c, result⟩ :=
  ⟨⟨"", c, result⟩, fun sink => by rw [Effect.on, Sink.write_empty]⟩

theorem done_appendOnly : Rendering.AppendOnly done :=
  fun c => appendOnly_unwritten c (.ok ())

theorem fail_appendOnly (e : EvalError) : Rendering.AppendOnly (fail e) :=
  fun c => appendOnly_unwritten c (.error e)

theorem AppendOnly.andThen {o : Sink → Outcome} (h : AppendOnly o) {next : Rendering}
    (hnext : next.AppendOnly) : AppendOnly fun sink => (o sink).andThen next := by
  obtain ⟨e, he⟩ := h
  obtain ⟨f, hf⟩ := hnext e.context
  refine ⟨e.andThen fun _ => f, fun sink => ?_⟩
  simp only [he]
  exact Effect.on_andThen hf sink

theorem exists_sink_andThen (o : Outcome) {next : Rendering} (hnext : next.AppendOnly) :
    ∃ text, (o.andThen next).sink = o.sink.write text := by
  obtain ⟨sink, c, result⟩ := o
  cases result with
  | ok _ => exact (hnext c).exists_sink_eq sink
  | error _ => exact ⟨"", (Sink.write_empty sink).symm⟩

theorem withValue_appendOnly (value : Except EvalError Value) {next : Value → Rendering}
    (hnext : ∀ v, (next v).AppendOnly) : Rendering.AppendOnly (withValue value next) := by
  intro c
  cases value with
  | ok v => exact hnext v c
  | error e => exact fail_appendOnly e c

theorem inScope_appendOnly {step : Rendering} (h : step.AppendOnly) :
    Rendering.AppendOnly (inScope step) := by
  intro c
  unfold inScope
  cases c.enter with
  | error e => exact fail_appendOnly e c
  | ok opened =>
    obtain ⟨e, he⟩ := h opened
    refine ⟨{ e with context := e.context.exit }, fun sink => ?_⟩
    simp only [he]
    rfl

theorem effect_inScope {c opened : Context} (h : c.enter = .ok opened) (step : Rendering) :
    (inScope step).effect c =
      { step.effect opened with context := (step.effect opened).context.exit } := by
  simp only [Rendering.effect, inScope, h]

theorem defineFields_appendOnly (names : List String) (value : Value) :
    Rendering.AppendOnly (defineFields names value) :=
  fun c => appendOnly_unwritten _ (c.defineFields value names).2

end Outcome

namespace Loop

variable {vars : List String} {body : Rendering}

theorem bindItem_appendOnly (vars : List String) (item : Value) :
    Rendering.AppendOnly (bindItem vars item) := by
  unfold bindItem
  split
  · exact Outcome.defineFields_appendOnly vars item
  · cases vars with
    | nil => exact Outcome.done_appendOnly
    | cons name rest => exact fun c => Outcome.done_appendOnly (c.define name item)

theorem step_appendOnly (fields : Bindings Value) (item : Value) (hbody : body.AppendOnly) :
    Rendering.AppendOnly (step vars body fields item) :=
  fun c => (bindItem_appendOnly vars item (c.define "loop" (.ofBindings fields))).andThen hbody

theorem plainFrom_appendOnly (items : ListView Value) (hbody : body.AppendOnly) (count i : Nat) :
    Rendering.AppendOnly (plainFrom items vars body count i) := by
  induction count generalizing i with
  | zero => exact Outcome.done_appendOnly
  | succ count ih =>
    exact fun c => (step_appendOnly (fieldsAt items i) (items.item i) hbody c).andThen (ih (i + 1))

theorem run_appendOnly (items : ListView Value) (vars : List String) (hbody : body.AppendOnly) :
    Rendering.AppendOnly (run items vars body) := by
  rw [run_eq_plain]
  exact plainFrom_appendOnly items hbody items.size 0

end Loop

mutual

theorem Stmt.render_appendOnly : ∀ s : Stmt, s.render.AppendOnly
  | .text s => fun c => ⟨⟨s, c, .ok ()⟩, fun _ => rfl⟩
  | .output e => by
    intro c
    simp only [Stmt.render, Sink.writeValue_eq]
    exact Outcome.withValue_appendOnly (c.eval e)
      (fun v c => ⟨⟨v.display, c, .ok ()⟩, fun _ => rfl⟩) c
  | .forLoop vars iterable body other => by
    intro c
    simp only [Stmt.render]
    refine Outcome.withValue_appendOnly (c.eval iterable) (fun source c => ?_) c
    have hrun := Loop.run_appendOnly source.items vars (Stmt.renderAll_appendOnly body)
    refine (Outcome.inScope_appendOnly hrun c).andThen ?_
    split
    · exact Stmt.renderElse_appendOnly other
    · exact Outcome.done_appendOnly
  | .ifChain cond body branches => by
    intro c
    refine Outcome.withValue_appendOnly (c.eval cond) (fun v => ?_) c
    split
    · exact Stmt.renderAll_appendOnly body
    · exact Stmt.renderBranches_appendOnly branches
  | .assign names value => by
    intro c
    cases value with
    | none => exact Outcome.done_appendOnly c
    | some e =>
      simp only [Stmt.render]
      refine Outcome.withValue_appendOnly (c.eval e) (fun v c => ?_) c
      split
      · exact Outcome.done_appendOnly _
      · exact Outcome.defineFields_appendOnly names v c

theorem Stmt.renderAll_appendOnly : ∀ ss : List Stmt, (Stmt.renderAll ss).AppendOnly
  | [] => Outcome.done_appendOnly
  | s :: ss => fun c => (Stmt.render_appendOnly s c).andThen (Stmt.renderAll_appendOnly ss)

theorem Stmt.renderElse_appendOnly : ∀ body : Option (List Stmt), (Stmt.renderElse body).AppendOnly
  | none => Outcome.done_appendOnly
  | some body => Stmt.renderAll_appendOnly body

theorem Stmt.renderBranches_appendOnly : ∀ branches : List (BranchOf Stmt),
    (Stmt.renderBranches branches).AppendOnly
  | [] => Outcome.done_appendOnly
  | ⟨none, body⟩ :: _ => Stmt.renderAll_appendOnly body
  | ⟨some cond, body⟩ :: rest => by
    intro c
    simp only [Stmt.renderBranches_cond]
    refine Outcome.withValue_appendOnly (c.eval cond) (fun v => ?_) c
    split
    · exact Stmt.renderAll_appendOnly body
    · exact Stmt.renderBranches_appendOnly rest

end

theorem Stmt.effect_forLoop {iterable : Expr} {source : Value} {c : Context}
    (hsource : c.eval iterable = .ok source) (vars : List String) (body : Template)
    (other : Option Template) :
    (Stmt.forLoop vars iterable body other).render.effect c =
      ((Outcome.inScope (Loop.run source.items vars (Stmt.renderAll body))).effect c).andThen
        (if source.items.size = 0 then Stmt.renderElse other else Outcome.done).effect := by
  have hrun := Loop.run_appendOnly source.items vars (Stmt.renderAll_appendOnly body)
  refine Rendering.effect_eq_andThen (Outcome.inScope_appendOnly hrun) ?_ fun sink => ?_
  · split
    · exact Stmt.renderElse_appendOnly other
    · exact Outcome.done_appendOnly
  · simp only [Stmt.render, hsource, Outcome.withValue]

namespace Template

def effect (body : Template) : Context → Effect :=
  (Stmt.renderAll body).effect

theorem renderAll_eq_on (body : Template) (sink : Sink) (c : Context) :
    Stmt.renderAll body sink c = (body.effect c).on sink :=
  (Stmt.renderAll_appendOnly body).eq_on sink c

theorem effect_cons (s : Stmt) (rest : Template) (c : Context) :
    effect (s :: rest) c = (s.render.effect c).andThen rest.effect :=
  Rendering.effect_eq_andThen (Stmt.render_appendOnly s) (Stmt.renderAll_appendOnly rest)
    fun _ => rfl

theorem effect_singleton (s : Stmt) (c : Context) : effect [s] c = s.render.effect c := by
  simp only [effect, Rendering.effect, Stmt.renderAll, Outcome.andThen_done_right]

theorem effect_append (a b : Template) (c : Context) :
    (a ++ b).effect c = (a.effect c).andThen b.effect :=
  Rendering.effect_eq_andThen (Stmt.renderAll_appendOnly a) (Stmt.renderAll_appendOnly b)
    fun sink => Stmt.renderAll_append a b sink c

theorem effect_append_of_error {a : Template} {c : Context} {error : EvalError}
    (h : (a.effect c).result = .error error) (b : Template) :
    (a ++ b).effect c = a.effect c := by
  rw [effect_append, Effect.andThen_of_error h]

theorem exists_failing_stmt {body : Template} {c : Context} {error : EvalError}
    (h : (body.effect c).result = .error error) :
    ∃ before s after, body = before ++ s :: after ∧ (effect before c).result = .ok () ∧
      (effect [s] (effect before c).context).result = .error error := by
  induction body generalizing c with
  | nil => cases h
  | cons s rest ih =>
    have hsplit (ss : Template) : effect (s :: ss) c = (effect [s] c).andThen ss.effect :=
      effect_append [s] ss c
    cases hs : (effect [s] c).result with
    | error e =>
      rw [hsplit, Effect.andThen_of_error hs] at h
      exact ⟨[], s, rest, rfl, rfl, h⟩
    | ok _ =>
      rw [hsplit, Effect.andThen_of_ok hs] at h
      obtain ⟨before, s', after, rfl, hbefore, hfail⟩ := ih h
      refine ⟨s :: before, s', after, rfl, ?_, ?_⟩
      · rwa [hsplit, Effect.andThen_of_ok hs]
      · rwa [hsplit, Effect.andThen_of_ok hs]

theorem effect_of_error {body : Template} {c : Context} {error : EvalError}
    (h : (body.effect c).result = .error error) :
    ∃ before s after, body = before ++ s :: after ∧ (effect before c).result = .ok () ∧
      (effect [s] (effect before c).context).result = .error error ∧
      body.effect c = (effect before c).andThen (effect [s]) := by
  obtain ⟨before, s, after, rfl, hbefore, hfail⟩ := exists_failing_stmt h
  refine ⟨before, s, after, rfl, hbefore, hfail, ?_⟩
  have hrest : effect (s :: after) (effect before c).context =
      effect [s] (effect before c).context := effect_append_of_error hfail after
  rw [effect_append, Effect.andThen_of_ok hbefore, Effect.andThen_of_ok hbefore, hrest]

end Template

end TextTemplate
