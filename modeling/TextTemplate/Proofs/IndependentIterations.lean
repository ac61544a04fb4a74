import TextTemplate.Proofs.ContextDependence

/-! Loops whose iterations have nothing to do with one another. Where the body binds nothing in the
scope of the loop and does not read `loop`, an iteration cannot tell what came before it, and the
loop renders as the loops over its single items do when they are written out in a row. -/

namespace TextTemplate

theorem map_range_eq_append {α : Type} {f : Nat → α} {n : Nat} {before after : List α} {a : α}
    (h : (List.range n).map f = before ++ a :: after) :
    ∃ k < n, before = (List.range k).map f ∧ a = f k := by
  obtain ⟨front, back, hsplit, rfl, hback⟩ := List.map_eq_append_iff.mp h
  obtain ⟨k, rest, rfl, rfl, -⟩ := List.map_eq_cons_iff.mp hback
  rw [List.range_eq_range', List.range'_eq_append_iff] at hsplit
  obtain ⟨m, -, rfl, htail⟩ := hsplit
  obtain ⟨hk, hpos, -⟩ := List.range'_eq_cons_iff.mp htail.symm
  obtain rfl : m = k := by omega
  refine ⟨m, by omega, ?_, rfl⟩
  rw [List.range_eq_range']

namespace Template

section unchanged

variable {body : Template} {c : Context}

theorem effect_cons_of_unchanged {s : Stmt} (hs : (effect [s] c).context = c) (rest : Template) :
    effect (s :: rest) c = (effect [s] c).andThen fun _ => effect rest c := by
  have hsplit : effect (s :: rest) c = (effect [s] c).andThen rest.effect :=
    effect_append [s] rest c
  rw [hsplit, Effect.andThen, Effect.andThen, hs]

theorem effect_of_unchanged (hkeep : ∀ s ∈ body, (effect [s] c).context = c)
    (hok : ∀ s ∈ body, (effect [s] c).result = .ok ()) :
    body.effect c = ⟨String.join (body.map fun s => (effect [s] c).text), c, .ok ()⟩ := by
  induction body with
  | nil => rfl
  | cons s rest ih =>
    obtain ⟨hs, hrest⟩ := List.forall_mem_cons.mp hkeep
    obtain ⟨hsok, hrestok⟩ := List.forall_mem_cons.mp hok
    rw [effect_cons_of_unchanged hs, Effect.andThen_of_ok hsok, ih hrest hrestok, List.map_cons,
      String.join_cons]

theorem ok_of_unchanged (hkeep : ∀ s ∈ body, (effect [s] c).context = c)
    (h : (body.effect c).result = .ok ()) : ∀ s ∈ body, (effect [s] c).result = .ok () := by
  induction body with
  | nil => exact fun _ hs => nomatch hs
  | cons s rest ih =>
    obtain ⟨hs, hrest⟩ := List.forall_mem_cons.mp hkeep
    rw [effect_cons_of_unchanged hs] at h
    cases hresult : (effect [s] c).result with
    | ok _ =>
      rw [Effect.andThen_of_ok hresult] at h
      exact List.forall_mem_cons.mpr ⟨hresult, ih hrest h⟩
    | error e =>
      rw [Effect.andThen_of_error hresult] at h
      exact absurd (hresult.symm.trans h) nofun

theorem exists_first_failing_of_unchanged (hkeep : ∀ s ∈ body, (effect [s] c).context = c)
    {error : EvalError} (h : (body.effect c).result = .error error) :
    ∃ before s after, body = before ++ s :: after ∧
      (∀ s ∈ before, (effect [s] c).result = .ok ()) ∧ (effect [s] c).result = .error error ∧
      (body.effect c).text =
        String.join (before.map fun s => (effect [s] c).text) ++ (effect [s] c).text := by
  obtain ⟨before, s, after, rfl, hbefore, hfail, heffect⟩ := effect_of_error h
  have hkeepBefore : ∀ s ∈ before, (effect [s] c).context = c :=
    fun s hs => hkeep s (List.mem_append_left _ hs)
  have hok := ok_of_unchanged hkeepBefore hbefore
  have hjoined := effect_of_unchanged hkeepBefore hok
  rw [hjoined] at hfail
  refine ⟨before, s, after, rfl, hok, hfail, ?_⟩
  rw [heffect, hjoined]
  rfl

end unchanged

end Template

def Stmt.loopOver (x : String) (body : Template) (item : Value) : Stmt :=
  .forLoop [x] (.const (.list [item])) body none

namespace Loop

def iterationContext (x : String) (fields item : Value) (c : Context) : Context :=
  (c.define "loop" fields).define x item

theorem step_singleName (body : Rendering) (fields : Bindings Value) (item : Value) (sink : Sink)
    (c : Context) : step [x] body fields item sink c =
      body sink (iterationContext x (.ofBindings fields) item c) := by
  have hone : ¬(1 < [x].length ∧ item.isMap = true) := fun h => Nat.lt_irrefl 1 h.1
  rw [step, bindItem, if_neg hone]
  rfl

theorem lookup_iterationContext (x : String) (fields item : Value) (c : Context) :
    (iterationContext x fields item c).lookup x = some item := by
  rw [iterationContext, Context.lookup_define, if_pos rfl]

theorem iterationContext_changesOnly (x : String) (fields item : Value) (c : Context) :
    Context.ChangesOnly ["loop", x] c (iterationContext x fields item c) :=
  trans_of (Context.ChangesOnly _)
    (Context.define_changesOnly List.mem_cons_self c fields)
    (Context.define_changesOnly (List.mem_cons_of_mem _ (List.mem_singleton_self x)) _ item)

theorem iterationContext_agree {x : String} {opened d : Context}
    (h : Context.ChangesOnly ["loop", x] opened d) (fields fields' item : Value) :
    Context.Agree (fun name => name ≠ "loop") (iterationContext x fields item d)
      (iterationContext x fields' item opened) := by
  have hbound := (iterationContext_changesOnly x fields item d).agree
  have hbound' := (iterationContext_changesOnly x fields' item opened).agree
  have hrest := hbound.symm.trans (h.agree.symm.trans hbound')
  refine ⟨hrest.depth_eq, hrest.maxDepth_eq, fun name hname => ?_⟩
  by_cases hx : name = x
  · rw [hx, lookup_iterationContext, lookup_iterationContext]
  · refine hrest.lookup_eq name fun hmem => ?_
    exact (List.mem_pair.mp hmem).elim hname hx

end Loop

section unrolled

variable {x : String} {body : Template} {c d opened : Context}

theorem Stmt.render_loopOver (hopened : c.enter = .ok opened) (x : String) (body : Template)
    (item : Value) (sink : Sink) :
    let fields : Value := .ofBindings (Loop.fieldsAt (Value.list [item]).items 0)
    let o := Stmt.renderAll body sink (Loop.iterationContext x fields item opened)
    Stmt.render (.loopOver x body item) sink c = ⟨o.sink, c, o.result⟩ := by
  intro fields o
  have hsource : c.eval (.const (.list [item])) = .ok (.list [item]) := rfl
  have hitems : 0 < (Value.list [item]).items.size := Nat.one_pos
  have hrun : Loop.run (Value.list [item]).items [x] (Stmt.renderAll body) sink opened = o := by
    rw [Loop.run_single rfl, Loop.step_singleName]
    rfl
  rw [Stmt.loopOver, Stmt.render_forLoop_of_enter hsource hitems hopened, hrun]

theorem Loop.body_alike (hloop : .var "loop" ∉ Stmt.exprsAll body)
    (hd : Context.ChangesOnly ["loop", x] opened d) (fields fields' item : Value) (sink : Sink) :
    let o := Stmt.renderAll body sink (Loop.iterationContext x fields item d)
    let o' := Stmt.renderAll body sink (Loop.iterationContext x fields' item opened)
    o.sink = o'.sink ∧ o.result = o'.result := by
  have hreads : Expr.ReadsOnly (fun name => name ≠ "loop") (Stmt.exprsAll body) :=
    fun name hname he => hloop (he ▸ hname)
  have hrun := Stmt.renderAll_alike hreads sink _ _
    (Loop.iterationContext_agree hd fields fields' item)
  exact ⟨hrun.sink_eq, hrun.result.eq⟩

variable (hloop : .var "loop" ∉ Stmt.exprsAll body) (hwrites : Stmt.targetsAll body = [])
include hloop hwrites

/-- An iteration in a scope that others have used goes as the loop over its item alone does. -/
theorem Loop.step_eq_loopOver (hopened : c.enter = .ok opened)
    (hd : Context.ChangesOnly ["loop", x] opened d) (fields : Bindings Value) (item : Value)
    (sink : Sink) :
    let o := Loop.step [x] (Stmt.renderAll body) fields item sink d
    Stmt.render (.loopOver x body item) sink c = ⟨o.sink, c, o.result⟩ ∧
      Context.ChangesOnly ["loop", x] opened o.context := by
  intro o
  let bound := Loop.iterationContext x (.ofBindings fields) item d
  have ho : o = Stmt.renderAll body sink bound := Loop.step_singleName _ fields item sink d
  constructor
  · have halike := Loop.body_alike hloop hd (.ofBindings fields)
      (.ofBindings (Loop.fieldsAt (Value.list [item]).items 0)) item sink
    rw [Stmt.render_loopOver hopened, ho, halike.1, halike.2]
  · have hbound := Loop.iterationContext_changesOnly x (.ofBindings fields) item d
    have hbody := Stmt.renderAll_along body sink bound
    rw [hwrites, ← ho] at hbody
    exact trans_of (Context.ChangesOnly _) hd
      (trans_of (Context.ChangesOnly _) hbound (hbody.mono (List.nil_subset _)))

theorem Loop.plainFrom_eq_loopsOver (hopened : c.enter = .ok opened) (items : ListView Value)
    (count i : Nat) (sink : Sink) (hd : Context.ChangesOnly ["loop", x] opened d) :
    let o := Loop.plainFrom items [x] (Stmt.renderAll body) count i sink d
    (⟨o.sink, o.context.exit, o.result⟩ : Outcome) =
      Stmt.renderAll ((List.range' i count).map fun k => .loopOver x body (items.item k))
        sink c := by
  induction count generalizing i sink d with
  | zero =>
    have hexit : d.exit = c := Context.exit_of_sameAround hopened hd.toSameAround
    simp only [Loop.plainFrom, Outcome.done, hexit, List.range'_zero, List.map_nil,
      Stmt.renderAll]
  | succ count ih =>
    obtain ⟨hitem, hafter⟩ := Loop.step_eq_loopOver hloop hwrites hopened hd
      (Loop.fieldsAt items i) (items.item i) sink
    simp only [Loop.plainFrom, List.range'_succ, List.map_cons, Stmt.renderAll, hitem]
    generalize Loop.step [x] (Stmt.renderAll body) (Loop.fieldsAt items i) (items.item i) sink d =
      o at hafter ⊢
    obtain ⟨sink', after, result⟩ := o
    cases result with
    | ok _ => exact ih (i + 1) sink' hafter
    | error e =>
      have hexit : after.exit = c := Context.exit_of_sameAround hopened hafter.toSameAround
      simp only [Outcome.andThen, hexit]

theorem Stmt.render_forLoop_eq_loopsOver (hroom : c.depth < c.maxDepth) {iterable : Expr}
    {source : Value} (hsource : c.eval iterable = .ok source) (x : String) (sink : Sink) :
    let items := source.items
    Stmt.render (.forLoop [x] iterable body none) sink c =
      Stmt.renderAll ((List.range items.size).map fun i => .loopOver x body (items.item i))
        sink c := by
  intro items
  obtain ⟨opened, hopened⟩ := Context.exists_enter hroom
  have hfresh : Context.ChangesOnly ["loop", x] opened opened := refl_of _ opened
  have hrun := Loop.plainFrom_eq_loopsOver hloop hwrites hopened items items.size 0 sink hfresh
  rw [← List.range_eq_range'] at hrun
  simp only [Stmt.render, hsource, Outcome.withValue, Outcome.inScope, hopened, Stmt.renderElse,
    ite_self, Outcome.andThen_done_right, Loop.run_eq_plain]
  exact hrun

end unrolled

theorem Template.effect_loopOver_context (x : String) (body : Template) (item : Value)
    (c : Context) : (effect [.loopOver x body item] c).context = c := by
  have hsource : c.eval (.const (.list [item])) = .ok (.list [item]) := rfl
  have hitems : 0 < (Value.list [item]).items.size := Nat.one_pos
  have hloop : (Stmt.render (.loopOver x body item) .empty c).context = c :=
    Stmt.render_forLoop_context hsource hitems [x] body none .empty
  rw [effect_singleton]
  exact hloop

/-- A loop whose body binds nothing in its scope and does not read `loop` is as good as the loops
over its single items in a row. -/
theorem Template.render_independent {x : String} {iterable : Expr} {body : Template} {c : Context}
    {source : Value} (hloop : .var "loop" ∉ Stmt.exprsAll body)
    (hwrites : Stmt.targetsAll body = []) (hroom : c.depth < c.maxDepth)
    (hsource : c.eval iterable = .ok source) :
    let n := source.items.size
    let whole := effect [.forLoop [x] iterable body none] c
    let alone (i : Nat) :=
      effect [.forLoop [x] (.const (.list [source.items.item i])) body none] c
    (whole.result = .ok () ↔ ∀ i < n, (alone i).result = .ok ()) ∧
      (whole.result = .ok () →
        whole.text = String.join ((List.range n).map fun i => (alone i).text)) ∧
      ∀ e, whole.result = .error e → ∃ k < n, (∀ i < k, (alone i).result = .ok ()) ∧
        (alone k).result = .error e ∧
        whole.text = String.join ((List.range k).map fun i => (alone i).text) ++
          (alone k).text := by
  intro n whole alone
  let loops : Template := (List.range n).map fun i => Stmt.loopOver x body (source.items.item i)
  -- The loop is unrolled, so that it is a question of statements in a row.
  have hwhole : whole = loops.effect c := by
    refine (effect_singleton _ c).trans (Rendering.effect_eq fun sink => ?_)
    rw [Stmt.render_forLoop_eq_loopsOver hloop hwrites hroom hsource x sink]
    exact loops.renderAll_eq_on sink c
  have hkeep : ∀ s ∈ loops, (effect [s] c).context = c :=
    List.forall_mem_map.mpr fun i _ => effect_loopOver_context x body (source.items.item i) c
  have hall : (∀ s ∈ loops, (effect [s] c).result = .ok ()) ↔
      ∀ i < n, (alone i).result = .ok () := by
    rw [List.forall_mem_map]
    simp only [List.mem_range]
    rfl
  have htexts (m : Nat) : ((List.range m).map fun i =>
      Stmt.loopOver x body (source.items.item i)).map (fun s => (effect [s] c).text) =
        (List.range m).map fun i => (alone i).text := List.map_map
  rw [hwhole, ← hall]
  refine ⟨⟨ok_of_unchanged hkeep, fun hok => ?_⟩, fun h => ?_, fun e h => ?_⟩
  · rw [effect_of_unchanged hkeep hok]
  · rw [effect_of_unchanged hkeep (ok_of_unchanged hkeep h), htexts]
  · obtain ⟨before, s, after, hsplit, hbefore, hfail, htext⟩ :=
      exists_first_failing_of_unchanged hkeep h
    obtain ⟨k, hk, rfl, rfl⟩ := map_range_eq_append hsplit
    rw [htexts] at htext
    refine ⟨k, hk, fun i hi => ?_, hfail, htext⟩
    exact hbefore _ (List.mem_map_of_mem (List.mem_range.mpr hi))

theorem Template.render_independent_failing :
    let body : Template := [.forLoop ["y"] (.call "range" [.var "x"])
      [.assign ["z"] (some (.var "y")), .output (.var "z")] none]
    let loop (items : List Value) :=
      effect [.forLoop ["x"] (.const (.list items)) body none] (.new .empty)
    let whole := loop [.int 2, .str "b", .int 1]
    let error := EvalError.typeMismatch "int" "str"
    whole.result = .error error ∧ (loop [.int 2]).result = .ok () ∧
      (loop [.str "b"]).result = .error error ∧
      whole.text = (loop [.int 2]).text ++ (loop [.str "b"]).text ∧
      (loop [.int 2]).text = "01" := by
  intro body loop whole error
  let items : List Value := [.int 2, .str "b", .int 1]
  have hloop : .var "loop" ∉ Stmt.exprsAll body := by
    simp [body, Stmt.exprsAll, Stmt.exprs, Stmt.exprsElse, Expr.subexprs, Expr.subexprsAll]
  have hsource : (Context.new .empty).eval (.const (.list items)) = .ok (.list items) := rfl
  have hwhole : whole.result = .error error := rfl
  have hfirst : (loop [.int 2]).result = .ok () := rfl
  have hsecond : (loop [.str "b"]).result = .error error := rfl
  obtain ⟨k, -, hbefore, hfail, htext⟩ :=
    (Template.render_independent hloop rfl (by decide) hsource).2.2 error hwhole
  have hpos : k ≠ 0 := by
    rintro rfl
    cases hfirst.symm.trans hfail
  have hle : ¬1 < k := fun hlt => by cases hsecond.symm.trans (hbefore 1 hlt)
  obtain rfl : k = 1 := by omega
  rw [List.range_one, List.map_singleton, String.join_cons, String.join_nil,
    String.append_empty] at htext
  exact ⟨hwhole, hfirst, hsecond, htext, rfl⟩

end TextTemplate
