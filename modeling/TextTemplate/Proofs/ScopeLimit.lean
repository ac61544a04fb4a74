import TextTemplate.Proofs.ValueInvariant
import TextTemplate.Proofs.Stages

/-! The limit on scopes. It is met by nesting alone: a render gets past it only if its loops are
nested deeper than there is room for, and a loop that finds no room ends the render at once. Lazy
maps answer for themselves, so they too may bring up the error; what they answer is kept apart. -/

namespace TextTemplate

/-- The error is what some lazy map inside the value, or inside what such a map answers, answers for
a name. -/
inductive Value.Raises : Value → EvalError → Prop
  | here {v : Value} {name : String} {e : EvalError} (h : v.subscript name = .error e) : Raises v e
  | item {v : Value} {i : Nat} {e : EvalError} (hi : i < v.items.size)
      (h : Raises (v.items.item i) e) : Raises v e
  | entry {v x : Value} {name : String} {e : EvalError} (hx : v.subscript name = .ok x)
      (h : Raises x e) : Raises v e

def Template.Raises (body : Template) (c : Context) (e : EvalError) : Prop :=
  (∃ v, Expr.const v ∈ Stmt.exprsAll body ∧ v.Raises e) ∨
    ∃ s ∈ c.scopes, ∃ name v, s.get? name = some v ∧ v.Raises e

theorem Template.Raises.mono {body more : Template} {c : Context} {e : EvalError}
    (h : body.Raises c e) (hsub : Stmt.exprsAll body ⊆ Stmt.exprsAll more) : more.Raises c e :=
  h.imp_left fun ⟨v, hv, hraises⟩ => ⟨v, hsub hv, hraises⟩

namespace Value

theorem not_raises_of_scalar {v : Value} (hl : v.isList = false) (hm : v.isMap = false)
    (e : EvalError) : ¬v.Raises e := by
  intro h
  induction h with
  | here h =>
    rw [subscript_of_not_isMap hm] at h
    cases h
  | item hi _ _ =>
    rw [items_of_not_isList hl] at hi
    exact absurd hi (Nat.not_lt_zero _)
  | entry hx _ ih =>
    rw [subscript_of_not_isMap hm] at hx
    cases hx
    exact ih rfl rfl

theorem raises_of_isList {v : Value} (hv : v.isList) {e : EvalError} (h : v.Raises e) :
    ∃ i < v.items.size, (v.items.item i).Raises e := by
  have hsub := subscript_of_not_isMap (isMap_of_isList hv)
  cases h with
  | here h => cases (hsub _).symm.trans h
  | item hi h => exact ⟨_, hi, h⟩
  | entry hx h =>
    cases (hsub _).symm.trans hx
    exact absurd h (not_raises_of_scalar rfl rfl e)

theorem raises_map {entries : List (String × Value)} {e : EvalError}
    (h : (Value.map entries).Raises e) :
    ∃ name x, Entries.get? entries name = some x ∧ x.Raises e := by
  cases h with
  | here h => cases h
  | item hi h => exact absurd hi (Nat.not_lt_zero _)
  | @entry _ _ name _ hx h =>
    rw [subscript] at hx
    cases hget : Entries.get? entries name with
    | none =>
      rw [hget] at hx
      cases hx
      exact absurd h (not_raises_of_scalar rfl rfl e)
    | some y =>
      rw [hget] at hx
      cases hx
      exact ⟨name, _, hget, h⟩

theorem raises_hereditary (Q : EvalError → Prop) :
    Hereditary (fun v => ∀ e, v.Raises e → Q e) Q where
  scalar _ hl hm e h := absurd h (not_raises_of_scalar hl hm e)
  list _ hv hitem e h := by
    obtain ⟨i, hi, hraises⟩ := raises_of_isList hv h
    exact hitem i hi e hraises
  map _ hentry e h := by
    obtain ⟨name, x, hx, hraises⟩ := raises_map h
    exact hentry name x hx e hraises
  item hv _ hi e h := hv e (.item hi h)
  subscript {v} hv name := by
    cases hsub : v.subscript name with
    | ok x => exact .ok fun e h => hv e (.entry hsub h)
    | error e => exact .error (hv e (.here hsub))

end Value

/-- A render brings up the scope limit only if it has fewer scopes than its loops are nested, or if
a value that it reads raises that very error. -/
theorem Template.limit_of_scopeDepthExceeded {body : Template} {sink : Sink} {c : Context}
    {limit : Nat} (h : (Stmt.renderAll body sink c).result = .error (.scopeDepthExceeded limit)) :
    body.Raises c (.scopeDepthExceeded limit) ∨
      limit = c.maxDepth ∧ c.maxDepth < c.depth + Stmt.nestingAll body := by
  -- The errors that are allowed: those that the operators make, and what the lazy maps answer.
  let Q (e : EvalError) : Prop := (∀ limit, e ≠ .scopeDepthExceeded limit) ∨ body.Raises c e
  let P (v : Value) : Prop := ∀ e, v.Raises e → Q e
  have hP : Value.Hereditary P Q := Value.raises_hereditary Q
  have hfits : ∀ e ∈ Stmt.exprsAll body, e.Fits P Q := by
    intro e he
    cases e with
    | const v => exact fun e h => .inr (.inl ⟨v, he, h⟩)
    | call name args => exact fun _ vs _ _ => hP.callFunction (fun e h => .inl h) name vs
    | method object name args =>
      exact fun receiver vs _ hvs => hP.callMethod (fun e h => .inl h) receiver name hvs
    | _ => trivial
  have hc : c.All P := fun s hs name v hv e h => .inr (.inr ⟨s, hs, name, v, hv, h⟩)
  rcases (Stmt.renderAll_keeps hP body hfits sink c hc).error _ h with hQ | ⟨hlimit, hlt⟩
  · exact .inl (hQ.resolve_left fun hne => hne limit rfl)
  · exact .inr ⟨EvalError.scopeDepthExceeded.inj hlimit, hlt⟩

section full

variable {c : Context} {iterable : Expr} {source : Value} (hfull : c.depth = c.maxDepth)
  (hsource : c.eval iterable = .ok source)
include hfull hsource

theorem Stmt.render_forLoop_full (vars : List String) (body : Template) (other : Option Template)
    (sink : Sink) : Stmt.render (.forLoop vars iterable body other) sink c =
      Outcome.fail (.scopeDepthExceeded c.maxDepth) sink c := by
  simp only [Stmt.render, hsource, Outcome.withValue, Outcome.inScope, Context.enter_of_full hfull,
    Outcome.andThen_fail]

theorem Stage.not_next_of_full (vars : List String) (body rest : Template)
    (other : Option Template) (sink : Sink) (g : Stage) :
    ¬Next ⟨.forLoop vars iterable body other :: rest, sink, c⟩ g := by
  intro h
  have hclosed := Context.enter_of_full hfull
  cases h with
  | after h =>
    rw [Stmt.render_forLoop_full hfull hsource] at h
    cases h
  | loopScope _ hopened => cases hclosed.symm.trans hopened
  | iteration _ hopened _ => cases hclosed.symm.trans hopened
  | elseBody _ hroom _ => exact absurd hfull (Nat.ne_of_lt hroom)

end full

structure LoopHead where
  vars : List String
  source : Value
  other : Option Template

namespace LoopHead

def withoutElse (h : LoopHead) : LoopHead :=
  { h with other := none }

end LoopHead

def Template.nested : List LoopHead → Template → Template
  | [], body => body
  | h :: hs, body => [.forLoop h.vars (.const h.source) (nested hs body) h.other]

theorem Outcome.exists_defineFields {v : Value} {names : List String}
    (h : ∀ name ∈ names, ∃ x, v.subscript name = .ok x) (sink : Sink) (c : Context) :
    ∃ c', defineFields names v sink c = done sink c' := by
  induction names generalizing c with
  | nil => exact ⟨c, rfl⟩
  | cons name names ih =>
    obtain ⟨⟨x, hx⟩, hrest⟩ := List.forall_mem_cons.mp h
    obtain ⟨c', hc'⟩ := ih hrest (c.define name x)
    refine ⟨c', ?_⟩
    rw [← hc']
    simp only [defineFields, Context.defineFields, hx]

/-- The variables can be bound to an item: where there are several, it has an answer for each. -/
def Loop.Binds (vars : List String) (item : Value) : Prop :=
  1 < vars.length → ∀ name ∈ vars, ∃ x, item.subscript name = .ok x

theorem Loop.Binds.exists_bindItem {vars : List String} {item : Value} (h : Binds vars item)
    (sink : Sink) (c : Context) :
    ∃ c', bindItem vars item sink c = Outcome.done sink c' ∧ c.SameAround c' := by
  have hsame : c.SameAround (bindItem vars item sink c).context :=
    bindItem_sameAround vars item sink c
  suffices hdone : ∃ c', bindItem vars item sink c = Outcome.done sink c' by
    obtain ⟨c', hc'⟩ := hdone
    rw [hc'] at hsame
    exact ⟨c', hc', hsame⟩
  unfold bindItem
  split
  · rename_i hseveral
    exact Outcome.exists_defineFields (h hseveral.1) sink c
  · cases vars with
    | nil => exact ⟨c, rfl⟩
    | cons name rest => exact ⟨_, rfl⟩

namespace Template

theorem renderAll_nested_cons (h : LoopHead) (hs : List LoopHead) (body : Template) (sink : Sink)
    (c : Context) : Stmt.renderAll (nested (h :: hs) body) sink c =
      Stmt.render (.forLoop h.vars (.const h.source) (nested hs body) h.other) sink c :=
  Outcome.andThen_done_right _

theorem nested_overflow {hs : List LoopHead}
    (hsingle : ∀ h ∈ hs, h.source.items.size = 1 ∧ Loop.Binds h.vars (h.source.items.item 0))
    (body : Template) (sink : Sink) {c : Context} (hlt : c.maxDepth < c.depth + hs.length) :
    Stmt.renderAll (nested hs body) sink c =
      Outcome.fail (.scopeDepthExceeded c.maxDepth) sink c := by
  -- Each loop that finds room takes one scope of it, so there is one loop less and one scope less.
  induction hs generalizing c with
  | nil => exact absurd c.depth_le_maxDepth (Nat.not_le_of_lt hlt)
  | cons h hs ih =>
    obtain ⟨⟨hsize, hbinds⟩, hrest⟩ := List.forall_mem_cons.mp hsingle
    rw [renderAll_nested_cons]
    rcases Nat.lt_or_eq_of_le c.depth_le_maxDepth with hroom | hfull
    · obtain ⟨opened, he⟩ := Context.exists_enter hroom
      obtain ⟨c', hbind, hsame⟩ := hbinds.exists_bindItem sink
        (opened.define "loop" (.ofBindings (Loop.fieldsAt h.source.items 0)))
      have haround : opened.SameAround c' :=
        trans_of Context.SameAround (opened.define_sameAround "loop" _) hsame
      have hmax : c'.maxDepth = c.maxDepth :=
        haround.maxDepth_eq.trans (Context.maxDepth_of_enter he)
      have hdepth : c'.depth = c.depth + 1 :=
        haround.depth_eq.trans (Context.depth_of_enter he)
      have hinner : Stmt.renderAll (nested hs body) sink c' =
          Outcome.fail (.scopeDepthExceeded c.maxDepth) sink c' := by
        rw [← hmax]
        refine ih hrest ?_
        rw [hmax, hdepth, Nat.add_assoc, Nat.add_comm 1]
        exact hlt
      have hrun : Loop.run h.source.items h.vars (Stmt.renderAll (nested hs body)) sink opened =
          Outcome.fail (.scopeDepthExceeded c.maxDepth) sink c' := by
        rw [Loop.run_single hsize, Loop.step, hbind, Outcome.andThen_done, hinner]
      have hsource : c.eval (.const h.source) = .ok h.source := rfl
      have hitems : 0 < h.source.items.size := hsize ▸ Nat.one_pos
      rw [Stmt.render_forLoop_of_enter hsource hitems he, hrun]
      rfl
    · exact Stmt.render_forLoop_full hfull rfl h.vars (nested hs body) h.other sink

section withoutElse

variable (hs : List LoopHead) (body : Template)

theorem renderAll_nested_withoutElse (hsize : ∀ h ∈ hs, h.source.items.size = 1) :
    Stmt.renderAll (nested (hs.map LoopHead.withoutElse) body) =
      Stmt.renderAll (nested hs body) := by
  induction hs with
  | nil => rfl
  | cons h hs ih =>
    obtain ⟨hone, hrest⟩ := List.forall_mem_cons.mp hsize
    funext sink c
    have hsource : c.eval (.const h.source) = .ok h.source := rfl
    have hitems : 0 < h.source.items.size := hone ▸ Nat.one_pos
    rw [List.map_cons, renderAll_nested_cons, renderAll_nested_cons,
      ← Stmt.render_forLoop_of_items hsource hitems h.vars (nested hs body) none h.other]
    simp only [Stmt.render, LoopHead.withoutElse, ih hrest]

theorem nestingAll_nested_withoutElse :
    Stmt.nestingAll (nested (hs.map LoopHead.withoutElse) body) =
      hs.length + Stmt.nestingAll body := by
  induction hs with
  | nil => exact (Nat.zero_add _).symm
  | cons h hs ih =>
    simp only [List.map_cons, nested, Stmt.nestingAll, Stmt.nesting, LoopHead.withoutElse,
      Stmt.nestingElse, ih, List.length_cons]
    omega

theorem exprsAll_nested_withoutElse_subset :
    Stmt.exprsAll (nested (hs.map LoopHead.withoutElse) body) ⊆ Stmt.exprsAll (nested hs body) := by
  induction hs with
  | nil => exact List.Subset.refl _
  | cons h hs ih =>
    simp only [List.map_cons, nested, Stmt.exprsAll, Stmt.exprs, LoopHead.withoutElse,
      Stmt.exprsElse, List.append_nil]
    refine List.append_subset.mpr ⟨?_, ?_⟩
    · exact List.subset_append_of_subset_left _ (List.subset_append_left ..)
    · exact List.subset_append_of_subset_left _ (List.subset_append_of_subset_right _ ih)

end withoutElse

theorem nested_limit_of_scopeDepthExceeded {hs : List LoopHead}
    (hsize : ∀ h ∈ hs, h.source.items.size = 1) {body : Template} (hbody : Stmt.nestingAll body = 0)
    {sink : Sink} {c : Context} {limit : Nat}
    (h : (Stmt.renderAll (nested hs body) sink c).result = .error (.scopeDepthExceeded limit)) :
    (nested hs body).Raises c (.scopeDepthExceeded limit) ∨
      limit = c.maxDepth ∧ c.maxDepth < c.depth + hs.length := by
  rw [← renderAll_nested_withoutElse hs body hsize] at h
  have hlimit := limit_of_scopeDepthExceeded h
  rw [nestingAll_nested_withoutElse, hbody, Nat.add_zero] at hlimit
  exact hlimit.imp_left fun hraises => hraises.mono (exprsAll_nested_withoutElse_subset hs body)

/-- The limit on scopes is kept at every moment, and the error that names it comes from nesting or
from a lazy map that raises it. -/
theorem render_scopeLimit (body : Template) (sink : Sink) (c : Context) :
    let o := Stmt.renderAll body sink c
    (∀ g, Stage.Reaches ⟨body, sink, c⟩ g → g.context.depth ≤ c.maxDepth) ∧
    (∀ limit, o.result = .error (.scopeDepthExceeded limit) →
      body.Raises c (.scopeDepthExceeded limit) ∨
        limit = c.maxDepth ∧ c.maxDepth < c.depth + Stmt.nestingAll body) ∧
    (∀ vars iterable loopBody other rest sink' c' source,
      let g : Stage := ⟨.forLoop vars iterable loopBody other :: rest, sink', c'⟩
      Stage.Reaches ⟨body, sink, c⟩ g → c'.depth = c.maxDepth → c'.eval iterable = .ok source →
        Stmt.render (.forLoop vars iterable loopBody other) sink' c' =
            Outcome.fail (.scopeDepthExceeded c.maxDepth) sink' c' ∧
          (∀ g', ¬g.Next g') ∧
          o.result = .error (.scopeDepthExceeded c.maxDepth) ∧ o.sink = sink') ∧
    ∀ hs : List LoopHead, (∀ h ∈ hs, h.source.items.size = 1) → Stmt.nestingAll body = 0 →
      let o := Stmt.renderAll (nested hs body) sink c
      ((∀ h ∈ hs, Loop.Binds h.vars (h.source.items.item 0)) →
        c.maxDepth < c.depth + hs.length →
        o = Outcome.fail (.scopeDepthExceeded c.maxDepth) sink c) ∧
      ∀ limit, o.result = .error (.scopeDepthExceeded limit) →
        (nested hs body).Raises c (.scopeDepthExceeded limit) ∨
          limit = c.maxDepth ∧ c.maxDepth < c.depth + hs.length := by
  intro o
  refine ⟨fun g hg => ?_, fun limit => limit_of_scopeDepthExceeded, ?_, ?_⟩
  · have hmax : g.context.maxDepth = c.maxDepth := hg.maxDepth_eq
    exact hmax ▸ g.context.depth_le_maxDepth
  · intro vars iterable loopBody other rest sink' c' source g hg hdepth hsource
    have hmax : c'.maxDepth = c.maxDepth := hg.maxDepth_eq
    have hfull : c'.depth = c'.maxDepth := hdepth.trans hmax.symm
    have hloop := Stmt.render_forLoop_full hfull hsource vars loopBody other sink'
    rw [hmax] at hloop
    -- The loop fails at its head, and a failure at some moment is that of the whole render.
    have hstage : g.outcome = Outcome.fail (.scopeDepthExceeded c.maxDepth) sink' c' := by
      simp only [g, Stage.outcome, Stmt.renderAll, hloop, Outcome.andThen_fail]
    have hfailure := hg.failure (congrArg Outcome.result hstage)
    exact ⟨hloop, Stage.not_next_of_full hfull hsource vars loopBody rest other sink',
      hfailure.1, hfailure.2.trans (congrArg Outcome.sink hstage)⟩
  · intro hs hsize hbody o
    refine ⟨fun hbinds hlt => ?_, fun limit => nested_limit_of_scopeDepthExceeded hsize hbody⟩
    exact nested_overflow (fun h hh => ⟨hsize h hh, hbinds h hh⟩) body sink hlt

/-- The inner loop has no room, but the outer one does not come to it. And a lazy map may raise the
error with any limit in it, where there is no loop at all. -/
theorem nested_overflow_unbound :
    let c := Context.ofGlobals .empty 2
    let blank : MapView Value := .ofBindings (Bindings.empty : Bindings Value) id
    let hs : List LoopHead := [⟨["a", "b"], .list [.genericMap blank], none⟩,
      ⟨["x"], .list [.int 1], none⟩]
    let raising : MapView Value := { blank with byName := fun _ => .error (.scopeDepthExceeded 7) }
    let body : Template := [.output (.attr (.const (.genericMap raising)) "a")]
    ((∀ h ∈ hs, h.source.items.size = 1) ∧ c.maxDepth < c.depth + hs.length ∧
        (Stmt.renderAll (nested hs []) .empty c).result = .error (.invalidField "a")) ∧
      c.depth + Stmt.nestingAll body ≤ c.maxDepth ∧
        (Stmt.renderAll body .empty c).result = .error (.scopeDepthExceeded 7) := by
  refine ⟨⟨?_, by decide, rfl⟩, by decide, rfl⟩
  exact List.forall_mem_cons.mpr ⟨rfl, List.forall_mem_singleton.mpr rfl⟩

theorem render_scopeLimit_full :
    let c (limit : Nat) := Context.ofGlobals .empty limit
    let loop : Stmt := .forLoop ["x"] (.const (.list [])) [.text "b"] (some [.text "c"])
    let o := Stmt.renderAll [.text "a", loop] .empty (c 1)
    let hs : List LoopHead := [⟨["x"], .list [.int 1], none⟩,
      ⟨["a", "b"], .list [.map [("a", .int 1)]], some []⟩]
    o.result = .error (.scopeDepthExceeded 1) ∧ o.sink = .buffer "a" ∧
      Stmt.renderAll (nested hs [.text "d"]) .empty (c 2) =
        Outcome.fail (.scopeDepthExceeded 2) .empty (c 2) := by
  intro c loop o hs
  have hreached : Stage.Reaches ⟨[.text "a", loop], .empty, c 1⟩ ⟨[loop], .buffer "a", c 1⟩ :=
    .single (.after rfl)
  obtain ⟨_, _, hresult, hsink⟩ := (render_scopeLimit [.text "a", loop] .empty (c 1)).2.2.1
    _ _ _ _ _ _ _ _ hreached rfl rfl
  have hsize : ∀ h ∈ hs, h.source.items.size = 1 :=
    List.forall_mem_cons.mpr ⟨rfl, List.forall_mem_singleton.mpr rfl⟩
  have hbinds : ∀ h ∈ hs, Loop.Binds h.vars (h.source.items.item 0) := by
    refine List.forall_mem_cons.mpr ⟨fun h => ?_, List.forall_mem_singleton.mpr ?_⟩
    · exact absurd h (Nat.lt_irrefl 1)
    · exact fun _ name _ => ⟨_, rfl⟩
  have hnested := (render_scopeLimit [.text "d"] .empty (c 2)).2.2.2 hs hsize rfl
  exact ⟨hresult, hsink, hnested.1 hbinds (by decide)⟩

end Template

end TextTemplate
