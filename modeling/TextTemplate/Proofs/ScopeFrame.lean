import TextTemplate.Render.Stmt
import Mathlib.Order.Defs.Unbundled

/-! What a render can change. It works in the innermost scope, and there only on the targets of the
assignments outside loop bodies; the scope of a loop is gone when the loop is over. -/

namespace TextTemplate
namespace Context

/-- The scopes around the innermost one and the limit are as before. -/
structure SameAround (c c' : Context) : Prop where
  outer_eq : c'.outer = c.outer
  maxDepth_eq : c'.maxDepth = c.maxDepth

/-- At most some names of the innermost scope are bound anew, and none is lost. -/
structure ChangesOnly (names : List String) (c c' : Context) : Prop extends SameAround c c' where
  contains : ∀ name, c.current.contains name → c'.current.contains name
  get?_eq : ∀ name, name ∉ names → c'.current.get? name = c.current.get? name

theorem SameAround.depth_eq {c c' : Context} (h : SameAround c c') : c'.depth = c.depth := by
  rw [depth_eq_length, depth_eq_length, scopes_eq_cons, scopes_eq_cons, List.length_cons,
    List.length_cons, h.outer_eq]

instance : IsPreorder Context SameAround where
  refl _ := ⟨rfl, rfl⟩
  trans _ _ _ h k := ⟨k.outer_eq.trans h.outer_eq, k.maxDepth_eq.trans h.maxDepth_eq⟩

instance (names : List String) : IsPreorder Context (ChangesOnly names) where
  refl _ := ⟨⟨rfl, rfl⟩, fun _ h => h, fun _ _ => rfl⟩
  trans _ _ _ h k :=
    { toSameAround := trans_of SameAround h.toSameAround k.toSameAround
      contains := fun name hn => k.contains name (h.contains name hn)
      get?_eq := fun name hn => (k.get?_eq name hn).trans (h.get?_eq name hn) }

theorem ChangesOnly.mono {names more : List String} {c c' : Context} (h : ChangesOnly names c c')
    (hsub : names ⊆ more) : ChangesOnly more c c' :=
  { h with get?_eq := fun name hn => h.get?_eq name fun hm => hn (hsub hm) }

theorem ChangesOnly.lookup_eq {names : List String} {c c' : Context} (h : ChangesOnly names c c')
    {name : String} (hn : name ∉ names) : c'.lookup name = c.lookup name := by
  rw [Context.lookup_eq, Context.lookup_eq, h.get?_eq name hn, h.outer_eq]

theorem scopes_define (c : Context) (name : String) (value : Value) :
    (c.define name value).scopes = c.current.insert name value :: c.outer := by
  rw [scopes_eq_cons, define, current_modifyCurrent, outer_modifyCurrent]

theorem modifyCurrent_sameAround (c : Context) (f : Scope → Scope) :
    SameAround c (c.modifyCurrent f) :=
  ⟨outer_modifyCurrent c f, maxDepth_modifyCurrent c f⟩

theorem define_sameAround (c : Context) (name : String) (value : Value) :
    SameAround c (c.define name value) :=
  c.modifyCurrent_sameAround _

theorem remove_sameAround (c : Context) (name : String) : SameAround c (c.remove name) :=
  c.modifyCurrent_sameAround _

theorem define_changesOnly {names : List String} {name : String} (h : name ∈ names) (c : Context)
    (value : Value) : ChangesOnly names c (c.define name value) := by
  have hget : ∀ other, (c.define name value).current.get? other =
      if name = other then some value else c.current.get? other := fun other => by
    rw [define, current_modifyCurrent, Bindings.get?_insert]
  refine { toSameAround := define_sameAround c name value, contains := ?_, get?_eq := ?_ }
  · intro other ho
    rw [Bindings.contains, hget]
    split
    · rfl
    · exact ho
  · intro other ho
    have hne : name ≠ other := by
      rintro rfl
      exact ho h
    rw [hget, if_neg hne]

section enter

variable {c opened : Context}

theorem exists_enter (h : c.depth < c.maxDepth) : ∃ opened, c.enter = .ok opened :=
  ⟨_, dif_pos h⟩

theorem depth_of_enter (he : c.enter = .ok opened) : opened.depth = c.depth + 1 := by
  rw [depth_eq_length, depth_eq_length, (enter_eq_ok_iff.mp he).2.1, List.length_cons]

theorem maxDepth_of_enter (he : c.enter = .ok opened) : opened.maxDepth = c.maxDepth :=
  (enter_eq_ok_iff.mp he).2.2

theorem enter_alike {c c' : Context} (hdepth : c.depth = c'.depth)
    (hmax : c.maxDepth = c'.maxDepth) :
    (∃ opened opened', c.enter = .ok opened ∧ c'.enter = .ok opened') ∨
      ∃ e, c.enter = .error e ∧ c'.enter = .error e := by
  rcases Nat.lt_or_eq_of_le c.depth_le_maxDepth with hlt | hfull
  · obtain ⟨opened, he⟩ := exists_enter hlt
    obtain ⟨opened', he'⟩ := exists_enter (hdepth ▸ hmax ▸ hlt)
    exact .inl ⟨opened, opened', he, he'⟩
  · have hfull' : c'.depth = c'.maxDepth := by rwa [← hdepth, ← hmax]
    refine .inr ⟨_, enter_of_full hfull, ?_⟩
    rw [enter_of_full hfull', hmax]

theorem lookup_of_enter (he : c.enter = .ok opened) : opened.lookup = c.lookup := by
  funext name
  rw [lookup, (enter_eq_ok_iff.mp he).2.1]
  rfl

theorem current_of_enter (he : c.enter = .ok opened) :
    opened.current = .empty := by
  have hscopes := (enter_eq_ok_iff.mp he).2.1
  rw [scopes_eq_cons] at hscopes
  exact (List.cons.inj hscopes).1

end enter

/-- A context has the scopes of another one, and above them `count` more. -/
structure StandsOn (base : Context) (count : Nat) (c : Context) : Prop where
  drop_eq : c.scopes.drop count = base.scopes
  maxDepth_eq : c.maxDepth = base.maxDepth

namespace StandsOn

variable {base c c' : Context} {count : Nat}

theorem refl (c : Context) : StandsOn c 0 c :=
  ⟨rfl, rfl⟩

theorem eq (h : StandsOn base 0 c) : c = base :=
  Context.ext h.drop_eq h.maxDepth_eq

theorem depth_eq (h : StandsOn base count c) : c.depth = base.depth + count := by
  have hlength := congrArg List.length h.drop_eq
  rw [List.length_drop, ← depth_eq_length, ← depth_eq_length] at hlength
  have hpos := base.depth_pos
  omega

theorem sameAround (h : StandsOn base (count + 1) c) (hc : c.SameAround c') :
    StandsOn base (count + 1) c' := by
  refine ⟨?_, hc.maxDepth_eq.trans h.maxDepth_eq⟩
  have hdrop := h.drop_eq
  rw [scopes_eq_cons, List.drop_succ_cons] at hdrop ⊢
  rwa [hc.outer_eq]

theorem enter (h : StandsOn base count c) (he : c.enter = .ok c') :
    StandsOn base (count + 1) c' := by
  obtain ⟨-, hscopes, hmax⟩ := enter_eq_ok_iff.mp he
  refine ⟨?_, hmax.trans h.maxDepth_eq⟩
  rw [hscopes, List.drop_succ_cons]
  exact h.drop_eq

theorem exit (h : StandsOn base (count + 1) c) : StandsOn base count c.exit := by
  have hdepth : 1 < c.depth := by
    have hpos := base.depth_pos
    rw [h.depth_eq]
    omega
  refine ⟨?_, (maxDepth_exit c).trans h.maxDepth_eq⟩
  have hdrop := h.drop_eq
  rw [scopes_eq_cons, List.drop_succ_cons] at hdrop
  rwa [scopes_exit hdepth]

end StandsOn

theorem exit_of_sameAround {c opened after : Context} (he : c.enter = .ok opened)
    (h : SameAround opened after) : after.exit = c :=
  (((StandsOn.refl c).enter he).sameAround h).exit.eq

end Context

def Rendering.Along (R : Context → Context → Prop) (r : Rendering) : Prop :=
  ∀ sink c, R c (r sink c).context

namespace Outcome

variable {R : Context → Context → Prop} [IsPreorder Context R]

theorem done_along : Rendering.Along R done := fun _ c => refl_of R c

theorem fail_along (e : EvalError) : Rendering.Along R (fail e) := fun _ c => refl_of R c

theorem andThen_along {c : Context} {o : Outcome} {next : Rendering} (ho : R c o.context)
    (hnext : next.Along R) : R c (o.andThen next).context := by
  obtain ⟨sink, after, result⟩ := o
  cases result with
  | ok _ => exact trans_of R ho (hnext sink after)
  | error e => exact ho

theorem withValue_along {value : Except EvalError Value} {next : Value → Rendering}
    (hnext : ∀ v, (next v).Along R) : (withValue value next).Along R := by
  intro sink c
  cases value with
  | ok v => exact hnext v sink c
  | error e => exact refl_of R c

theorem defineFields_along {names : List String} (value : Value)
    (hdefine : ∀ name ∈ names, ∀ c v, R c (c.define name v)) :
    (defineFields names value).Along R := by
  intro sink c
  induction names generalizing c with
  | nil => exact refl_of R c
  | cons name rest ih =>
    simp only [defineFields, Context.defineFields]
    cases value.subscript name with
    | error e => exact refl_of R c
    | ok field =>
      have hfirst : R c (c.define name field) := hdefine name List.mem_cons_self c field
      have hrest : ∀ n ∈ rest, ∀ c v, R c (c.define n v) :=
        fun n hn => hdefine n (List.mem_cons_of_mem _ hn)
      exact trans_of R hfirst (ih hrest _)

end Outcome

namespace Loop

variable {R : Context → Context → Prop} [IsPreorder Context R] {vars : List String}
  {body : Rendering}

theorem bindItem_along (item : Value) (hdefine : ∀ name ∈ vars, ∀ c v, R c (c.define name v)) :
    (bindItem vars item).Along R := by
  unfold bindItem
  split
  · exact Outcome.defineFields_along item hdefine
  · cases vars with
    | nil => exact Outcome.done_along
    | cons name rest => exact fun _ c => hdefine name List.mem_cons_self c item

theorem step_along (fields : Bindings Value) (item : Value)
    (hdefine : ∀ name ∈ "loop" :: vars, ∀ c v, R c (c.define name v)) (hbody : body.Along R) :
    (step vars body fields item).Along R := by
  intro sink c
  have hloop : R c (c.define "loop" (.ofBindings fields)) :=
    hdefine "loop" List.mem_cons_self c _
  have hvars : ∀ name ∈ vars, ∀ c v, R c (c.define name v) :=
    fun name hn => hdefine name (List.mem_cons_of_mem _ hn)
  have hbind := bindItem_along item hvars sink (c.define "loop" (.ofBindings fields))
  exact Outcome.andThen_along (trans_of R hloop hbind) hbody

theorem iterate_along (items : ListView Value)
    (hdefine : ∀ name ∈ "loop" :: vars, ∀ c v, R c (c.define name v)) (hbody : body.Along R)
    (rest i : Nat) (fields : Bindings Value) (previous : Option Value) (item : Value) :
    (iterate items vars body rest i fields previous item).Along R := by
  induction rest generalizing i fields previous item with
  | zero => exact step_along _ item hdefine hbody
  | succ rest ih =>
    intro sink c
    have hstep := step_along (advance fields i previous (some (items.item (i + 1)))) item hdefine
      hbody sink c
    exact Outcome.andThen_along hstep (ih (i + 1) _ _ _)

theorem run_along (items : ListView Value)
    (hdefine : ∀ name ∈ "loop" :: vars, ∀ c v, R c (c.define name v)) (hbody : body.Along R) :
    (run items vars body).Along R := by
  unfold run
  split
  · exact Outcome.done_along
  · exact iterate_along items hdefine hbody _ _ _ _ _

end Loop

theorem Outcome.inScope_context {step : Rendering} (h : step.Along Context.SameAround)
    (sink : Sink) (c : Context) : (inScope step sink c).context = c := by
  unfold inScope
  split
  · rfl
  · rename_i opened he
    exact Context.exit_of_sameAround he (h sink opened)

theorem Outcome.inScope_of_enter {step : Rendering} (h : step.Along Context.SameAround)
    {c opened : Context} (hopened : c.enter = .ok opened) (sink : Sink) :
    inScope step sink c = ⟨(step sink opened).sink, c, (step sink opened).result⟩ := by
  have hexit : (step sink opened).context.exit = c :=
    Context.exit_of_sameAround hopened (h sink opened)
  simp only [inScope, hopened, hexit]

theorem Loop.bindItem_sameAround (vars : List String) (item : Value) :
    (bindItem vars item).Along Context.SameAround :=
  bindItem_along item fun name _ c v => c.define_sameAround name v

theorem Loop.run_sameAround {body : Rendering} (hbody : body.Along Context.SameAround)
    (items : ListView Value) (vars : List String) :
    (Loop.run items vars body).Along Context.SameAround :=
  Loop.run_along items (fun name _ c v => c.define_sameAround name v) hbody

theorem Loop.inScope_run_context {body : Rendering} (hbody : body.Along Context.SameAround)
    (items : ListView Value) (vars : List String) (sink : Sink) (c : Context) :
    (Outcome.inScope (Loop.run items vars body) sink c).context = c :=
  Outcome.inScope_context (Loop.run_sameAround hbody items vars) sink c

mutual

/-- The names that a statement can bind in the scope it is rendered in. -/
def Stmt.targets : Stmt → List String
  | .text _ => []
  | .output _ => []
  | .forLoop _ _ _ other => Stmt.targetsElse other
  | .ifChain _ body branches => Stmt.targetsAll body ++ Stmt.targetsBranches branches
  | .assign names value => if value.isSome then names else []
termination_by structural s => s

def Stmt.targetsAll : List Stmt → List String
  | [] => []
  | s :: ss => Stmt.targets s ++ Stmt.targetsAll ss
termination_by structural ss => ss

def Stmt.targetsElse : Option (List Stmt) → List String
  | none => []
  | some body => Stmt.targetsAll body
termination_by structural body => body

def Stmt.targetsBranches : List (BranchOf Stmt) → List String
  | [] => []
  | ⟨_, body⟩ :: rest => Stmt.targetsAll body ++ Stmt.targetsBranches rest
termination_by structural branches => branches

end

theorem Rendering.Along.changesMore {names more : List String} {r : Rendering}
    (h : r.Along (Context.ChangesOnly names)) (hsub : names ⊆ more) :
    r.Along (Context.ChangesOnly more) :=
  fun sink c => (h sink c).mono hsub

theorem Rendering.Along.sameAround {names : List String} {r : Rendering}
    (h : r.Along (Context.ChangesOnly names)) : r.Along Context.SameAround :=
  fun sink c => (h sink c).toSameAround

-- The cases follow the four functions that render a statement. A loop body is the one place where
-- the names of the inductive hypothesis are dropped: they were bound in the scope of the loop.
mutual

theorem Stmt.render_along : ∀ s : Stmt, s.render.Along (Context.ChangesOnly s.targets)
  | .text s => fun _ c => refl_of (Context.ChangesOnly _) c
  | .output e => by
    intro sink c
    exact Outcome.withValue_along (fun v _ c => refl_of (Context.ChangesOnly _) c) sink c
  | .forLoop vars iterable body other => by
    intro sink c
    refine Outcome.withValue_along (fun source sink c => ?_) sink c
    have hscope := Loop.inScope_run_context (Stmt.renderAll_along body).sameAround source.items
      vars sink c
    refine Outcome.andThen_along ?_ ?_
    · rw [hscope]
      exact refl_of (Context.ChangesOnly _) c
    · split
      · exact Stmt.renderElse_along other
      · exact Outcome.done_along
  | .ifChain cond body branches => by
    intro sink c
    refine Outcome.withValue_along (fun v => ?_) sink c
    split
    · exact (Stmt.renderAll_along body).changesMore (List.subset_append_left ..)
    · exact (Stmt.renderBranches_along branches).changesMore (List.subset_append_right ..)
  | .assign names value => by
    intro sink c
    cases value with
    | none => exact refl_of (Context.ChangesOnly _) c
    | some e =>
      refine Outcome.withValue_along (fun v sink c => ?_) sink c
      have hdefine : ∀ name ∈ names, ∀ (c : Context) v,
          c.ChangesOnly (Stmt.assign names (some e)).targets (c.define name v) :=
        fun name hn c v => Context.define_changesOnly hn c v
      split
      · exact hdefine _ (List.mem_singleton_self _) c v
      · exact Outcome.defineFields_along v hdefine sink c

theorem Stmt.renderAll_along :
    ∀ ss : List Stmt, (Stmt.renderAll ss).Along (Context.ChangesOnly (Stmt.targetsAll ss))
  | [] => Outcome.done_along
  | s :: ss => by
    intro sink c
    have hfirst := (Stmt.render_along s).changesMore (List.subset_append_left _ (targetsAll ss))
    have hrest := (Stmt.renderAll_along ss).changesMore (List.subset_append_right s.targets _)
    exact Outcome.andThen_along (hfirst sink c) hrest

theorem Stmt.renderElse_along : ∀ body : Option (List Stmt),
    (Stmt.renderElse body).Along (Context.ChangesOnly (Stmt.targetsElse body))
  | none => Outcome.done_along
  | some body => Stmt.renderAll_along body

theorem Stmt.renderBranches_along : ∀ branches : List (BranchOf Stmt),
    (Stmt.renderBranches branches).Along (Context.ChangesOnly (Stmt.targetsBranches branches))
  | [] => Outcome.done_along
  | ⟨cond, body⟩ :: rest => by
    intro sink c
    have hbody := (Stmt.renderAll_along body).changesMore
      (List.subset_append_left _ (targetsBranches rest))
    have hrest := (Stmt.renderBranches_along rest).changesMore
      (List.subset_append_right (targetsAll body) _)
    unfold Stmt.renderBranches
    split
    · exact hbody sink c
    · exact hrest sink c
    · exact Outcome.fail_along _ sink c

end

theorem Stmt.renderAll_sameAround (body : Template) :
    (Stmt.renderAll body).Along Context.SameAround :=
  (Stmt.renderAll_along body).sameAround

theorem Stmt.render_forLoop_context {iterable : Expr} {source : Value} {c : Context}
    (hsource : c.eval iterable = .ok source) (hitems : 0 < source.items.size)
    (vars : List String) (body : Template) (other : Option Template) (sink : Sink) :
    (Stmt.render (.forLoop vars iterable body other) sink c).context = c := by
  simp only [Stmt.render, hsource, Outcome.withValue]
  -- There are items, so nothing is rendered after the scope of the loop is closed.
  rw [if_neg (Nat.ne_of_gt hitems), Outcome.andThen_done_right]
  exact Loop.inScope_run_context (Stmt.renderAll_sameAround body) source.items vars sink c

theorem Stmt.render_forLoop_of_enter {iterable : Expr} {source : Value} {c opened : Context}
    (hsource : c.eval iterable = .ok source) (hitems : 0 < source.items.size)
    (hopened : c.enter = .ok opened) (vars : List String) (body : Template)
    (other : Option Template) (sink : Sink) :
    let o := Loop.run source.items vars (Stmt.renderAll body) sink opened
    Stmt.render (.forLoop vars iterable body other) sink c = ⟨o.sink, c, o.result⟩ := by
  intro o
  have hscope := Outcome.inScope_of_enter
    (Loop.run_sameAround (Stmt.renderAll_sameAround body) source.items vars) hopened sink
  simp only [Stmt.render, hsource, Outcome.withValue, hscope, if_neg (Nat.ne_of_gt hitems),
    Outcome.andThen_done_right, o]

theorem Stmt.render_forLoop_of_items {iterable : Expr} {source : Value} {c : Context}
    (hsource : c.eval iterable = .ok source) (hitems : 0 < source.items.size)
    (vars : List String) (body : Template) (other other' : Option Template) (sink : Sink) :
    Stmt.render (.forLoop vars iterable body other) sink c =
      Stmt.render (.forLoop vars iterable body other') sink c := by
  simp only [Stmt.render, hsource, Outcome.withValue, if_neg (Nat.ne_of_gt hitems)]

theorem Stmt.render_forLoop_of_empty {iterable : Expr} {source : Value} {c : Context}
    (hroom : c.depth < c.maxDepth) (hsource : c.eval iterable = .ok source)
    (hempty : source.items.size = 0) (vars : List String) (body : Template)
    (other : Option Template) (sink : Sink) :
    Stmt.render (.forLoop vars iterable body other) sink c = Stmt.renderElse other sink c := by
  obtain ⟨opened, hopened⟩ := Context.exists_enter hroom
  have hscope := Outcome.inScope_of_enter
    (Loop.run_sameAround (Stmt.renderAll_sameAround body) source.items vars) hopened sink
  simp only [Loop.run, hempty, Outcome.done] at hscope
  simp only [Stmt.render, hsource, Outcome.withValue, Loop.run, hempty, if_true]
  rw [hscope]
  rfl

/-- However a render ends, it has changed at most the bindings of its targets in the innermost
scope, and lost none there; a loop with items has changed nothing. -/
theorem Template.render_frame (body : Template) (sink : Sink) (c : Context) :
    let after := (Stmt.renderAll body sink c).context
    after.depth = c.depth ∧ after.maxDepth = c.maxDepth ∧ after.outer = c.outer ∧
      (∀ name, c.current.contains name → after.current.contains name) ∧
      (∀ name, name ∉ Stmt.targetsAll body → after.current.get? name = c.current.get? name) ∧
      ∀ vars iterable loopBody other source,
        c.eval iterable = .ok source → 0 < source.items.size →
          (Stmt.render (.forLoop vars iterable loopBody other) sink c).context = c := by
  intro after
  have h : c.ChangesOnly (Stmt.targetsAll body) after := Stmt.renderAll_along body sink c
  exact ⟨h.depth_eq, h.maxDepth_eq, h.outer_eq, h.contains, h.get?_eq,
    fun vars iterable loopBody other source hsource hitems =>
      Stmt.render_forLoop_context hsource hitems vars loopBody other sink⟩

theorem Template.render_frame_failing_loop :
    let c := Context.new .empty
    let loop : Stmt := .forLoop ["i"] (.const (.list [.int 1, .empty]))
      [.assign ["x"] (some (.var "i")), .output (.call "range" [.var "x"])] none
    (loop.render .empty c).result = .error (.typeMismatch "int" "empty") ∧
      (loop.render .empty c).context = c :=
  ⟨rfl, (Template.render_frame [] .empty _).2.2.2.2.2 _ _ _ _ (.list [.int 1, .empty]) rfl
    (by decide)⟩

end TextTemplate
