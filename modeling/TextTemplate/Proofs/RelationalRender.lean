import TextTemplate.Proofs.ScopeFrame
import TextTemplate.Proofs.AppendOnly
import TextTemplate.Proofs.ValueBisimulation
import Mathlib.Data.List.Sort

/-! Two renders side by side. The templates have the same shape and hold related constants, and the
contexts are related. As long as the first render is not stopped early by an error that only it can
have, both write the same text, end alike and leave related contexts; when it is stopped, the other
render has only text to add. What is asked of the values is asked once, of a single step into them,
and what is asked of the contexts, of each change to them. -/

namespace TextTemplate

section trees

variable (V : Value → Value → Prop) (N : String → Prop)

-- `V` relates the constants, and `N` holds of the names that may be read.
mutual

inductive Expr.Rel : Expr → Expr → Prop
  | const {v w : Value} : V v w → Expr.Rel (.const v) (.const w)
  | var {name : String} : N name → Expr.Rel (.var name) (.var name)
  | attr {e f : Expr} (name : String) : Expr.Rel e f → Expr.Rel (.attr e name) (.attr f name)
  | index {e f i j : Expr} : Expr.Rel e f → Expr.Rel i j → Expr.Rel (.index e i) (.index f j)
  | list {es fs : List Expr} : Expr.AllRel es fs → Expr.Rel (.list es) (.list fs)
  | not {e f : Expr} : Expr.Rel e f → Expr.Rel (.not e) (.not f)
  | call {es fs : List Expr} (name : String) :
      Expr.AllRel es fs → Expr.Rel (.call name es) (.call name fs)
  | method {e f : Expr} {es fs : List Expr} (name : String) :
      Expr.Rel e f → Expr.AllRel es fs → Expr.Rel (.method e name es) (.method f name fs)

inductive Expr.AllRel : List Expr → List Expr → Prop
  | nil : Expr.AllRel [] []
  | cons {e f : Expr} {es fs : List Expr} :
      Expr.Rel e f → Expr.AllRel es fs → Expr.AllRel (e :: es) (f :: fs)

end

mutual

inductive Stmt.Rel : Stmt → Stmt → Prop
  | text (s : String) : Stmt.Rel (.text s) (.text s)
  | output {e f : Expr} : Expr.Rel V N e f → Stmt.Rel (.output e) (.output f)
  | forLoop {e f : Expr} {body body' : List Stmt} {other other' : Option (List Stmt)}
      (vars : List String) : Expr.Rel V N e f → Stmt.AllRel body body' →
      Stmt.ElseRel other other' →
      Stmt.Rel (.forLoop vars e body other) (.forLoop vars f body' other')
  | ifChain {e f : Expr} {body body' : List Stmt} {bs bs' : List (BranchOf Stmt)} :
      Expr.Rel V N e f → Stmt.AllRel body body' → Stmt.BranchesRel bs bs' →
      Stmt.Rel (.ifChain e body bs) (.ifChain f body' bs')
  | assignNone (names : List String) : Stmt.Rel (.assign names none) (.assign names none)
  | assign {e f : Expr} (names : List String) :
      Expr.Rel V N e f → Stmt.Rel (.assign names (some e)) (.assign names (some f))

inductive Stmt.AllRel : List Stmt → List Stmt → Prop
  | nil : Stmt.AllRel [] []
  | cons {s t : Stmt} {ss ts : List Stmt} :
      Stmt.Rel s t → Stmt.AllRel ss ts → Stmt.AllRel (s :: ss) (t :: ts)

inductive Stmt.ElseRel : Option (List Stmt) → Option (List Stmt) → Prop
  | none : Stmt.ElseRel none none
  | some {body body' : List Stmt} : Stmt.AllRel body body' → Stmt.ElseRel (some body) (some body')

inductive Stmt.BranchesRel : List (BranchOf Stmt) → List (BranchOf Stmt) → Prop
  | nil : Stmt.BranchesRel [] []
  | bare {body body' : List Stmt} {bs bs' : List (BranchOf Stmt)} : Stmt.AllRel body body' →
      Stmt.BranchesRel bs bs' → Stmt.BranchesRel (⟨.none, body⟩ :: bs) (⟨.none, body'⟩ :: bs')
  | cond {e f : Expr} {body body' : List Stmt} {bs bs' : List (BranchOf Stmt)} :
      Expr.Rel V N e f → Stmt.AllRel body body' → Stmt.BranchesRel bs bs' →
      Stmt.BranchesRel (⟨.some e, body⟩ :: bs) (⟨.some f, body'⟩ :: bs')

end

end trees

/-- A relation of contexts that bindings of related values and new scopes keep, and that relates
what the readable names mean. -/
structure Context.Tracks (V : Value → Value → Prop) (N : String → Prop)
    (I : Context → Context → Prop) : Prop where
  lookup : ∀ {c c'}, I c c' → ∀ name, N name → Option.Rel V (c.lookup name) (c'.lookup name)
  define : ∀ {c c' v w}, I c c' → V v w → ∀ name, I (c.define name v) (c'.define name w)
  enter : ∀ {c c'}, I c c' →
    (∃ opened opened', c.enter = .ok opened ∧ c'.enter = .ok opened' ∧ I opened opened') ∨
      ∃ e, c.enter = .error e ∧ c'.enter = .error e

/-- The same, but that the first context may be stopped by an error of `S` where the other still has
room for a scope. -/
structure Context.TracksEarly (V : Value → Value → Prop) (N : String → Prop) (S : EvalError → Prop)
    (E : EvalError → EvalError → Prop) (I : Context → Context → Prop) : Prop where
  lookup : ∀ {c c'}, I c c' → ∀ name, N name → Option.Rel V (c.lookup name) (c'.lookup name)
  define : ∀ {c c' v w}, I c c' → V v w → ∀ name, I (c.define name v) (c'.define name w)
  enter : ∀ {c c'}, I c c' → EarlyResultRel S E I c.enter c'.enter

theorem Context.Tracks.early {V : Value → Value → Prop} {N : String → Prop}
    {I : Context → Context → Prop} (h : Context.Tracks V N I) (S : EvalError → Prop)
    {E : EvalError → EvalError → Prop} (hE : ∀ e, E e e) : Context.TracksEarly V N S E I := by
  refine ⟨h.lookup, h.define, fun hc => ?_⟩
  rcases h.enter hc with ⟨opened, opened', he, he', ho⟩ | ⟨e, he, he'⟩
  · rw [he, he']
    exact .ok ho
  · rw [he, he']
    exact .error (hE e)

structure Outcome.Rel (I : Context → Context → Prop) (E : EvalError → EvalError → Prop)
    (o o' : Outcome) : Prop where
  sink_eq : o.sink = o'.sink
  context : I o.context o'.context
  result : ResultRel E Eq o.result o'.result

def Rendering.Rel (I : Context → Context → Prop) (E : EvalError → EvalError → Prop)
    (r r' : Rendering) : Prop :=
  ∀ sink c c', I c c' → Outcome.Rel I E (r sink c) (r' sink c')

/-- Related outcomes, or a first one that an error of `S` stopped. The text of the second then
starts with the text of the first. -/
inductive Outcome.EarlyRel (S : EvalError → Prop) (I : Context → Context → Prop)
    (E : EvalError → EvalError → Prop) (o o' : Outcome) : Prop
  | both (h : Outcome.Rel I E o o') : EarlyRel S I E o o'
  | stop {e : EvalError} (he : S e) (hresult : o.result = .error e) (more : String)
      (hsink : o'.sink = o.sink.write more) : EarlyRel S I E o o'

def Rendering.EarlyRel (S : EvalError → Prop) (I : Context → Context → Prop)
    (E : EvalError → EvalError → Prop) (r r' : Rendering) : Prop :=
  ∀ sink c c', I c c' → Outcome.EarlyRel S I E (r sink c) (r' sink c')

section expressions

variable {V : Value → Value → Prop} {N : String → Prop} {S : EvalError → Prop}
  {E : EvalError → EvalError → Prop} {env env' : Env}

mutual

theorem Expr.Rel.eval (hV : Value.Bisimulation V S E)
    (henv : ∀ name, N name → Option.Rel V (env name) (env' name)) (hE : ∀ e, E e e) :
    ∀ {e f : Expr}, Expr.Rel V N e f → EarlyResultRel S E V (e.eval env) (f.eval env')
  | _, _, .const h => .ok h
  | _, _, .var hn => .ok (optionRel_getD (hV.refl _) (henv _ hn))
  | _, _, .attr name h => by
    have hobject := h.eval hV henv hE
    exact hobject.bind fun v w hvw => hV.subscript hvw name
  | _, _, .index h k => by
    have hobject := h.eval hV henv hE
    have hindex := k.eval hV henv hE
    exact hobject.bind fun v w hvw => hindex.bind fun i j hij => hV.index hvw hij
  | _, _, .list h => by
    have hitems := h.evalAll hV henv hE
    exact hitems.bind fun vs ws hvs => .ok (hV.list hvs)
  | _, _, .not h => by
    have hoperand := h.eval hV henv hE
    refine hoperand.bind fun v w hvw => .ok ?_
    rw [(hV.alike hvw).isTruthy_eq]
    exact hV.refl _
  | _, _, .call name h => by
    have hargs := h.evalAll hV henv hE
    exact hargs.bind fun vs ws hvs => hV.callFunction hvs hE name
  | _, _, .method name h hs => by
    have hreceiver := h.eval hV henv hE
    have hargs := hs.evalAll hV henv hE
    exact hreceiver.bind fun v w hvw => hargs.bind fun vs ws hvs => hV.callMethod hvs hvw name

theorem Expr.AllRel.evalAll (hV : Value.Bisimulation V S E)
    (henv : ∀ name, N name → Option.Rel V (env name) (env' name)) (hE : ∀ e, E e e) :
    ∀ {es fs : List Expr}, Expr.AllRel V N es fs →
      EarlyResultRel S E (List.Forall₂ V) (Expr.evalAll env es) (Expr.evalAll env' fs)
  | _, _, .nil => .ok .nil
  | _, _, .cons h hs => by
    have hfirst := h.eval hV henv hE
    have hrest := hs.evalAll hV henv hE
    exact hfirst.bind fun v w hvw => hrest.bind fun vs ws hvs => .ok (.cons hvw hvs)

end

end expressions

section steps

variable {V : Value → Value → Prop} {N : String → Prop} {S : EvalError → Prop}
  {E : EvalError → EvalError → Prop} {I : Context → Context → Prop}

theorem Outcome.done_early : Rendering.EarlyRel S I E done done :=
  fun _ _ _ hc => .both ⟨rfl, hc, .ok rfl⟩

theorem Outcome.fail_early {e e' : EvalError} (he : E e e') :
    Rendering.EarlyRel S I E (fail e) (fail e') :=
  fun _ _ _ hc => .both ⟨rfl, hc, .error he⟩

theorem Outcome.Rel.andThen {o o' : Outcome} {next next' : Rendering} (h : Outcome.Rel I E o o')
    (hnext : Rendering.Rel I E next next') :
    Outcome.Rel I E (o.andThen next) (o'.andThen next') := by
  obtain ⟨sink, c, result⟩ := o
  obtain ⟨sink', c', result'⟩ := o'
  obtain ⟨hsink, hc, hresult⟩ := h
  cases hsink
  cases hresult with
  | ok _ => exact hnext sink c c' hc
  | error he => exact ⟨rfl, hc, .error he⟩

theorem Rendering.EarlyRel.rel {r r' : Rendering}
    (h : Rendering.EarlyRel (fun _ => False) I E r r') : Rendering.Rel I E r r' := by
  intro sink c c' hc
  cases h sink c c' hc with
  | both h => exact h
  | stop he _ _ _ => exact he.elim

theorem Outcome.EarlyRel.andThen {o o' : Outcome} {next next' : Rendering}
    (h : Outcome.EarlyRel S I E o o') (hnext : Rendering.EarlyRel S I E next next')
    (happend : next'.AppendOnly) :
    Outcome.EarlyRel S I E (o.andThen next) (o'.andThen next') := by
  obtain ⟨sink, c, result⟩ := o
  cases h with
  | both h =>
    obtain ⟨sink', c', result'⟩ := o'
    obtain ⟨hsink, hc, hresult⟩ := h
    cases hsink
    cases hresult with
    | ok _ => exact hnext sink c c' hc
    | error he => exact .both ⟨rfl, hc, .error he⟩
  | stop he hresult text hsink =>
    cases hresult
    obtain ⟨more, hmore⟩ := o'.exists_sink_andThen happend
    exact .stop he rfl _ (by rw [hmore, hsink, Sink.write_write]; rfl)

theorem Outcome.withValue_early {value value' : Except EvalError Value}
    {next next' : Value → Rendering} (h : EarlyResultRel S E V value value')
    (hnext : ∀ v w, V v w → Rendering.EarlyRel S I E (next v) (next' w)) {c c' : Context}
    (hc : I c c') (happend : Outcome.AppendOnly fun sink => withValue value' next' sink c')
    (sink : Sink) :
    Outcome.EarlyRel S I E (withValue value next sink c) (withValue value' next' sink c') := by
  cases h with
  | both h =>
    cases h with
    | ok hvw => exact hnext _ _ hvw sink c c' hc
    | error he => exact fail_early he sink c c' hc
  | stop _ he =>
    obtain ⟨more, hmore⟩ := happend.exists_sink_eq sink
    exact .stop he rfl more hmore

variable (hV : Value.Bisimulation V S E) (hI : Context.TracksEarly V N S E I)
include hV hI

theorem Outcome.defineFields_early {v w : Value} (h : V v w) (names : List String) :
    Rendering.EarlyRel S I E (defineFields names v) (defineFields names w) := by
  induction names with
  | nil => exact Outcome.done_early
  | cons name names ih =>
    intro sink c c' hc
    -- Fields are taken apart without any text, so a stop leaves the sinks equal.
    have hunwritten := (Outcome.defineFields_appendOnly (name :: names) w c').exists_sink_eq sink
    obtain ⟨more, hmore⟩ := hunwritten
    have hfield := hV.subscript h name
    simp only [defineFields, Context.defineFields] at hmore ⊢
    generalize v.subscript name = x, w.subscript name = y at hfield hmore ⊢
    cases hfield with
    | stop _ he => exact .stop he rfl more hmore
    | both hxy =>
      cases hxy with
      | error he => exact Outcome.fail_early he sink c c' hc
      | ok hxy => exact ih sink _ _ (hI.define hc hxy name)

theorem Loop.bindItem_early {item item' : Value} (h : V item item') (vars : List String) :
    Rendering.EarlyRel S I E (bindItem vars item) (bindItem vars item') := by
  unfold bindItem
  rw [(hV.alike h).isMap_eq]
  split
  · exact Outcome.defineFields_early hV hI h vars
  · cases vars with
    | nil => exact Outcome.done_early
    | cons name rest => exact fun sink c c' hc => .both ⟨rfl, hI.define hc h name, .ok rfl⟩

section loop

variable {items items' : ListView Value} {body body' : Rendering}
  (hsize : items.size = items'.size)
  (hitem : ∀ i < items.size, V (items.item i) (items'.item i))
  (hbody : Rendering.EarlyRel S I E body body') (happend : body'.AppendOnly)
include hsize hitem hbody happend

omit hI hbody happend in
theorem Loop.fieldsAt_rel (i : Nat) (hi : i < items.size) :
    Scope.Rel V (fieldsAt items i) (fieldsAt items' i) := by
  have hprevious : Option.Rel V (previousItem items i) (previousItem items' i) := by
    unfold previousItem
    split
    · exact .some (hitem _ (by omega))
    · exact .none
  have hnext : Option.Rel V (nextItem items i) (nextItem items' i) := by
    unfold nextItem
    rw [← hsize]
    split
    · rename_i hlt
      exact .some (hitem _ hlt)
    · exact .none
  -- Only the neighbours come from the items; the other fields are the same on both sides.
  intro name
  rw [get?_fieldsAt, get?_fieldsAt, ← hsize]
  split_ifs
  · exact .some (hV.refl _)
  · exact .some (hV.refl _)
  · exact .some (hV.refl _)
  · exact .some (hV.refl _)
  · exact .some (hV.refl _)
  · exact hprevious
  · exact hnext
  · exact .none

theorem Loop.plainFrom_early (vars : List String) (count i : Nat) (hi : i + count ≤ items.size) :
    Rendering.EarlyRel S I E (plainFrom items vars body count i)
      (plainFrom items' vars body' count i) := by
  induction count generalizing i with
  | zero => exact Outcome.done_early
  | succ count ih =>
    intro sink c c' hc
    have hlt : i < items.size := by omega
    have hloop := hI.define hc
      (hV.ofBindings (Loop.fieldsAt_rel hV hsize hitem i hlt)) "loop"
    have hbind := Loop.bindItem_early hV hI (hitem i hlt) vars sink _ _ hloop
    have hstep := hbind.andThen hbody happend
    exact hstep.andThen (ih (i + 1) (by omega))
      (Loop.plainFrom_appendOnly items' happend count (i + 1))

theorem Loop.run_early (vars : List String) :
    Rendering.EarlyRel S I E (run items vars body) (run items' vars body') := by
  rw [run_eq_plain, run_eq_plain, plain, plain, ← hsize]
  exact Loop.plainFrom_early hV hI hsize hitem hbody happend vars items.size 0 (by omega)

end loop

omit hV in
theorem Outcome.inScope_early {step step' : Rendering} (h : Rendering.EarlyRel S I E step step')
    (hstep : step.Along Context.SameAround) (hstep' : step'.Along Context.SameAround)
    (happend : step'.AppendOnly) : Rendering.EarlyRel S I E (inScope step) (inScope step') := by
  intro sink c c' hc
  -- What `h` says of the contexts is about the scope that is closed here.
  have hcontext := Outcome.inScope_context hstep sink c
  have hcontext' := Outcome.inScope_context hstep' sink c'
  obtain ⟨more, hmore⟩ := (Outcome.inScope_appendOnly happend c').exists_sink_eq sink
  have henter := hI.enter hc
  simp only [inScope] at hcontext hcontext' hmore ⊢
  generalize c.enter = x, c'.enter = y at henter hcontext hcontext' hmore ⊢
  cases henter with
  | stop _ he => exact .stop he rfl more hmore
  | both henter =>
    cases henter with
    | error he => exact Outcome.fail_early he sink c c' hc
    | ok ho =>
      simp only at hcontext hcontext' ⊢
      cases h sink _ _ ho with
      | both hrun => exact .both ⟨hrun.sink_eq, by rwa [hcontext, hcontext'], hrun.result⟩
      | stop he hresult more hsink => exact .stop he hresult more hsink

end steps

section statements

variable {V : Value → Value → Prop} {N : String → Prop} {S : EvalError → Prop}
  {E : EvalError → EvalError → Prop} {I : Context → Context → Prop}

theorem Context.TracksEarly.eval (hV : Value.Bisimulation V S E)
    (hI : Context.TracksEarly V N S E I) (hE : ∀ e, E e e) {c c' : Context} (hc : I c c')
    {e f : Expr} (h : Expr.Rel V N e f) : EarlyResultRel S E V (c.eval e) (c'.eval f) :=
  h.eval hV (hI.lookup hc) hE

-- By recursion on the derivation that the two statements are related.
mutual

theorem Stmt.Rel.render_early (hV : Value.Bisimulation V S E)
    (hI : Context.TracksEarly V N S E I) (hE : ∀ e, E e e) : ∀ {s t : Stmt}, Stmt.Rel V N s t →
      Rendering.EarlyRel S I E s.render t.render
  | _, _, .text s => fun sink c c' hc => .both ⟨rfl, hc, .ok rfl⟩
  | _, .output f, .output h => by
    intro sink c c' hc
    have hvalue := hI.eval hV hE hc h
    have happend := Stmt.render_appendOnly (.output f) c'
    simp only [Stmt.render] at happend ⊢
    refine Outcome.withValue_early hvalue (fun v w hvw sink c c' hc => ?_) hc happend sink
    refine .both ⟨?_, hc, .ok rfl⟩
    simp only [Outcome.done, Sink.writeValue_eq, hV.display_eq hvw]
  | _, .forLoop _ f body' other', .forLoop vars h hbody hother => by
    intro sink c c' hc
    have hsource := hI.eval hV hE hc h
    have hiteration := hbody.renderAll_early hV hI hE
    have happend := Stmt.render_appendOnly (.forLoop vars f body' other') c'
    simp only [Stmt.render] at happend ⊢
    refine Outcome.withValue_early hsource (fun v w hvw sink c c' hc => ?_) hc happend sink
    have halike := hV.alike hvw
    have hrun := Loop.run_early hV hI halike.size_eq halike.item hiteration
      (Stmt.renderAll_appendOnly body') vars
    have hscope := Outcome.inScope_early hI hrun
      (Loop.run_sameAround (Stmt.renderAll_sameAround _) v.items vars)
      (Loop.run_sameAround (Stmt.renderAll_sameAround _) w.items vars)
      (Loop.run_appendOnly w.items vars (Stmt.renderAll_appendOnly body')) sink c c' hc
    rw [halike.size_eq]
    split
    · exact hscope.andThen (hother.renderElse_early hV hI hE) (Stmt.renderElse_appendOnly other')
    · exact hscope.andThen Outcome.done_early Outcome.done_appendOnly
  | _, .ifChain f body' bs', .ifChain h hbody hbranches => by
    intro sink c c' hc
    have hcond := hI.eval hV hE hc h
    have happend := Stmt.render_appendOnly (.ifChain f body' bs') c'
    refine Outcome.withValue_early hcond (fun v w hvw => ?_) hc happend sink
    rw [(hV.alike hvw).isTruthy_eq]
    split
    · exact hbody.renderAll_early hV hI hE
    · exact hbranches.renderBranches_early hV hI hE
  | _, _, .assignNone names => Outcome.done_early
  | _, .assign _ (some f), .assign names h => by
    intro sink c c' hc
    have hvalue := hI.eval hV hE hc h
    have happend := Stmt.render_appendOnly (.assign names (some f)) c'
    simp only [Stmt.render] at happend ⊢
    refine Outcome.withValue_early hvalue (fun v w hvw sink c c' hc => ?_) hc happend sink
    match names with
    | [] => exact Outcome.defineFields_early hV hI hvw [] sink c c' hc
    | [name] => exact .both ⟨rfl, hI.define hc hvw name, .ok rfl⟩
    | first :: second :: rest =>
      exact Outcome.defineFields_early hV hI hvw (first :: second :: rest) sink c c' hc

theorem Stmt.AllRel.renderAll_early (hV : Value.Bisimulation V S E)
    (hI : Context.TracksEarly V N S E I) (hE : ∀ e, E e e) : ∀ {ss ts : List Stmt},
      Stmt.AllRel V N ss ts → Rendering.EarlyRel S I E (Stmt.renderAll ss) (Stmt.renderAll ts)
  | _, _, .nil => Outcome.done_early
  | _, _, .cons h hs => by
    intro sink c c' hc
    have hfirst := h.render_early hV hI hE sink c c' hc
    exact hfirst.andThen (hs.renderAll_early hV hI hE) (Stmt.renderAll_appendOnly _)

theorem Stmt.ElseRel.renderElse_early (hV : Value.Bisimulation V S E)
    (hI : Context.TracksEarly V N S E I) (hE : ∀ e, E e e) : ∀ {body body' : Option (List Stmt)},
      Stmt.ElseRel V N body body' →
        Rendering.EarlyRel S I E (Stmt.renderElse body) (Stmt.renderElse body')
  | _, _, .none => Outcome.done_early
  | _, _, .some h => h.renderAll_early hV hI hE

theorem Stmt.BranchesRel.renderBranches_early (hV : Value.Bisimulation V S E)
    (hI : Context.TracksEarly V N S E I) (hE : ∀ e, E e e) :
    ∀ {bs bs' : List (BranchOf Stmt)}, Stmt.BranchesRel V N bs bs' →
      Rendering.EarlyRel S I E (Stmt.renderBranches bs) (Stmt.renderBranches bs')
  | _, _, .nil => Outcome.done_early
  | _, _, .bare hbody _ => hbody.renderAll_early hV hI hE
  | _, ⟨some f, body'⟩ :: bs', .cond h hbody hbs => by
    intro sink c c' hc
    have hcond := hI.eval hV hE hc h
    have happend := Stmt.renderBranches_appendOnly (⟨some f, body'⟩ :: bs') c'
    simp only [Stmt.renderBranches_cond] at happend ⊢
    refine Outcome.withValue_early hcond (fun v w hvw => ?_) hc happend sink
    rw [(hV.alike hvw).isTruthy_eq]
    split
    · exact hbody.renderAll_early hV hI hE
    · exact hbs.renderBranches_early hV hI hE

end

theorem Stmt.AllRel.renderAll (hV : Value.Bisimulation V (fun _ => False) E)
    (hI : Context.Tracks V N I) (hE : ∀ e, E e e) {ss ts : List Stmt}
    (h : Stmt.AllRel V N ss ts) : Rendering.Rel I E (Stmt.renderAll ss) (Stmt.renderAll ts) :=
  (h.renderAll_early hV (hI.early _ hE) hE).rel

theorem Stmt.AllRel.effect_stops (hV : Value.Bisimulation V S E)
    (hI : Context.TracksEarly V N S E I) (hE : ∀ e, E e e) {body body' : Template}
    (h : Stmt.AllRel V N body body') {c c' : Context} (hc : I c c') :
    let e := body.effect c
    let e' := body'.effect c'
    (e.text = e'.text ∧ ResultRel E Eq e.result e'.result ∧ I e.context e'.context) ∨
      ∃ error more, S error ∧ e.result = .error error ∧ e'.text = e.text ++ more := by
  intro e e'
  have hrun := h.renderAll_early hV hI hE .empty c c' hc
  rw [body.renderAll_eq_on, body'.renderAll_eq_on] at hrun
  cases hrun with
  | both h =>
    have htext : e.text = e'.text := by
      simpa [Effect.on_empty] using h.sink_eq
    exact .inl ⟨htext, h.result, h.context⟩
  | stop he hresult more hsink =>
    have htext : e'.text = e.text ++ more := by
      simpa [Effect.on_empty] using hsink
    exact .inr ⟨_, more, he, hresult, htext⟩

theorem Stmt.AllRel.effect_early (hV : Value.Bisimulation V S E) (hI : Context.Tracks V N I)
    (hE : ∀ e, E e e) {body body' : Template} (h : Stmt.AllRel V N body body') {c c' : Context}
    (hc : I c c') :
    let e := body.effect c
    let e' := body'.effect c'
    (e.text = e'.text ∧ ResultRel E Eq e.result e'.result ∧ I e.context e'.context) ∨
      ∃ error more, S error ∧ e.result = .error error ∧ e'.text = e.text ++ more :=
  h.effect_stops hV (hI.early S hE) hE hc

end statements

structure Context.Rel (V : Value → Value → Prop) (c c' : Context) : Prop where
  maxDepth_eq : c.maxDepth = c'.maxDepth
  scopes : List.Forall₂ (Scope.Rel V) c.scopes c'.scopes

section contexts

variable {V : Value → Value → Prop}

theorem Scope.Rel.refl (hV : ∀ v, V v v) (s : Scope) : Scope.Rel V s s := by
  intro name
  cases s.get? name with
  | none => exact .none
  | some v => exact .some (hV v)

theorem Scope.Rel.insert {s s' : Scope} (h : Scope.Rel V s s') {v w : Value} (hvw : V v w)
    (name : String) : Scope.Rel V (s.insert name v) (s'.insert name w) := by
  intro other
  rw [Bindings.get?_insert, Bindings.get?_insert]
  split
  · exact .some hvw
  · exact h other

theorem Scope.Rel.names_eq {s s' : Scope} (h : Scope.Rel V s s') : s.names = s'.names := by
  have hmem : ∀ name, name ∈ s.names ↔ name ∈ s'.names := by
    intro name
    rw [← Bindings.contains_iff_mem_names, ← Bindings.contains_iff_mem_names, Bindings.contains,
      Bindings.contains]
    have hname := h name
    generalize s.get? name = x, s'.get? name = y at hname ⊢
    cases hname with
    | none => exact Iff.rfl
    | some _ => exact Iff.rfl
  exact s.names_ascending.eq_of_mem_iff s'.names_ascending hmem

namespace Context.Rel

theorem refl (hV : ∀ v, V v v) (c : Context) : Context.Rel V c c :=
  ⟨rfl, List.forall₂_same.mpr fun s _ => Scope.Rel.refl hV s⟩

variable {c c' : Context}

theorem depth_eq (h : Context.Rel V c c') : c.depth = c'.depth := by
  rw [depth_eq_length, depth_eq_length, h.scopes.length_eq]

theorem lookup (h : Context.Rel V c c') (name : String) :
    Option.Rel V (c.lookup name) (c'.lookup name) := by
  have hscopes := h.scopes
  unfold Context.lookup
  generalize c.scopes = ss, c'.scopes = ss' at hscopes ⊢
  induction hscopes with
  | nil => exact .none
  | @cons s s' _ _ hs _ ih =>
    have hname := hs name
    rw [List.findSome?_cons, List.findSome?_cons]
    generalize s.get? name = x, s'.get? name = y at hname ⊢
    cases hname with
    | none => exact ih
    | some hvw => exact .some hvw

theorem define (h : Context.Rel V c c') {v w : Value} (hvw : V v w) (name : String) :
    Context.Rel V (c.define name v) (c'.define name w) := by
  have hscopes := h.scopes
  rw [scopes_eq_cons, scopes_eq_cons] at hscopes
  obtain ⟨hcurrent, houter⟩ := List.forall₂_cons.mp hscopes
  refine ⟨?_, ?_⟩
  · rw [Context.define, Context.define, maxDepth_modifyCurrent, maxDepth_modifyCurrent,
      h.maxDepth_eq]
  · rw [scopes_define, scopes_define]
    exact .cons (hcurrent.insert hvw name) houter

theorem enter (h : Context.Rel V c c') :
    (∃ opened opened', c.enter = .ok opened ∧ c'.enter = .ok opened' ∧
        Context.Rel V opened opened') ∨
      ∃ e, c.enter = .error e ∧ c'.enter = .error e := by
  refine (enter_alike h.depth_eq h.maxDepth_eq).imp_left fun ⟨opened, opened', he, he'⟩ => ?_
  refine ⟨opened, opened', he, he', ?_, ?_⟩
  · rw [maxDepth_of_enter he, maxDepth_of_enter he', h.maxDepth_eq]
  · rw [(enter_eq_ok_iff.mp he).2.1, (enter_eq_ok_iff.mp he').2.1]
    exact .cons (fun _ => .none) h.scopes

theorem tracks (V : Value → Value → Prop) (N : String → Prop) :
    Context.Tracks V N (Context.Rel V) :=
  ⟨fun h name _ => h.lookup name, fun h hvw name => h.define hvw name, fun h => h.enter⟩

end Context.Rel

end contexts

end TextTemplate
