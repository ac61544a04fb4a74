import TextTemplate.Session
import TextTemplate.Proofs.ScopeFrame
import Mathlib.Logic.Function.Iterate
import Mathlib.Logic.Relation

/-! What becomes of the scopes of a context in a session. Each change is one of three moves: in the
innermost scope, to a new scope above it, or back to the scope below it. Steps in a scope of their
own that close as many scopes as they open leave the context as it was, however they end. -/

namespace TextTemplate

theorem Template.renderText_sameAround (body : Template) (c : Context) :
    c.SameAround (body.renderText c).1 :=
  Stmt.renderAll_sameAround body .empty c

namespace Step

/-- How many scopes of their own the steps of one list have open after one more of them. There is no
answer when it closes another scope. -/
def openAfter : Step → Reply → (own : Nat) → Option Nat
  | .enter _, .entered _, own => some (own + 1)
  | .exit, _, 0 => none
  | .exit, _, own + 1 => some own
  | _, _, own => some own

mutual

def isBalanced : Step → Context → Bool
  | .withScope steps, c =>
    match c.enter with
    | .ok opened => allBalanced steps 0 opened
    | .error _ => true
  | _, _ => true
termination_by structural s => s

/-- Up to the first that fails, the steps close no scope that they have not opened, and they leave
none of theirs. -/
def allBalanced : List Step → (own : Nat) → Context → Bool
  | [], own, _ => own == 0
  | s :: rest, own, c =>
    let report := s.run c
    isBalanced s c &&
      match openAfter s report.1 own, report.1.error? with
      | none, _ => false
      | some own', some _ => own' == 0
      | some own', none => allBalanced rest own' report.2
termination_by structural ss => ss

end

section equations

variable {c opened : Context} {e : EvalError}

theorem run_enter_ok (h : c.enter = .ok opened) (bindings : List (String × Value)) :
    (Step.enter bindings).run c = (.entered (Bindings.ofList bindings).size,
      opened.modifyCurrent fun s => s.insertAll bindings) := by
  have hempty : opened.current = .empty := Context.current_of_enter h
  simp only [run, h, Context.current_modifyCurrent, hempty]
  rfl

theorem run_enter_error (h : c.enter = .error e) (bindings : List (String × Value)) :
    (Step.enter bindings).run c = (.failed e, c) := by
  simp only [run, h]

theorem run_withScope_ok (h : c.enter = .ok opened) (steps : List Step) :
    (Step.withScope steps).run c =
      (.nested (runUntilFailure steps opened).2.1 (runUntilFailure steps opened).2.2,
        (runUntilFailure steps opened).1.exit) := by
  simp only [run, Context.withScope, h]

theorem run_withScope_error (h : c.enter = .error e) (steps : List Step) :
    (Step.withScope steps).run c = (.nested [] (.error e), c) := by
  simp only [run, Context.withScope, h]

end equations

-- A step moves the context as far above the base as it changes the number of open scopes. The one
-- that runs other steps stays where it is, because those have closed their scopes when they stop.
mutual

theorem run_standsOn : ∀ (s : Step) {base c : Context} {own own' : Nat},
    base.StandsOn (own + 1) c → s.isBalanced c = true →
      openAfter s (s.run c).1 own = some own' → base.StandsOn (own' + 1) (s.run c).2
  | .define name v, _, c, _, _, h, _, rfl => h.sameAround (c.define_sameAround name v)
  | .lookup _, _, _, _, _, h, _, rfl => h
  | .contains _, _, _, _, _, h, _, rfl => h
  | .remove name, _, c, _, _, h, _, rfl => h.sameAround (c.remove_sameAround name)
  | .eval _, _, _, _, _, h, _, rfl => h
  | .render body, _, c, _, _, h, _, rfl => h.sameAround (body.renderText_sameAround c)
  | .fail _, _, _, _, _, h, _, rfl => h
  | .enter bindings, _, c, _, _, h, _, hopen => by
    cases he : c.enter with
    | error e =>
      rw [run_enter_error he] at hopen ⊢
      cases hopen
      exact h
    | ok opened =>
      rw [run_enter_ok he] at hopen ⊢
      cases hopen
      exact (h.enter he).sameAround (opened.modifyCurrent_sameAround _)
  | .exit, _, _, own, _, h, _, hopen => by
    cases own with
    | zero => cases hopen
    | succ own =>
      cases hopen
      exact h.exit
  | .withScope steps, _, c, _, _, h, hbalanced, rfl => by
    cases he : c.enter with
    | error e =>
      rw [run_withScope_error he]
      exact h
    | ok opened =>
      rw [run_withScope_ok he]
      simp only [isBalanced, he] at hbalanced
      have hopened : c.StandsOn 1 opened := (Context.StandsOn.refl c).enter he
      have hafter := runUntilFailure_standsOn steps hopened hbalanced
      rwa [hafter.exit.eq]

theorem runUntilFailure_standsOn : ∀ (steps : List Step) {base c : Context} {own : Nat},
    base.StandsOn (own + 1) c → allBalanced steps own c = true →
      base.StandsOn 1 (runUntilFailure steps c).1
  | [], _, _, own, h, hbalanced => by
    obtain rfl : own = 0 := beq_iff_eq.mp hbalanced
    exact h
  | s :: rest, _, c, own, h, hbalanced => by
    rw [allBalanced, Bool.and_eq_true] at hbalanced
    obtain ⟨hs, hrest⟩ := hbalanced
    cases hopen : openAfter s (s.run c).1 own with
    | none => simp [hopen] at hrest
    | some own' =>
      have hstep := run_standsOn s h hs hopen
      cases herror : (s.run c).1.error? with
      | some e =>
        simp only [hopen, herror, beq_iff_eq] at hrest
        simp only [runUntilFailure, herror]
        rwa [hrest] at hstep
      | none =>
        simp only [hopen, herror] at hrest
        simp only [runUntilFailure, herror]
        exact runUntilFailure_standsOn rest hstep hrest

end

/-- Balanced steps in a scope of their own leave the context as it was, whether or not one fails. -/
theorem run_withScope_restores (c : Context) (steps : List Step) :
    (∀ opened, c.enter = .ok opened → allBalanced steps 0 opened = true →
      (Step.withScope steps).run c =
        (.nested (runUntilFailure steps opened).2.1 (runUntilFailure steps opened).2.2, c)) ∧
    (c.depth = c.maxDepth →
      (Step.withScope steps).run c =
          (.nested [] (.error (.scopeDepthExceeded c.maxDepth)), c) ∧
        ∀ {σ : Type} (refused : EvalError → σ) (closure : Context → Context × σ),
          c.withScope refused closure = (c, refused (.scopeDepthExceeded c.maxDepth))) := by
  refine ⟨fun opened he hbalanced => ?_, fun hfull => ?_⟩
  · have hopened : c.StandsOn 1 opened := (Context.StandsOn.refl c).enter he
    have hafter := runUntilFailure_standsOn steps hopened hbalanced
    rw [run_withScope_ok he, hafter.exit.eq]
  · have he := Context.enter_of_full hfull
    refine ⟨run_withScope_error he steps, fun refused closure => ?_⟩
    simp only [Context.withScope, he]

theorem run_withScope_restores_failing :
    let c := (Context.ofGlobals .empty 4).define "x" (.int 1)
    let nested := Step.withScope [.define "x" (.int 4), .enter [], .exit, .fail "boom"]
    let steps := [.define "x" (.int 2), .enter [("x", .int 3)],
      .render [.assign ["y"] (some (.var "x"))], .exit, .remove "x", nested, .exit]
    let report := (Step.withScope steps).run c
    report.2 = c ∧ report.1.error? = some (.custom "boom") := by
  intro c nested steps report
  obtain ⟨opened, he⟩ := Context.exists_enter (c := c) (by decide)
  have hopened : opened = ⟨c.globals, [.empty], 4, by decide⟩ :=
    Except.ok.inj (he.symm.trans rfl)
  have hbalanced : allBalanced steps 0 opened = true := by
    subst hopened
    decide
  have hrun := (run_withScope_restores c steps).1 opened he hbalanced
  exact ⟨congrArg Prod.snd hrun, rfl⟩

end Step

namespace Context

/-- A change of the innermost scope alone, a new scope above it, or the way back to the scope below
it. -/
inductive Move : Context → Context → Prop
  | innermost {c c' : Context} (h : c.SameAround c') : Move c c'
  | enter {c opened : Context} (h : c.enter = .ok opened) : Move c opened
  | exit (c : Context) : Move c c.exit

/-- Some moves lead from one context to another, and after each there are more than `count`
scopes. -/
abbrev Reaches (count : Nat) : Context → Context → Prop :=
  Relation.ReflTransGen fun c c' => Move c c' ∧ count < c'.depth

def outermost (c : Context) (count : Nat) : List Scope :=
  c.scopes.drop (c.depth - count)

theorem Move.maxDepth_eq {c c' : Context} (h : Move c c') : c'.maxDepth = c.maxDepth := by
  cases h with
  | innermost h => exact h.maxDepth_eq
  | enter h => exact maxDepth_of_enter h
  | exit => exact maxDepth_exit c

theorem Move.outermost_eq {count : Nat} {c c' : Context} (h : Move c c') (hc : count < c.depth) :
    c'.outermost count = c.outermost count := by
  simp only [outermost]
  cases h with
  | innermost h =>
    obtain ⟨above, habove⟩ : ∃ above, c.depth - count = above + 1 :=
      Nat.exists_eq_succ_of_ne_zero (Nat.sub_ne_zero_of_lt hc)
    rw [h.depth_eq, habove, scopes_eq_cons, scopes_eq_cons c, List.drop_succ_cons,
      List.drop_succ_cons, h.outer_eq]
  | enter h =>
    rw [depth_of_enter h, (enter_eq_ok_iff.mp h).2.1, Nat.succ_sub (Nat.le_of_lt hc),
      List.drop_succ_cons]
  | exit =>
    rcases Nat.lt_or_eq_of_le c.depth_pos with hdepth | hdepth
    · have hexit : c.depth = c.exit.depth + 1 := by
        rw [depth_eq_length, depth_eq_length, scopes_exit hdepth, scopes_eq_cons, List.length_cons]
      rw [hexit, Nat.succ_sub (by omega), scopes_exit hdepth, scopes_eq_cons c,
        List.drop_succ_cons]
    · rw [exit_of_depth_one hdepth.symm]

namespace Reaches

variable {count : Nat} {c c' : Context}

theorem maxDepth_eq (h : Reaches count c c') : c'.maxDepth = c.maxDepth := by
  induction h with
  | refl => rfl
  | tail _ hmove ih => exact hmove.1.maxDepth_eq.trans ih

theorem lt_depth (h : Reaches count c c') (hc : count < c.depth) : count < c'.depth := by
  cases h with
  | refl => exact hc
  | tail _ hmove => exact hmove.2

theorem outermost_eq (h : Reaches count c c') (hc : count < c.depth) :
    c'.outermost count = c.outermost count := by
  induction h with
  | refl => rfl
  | tail hmoves hmove ih => exact (hmove.1.outermost_eq (lt_depth hmoves hc)).trans ih

end Reaches

theorem SameAround.reaches {count : Nat} {c c' : Context} (h : c.SameAround c')
    (hc : count < c.depth) : Reaches count c c' :=
  .single ⟨.innermost h, h.depth_eq ▸ hc⟩

end Context

namespace Step

-- The moments of a step are those before and after it, and in between those of the steps that it
-- runs in a scope of their own.
mutual

inductive Moment : Step → Context → Context → Prop
  | before (s : Step) (c : Context) : Moment s c c
  | after (s : Step) (c : Context) : Moment s c (s.run c).2
  | inside {steps : List Step} {c opened d : Context} (he : c.enter = .ok opened)
      (h : MomentUntilFailure steps opened d) : Moment (.withScope steps) c d

inductive MomentUntilFailure : List Step → Context → Context → Prop
  | start (steps : List Step) (c : Context) : MomentUntilFailure steps c c
  | first {s : Step} {c d : Context} (h : Moment s c d) (rest : List Step) :
      MomentUntilFailure (s :: rest) c d
  | later {s : Step} {rest : List Step} {c d : Context} (hpassed : (s.run c).1.error? = none)
      (h : MomentUntilFailure rest (s.run c).2 d) : MomentUntilFailure (s :: rest) c d

end

/-- The contexts that there are at some time in a session, where a failure does not keep the next
step from being run. -/
inductive SessionMoment : List Step → Context → Context → Prop
  | start (session : List Step) (c : Context) : SessionMoment session c c
  | first {s : Step} {c d : Context} (h : Moment s c d) (rest : List Step) :
      SessionMoment (s :: rest) c d
  | later {s : Step} {rest : List Step} {c d : Context}
      (h : SessionMoment rest (s.run c).2 d) : SessionMoment (s :: rest) c d

section reaches

variable {count : Nat}

-- A step is followed from moment to moment, so that what holds at each of its moments holds at each
-- end of a move.
mutual

theorem run_reaches : ∀ (s : Step) (c : Context), (∀ d, Moment s c d → count < d.depth) →
    c.Reaches count (s.run c).2
  | .define name v, c, h => (c.define_sameAround name v).reaches (h c (.before _ c))
  | .lookup _, _, _ => .refl
  | .contains _, _, _ => .refl
  | .remove name, c, h => (c.remove_sameAround name).reaches (h c (.before _ c))
  | .eval _, _, _ => .refl
  | .render body, c, h => (body.renderText_sameAround c).reaches (h c (.before _ c))
  | .fail _, _, _ => .refl
  | .exit, c, h => .single ⟨.exit c, h _ (.after .exit c)⟩
  | .enter bindings, c, h => by
    cases he : c.enter with
    | error e => rw [run_enter_error he]
    | ok opened =>
      rw [run_enter_ok he]
      have hopened : count < opened.depth :=
        Context.depth_of_enter he ▸ Nat.lt_succ_of_lt (h c (.before _ c))
      exact .head ⟨.enter he, hopened⟩ ((opened.modifyCurrent_sameAround _).reaches hopened)
  | .withScope steps, c, h => by
    cases he : c.enter with
    | error e => rw [run_withScope_error he]
    | ok opened =>
      have hafter := h _ (.after _ c)
      rw [run_withScope_ok he] at hafter ⊢
      have hinside := runUntilFailure_reaches steps opened fun d hd => h d (.inside he hd)
      exact .head ⟨.enter he, h opened (.inside he (.start steps opened))⟩
        (hinside.tail ⟨.exit _, hafter⟩)

theorem runUntilFailure_reaches : ∀ (steps : List Step) (c : Context),
    (∀ d, MomentUntilFailure steps c d → count < d.depth) →
      c.Reaches count (runUntilFailure steps c).1
  | [], _, _ => .refl
  | s :: rest, c, h => by
    have hfirst := run_reaches s c fun d hd => h d (.first hd rest)
    cases herror : (s.run c).1.error? with
    | some e =>
      simp only [runUntilFailure, herror]
      exact hfirst
    | none =>
      simp only [runUntilFailure, herror]
      exact hfirst.trans (runUntilFailure_reaches rest _ fun d hd => h d (.later herror hd))

end

mutual

theorem Moment.reaches : ∀ {s : Step} {c d : Context}, Moment s c d →
    (∀ m, Moment s c m → count < m.depth) → c.Reaches count d
  | _, _, _, .before _ _, _ => .refl
  | _, _, _, .after s c, h => run_reaches s c h
  | _, _, _, .inside he hd, h =>
    .head ⟨.enter he, h _ (.inside he (.start _ _))⟩ (hd.reaches fun m hm => h m (.inside he hm))

theorem MomentUntilFailure.reaches : ∀ {steps : List Step} {c d : Context},
    MomentUntilFailure steps c d → (∀ m, MomentUntilFailure steps c m → count < m.depth) →
      c.Reaches count d
  | _, _, _, .start _ _, _ => .refl
  | _, _, _, .first hd rest, h => hd.reaches fun m hm => h m (.first hm rest)
  | s :: rest, c, _, .later hpassed hd, h =>
    (run_reaches s c fun m hm => h m (.first hm rest)).trans
      (hd.reaches fun m hm => h m (.later hpassed hm))

end

theorem SessionMoment.reaches {session : List Step} {c d : Context} (hd : SessionMoment session c d)
    (h : ∀ m, SessionMoment session c m → count < m.depth) : c.Reaches count d := by
  induction hd with
  | start => exact .refl
  | first hd rest => exact hd.reaches fun m hm => h m (.first hm rest)
  | later _ ih =>
    exact (run_reaches _ _ fun m hm => h m (.first hm _)).trans (ih fun m hm => h m (.later hm))

end reaches

theorem sessionMoment_of_mem_runAll {session : List Step} {c : Context} {report : Report}
    (h : report ∈ runAll session c) : SessionMoment session c report.2 := by
  induction session generalizing c with
  | nil => cases h
  | cons s rest ih =>
    rcases List.mem_cons.mp h with rfl | h
    · exact .first (.after s c) rest
    · exact .later (ih h)

end Step

namespace Context

def FirstBinds (scopes : List Scope) (name : String) (v : Value) : Prop :=
  ∃ inside s outside, scopes = inside ++ s :: outside ∧
    (∀ t ∈ inside, t.contains name = false) ∧ s.get? name = some v

theorem findSome?_eq_some_iff_firstBinds (scopes : List Scope) (name : String) (v : Value) :
    (scopes.findSome? fun s => s.get? name) = some v ↔ FirstBinds scopes name v := by
  simp only [List.findSome?_eq_some_iff, FirstBinds, Bindings.contains, Option.isSome_eq_false_iff,
    Option.isNone_iff_eq_none]
  exact exists_congr fun inside => exists_congr fun s => exists_congr fun outside =>
    and_congr_right fun _ => and_comm

theorem scopes_exit_eq_drop (c : Context) :
    c.exit.scopes = c.scopes.drop (min 1 (c.depth - 1)) := by
  rcases Nat.lt_or_eq_of_le c.depth_pos with hdepth | hdepth
  · have hmin : min 1 (c.depth - 1) = 1 := by omega
    rw [scopes_exit hdepth, hmin, List.drop_one]
    rfl
  · rw [exit_of_depth_one hdepth.symm, ← hdepth]
    rfl

theorem scopes_iterate_exit (c : Context) (count : Nat) :
    (exit^[count] c).scopes = c.scopes.drop (min count (c.depth - 1)) := by
  induction count with
  | zero => simp
  | succ count ih =>
    have hdepth : (exit^[count] c).depth = c.depth - min count (c.depth - 1) := by
      rw [depth_eq_length, ih, List.length_drop, ← depth_eq_length]
    rw [Function.iterate_succ_apply', scopes_exit_eq_drop, hdepth, ih, List.drop_drop]
    congr 1
    omega

theorem globals_exit (c : Context) : c.exit.globals = c.globals := by
  obtain ⟨globals, inner, _, _⟩ := c
  cases inner <;> rfl

theorem globals_iterate_exit (c : Context) (count : Nat) :
    (exit^[count] c).globals = c.globals := by
  induction count with
  | zero => rfl
  | succ count ih => rw [Function.iterate_succ_apply', globals_exit, ih]

theorem lookup_eq_some_iff (c : Context) (name : String) (v : Value) :
    c.lookup name = some v ↔ FirstBinds c.scopes name v :=
  findSome?_eq_some_iff_firstBinds c.scopes name v

theorem lookup_remove (c : Context) (name other : String) : (c.remove name).lookup other =
    if name = other then c.outer.findSome? fun s => s.get? name else c.lookup other := by
  rw [lookup_eq, lookup_eq, remove, current_modifyCurrent, outer_modifyCurrent,
    Bindings.get?_erase]
  split
  · rename_i h
    rw [h, Option.none_or]
  · rfl

structure ScopeLaws (c : Context) : Prop where
  define : ∀ name v, c.SameAround ((Step.define name v).run c).2
  remove : ∀ name, c.SameAround ((Step.remove name).run c).2
  render : ∀ body, c.SameAround ((Step.render body).run c).2
  enter_full : c.depth = c.maxDepth → ∀ bindings,
    (Step.enter bindings).run c = (.failed (.scopeDepthExceeded c.maxDepth), c)
  enter_room : c.depth < c.maxDepth → ∃ opened : Context, opened.scopes = .empty :: c.scopes ∧
    opened.maxDepth = c.maxDepth ∧ ∀ bindings, (Step.enter bindings).run c =
      (.entered (Bindings.ofList bindings).size,
        opened.modifyCurrent fun s => s.insertAll bindings)
  exit : ∀ count, ((fun d => (Step.exit.run d).2)^[count] c).scopes =
      c.scopes.drop (min count (c.depth - 1)) ∧
    ((fun d => (Step.exit.run d).2)^[count] c).globals = c.globals
  lookup : ∀ name, (Step.lookup name).run c = (.binding (c.lookup name), c) ∧
    ∀ v, c.lookup name = some v ↔ FirstBinds c.scopes name v
  lookup_removed : ∀ name, (∀ v, ((Step.remove name).run c).2.lookup name = some v ↔
      FirstBinds c.outer name v) ∧
    ∀ other, name ≠ other → ((Step.remove name).run c).2.lookup other = c.lookup other

theorem scopeLaws (c : Context) : c.ScopeLaws where
  define name v := c.define_sameAround name v
  remove name := c.remove_sameAround name
  render body := body.renderText_sameAround c
  enter_full hfull := Step.run_enter_error (enter_of_full hfull)
  enter_room hroom := by
    obtain ⟨opened, he⟩ := exists_enter hroom
    obtain ⟨-, hscopes, hmax⟩ := enter_eq_ok_iff.mp he
    exact ⟨opened, hscopes, hmax, Step.run_enter_ok he⟩
  exit count := ⟨c.scopes_iterate_exit count, c.globals_iterate_exit count⟩
  lookup name := ⟨rfl, c.lookup_eq_some_iff name⟩
  lookup_removed name := by
    refine ⟨fun v => ?_, fun other hne => (c.lookup_remove name other).trans (if_neg hne)⟩
    rw [← findSome?_eq_some_iff_firstBinds]
    exact iff_of_eq (congrArg (· = some v) ((c.lookup_remove name name).trans (if_pos rfl)))

end Context

/-- At every moment of a session the limit is as it was and the laws of the scopes hold, whatever
failed before and however many scopes were closed that were not open. -/
theorem Step.session_scopes (c : Context) (session : List Step) :
    (∀ report ∈ runAll session c, SessionMoment session c report.2) ∧
    (∀ d, SessionMoment session c d → 1 ≤ d.depth ∧ d.depth ≤ c.maxDepth ∧
      d.maxDepth = c.maxDepth ∧ d.ScopeLaws) ∧
    (∀ count, (∀ d, SessionMoment session c d → count < d.depth) →
      ∀ d, SessionMoment session c d → d.outermost count = c.outermost count) ∧
    (∀ globals limit, (Context.ofGlobals globals limit).depth = 1 ∧
      (Context.ofGlobals globals limit).maxDepth = max limit 1) ∧
    ∀ globals, Context.new globals = .ofGlobals globals Context.defaultMaxDepth := by
  refine ⟨fun _ => sessionMoment_of_mem_runAll, fun d hd => ?_, fun count habove d hd => ?_,
    fun _ _ => ⟨rfl, rfl⟩, fun _ => rfl⟩
  · have hmax := (hd.reaches fun m _ => m.depth_pos).maxDepth_eq
    exact ⟨d.depth_pos, hmax ▸ d.depth_le_maxDepth, hmax, d.scopeLaws⟩
  · exact (hd.reaches habove).outermost_eq (habove c (.start session c))

theorem Step.session_scopes_unbalanced :
    let c := (Context.ofGlobals .empty 2).define "x" (.int 1)
    let session := [.exit, .withScope [.define "x" (.int 2), .exit, .define "x" (.int 3), .exit],
      .enter [], .enter []]
    let d := c.define "x" (.int 3)
    let inner : Context := ⟨c.globals, [.empty], 2, by decide⟩
    SessionMoment session c d ∧ d.depth ≤ c.maxDepth ∧
      ((fun d => (Step.exit.run d).2)^[5] d).globals = d.globals ∧
      ((Step.remove "x").run d).2.lookup "y" = d.lookup "y" ∧
      ∀ m, SessionMoment [.define "x" (.int 4)] inner m → m.outermost 1 = [c.globals] := by
  intro c session d inner
  obtain ⟨opened, he⟩ := Context.exists_enter (c := c) (by decide)
  obtain rfl : opened = inner := Except.ok.inj (he.symm.trans rfl)
  have hd : SessionMoment session c d :=
    .later (.first (.inside he (.later rfl (.later rfl (.first (.after _ _) _)))) _)
  obtain ⟨-, hmoments, -⟩ := session_scopes c session
  obtain ⟨-, hdepth, -, hlaws⟩ := hmoments d hd
  have hinner : ∀ m, SessionMoment [.define "x" (.int 4)] inner m → 1 < m.depth := by
    intro m hm
    cases hm with
    | start => decide
    | first h => cases h <;> decide
    | later h =>
      cases h
      decide
  exact ⟨hd, hdepth, (hlaws.exit 5).2, (hlaws.lookup_removed "x").2 "y" (by decide),
    (session_scopes inner [.define "x" (.int 4)]).2.2.1 1 hinner⟩

end TextTemplate
