import TextTemplate.Proofs.LoopRewriting

/-! Assignments to several targets. Such an assignment takes its value apart, and it is as good as a
row of assignments to one target each, which read the fields of a helper variable that holds the
value. Where a field is refused, both have bound just the targets before it. -/

namespace TextTemplate

namespace Context

theorem define_comm {a b : String} (h : a ≠ b) (c : Context) (x y : Value) :
    (c.define a x).define b y = (c.define b y).define a x := by
  obtain ⟨globals, inner, maxDepth, hdepth⟩ := c
  cases inner with
  | nil => simp only [define, modifyCurrent, Bindings.insert_comm h]
  | cons s rest => simp only [define, modifyCurrent, Bindings.insert_comm h]

/-- What a name that is no target holds meanwhile is seen in nothing but that name. -/
theorem defineFields_define {t : String} {names : List String} (ht : t ∉ names)
    (value held : Value) (c : Context) :
    (c.define t held).defineFields value names =
      ((c.defineFields value names).1.define t held, (c.defineFields value names).2) := by
  induction names generalizing c with
  | nil => rfl
  | cons name rest ih =>
    obtain ⟨hname, hrest⟩ := not_or.mp (mt List.mem_cons.mpr ht)
    simp only [defineFields]
    cases value.subscript name with
    | error e => rfl
    | ok field =>
      simp only [define_comm hname]
      exact ih hrest _

theorem defineFields_append {value : Value} {before : List String} {xs : List Value}
    (h : List.Forall₂ (fun name x => value.subscript name = .ok x) before xs)
    (rest : List String) (c : Context) : c.defineFields value (before ++ rest) =
      (c.modifyCurrent fun s => s.insertAll (before.zip xs)).defineFields value rest := by
  induction h generalizing c with
  | nil =>
    obtain ⟨globals, inner, maxDepth, hdepth⟩ := c
    cases inner <;> rfl
  | @cons name x before xs hx _ ih =>
    simp only [List.cons_append, defineFields, hx]
    rw [ih]
    obtain ⟨globals, inner, maxDepth, hdepth⟩ := c
    cases inner <;> rfl

end Context

namespace Stmt

def assignEach (targets : List String) (object : Expr) : Template :=
  targets.map fun name => .assign [name] (some (.attr object name))

theorem renderAll_assignEach {t : String} {targets : List String} (ht : t ∉ targets)
    {value : Value} {c : Context} (hvalue : c.lookup t = some value) (sink : Sink) :
    renderAll (assignEach targets (.var t)) sink c =
      Outcome.defineFields targets value sink c := by
  induction targets generalizing c with
  | nil => rfl
  | cons name rest ih =>
    obtain ⟨hname, hrest⟩ := not_or.mp (mt List.mem_cons.mpr ht)
    have hfield : c.eval (.attr (.var t) name) = value.subscript name := by
      change ((c.lookup t).getD .empty).subscript name = _
      rw [hvalue, Option.getD_some]
    simp only [assignEach, List.map_cons, renderAll, render, hfield, Outcome.defineFields,
      Context.defineFields]
    cases value.subscript name with
    | error e => rfl
    | ok field =>
      have hkept : (c.define name field).lookup t = some value := by
        rw [Context.lookup_define, if_neg (Ne.symm hname), hvalue]
      exact ih hrest hkept

/-- An assignment to several targets is that of its value to a helper variable and then of the
fields of that variable one by one, but that the helper is bound afterwards. -/
theorem render_assign_eq_each {targets : List String} {t : String} (hcount : targets.length ≠ 1)
    (ht : t ∉ targets) (value : Expr) (sink : Sink) (c : Context) :
    let o := render (.assign targets (some value)) sink c
    let o' := renderAll (.assign [t] (some value) :: assignEach targets (.var t)) sink c
    o'.result = o.result ∧ o.sink = sink ∧ o'.sink = sink ∧
      o.context.ChangesOnly [t] o'.context ∧
      (∀ e, c.eval value = .error e → o = Outcome.fail e sink c) ∧
      ∀ v, c.eval value = .ok v →
        (∀ xs, List.Forall₂ (fun name x => v.subscript name = .ok x) targets xs →
          o = Outcome.done sink (c.modifyCurrent fun s => s.insertAll (targets.zip xs))) ∧
        ∀ before name after xs e, targets = before ++ name :: after →
          List.Forall₂ (fun name x => v.subscript name = .ok x) before xs →
            v.subscript name = .error e →
              o = Outcome.fail e sink (c.modifyCurrent fun s => s.insertAll (before.zip xs)) := by
  intro o o'
  cases hvalue : c.eval value with
  | error e =>
    have ho : o = Outcome.fail e sink c := by
      simp only [o, render_assign_fields hcount, hvalue, Outcome.withValue]
    have ho' : o' = Outcome.fail e sink c := by
      simp only [o', renderAll, render, hvalue, Outcome.withValue, Outcome.andThen_fail]
    rw [ho, ho']
    refine ⟨rfl, rfl, rfl, refl_of (Context.ChangesOnly [t]) c, ?_, ?_⟩
    · rintro _ ⟨⟩
      rfl
    · intro v hv
      cases hv
  | ok v =>
    have ho : o = Outcome.defineFields targets v sink c := by
      simp only [o, render_assign_fields hcount, hvalue, Outcome.withValue]
    have ho' : o' = Outcome.defineFields targets v sink (c.define t v) := by
      simp only [o', renderAll, render, hvalue, Outcome.withValue, Outcome.andThen_done]
      exact renderAll_assignEach ht (by rw [Context.lookup_define, if_pos rfl]) sink
    -- The helper is no target, so it may as well be bound after the targets.
    simp only [Outcome.defineFields, Context.defineFields_define ht] at ho'
    rw [ho', ho]
    refine ⟨rfl, rfl, rfl, Context.define_changesOnly (List.mem_singleton_self t) _ v, ?_, ?_⟩
    · intro e he
      cases he
    rintro _ ⟨⟩
    constructor
    · intro xs hxs
      have hfields := Context.defineFields_append hxs [] c
      rw [List.append_nil] at hfields
      simp only [Outcome.defineFields, hfields]
      rfl
    · rintro before name after xs e rfl hxs hname
      have hfields := Context.defineFields_append hxs (name :: after) c
      simp only [Outcome.defineFields, hfields, Context.defineFields, hname]
      rfl

theorem render_assign_eq_each_refused :
    let view : MapView Value := .ofBindings (.ofList [("a", .int 1), ("x", .int 2)]) id
    let targets := ["a", "x", "a", "b"]
    let c := (Context.new .empty).define "a" (.genericMap view)
    let o := render (.assign targets (some (.var "a"))) .empty c
    let o' := renderAll (.assign ["t"] (some (.var "a")) :: assignEach targets (.var "t")) .empty c
    o.result = .error (.invalidField "b") ∧ o'.result = .error (.invalidField "b") ∧
      o.context.scopes = [.ofList [("a", .int 1), ("x", .int 2)]] := by
  intro view targets c o o'
  have hvalue : c.eval (.var "a") = .ok (.genericMap view) := rfl
  have hxs : List.Forall₂ (fun name x => (Value.genericMap view).subscript name = .ok x)
      ["a", "x", "a"] [.int 1, .int 2, .int 1] := .cons rfl (.cons rfl (.cons rfl .nil))
  have hcount : targets.length ≠ 1 := by decide
  have ht : "t" ∉ targets := by decide
  obtain ⟨hresult, -, -, -, -, hrefused⟩ := render_assign_eq_each hcount ht (.var "a") .empty c
  have ho := (hrefused _ hvalue).2 ["a", "x", "a"] "b" [] _ _ rfl hxs rfl
  have herror : o.result = .error (.invalidField "b") := congrArg Outcome.result ho
  exact ⟨herror, hresult.trans herror, congrArg (fun o => o.context.scopes) ho⟩

end Stmt

end TextTemplate
