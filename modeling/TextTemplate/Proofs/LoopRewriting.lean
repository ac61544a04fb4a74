import TextTemplate.Proofs.RangeItems
import TextTemplate.Proofs.IndependentIterations

/-! Loops that can be written in another way. Two loops are the same when their iterations are, up
to names that nothing reads and that go with the scope of the loop. So a list may be indexed by the
numbers of a range, and items may be taken apart by an assignment at the head of the body. -/

namespace TextTemplate

theorem Loop.plainFrom_rel {I : Context → Context → Prop} {E : EvalError → EvalError → Prop}
    {items items' : ListView Value} {vars vars' : List String} {body body' : Rendering} {n : Nat}
    (hstep : ∀ k < n, Rendering.Rel I E (step vars body (fieldsAt items k) (items.item k))
      (step vars' body' (fieldsAt items' k) (items'.item k))) (count k : Nat) (hk : k + count ≤ n) :
    Rendering.Rel I E (plainFrom items vars body count k)
      (plainFrom items' vars' body' count k) := by
  induction count generalizing k with
  | zero => exact fun sink c c' hc => ⟨rfl, hc, .ok rfl⟩
  | succ count ih =>
    intro sink c c' hc
    have hfirst := hstep k (by omega) sink c c' hc
    exact hfirst.andThen (ih (k + 1) (by omega))

/-- What an iteration leaves in names outside `N` does not matter, since the scope of the loop is
closed when it is over. -/
theorem Stmt.render_forLoop_congr {N : String → Prop} {vars vars' : List String}
    {iterable iterable' : Expr} {body body' : Template} {source source' : Value} {c : Context}
    (hsource : c.eval iterable = .ok source) (hsource' : c.eval iterable' = .ok source')
    (hsize : source.items.size = source'.items.size)
    (hstep : ∀ k < source.items.size, Rendering.Rel (Context.Agree N) Eq
      (Loop.step vars (renderAll body) (Loop.fieldsAt source.items k) (source.items.item k))
      (Loop.step vars' (renderAll body') (Loop.fieldsAt source'.items k) (source'.items.item k)))
    (other : Option Template) (sink : Sink) :
    render (.forLoop vars iterable body other) sink c =
      render (.forLoop vars' iterable' body' other) sink c := by
  have hscope : Outcome.inScope (Loop.run source.items vars (renderAll body)) sink c =
      Outcome.inScope (Loop.run source'.items vars' (renderAll body')) sink c := by
    cases hopened : c.enter with
    | error e => simp only [Outcome.inScope, hopened]
    | ok opened =>
      have hrun := Loop.plainFrom_rel hstep source.items.size 0 (by omega) sink opened opened
        (.refl N opened)
      rw [Outcome.inScope_of_enter (Loop.run_sameAround (renderAll_sameAround body) _ vars) hopened,
        Outcome.inScope_of_enter (Loop.run_sameAround (renderAll_sameAround body') _ vars') hopened]
      rw [Loop.run_eq_plain, Loop.run_eq_plain, Loop.plain, Loop.plain, ← hsize, hrun.sink_eq,
        hrun.result.eq]
  simp only [render, hsource, hsource', Outcome.withValue, hscope, hsize]

namespace Value

theorem index_int {v : Value} {n : Int64} {k : Nat} (hv : v.isList) (hk : k < v.items.size)
    (hn : n.toInt = k) : v.index (.int n) = .ok (v.items.item k) := by
  rw [index, hn, Int.toNat_natCast, if_pos ⟨hv, Int.natCast_nonneg k, hk⟩]

theorem isList_of_item {v : Value} {k : Nat} (hk : k < v.items.size) : v.isList := by
  cases hv : v.isList with
  | true => rfl
  | false =>
    rw [items_of_not_isList hv] at hk
    exact absurd hk k.not_lt_zero

theorem range_stop {stop : Int64} {n : Nat} (hstop : stop.toInt = n) :
    ∃ view : ListView Value, range [.int stop] = .ok (.genericList view) ∧
      view.size = n ∧ ∀ k < n, ∃ m : Int64, view.item k = .int m ∧ m.toInt = k := by
  have hone : (1 : Int64) ≠ 0 := by decide
  have hrange : range [.int stop] = .ok (.genericList (Progression.view ⟨0, stop, 1⟩)) :=
    range_eq_of_step_ne_zero 0 stop hone
  have h : Progression.Enumerates ⟨0, stop, 1⟩ (Progression.view ⟨0, stop, 1⟩) :=
    Progression.view_enumerates hone
  have hcovers (k : Nat) : Progression.Covers ⟨0, stop, 1⟩ k ↔ n ≤ k := by
    have hpos : (0 : Int64) < 1 := by decide
    have hneg : ¬(1 : Int64) < 0 := by decide
    simp only [Progression.Covers, hpos, hneg, hstop, Int64.toInt_zero, Int64.toInt_one,
      true_imp_iff, false_imp_iff, and_true]
    omega
  have hsize : (Progression.view ⟨0, stop, 1⟩).size = n :=
    Nat.le_antisymm (h.least n ((hcovers n).mpr (Nat.le_refl n))) ((hcovers _).mp h.covers)
  refine ⟨_, hrange, hsize, fun k hk => ?_⟩
  obtain ⟨m, hitem, hm⟩ := h.item k (hsize.symm ▸ hk)
  refine ⟨m, hitem, ?_⟩
  rw [hm, Int64.toInt_zero, Int64.toInt_one]
  omega

end Value

namespace Stmt

theorem render_assign_item {v : Value} {i : String} {n : Int64} {k : Nat} {c : Context}
    (hk : k < v.items.size) (hi : c.lookup i = some (.int n)) (hn : n.toInt = k) (x : String)
    (sink : Sink) :
    render (.assign [x] (some (.index (.const v) (.var i)))) sink c =
      Outcome.done sink (c.define x (v.items.item k)) := by
  have hitem : c.eval (.index (.const v) (.var i)) = .ok (v.items.item k) := by
    change v.index ((c.lookup i).getD .empty) = _
    rw [hi, Option.getD_some, Value.index_int (Value.isList_of_item hk) hk hn]
  simp only [render, hitem, Outcome.withValue]

theorem step_indexed {v : Value} {body : Template} {i : String}
    (hloop : .var "loop" ∉ exprsAll body) (hi : .var i ∉ exprsAll body) {n : Int64} {k : Nat}
    (hk : k < v.items.size) (hn : n.toInt = k) (x : String) (fields fields' : Bindings Value) :
    Rendering.Rel (Context.Agree fun name => name ∉ ["loop", i]) Eq
      (Loop.step [x] (renderAll body) fields (v.items.item k))
      (Loop.step [i] (renderAll (.assign [x] (some (.index (.const v) (.var i))) :: body)) fields'
        (.int n)) := by
  intro sink c c' hc
  have hreads : Expr.ReadsOnly (fun name => name ∉ ["loop", i]) (exprsAll body) := by
    intro name hname hmem
    rcases List.mem_pair.mp hmem with rfl | rfl
    · exact hloop hname
    · exact hi hname
  -- Where the loop over positions starts its body, the one difference that is left is in `loop`
  -- and the name of the position.
  let bound := Loop.iterationContext i (.ofBindings fields') (.int n) c'
  have hlookup : bound.lookup i = some (.int n) := Loop.lookup_iterationContext i _ _ c'
  have hbound : Context.Agree (fun name => name ∉ ["loop", i])
      (c.define "loop" (.ofBindings fields)) bound := by
    have hleft : Context.ChangesOnly ["loop", i] c (c.define "loop" (.ofBindings fields)) :=
      Context.define_changesOnly List.mem_cons_self c _
    have hright := Loop.iterationContext_changesOnly i (.ofBindings fields') (.int n) c'
    exact hleft.agree.symm.trans (hc.trans hright.agree)
  rw [Loop.step_singleName, Loop.step_singleName]
  simp only [renderAll]
  rw [render_assign_item hk hlookup hn x]
  exact renderAll_alike hreads sink _ _ (hbound.define x (v.items.item k))

/-- A loop over a list, owned or lazy, is the loop over its positions that begins by looking up the
item. -/
theorem render_forLoop_eq_indexed {v : Value} {body : Template} {i : String}
    (hsize : (v.items.size : Int) ≤ Int64.maxValue.toInt) (hloop : .var "loop" ∉ exprsAll body)
    (hi : .var i ∉ exprsAll body) (x : String) (other : Option Template) (sink : Sink)
    (c : Context) :
    let positions : Expr := .call "range" [.int (Int64.ofNat v.items.size)]
    let item : Expr := .index (.const v) (.var i)
    render (.forLoop [x] (.const v) body other) sink c =
      render (.forLoop [i] positions (.assign [x] (some item) :: body) other) sink c := by
  intro positions item
  have hstop : (Int64.ofNat v.items.size).toInt = v.items.size := by
    refine Int64.toInt_ofNat_of_lt ?_
    have hmax : Int64.maxValue.toInt = 9223372036854775807 := rfl
    omega
  obtain ⟨view, hview, hcount, hnumber⟩ := Value.range_stop hstop
  have hpositions : c.eval positions = .ok (.genericList view) := hview
  refine render_forLoop_congr (N := fun name => name ∉ ["loop", i]) rfl hpositions hcount.symm
    (fun k hk => ?_) other sink
  obtain ⟨n, hn, hnk⟩ := hnumber k hk
  have hitem : (Value.genericList view).items.item k = .int n := hn
  rw [hitem]
  exact step_indexed hloop hi hk hnk x _ _

theorem render_forLoop_eq_indexed_lazyList :
    let v := Value.genericList ⟨2, fun k => if k = 0 then .str "a" else .list [.int 7, .int 8]⟩
    let body : Template := [.forLoop ["y"] (.list [.var "x"]) [.output (.var "y"), .text ";"] none]
    let range : Expr := .call "range" [.int 2]
    let item : Stmt := .assign ["x"] (some (.index (.const v) (.var "i")))
    let c := Context.new .empty
    (render (.forLoop ["x"] (.const v) body none) .empty c).sink = .buffer "a;[7, 8];" ∧
      (render (.forLoop ["i"] range (item :: body) none) .empty c).sink = .buffer "a;[7, 8];" := by
  intro v body range item c
  have hloop : .var "loop" ∉ exprsAll body := by
    simp [body, exprsAll, exprs, exprsElse, Expr.subexprs, Expr.subexprsAll]
  have hi : .var "i" ∉ exprsAll body := by
    simp [body, exprsAll, exprs, exprsElse, Expr.subexprs, Expr.subexprsAll]
  have hsame := render_forLoop_eq_indexed (v := v) (by decide) hloop hi "x" none .empty c
  have hsink : (render (.forLoop ["x"] (.const v) body none) .empty c).sink =
      .buffer "a;[7, 8];" := by decide
  exact ⟨hsink, (congrArg Outcome.sink hsame).symm.trans hsink⟩

theorem render_assign_fields {targets : List String} (h : targets.length ≠ 1) (value : Expr)
    (sink : Sink) (c : Context) : render (.assign targets (some value)) sink c =
      Outcome.withValue (c.eval value) (Outcome.defineFields targets) sink c := by
  match targets, h with
  | [], _ => rfl
  | _ :: _ :: _, _ => rfl

theorem step_unpacked {vars : List String} {body : Template} {t : String} {item : Value}
    (hseveral : 1 < vars.length) (hmap : item.isMap) (ht : .var t ∉ exprsAll body)
    (fields : Bindings Value) :
    Rendering.Rel (Context.Agree fun name => name ∉ [t]) Eq
      (Loop.step vars (renderAll body) fields item)
      (Loop.step [t] (renderAll (.assign vars (some (.var t)) :: body)) fields item) := by
  intro sink c c' hc
  let bound := Loop.iterationContext t (.ofBindings fields) item c'
  have hreads : Expr.ReadsOnly (fun name => name ∉ [t]) (exprsAll body) :=
    fun name hname hmem => ht (List.mem_singleton.mp hmem ▸ hname)
  have hitem : bound.eval (.var t) = .ok item := by
    change Except.ok ((bound.lookup t).getD .empty) = _
    rw [Loop.lookup_iterationContext, Option.getD_some]
  have hbound : Context.Agree (fun name => name ∉ [t]) (c.define "loop" (.ofBindings fields))
      bound := by
    have hnamed : Context.ChangesOnly [t] (c'.define "loop" (.ofBindings fields)) bound :=
      Context.define_changesOnly (List.mem_singleton_self t) _ item
    exact (hc.define "loop" (.ofBindings fields)).trans hnamed.agree
  have hassign : render (.assign vars (some (.var t))) sink bound =
      Outcome.defineFields vars item sink bound := by
    rw [render_assign_fields (Nat.ne_of_gt hseveral), hitem]
    rfl
  -- Both sides take the same item apart, in contexts that differ in nothing but `t`.
  have hunpack := (Outcome.defineFields_early (Value.bisimulation_eq _)
    ((Context.Agree.tracks _).early _ fun _ => rfl) (rfl : item = item)
    vars).rel sink _ _ hbound
  rw [Loop.step_singleName, Loop.step, Loop.bindItem.eq_def, if_pos ⟨hseveral, hmap⟩]
  simp only [renderAll]
  rw [hassign]
  exact hunpack.andThen (renderAll_alike hreads)

/-- A loop with several names over maps is the loop with one name that begins by assigning the
fields of the item to them. -/
theorem render_forLoop_eq_unpacked {vars : List String} {iterable : Expr} {body : Template}
    {t : String} {c : Context} {source : Value} (hseveral : 1 < vars.length)
    (hsource : c.eval iterable = .ok source)
    (hmaps : ∀ k < source.items.size, (source.items.item k).isMap)
    (ht : .var t ∉ exprsAll body) (other : Option Template) (sink : Sink) :
    let unpack : Stmt := .assign vars (some (.var t))
    render (.forLoop vars iterable body other) sink c =
      render (.forLoop [t] iterable (unpack :: body) other) sink c :=
  render_forLoop_congr hsource hsource rfl
    (fun k hk => step_unpacked hseveral (hmaps k hk) ht _) other sink

theorem render_forLoop_eq_unpacked_refused :
    let whole := Value.map [("a", .int 1), ("b", .int 2), ("loop", .str "x")]
    let partly := Value.genericMap (.ofBindings (.ofList [("a", .int 3), ("loop", .empty)]) id)
    let vars := ["loop", "a", "b"]
    let body : Template := [.output (.var "loop"), .output (.var "a"), .output (.var "b")]
    let iterable : Expr := .const (.list [whole, partly])
    let c := Context.new .empty
    let unpack : Stmt := .assign vars (some (.var "t"))
    let expected := Outcome.fail (.invalidField "b") (.buffer "x12") c
    render (.forLoop vars iterable body none) .empty c = expected ∧
      render (.forLoop ["t"] iterable (unpack :: body) none) .empty c = expected := by
  intro whole partly vars body iterable c unpack expected
  have hmaps : ∀ k < (Value.list [whole, partly]).items.size,
      ((Value.list [whole, partly]).items.item k).isMap := by
    intro k hk
    match k, hk with
    | 0, _ => rfl
    | 1, _ => rfl
  have ht : .var "t" ∉ exprsAll body := by
    simp [body, exprsAll, exprs, Expr.subexprs]
  have hsource : c.eval iterable = .ok (.list [whole, partly]) := rfl
  have hseveral : 1 < vars.length := by decide
  have hsame := render_forLoop_eq_unpacked hseveral hsource hmaps ht none .empty
  have hrefused : render (.forLoop vars iterable body none) .empty c = expected := rfl
  exact ⟨hrefused, hsame.symm.trans hrefused⟩

end Stmt

end TextTemplate
