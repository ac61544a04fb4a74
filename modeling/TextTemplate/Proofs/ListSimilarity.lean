import TextTemplate.Proofs.RelationalRender

/-! Values that differ only in whether their lists are owned or lazy. No reader of a value can tell
them apart, except by the name of the type in an error; so no template can. -/

namespace TextTemplate

/-- The same error, but that a list may be named by either of its types. -/
inductive EvalError.ListSimilar : EvalError → EvalError → Prop
  | same (e : EvalError) : EvalError.ListSimilar e e
  | typeMismatch (expected : String) {got got' : String} (h : got ∈ Value.listTypes)
      (h' : got' ∈ Value.listTypes) :
      EvalError.ListSimilar (.typeMismatch expected got) (.typeMismatch expected got')
  | undefinedMethod (method : String) {type type' : String} (h : type ∈ Value.listTypes)
      (h' : type' ∈ Value.listTypes) :
      EvalError.ListSimilar (.undefinedMethod method type) (.undefinedMethod method type')

abbrev AnswersAlike : Except EvalError Value → Except EvalError Value → Prop :=
  ResultRel EvalError.ListSimilar fun _ _ => True

inductive Value.ListSimilar : Value → Value → Prop
  | empty : ListSimilar .empty .empty
  | bool (b : Bool) : ListSimilar (.bool b) (.bool b)
  | int (n : Int64) : ListSimilar (.int n) (.int n)
  | float (x : Binary64) : ListSimilar (.float x) (.float x)
  | str (s : String) : ListSimilar (.str s) (.str s)
  | list {v w : Value} (hv : v.isList) (hw : w.isList) (hsize : v.items.size = w.items.size)
      (hitem : ∀ i < v.items.size, ListSimilar (v.items.item i) (w.items.item i)) :
      ListSimilar v w
  | map {es fs : List (String × Value)} (hkeys : keys (.map es) = keys (.map fs))
      (hentry : ∀ name x y, Entries.get? es name = some x → Entries.get? fs name = some y →
        ListSimilar x y) : ListSimilar (.map es) (.map fs)
  | genericMap {m n : MapView Value} (hkeys : m.keys = n.keys) (hsize : m.size = n.size)
      (hhas : m.hasValue = n.hasValue)
      (hname : ∀ name, AnswersAlike (m.byName name) (n.byName name))
      (hnamed : ∀ name x y, m.byName name = .ok x → n.byName name = .ok y → ListSimilar x y)
      (hindex : ∀ i, AnswersAlike (m.byIndex i) (n.byIndex i))
      (hindexed : ∀ i x y, m.byIndex i = .ok x → n.byIndex i = .ok y → ListSimilar x y) :
      ListSimilar (.genericMap m) (.genericMap n)

namespace Value.ListSimilar

theorem refl (v : Value) : ListSimilar v v := by
  induction v using Value.induction with
  | empty => exact .empty
  | bool b => exact .bool b
  | int n => exact .int n
  | float x => exact .float x
  | str s => exact .str s
  | list items ih =>
    exact .list rfl rfl rfl fun i hi => ih _ (item_listView_mem hi)
  | map entries ih =>
    refine .map rfl fun name x y hx hy => ?_
    obtain rfl : x = y := Option.some.inj (hx.symm.trans hy)
    exact ih _ (Entries.mem_of_get? hx)
  | genericList view ih => exact .list rfl rfl rfl fun i _ => ih i
  | genericMap view ihName ihIndex =>
    refine .genericMap rfl rfl rfl (fun name => .refl .same (fun _ => trivial) _)
      (fun name x y hx hy => ?_) (fun i => .refl .same (fun _ => trivial) _)
      fun i x y hx hy => ?_
    · obtain rfl : x = y := Except.ok.inj (hx.symm.trans hy)
      exact ihName name x hx
    · obtain rfl : x = y := Except.ok.inj (hx.symm.trans hy)
      exact ihIndex i x hx

variable {v w : Value}

theorem alike (h : ListSimilar v w) :
    Alike ListSimilar (fun _ => False) EvalError.ListSimilar v w := by
  cases h with
  | list hv hw hsize hitem => exact .list hv hw hsize hitem
  | map hkeys hentry => exact .ownedMap .empty hkeys hentry
  | genericMap hkeys hsize _ hname hnamed _ _ => exact .lazyMap hkeys hsize hname hnamed
  | _ => exact .scalar rfl rfl

theorem typeName (h : ListSimilar v w) : v.typeName = w.typeName ∨
    v.typeName ∈ listTypes ∧ w.typeName ∈ listTypes := by
  cases h with
  | list hv hw _ _ => exact .inr ⟨typeName_of_isList hv, typeName_of_isList hw⟩
  | _ => exact .inl rfl

theorem typeMismatch (h : ListSimilar v w) (expected : String) :
    EvalError.ListSimilar (.typeMismatch expected v.typeName)
      (.typeMismatch expected w.typeName) := by
  rcases h.typeName with heq | ⟨hv, hw⟩
  · rw [heq]
    exact .same _
  · exact .typeMismatch expected hv hw

theorem undefinedMethod (h : ListSimilar v w) (name : String) :
    EvalError.ListSimilar (.undefinedMethod name v.typeName)
      (.undefinedMethod name w.typeName) := by
  rcases h.typeName with heq | ⟨hv, hw⟩
  · rw [heq]
    exact .same _
  · exact .undefinedMethod name hv hw

theorem ownedList {vs ws : List Value} (h : List.Forall₂ ListSimilar vs ws) :
    ListSimilar (.list vs) (.list ws) :=
  .list rfl rfl h.length_eq fun i _ => forall₂_getD h .empty i

theorem ofBindings {b b' : Bindings Value} (h : Scope.Rel ListSimilar b b') :
    ListSimilar (.ofBindings b) (.ofBindings b') :=
  .map (congrArg Names.sort h.names_eq) fun _ _ _ => h.of_get?

theorem congruence : Bisimulation ListSimilar (fun _ => False) EvalError.ListSimilar where
  refl := refl
  list := ownedList
  ofBindings := ofBindings
  alike := alike
  typeMismatch := typeMismatch
  undefinedMethod := undefinedMethod

end Value.ListSimilar

def Template.ListSimilar (body body' : Template) : Prop :=
  Stmt.AllRel Value.ListSimilar (fun _ => True) body body'

/-- Owned and lazy lists render alike, up to the name of a list type in an error. -/
theorem Template.render_listSimilar {body body' : Template} {c c' : Context}
    (hbody : body.ListSimilar body') (hc : Context.Rel Value.ListSimilar c c') (sink : Sink) :
    let o := Stmt.renderAll body sink c
    let o' := Stmt.renderAll body' sink c'
    o.sink = o'.sink ∧ ResultRel EvalError.ListSimilar Eq o.result o'.result ∧
      Context.Rel Value.ListSimilar o.context o'.context := by
  have htracks := Context.Rel.tracks Value.ListSimilar fun _ => True
  have h := hbody.renderAll Value.ListSimilar.congruence htracks .same sink c c' hc
  exact ⟨h.sink_eq, h.result, h.context⟩

theorem Template.render_listSimilar_typeMismatch :
    let owned := Value.list [.list [.int 1], .str "a"]
    let view := Value.genericList ⟨2, fun i => if i = 0 then .genericList ⟨1, fun _ => .int 1⟩
      else .str "a"⟩
    let body (v : Value) : Template := [.output (.const v), .output (.call "range" [.var "xs"])]
    let c (v : Value) := (Context.new .empty).define "xs" v
    let o := Stmt.renderAll (body owned) .empty (c owned)
    let o' := Stmt.renderAll (body view) .empty (c view)
    o.result = .error (.typeMismatch "int" "list") ∧
      o'.result = .error (.typeMismatch "int" "generic list") ∧ o.sink = o'.sink := by
  intro owned view body c o o'
  have hinner : Value.ListSimilar (.list [.int 1]) (.genericList ⟨1, fun _ => .int 1⟩) :=
    .list rfl rfl rfl fun i hi => by
      obtain rfl : i = 0 := Nat.lt_one_iff.mp hi
      exact .int 1
  have hvalue : Value.ListSimilar owned view := .list rfl rfl rfl fun i hi => by
    match i, hi with
    | 0, _ => exact hinner
    | 1, _ => exact .str "a"
  have hbody : (body owned).ListSimilar (body view) :=
    .cons (.output (.const hvalue)) (.cons (.output (.call "range" (.cons (.var trivial) .nil)))
      .nil)
  have hnew : Context.Rel Value.ListSimilar (Context.new .empty) (Context.new .empty) :=
    ⟨rfl, .cons (fun _ => .none) .nil⟩
  exact ⟨rfl, rfl, (Template.render_listSimilar hbody (hnew.define hvalue "xs") .empty).1⟩

end TextTemplate
