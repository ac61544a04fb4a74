import TextTemplate.Proofs.RangeItems
import TextTemplate.Proofs.ValueInvariant
import TextTemplate.Proofs.ValueEquality

/-! Templates that cannot fail. Only a lazy map can refuse an entry, so where there is none inside
any value, and calls are ranges over fixed numbers, the scope limit is all that can end a render. -/

namespace TextTemplate

namespace Value

def MapsOwned (v : Value) : Prop :=
  ∀ w, v.Reaches w → ∀ view, w ≠ .genericMap view

theorem mapsOwned_iff {v : Value} : v.MapsOwned ↔ (∀ view, v ≠ .genericMap view) ∧
    (∀ i < v.items.size, (v.items.item i).MapsOwned) ∧
      ∀ name ∈ v.keys, ∀ x, v.subscript name = .ok x → x.MapsOwned :=
  forall_reaches_iff

theorem mapsOwned_of_scalar {v : Value} (hl : v.isList = false) (hm : v.isMap = false) :
    v.MapsOwned :=
  forall_reaches_of_scalar (ne_genericMap_of_not_isMap hm) hl hm

theorem mapsOwned_of_isList {v : Value} (hv : v.isList)
    (h : ∀ i < v.items.size, (v.items.item i).MapsOwned) : v.MapsOwned :=
  forall_reaches_of_isList (ne_genericMap_of_not_isMap (isMap_of_isList hv)) hv h

theorem mapsOwned_map {entries : List (String × Value)}
    (h : ∀ name x, Entries.get? entries name = some x → x.MapsOwned) :
    (Value.map entries).MapsOwned := by
  refine forall_reaches_of_isMap (fun _ => Value.noConfusion) rfl fun name hname x hx => ?_
  obtain ⟨y, hy, hsub⟩ := exists_entry hname
  obtain rfl : y = x := Except.ok.inj (hsub.symm.trans hx)
  exact h name y hy

theorem MapsOwned.subscript {v : Value} (h : v.MapsOwned) (name : String) :
    Yields MapsOwned (fun _ => False) (v.subscript name) := by
  cases v with
  | genericMap view => exact absurd rfl (h _ (.refl _) view)
  | map entries =>
    by_cases hname : name ∈ keys (.map entries)
    · obtain ⟨x, _, hsub⟩ := exists_entry hname
      rw [hsub]
      exact .ok ((mapsOwned_iff.mp h).2.2 name hname x hsub)
    · rw [mem_keys_map, Decidable.not_not] at hname
      rw [Value.subscript, hname]
      exact .ok (mapsOwned_of_scalar rfl rfl)
  | _ => exact .ok (mapsOwned_of_scalar rfl rfl)

theorem mapsOwned_hereditary : Hereditary MapsOwned fun _ => False where
  scalar _ hl hm := mapsOwned_of_scalar hl hm
  list _ hv h := mapsOwned_of_isList hv h
  map _ h := mapsOwned_map h
  item h := (mapsOwned_iff.mp h).2.1
  subscript h := h.subscript

end Value

theorem Expr.evalAll_map_int (env : Env) (ns : List Int64) :
    Expr.evalAll env (ns.map Expr.int) = .ok (ns.map .int) := by
  induction ns with
  | nil => rfl
  | cons n ns ih =>
    rw [List.map_cons, Expr.evalAll, ih]
    rfl

/-- There are no methods, the only calls are ranges over fixed numbers, and no constant holds a lazy
map. -/
structure Template.Safe (body : Template) : Prop where
  method : ∀ object name args, Expr.method object name args ∉ Stmt.exprsAll body
  call : ∀ name args, Expr.call name args ∈ Stmt.exprsAll body →
    name = "range" ∧ ∃ ns : List Int64,
      args = ns.map Expr.int ∧ 1 ≤ ns.length ∧ ns.length ≤ 3 ∧ ns[2]? ≠ some 0
  const : ∀ v, Expr.const v ∈ Stmt.exprsAll body → v.MapsOwned

theorem Template.Safe.fits {body : Template} (h : body.Safe) :
    ∀ e ∈ Stmt.exprsAll body, e.Fits Value.MapsOwned fun _ => False := by
  intro e he
  cases e with
  | const v => exact h.const v he
  | method object name args => exact absurd he (h.method object name args)
  | call name args =>
    obtain ⟨rfl, ns, rfl, hmin, hmax, hstep⟩ := h.call name args he
    intro env vs heval _
    obtain rfl : ns.map .int = vs := Except.ok.inj ((Expr.evalAll_map_int env ns).symm.trans heval)
    obtain ⟨p, hp⟩ := Value.exists_range hmin hmax hstep
    rw [Value.callFunction, if_pos rfl, hp]
    exact .ok (Value.mapsOwned_hereditary.progression p)
  | _ => trivial

/-- A safe template, where no binding holds a lazy map, can fail by the scope limit alone. -/
theorem Template.render_safe {body : Template} (hbody : body.Safe) {c : Context}
    (hc : c.All Value.MapsOwned) (sink : Sink) :
    let o := Stmt.renderAll body sink c
    (∀ e, o.result = .error e → e = .scopeDepthExceeded c.maxDepth) ∧
      o.context.All Value.MapsOwned ∧
      (c.depth + Stmt.nestingAll body ≤ c.maxDepth → o.result = .ok ()) := by
  intro o
  have h : o.Keeps Value.MapsOwned (fun _ => False) (Stmt.nestingAll body) c :=
    Stmt.renderAll_keeps Value.mapsOwned_hereditary body hbody.fits sink c hc
  have hlimit (e : EvalError) (he : o.result = .error e) :
      e = .scopeDepthExceeded c.maxDepth ∧ c.maxDepth < c.depth + Stmt.nestingAll body :=
    (h.error e he).resolve_left not_false
  refine ⟨fun e he => (hlimit e he).1, h.all, fun hroom => ?_⟩
  cases hresult : o.result with
  | ok _ => rfl
  | error e => exact absurd (hlimit e hresult).2 (Nat.not_lt_of_le hroom)

theorem Template.render_safe_nested :
    let countdown : List Expr := [.int 3, .int 0, .int (-2)]
    let inner : Stmt := .forLoop ["j"] (.call "range" countdown) [.output (.var "j")] none
    let body : Template := [.forLoop ["a", "b"] (.var "rows")
      [.output (.attr (.attr (.var "loop") "previtem") "c"), .output (.var "a"), inner] none]
    let rows : Value := .list [.map [("a", .str "x")], .empty]
    let c (limit : Nat) := (Context.ofGlobals .empty limit).define "rows" rows
    (Stmt.renderAll body .empty (c 3)).result = .ok () ∧
      ∀ e, (Stmt.renderAll body .empty (c 2)).result = .error e → e = .scopeDepthExceeded 2 := by
  intro countdown inner body rows c
  have hscalar (v : Value) (hl : v.isList = false) (hm : v.isMap = false) : v.MapsOwned :=
    Value.mapsOwned_of_scalar hl hm
  have hexprs : Stmt.exprsAll body = [.var "rows", .var "loop", .attr (.var "loop") "previtem",
      .attr (.attr (.var "loop") "previtem") "c", .var "a", .int 3, .int 0, .int (-2),
      .call "range" countdown, .var "j"] := rfl
  have hbody : body.Safe := by
    refine ⟨fun object name args h => ?_, fun name args h => ?_, fun v h => ?_⟩
    · simp [hexprs, Expr.int] at h
    · have hcall : name = "range" ∧ args = countdown := by simpa [hexprs, Expr.int] using h
      exact ⟨hcall.1, [3, 0, -2], hcall.2, by decide, by decide, by decide⟩
    · have hint : v = .int 3 ∨ v = .int 0 ∨ v = .int (-2) := by simpa [hexprs, Expr.int] using h
      rcases hint with rfl | rfl | rfl
      · exact hscalar _ rfl rfl
      · exact hscalar _ rfl rfl
      · exact hscalar _ rfl rfl
  have hmap : (Value.map [("a", .str "x")]).MapsOwned := by
    refine Value.mapsOwned_map fun name x hx => ?_
    obtain ⟨-, rfl⟩ := Prod.ext_iff.mp (List.mem_singleton.mp (Entries.mem_of_get? hx))
    exact hscalar _ rfl rfl
  have hrows : rows.MapsOwned := by
    have hrow : ∀ v ∈ [.map [("a", .str "x")], Value.empty], v.MapsOwned :=
      List.forall_mem_cons.mpr ⟨hmap, List.forall_mem_singleton.mpr (hscalar _ rfl rfl)⟩
    exact Value.mapsOwned_hereditary.ownedList hrow
  have hc (limit : Nat) : (c limit).All Value.MapsOwned := by
    refine Context.All.define (fun s hs name v hv => ?_) hrows "rows"
    obtain rfl := List.mem_singleton.mp hs
    cases hv
  exact ⟨(Template.render_safe hbody (hc 3) .empty).2.2 (by decide),
    (Template.render_safe hbody (hc 2) .empty).1⟩

end TextTemplate
