import TextTemplate.Proofs.RelationalRender
import TextTemplate.Proofs.TreeParts

/-! What a render depends on in its context. The names that the template reads are all it can tell
of the bindings, and the limit on scopes is all the same to it until it is reached. -/

namespace TextTemplate

theorem optionRel_eq_iff {α : Type} {x y : Option α} : Option.Rel Eq x y ↔ x = y := by
  constructor
  · intro h
    cases h with
    | none => rfl
    | some h => exact congrArg some h
  · rintro rfl
    cases x with
    | none => exact .none
    | some a => exact .some rfl

theorem ResultRel.eq {α : Type} {x y : Except EvalError α} (h : ResultRel Eq Eq x y) : x = y := by
  cases h with
  | ok h => exact congrArg Except.ok h
  | error h => exact congrArg Except.error h

theorem Value.bisimulation_eq (S : EvalError → Prop) : Bisimulation Eq S Eq where
  refl _ := rfl
  list h := congrArg Value.list (List.forall₂_eq_eq_eq ▸ h)
  ofBindings h := congrArg Value.ofBindings (Bindings.ext fun name => optionRel_eq_iff.mp (h name))
  alike := by
    rintro v _ rfl
    exact .refl (fun _ => rfl) (fun _ => rfl) v
  typeMismatch h _ := h ▸ rfl
  undefinedMethod h _ := h ▸ rfl

section reflexivity

variable {V : Value → Value → Prop} {N : String → Prop}

def Expr.ReadsOnly (N : String → Prop) (es : List Expr) : Prop :=
  ∀ name, .var name ∈ es → N name

theorem Expr.readsOnly_append {es fs : List Expr} :
    ReadsOnly N (es ++ fs) ↔ ReadsOnly N es ∧ ReadsOnly N fs := by
  simp only [ReadsOnly, List.mem_append, or_imp, forall_and]

-- The relations have one rule for each way to build a tree, so the recursion is on the tree, and
-- the names inside it are handed down with it.
mutual

theorem Expr.Rel.refl (hV : ∀ v, V v v) : ∀ e : Expr,
    Expr.ReadsOnly N e.subexprs → Expr.Rel V N e e
  | .const v, _ => .const (hV v)
  | .var name, h => .var (h name (List.mem_singleton_self _))
  | .attr object name, h => by
    obtain ⟨hobject, -⟩ := Expr.readsOnly_append.mp h
    exact .attr name (Expr.Rel.refl hV object hobject)
  | .index object position, h => by
    obtain ⟨hoperands, -⟩ := Expr.readsOnly_append.mp h
    obtain ⟨hobject, hposition⟩ := Expr.readsOnly_append.mp hoperands
    exact .index (Expr.Rel.refl hV object hobject) (Expr.Rel.refl hV position hposition)
  | .list items, h => by
    obtain ⟨hitems, -⟩ := Expr.readsOnly_append.mp h
    exact .list (Expr.AllRel.refl hV items hitems)
  | .not operand, h => by
    obtain ⟨hoperand, -⟩ := Expr.readsOnly_append.mp h
    exact .not (Expr.Rel.refl hV operand hoperand)
  | .call name args, h => by
    obtain ⟨hargs, -⟩ := Expr.readsOnly_append.mp h
    exact .call name (Expr.AllRel.refl hV args hargs)
  | .method object name args, h => by
    obtain ⟨hoperands, -⟩ := Expr.readsOnly_append.mp h
    obtain ⟨hobject, hargs⟩ := Expr.readsOnly_append.mp hoperands
    exact .method name (Expr.Rel.refl hV object hobject) (Expr.AllRel.refl hV args hargs)

theorem Expr.AllRel.refl (hV : ∀ v, V v v) : ∀ es : List Expr,
    Expr.ReadsOnly N (Expr.subexprsAll es) → Expr.AllRel V N es es
  | [], _ => .nil
  | e :: es, h => by
    obtain ⟨he, hes⟩ := Expr.readsOnly_append.mp h
    exact .cons (Expr.Rel.refl hV e he) (Expr.AllRel.refl hV es hes)

end

mutual

theorem Stmt.Rel.refl (hV : ∀ v, V v v) : ∀ s : Stmt,
    Expr.ReadsOnly N s.exprs → Stmt.Rel V N s s
  | .text s, _ => .text s
  | .output e, h => .output (Expr.Rel.refl hV e h)
  | .forLoop vars iterable body other, h => by
    obtain ⟨hinside, hother⟩ := Expr.readsOnly_append.mp h
    obtain ⟨hiterable, hbody⟩ := Expr.readsOnly_append.mp hinside
    exact .forLoop vars (Expr.Rel.refl hV iterable hiterable) (Stmt.AllRel.refl hV body hbody)
      (Stmt.ElseRel.refl hV other hother)
  | .ifChain cond body branches, h => by
    obtain ⟨hinside, hbranches⟩ := Expr.readsOnly_append.mp h
    obtain ⟨hcond, hbody⟩ := Expr.readsOnly_append.mp hinside
    exact .ifChain (Expr.Rel.refl hV cond hcond) (Stmt.AllRel.refl hV body hbody)
      (Stmt.BranchesRel.refl hV branches hbranches)
  | .assign names none, _ => .assignNone names
  | .assign names (some e), h => .assign names (Expr.Rel.refl hV e h)

theorem Stmt.AllRel.refl (hV : ∀ v, V v v) : ∀ ss : List Stmt,
    Expr.ReadsOnly N (Stmt.exprsAll ss) → Stmt.AllRel V N ss ss
  | [], _ => .nil
  | s :: ss, h => by
    obtain ⟨hs, hss⟩ := Expr.readsOnly_append.mp h
    exact .cons (Stmt.Rel.refl hV s hs) (Stmt.AllRel.refl hV ss hss)

theorem Stmt.ElseRel.refl (hV : ∀ v, V v v) : ∀ body : Option (List Stmt),
    Expr.ReadsOnly N (Stmt.exprsElse body) → Stmt.ElseRel V N body body
  | none, _ => .none
  | some body, h => .some (Stmt.AllRel.refl hV body h)

theorem Stmt.BranchesRel.refl (hV : ∀ v, V v v) : ∀ branches : List (BranchOf Stmt),
    Expr.ReadsOnly N (Stmt.exprsBranches branches) → Stmt.BranchesRel V N branches branches
  | [], _ => .nil
  | ⟨none, body⟩ :: rest, h => by
    obtain ⟨hbody, hrest⟩ := Expr.readsOnly_append.mp h
    exact .bare (Stmt.AllRel.refl hV body hbody) (Stmt.BranchesRel.refl hV rest hrest)
  | ⟨some cond, body⟩ :: rest, h => by
    obtain ⟨hinside, hrest⟩ := Expr.readsOnly_append.mp h
    obtain ⟨hcond, hbody⟩ := Expr.readsOnly_append.mp hinside
    exact .cond (Expr.Rel.refl hV cond hcond) (Stmt.AllRel.refl hV body hbody)
      (Stmt.BranchesRel.refl hV rest hrest)

end

end reflexivity

namespace Context

theorem lookup_new (globals : Scope) (name : String) :
    (new globals).lookup name = globals.get? name := by
  rw [lookup_eq]
  exact Option.or_none

/-- There is the same room for scopes, and some names mean the same. -/
structure Agree (N : String → Prop) (c c' : Context) : Prop where
  depth_eq : c.depth = c'.depth
  maxDepth_eq : c.maxDepth = c'.maxDepth
  lookup_eq : ∀ name, N name → c.lookup name = c'.lookup name

section agree

variable {N : String → Prop} {c c' c'' : Context}

theorem Agree.refl (N : String → Prop) (c : Context) : Agree N c c :=
  ⟨rfl, rfl, fun _ _ => rfl⟩

theorem Agree.symm (h : Agree N c c') : Agree N c' c :=
  ⟨h.depth_eq.symm, h.maxDepth_eq.symm, fun name hname => (h.lookup_eq name hname).symm⟩

theorem Agree.trans (h : Agree N c c') (k : Agree N c' c'') : Agree N c c'' :=
  ⟨h.depth_eq.trans k.depth_eq, h.maxDepth_eq.trans k.maxDepth_eq,
    fun name hname => (h.lookup_eq name hname).trans (k.lookup_eq name hname)⟩

theorem ChangesOnly.agree {names : List String} (h : ChangesOnly names c c') :
    Agree (fun name => name ∉ names) c c' where
  depth_eq := h.depth_eq.symm
  maxDepth_eq := h.maxDepth_eq.symm
  lookup_eq _ hname := (h.lookup_eq hname).symm

end agree

theorem Agree.enter {N : String → Prop} {c c' : Context} (h : Agree N c c') :
    (∃ opened opened', c.enter = .ok opened ∧ c'.enter = .ok opened' ∧ Agree N opened opened') ∨
      ∃ e, c.enter = .error e ∧ c'.enter = .error e := by
  refine (enter_alike h.depth_eq h.maxDepth_eq).imp_left fun ⟨opened, opened', he, he'⟩ => ?_
  refine ⟨opened, opened', he, he', ?_, ?_, fun name hname => ?_⟩
  · rw [depth_of_enter he, depth_of_enter he', h.depth_eq]
  · rw [maxDepth_of_enter he, maxDepth_of_enter he', h.maxDepth_eq]
  · rw [lookup_of_enter he, lookup_of_enter he', h.lookup_eq name hname]

theorem Agree.tracks (N : String → Prop) : Tracks Eq N (Agree N) where
  lookup h name hname := optionRel_eq_iff.mpr (h.lookup_eq name hname)
  define := by
    rintro c c' v _ h rfl name
    have hdefine := c.define_sameAround name v
    have hdefine' := c'.define_sameAround name v
    refine ⟨?_, ?_, fun other hother => ?_⟩
    · rw [hdefine.depth_eq, hdefine'.depth_eq, h.depth_eq]
    · rw [hdefine.maxDepth_eq, hdefine'.maxDepth_eq, h.maxDepth_eq]
    · rw [lookup_define, lookup_define, h.lookup_eq other hother]
  enter h := h.enter

theorem Agree.define {N : String → Prop} {c c' : Context} (h : Agree N c c') (name : String)
    (v : Value) : Agree N (c.define name v) (c'.define name v) :=
  (Agree.tracks N).define h rfl name

/-- The scopes are the same, and there may be more of them in the second context. -/
structure Widens (c c' : Context) : Prop where
  scopes_eq : c.scopes = c'.scopes
  maxDepth_le : c.maxDepth ≤ c'.maxDepth

theorem Widens.depth_eq {c c' : Context} (h : Widens c c') : c.depth = c'.depth := by
  rw [depth_eq_length, depth_eq_length, h.scopes_eq]

theorem Widens.enter {c c' : Context} (h : Widens c c') :
    EarlyResultRel (fun e => ∃ limit, e = .scopeDepthExceeded limit) Eq Widens
      c.enter c'.enter := by
  rcases Nat.lt_or_eq_of_le c.depth_le_maxDepth with hlt | hfull
  · have hlt' : c'.depth < c'.maxDepth := h.depth_eq ▸ Nat.lt_of_lt_of_le hlt h.maxDepth_le
    obtain ⟨opened, he⟩ := exists_enter hlt
    obtain ⟨opened', he'⟩ := exists_enter hlt'
    rw [he, he']
    refine .ok ⟨?_, ?_⟩
    · rw [(enter_eq_ok_iff.mp he).2.1, (enter_eq_ok_iff.mp he').2.1, h.scopes_eq]
    · rw [maxDepth_of_enter he, maxDepth_of_enter he']
      exact h.maxDepth_le
  · rw [enter_of_full hfull]
    exact .stop _ ⟨_, rfl⟩

theorem Widens.tracksEarly (N : String → Prop) :
    TracksEarly Eq N (fun e => ∃ limit, e = .scopeDepthExceeded limit) Eq Widens where
  lookup h name _ := by
    rw [optionRel_eq_iff, Context.lookup, Context.lookup, h.scopes_eq]
  define := by
    rintro c c' v _ h rfl name
    have hscopes := h.scopes_eq
    rw [scopes_eq_cons, scopes_eq_cons] at hscopes
    obtain ⟨hcurrent, houter⟩ := List.cons.inj hscopes
    refine ⟨?_, ?_⟩
    · rw [scopes_define, scopes_define, hcurrent, houter]
    · rw [(c.define_sameAround name v).maxDepth_eq, (c'.define_sameAround name v).maxDepth_eq]
      exact h.maxDepth_le
  enter h := h.enter

end Context

theorem Stmt.renderAll_alike {N : String → Prop} {body : Template}
    (hreads : Expr.ReadsOnly N (Stmt.exprsAll body)) :
    Rendering.Rel (Context.Agree N) Eq (Stmt.renderAll body) (Stmt.renderAll body) :=
  (Stmt.AllRel.refl (fun _ => rfl) body hreads).renderAll (Value.bisimulation_eq _)
    (Context.Agree.tracks N) fun _ => rfl

/-- A render depends only on the room for scopes and on what the names mean that it reads. -/
theorem Template.render_readNames (body : Template) :
    (∀ (c c' : Context) (sink : Sink), c.depth = c'.depth → c.maxDepth = c'.maxDepth →
      (∀ name, .var name ∈ Stmt.exprsAll body → c.lookup name = c'.lookup name) →
      let o := Stmt.renderAll body sink c
      let o' := Stmt.renderAll body sink c'
      o.sink = o'.sink ∧ o.result = o'.result ∧
        ∀ name, .var name ∈ Stmt.exprsAll body →
          o.context.lookup name = o'.context.lookup name) ∧
    ∀ params params' : Bindings Value,
      (∀ name, .var name ∈ Stmt.exprsAll body → params.get? name = params'.get? name) →
      body.renderWith params = body.renderWith params' := by
  have hself : Stmt.AllRel Eq (fun name => .var name ∈ Stmt.exprsAll body) body body :=
    Stmt.AllRel.refl (fun _ => rfl) body fun _ hname => hname
  have hrun := hself.renderAll (Value.bisimulation_eq _) (Context.Agree.tracks _) fun _ => rfl
  constructor
  · intro c c' sink hdepth hmax hlookup
    have h := hrun sink c c' ⟨hdepth, hmax, hlookup⟩
    exact ⟨h.sink_eq, h.result.eq, h.context.lookup_eq⟩
  · intro params params' hparams
    have hagree : (Context.new params).Agree (fun name => .var name ∈ Stmt.exprsAll body)
        (.new params') := by
      refine ⟨rfl, rfl, fun name hname => ?_⟩
      rw [Context.lookup_new, Context.lookup_new, hparams name hname]
    have h := hrun .empty _ _ hagree
    simp only [renderWith, renderText, h.sink_eq, h.result.eq]

theorem Template.render_readNames_shadowed :
    let body : Template :=
      [.forLoop ["x"] (.list [.var "x", .const (.str "b")]) [.output (.var "x")] none,
        .output (.var "x")]
    let c : Context := ⟨.ofList [("x", .str "a")], [.empty], 3, by decide⟩
    let c' : Context :=
      ⟨.ofList [("x", .int 0), ("y", .int 1)], [.ofList [("x", .str "a")]], 3, by decide⟩
    (Stmt.renderAll body .empty c).sink = .buffer "aba" ∧
      (Stmt.renderAll body .empty c').sink = .buffer "aba" := by
  intro body c c'
  have hread : ∀ name, .var name ∈ Stmt.exprsAll body → c.lookup name = c'.lookup name := by
    intro name hname
    obtain rfl : name = "x" := by
      simpa [body, Stmt.exprsAll, Stmt.exprs, Stmt.exprsElse, Expr.subexprs, Expr.subexprsAll]
        using hname
    rfl
  have h := (body.render_readNames).1 c c' .empty rfl rfl hread
  have hsink : (Stmt.renderAll body .empty c).sink = .buffer "aba" := by decide
  exact ⟨hsink, h.1.symm.trans hsink⟩

/-- A render that the limit does not stop goes the same way under any greater one, and one that is
stopped has written the beginning of what it then writes. -/
theorem Template.render_widerLimit (body : Template) {c c' : Context}
    (hscopes : c.scopes = c'.scopes) (hlimit : c.maxDepth ≤ c'.maxDepth) :
    let e := body.effect c
    let e' := body.effect c'
    ((∀ limit, e.result ≠ .error (.scopeDepthExceeded limit)) →
        e'.text = e.text ∧ e'.result = e.result ∧ e'.context.scopes = e.context.scopes) ∧
      ∀ limit, e.result = .error (.scopeDepthExceeded limit) →
        ∃ more, e'.text = e.text ++ more := by
  intro e e'
  have hself : Stmt.AllRel Eq (fun _ => True) body body :=
    Stmt.AllRel.refl (fun _ => rfl) body fun _ _ => trivial
  have hrun := hself.effect_stops (Value.bisimulation_eq _) (Context.Widens.tracksEarly _)
    (fun _ => rfl) ⟨hscopes, hlimit⟩
  rcases hrun with ⟨htext, hresult, hcontext⟩ | ⟨_, more, ⟨limit, rfl⟩, hstop, htext⟩
  · refine ⟨fun _ => ⟨htext.symm, hresult.eq.symm, hcontext.scopes_eq.symm⟩, fun _ _ => ⟨"", ?_⟩⟩
    rw [String.append_empty]
    exact htext.symm
  · exact ⟨fun hne => absurd hstop (hne limit), fun _ _ => ⟨more, htext⟩⟩

theorem Template.render_widerLimit_nested :
    let inner : Stmt := .forLoop ["y"] (.const (.list [.int 1])) [.text "b"] none
    let body : Template := [.forLoop ["x"] (.const (.list [.int 1])) [.text "a", inner] none]
    let c (limit : Nat) : Context := .ofGlobals .empty limit
    let e (limit : Nat) := body.effect (c limit)
    (e 2).result = .error (.scopeDepthExceeded 2) ∧ (∃ more, (e 3).text = (e 2).text ++ more) ∧
      (e 3).result = .ok () ∧ (e 4).text = (e 3).text := by
  intro inner body c e
  have hstopped : (e 2).result = .error (.scopeDepthExceeded 2) := rfl
  have hended : (e 3).result = .ok () := rfl
  have hscopes (m n : Nat) : (c m).scopes = (c n).scopes := rfl
  have hthree : (c 2).maxDepth ≤ (c 3).maxDepth := by decide
  have hfour : (c 3).maxDepth ≤ (c 4).maxDepth := by decide
  have hbegun := (body.render_widerLimit (hscopes 2 3) hthree).2 2 hstopped
  have hsame := (body.render_widerLimit (hscopes 3 4) hfour).1 fun limit h => by
    cases hended.symm.trans h
  exact ⟨hstopped, hbegun, hended, hsame.1⟩

end TextTemplate
