import TextTemplate.Proofs.ListSimilarity
import TextTemplate.Proofs.TreeParts
import TextTemplate.Proofs.ValueEquality
import TextTemplate.Tree.Equality

/-! Equality of trees as a relation: the same shape and names, and constants that are equal values.
Equal values can still be told apart by the sign of a zero, and by what a lazy map answers for names
that it does not list. Where no constant has these inside, equal templates render alike. -/

namespace TextTemplate

-- The recursion is on the first tree. A second tree of another kind is not equal to it.
mutual

theorem Expr.rel_of_equals : ∀ {e f : Expr}, e.equals f = true →
    Expr.Rel Value.Equal (fun _ => True) e f
  | .const v, f, h => by
    cases f with
    | const w => exact .const (Value.equals_iff_equal.mp h)
    | _ => cases h
  | .var a, f, h => by
    cases f with
    | var b =>
      obtain rfl : a = b := beq_iff_eq.mp h
      exact .var trivial
    | _ => cases h
  | .attr e a, f, h => by
    cases f with
    | attr f b =>
      obtain ⟨hobject, hname⟩ := Bool.and_eq_true_iff.mp h
      obtain rfl : a = b := beq_iff_eq.mp hname
      exact .attr a (Expr.rel_of_equals hobject)
    | _ => cases h
  | .index e i, f, h => by
    cases f with
    | index f j =>
      obtain ⟨hobject, hposition⟩ := Bool.and_eq_true_iff.mp h
      exact .index (Expr.rel_of_equals hobject) (Expr.rel_of_equals hposition)
    | _ => cases h
  | .list es, f, h => by
    cases f with
    | list fs => exact .list (Expr.allRel_of_allEqual h)
    | _ => cases h
  | .not e, f, h => by
    cases f with
    | not f => exact .not (Expr.rel_of_equals h)
    | _ => cases h
  | .call a es, f, h => by
    cases f with
    | call b fs =>
      obtain ⟨hname, hargs⟩ := Bool.and_eq_true_iff.mp h
      obtain rfl : a = b := beq_iff_eq.mp hname
      exact .call a (Expr.allRel_of_allEqual hargs)
    | _ => cases h
  | .method e a es, f, h => by
    cases f with
    | method f b fs =>
      obtain ⟨hhead, hargs⟩ := Bool.and_eq_true_iff.mp h
      obtain ⟨hobject, hname⟩ := Bool.and_eq_true_iff.mp hhead
      obtain rfl : a = b := beq_iff_eq.mp hname
      exact .method a (Expr.rel_of_equals hobject) (Expr.allRel_of_allEqual hargs)
    | _ => cases h

theorem Expr.allRel_of_allEqual : ∀ {es fs : List Expr}, Expr.allEqual es fs = true →
    Expr.AllRel Value.Equal (fun _ => True) es fs
  | [], [], _ => .nil
  | [], _ :: _, h => by cases h
  | _ :: _, [], h => by cases h
  | _ :: _, _ :: _, h => by
    obtain ⟨hfirst, hrest⟩ := Bool.and_eq_true_iff.mp h
    exact .cons (Expr.rel_of_equals hfirst) (Expr.allRel_of_allEqual hrest)

end

mutual

theorem Stmt.rel_of_equals : ∀ {s t : Stmt}, s.equals t = true →
    Stmt.Rel Value.Equal (fun _ => True) s t
  | .text a, t, h => by
    cases t with
    | text b =>
      obtain rfl : a = b := beq_iff_eq.mp h
      exact .text a
    | _ => cases h
  | .output e, t, h => by
    cases t with
    | output f => exact .output (Expr.rel_of_equals h)
    | _ => cases h
  | .forLoop vars iterable body other, t, h => by
    cases t with
    | forLoop vars' iterable' body' other' =>
      obtain ⟨hinside, hother⟩ := Bool.and_eq_true_iff.mp h
      obtain ⟨hhead, hbody⟩ := Bool.and_eq_true_iff.mp hinside
      obtain ⟨hvars, hiterable⟩ := Bool.and_eq_true_iff.mp hhead
      obtain rfl : vars = vars' := beq_iff_eq.mp hvars
      exact .forLoop vars (Expr.rel_of_equals hiterable) (Stmt.allRel_of_allEqual hbody)
        (Stmt.elseRel_of_elseEquals hother)
    | _ => cases h
  | .ifChain cond body branches, t, h => by
    cases t with
    | ifChain cond' body' branches' =>
      obtain ⟨hinside, hbranches⟩ := Bool.and_eq_true_iff.mp h
      obtain ⟨hcond, hbody⟩ := Bool.and_eq_true_iff.mp hinside
      exact .ifChain (Expr.rel_of_equals hcond) (Stmt.allRel_of_allEqual hbody)
        (Stmt.branchesRel_of_branchesEqual hbranches)
    | _ => cases h
  | .assign names value, t, h => by
    cases t with
    | assign names' value' =>
      obtain ⟨hnames, hvalue⟩ := Bool.and_eq_true_iff.mp h
      obtain rfl : names = names' := beq_iff_eq.mp hnames
      match value, value', hvalue with
      | none, none, _ => exact .assignNone names
      | some _, some _, hvalue => exact .assign names (Expr.rel_of_equals hvalue)
    | _ => cases h

theorem Stmt.allRel_of_allEqual : ∀ {ss ts : List Stmt}, Stmt.allEqual ss ts = true →
    Stmt.AllRel Value.Equal (fun _ => True) ss ts
  | [], [], _ => .nil
  | [], _ :: _, h => by cases h
  | _ :: _, [], h => by cases h
  | _ :: _, _ :: _, h => by
    obtain ⟨hfirst, hrest⟩ := Bool.and_eq_true_iff.mp h
    exact .cons (Stmt.rel_of_equals hfirst) (Stmt.allRel_of_allEqual hrest)

theorem Stmt.elseRel_of_elseEquals : ∀ {body body' : Option (List Stmt)},
    Stmt.elseEquals body body' = true → Stmt.ElseRel Value.Equal (fun _ => True) body body'
  | none, none, _ => .none
  | none, some _, h => by cases h
  | some _, none, h => by cases h
  | some _, some _, h => .some (Stmt.allRel_of_allEqual h)

theorem Stmt.branchesRel_of_branchesEqual : ∀ {bs bs' : List (BranchOf Stmt)},
    Stmt.branchesEqual bs bs' = true → Stmt.BranchesRel Value.Equal (fun _ => True) bs bs'
  | [], [], _ => .nil
  | [], _ :: _, h => by cases h
  | _ :: _, [], h => by cases h
  | ⟨cond, body⟩ :: rest, ⟨cond', body'⟩ :: rest', h => by
    obtain ⟨hinside, hrest⟩ := Bool.and_eq_true_iff.mp h
    obtain ⟨hcond, hbody⟩ := Bool.and_eq_true_iff.mp hinside
    have hbodies := Stmt.allRel_of_allEqual hbody
    have hbranches := Stmt.branchesRel_of_branchesEqual hrest
    match cond, cond', hcond with
    | none, none, _ => exact .bare hbodies hbranches
    | some _, some _, hcond => exact .cond (Expr.rel_of_equals hcond) hbodies hbranches

end

section guarded

variable {V W : Value → Value → Prop} {N : String → Prop} {P : Value → Prop}

def Expr.ConstantsAre (P : Value → Prop) (es : List Expr) : Prop :=
  ∀ v, .const v ∈ es → P v

theorem Expr.constantsAre_append {es fs : List Expr} :
    ConstantsAre P (es ++ fs) ↔ ConstantsAre P es ∧ ConstantsAre P fs := by
  simp only [ConstantsAre, List.mem_append, or_imp, forall_and]

-- Where related constants with a property are related in another way too, so are the trees. The
-- property is handed down to the parts of both trees along the derivation.
mutual

theorem Expr.Rel.guarded (hVW : ∀ v w, V v w → P v → P w → W v w) :
    ∀ {e f : Expr}, Expr.Rel V N e f → Expr.ConstantsAre P e.subexprs →
      Expr.ConstantsAre P f.subexprs → Expr.Rel W N e f
  | .const v, .const w, .const h, he, hf => by
    have hv : P v := he v (List.mem_singleton_self _)
    have hw : P w := hf w (List.mem_singleton_self _)
    exact .const (hVW v w h hv hw)
  | _, _, .var hname, _, _ => .var hname
  | _, _, .attr name h, he, hf => by
    obtain ⟨hobject, -⟩ := Expr.constantsAre_append.mp he
    obtain ⟨hobject', -⟩ := Expr.constantsAre_append.mp hf
    exact .attr name (h.guarded hVW hobject hobject')
  | _, _, .index h k, he, hf => by
    obtain ⟨hoperands, -⟩ := Expr.constantsAre_append.mp he
    obtain ⟨hoperands', -⟩ := Expr.constantsAre_append.mp hf
    obtain ⟨hobject, hposition⟩ := Expr.constantsAre_append.mp hoperands
    obtain ⟨hobject', hposition'⟩ := Expr.constantsAre_append.mp hoperands'
    exact .index (h.guarded hVW hobject hobject') (k.guarded hVW hposition hposition')
  | _, _, .list h, he, hf => by
    obtain ⟨hitems, -⟩ := Expr.constantsAre_append.mp he
    obtain ⟨hitems', -⟩ := Expr.constantsAre_append.mp hf
    exact .list (h.guarded hVW hitems hitems')
  | _, _, .not h, he, hf => by
    obtain ⟨hoperand, -⟩ := Expr.constantsAre_append.mp he
    obtain ⟨hoperand', -⟩ := Expr.constantsAre_append.mp hf
    exact .not (h.guarded hVW hoperand hoperand')
  | _, _, .call name h, he, hf => by
    obtain ⟨hargs, -⟩ := Expr.constantsAre_append.mp he
    obtain ⟨hargs', -⟩ := Expr.constantsAre_append.mp hf
    exact .call name (h.guarded hVW hargs hargs')
  | _, _, .method name h hs, he, hf => by
    obtain ⟨hoperands, -⟩ := Expr.constantsAre_append.mp he
    obtain ⟨hoperands', -⟩ := Expr.constantsAre_append.mp hf
    obtain ⟨hobject, hargs⟩ := Expr.constantsAre_append.mp hoperands
    obtain ⟨hobject', hargs'⟩ := Expr.constantsAre_append.mp hoperands'
    exact .method name (h.guarded hVW hobject hobject') (hs.guarded hVW hargs hargs')

theorem Expr.AllRel.guarded (hVW : ∀ v w, V v w → P v → P w → W v w) :
    ∀ {es fs : List Expr}, Expr.AllRel V N es fs → Expr.ConstantsAre P (Expr.subexprsAll es) →
      Expr.ConstantsAre P (Expr.subexprsAll fs) → Expr.AllRel W N es fs
  | _, _, .nil, _, _ => .nil
  | _, _, .cons h hs, hes, hfs => by
    obtain ⟨hfirst, hrest⟩ := Expr.constantsAre_append.mp hes
    obtain ⟨hfirst', hrest'⟩ := Expr.constantsAre_append.mp hfs
    exact .cons (h.guarded hVW hfirst hfirst') (hs.guarded hVW hrest hrest')

end

mutual

theorem Stmt.Rel.guarded (hVW : ∀ v w, V v w → P v → P w → W v w) :
    ∀ {s t : Stmt}, Stmt.Rel V N s t → Expr.ConstantsAre P s.exprs →
      Expr.ConstantsAre P t.exprs → Stmt.Rel W N s t
  | _, _, .text s, _, _ => .text s
  | _, _, .output h, hs, ht => .output (h.guarded hVW hs ht)
  | _, _, .forLoop vars h hbody hother, hs, ht => by
    obtain ⟨hinside, helse⟩ := Expr.constantsAre_append.mp hs
    obtain ⟨hinside', helse'⟩ := Expr.constantsAre_append.mp ht
    obtain ⟨hiterable, hloop⟩ := Expr.constantsAre_append.mp hinside
    obtain ⟨hiterable', hloop'⟩ := Expr.constantsAre_append.mp hinside'
    exact .forLoop vars (h.guarded hVW hiterable hiterable') (hbody.guarded hVW hloop hloop')
      (hother.guarded hVW helse helse')
  | _, _, .ifChain h hbody hbranches, hs, ht => by
    obtain ⟨hinside, hrest⟩ := Expr.constantsAre_append.mp hs
    obtain ⟨hinside', hrest'⟩ := Expr.constantsAre_append.mp ht
    obtain ⟨hcond, hthen⟩ := Expr.constantsAre_append.mp hinside
    obtain ⟨hcond', hthen'⟩ := Expr.constantsAre_append.mp hinside'
    exact .ifChain (h.guarded hVW hcond hcond') (hbody.guarded hVW hthen hthen')
      (hbranches.guarded hVW hrest hrest')
  | _, _, .assignNone names, _, _ => .assignNone names
  | _, _, .assign names h, hs, ht => .assign names (h.guarded hVW hs ht)

theorem Stmt.AllRel.guarded (hVW : ∀ v w, V v w → P v → P w → W v w) :
    ∀ {ss ts : List Stmt}, Stmt.AllRel V N ss ts → Expr.ConstantsAre P (Stmt.exprsAll ss) →
      Expr.ConstantsAre P (Stmt.exprsAll ts) → Stmt.AllRel W N ss ts
  | _, _, .nil, _, _ => .nil
  | _, _, .cons h hs, hss, hts => by
    obtain ⟨hfirst, hrest⟩ := Expr.constantsAre_append.mp hss
    obtain ⟨hfirst', hrest'⟩ := Expr.constantsAre_append.mp hts
    exact .cons (h.guarded hVW hfirst hfirst') (hs.guarded hVW hrest hrest')

theorem Stmt.ElseRel.guarded (hVW : ∀ v w, V v w → P v → P w → W v w) :
    ∀ {body body' : Option (List Stmt)}, Stmt.ElseRel V N body body' →
      Expr.ConstantsAre P (Stmt.exprsElse body) → Expr.ConstantsAre P (Stmt.exprsElse body') →
        Stmt.ElseRel W N body body'
  | _, _, .none, _, _ => .none
  | _, _, .some h, hbody, hbody' => .some (h.guarded hVW hbody hbody')

theorem Stmt.BranchesRel.guarded (hVW : ∀ v w, V v w → P v → P w → W v w) :
    ∀ {bs bs' : List (BranchOf Stmt)}, Stmt.BranchesRel V N bs bs' →
      Expr.ConstantsAre P (Stmt.exprsBranches bs) → Expr.ConstantsAre P (Stmt.exprsBranches bs') →
        Stmt.BranchesRel W N bs bs'
  | _, _, .nil, _, _ => .nil
  | _, _, .bare h hs, hbs, hbs' => by
    obtain ⟨hbody, hrest⟩ := Expr.constantsAre_append.mp hbs
    obtain ⟨hbody', hrest'⟩ := Expr.constantsAre_append.mp hbs'
    exact .bare (h.guarded hVW hbody hbody') (hs.guarded hVW hrest hrest')
  | _, _, .cond hcond h hs, hbs, hbs' => by
    obtain ⟨hinside, hrest⟩ := Expr.constantsAre_append.mp hbs
    obtain ⟨hinside', hrest'⟩ := Expr.constantsAre_append.mp hbs'
    obtain ⟨hc, hbody⟩ := Expr.constantsAre_append.mp hinside
    obtain ⟨hc', hbody'⟩ := Expr.constantsAre_append.mp hinside'
    exact .cond (hcond.guarded hVW hc hc') (h.guarded hVW hbody hbody')
      (hs.guarded hVW hrest hrest')

end

end guarded

namespace Value

/-- Neither a lazy map nor a negative zero is inside the value. -/
def Definite (v : Value) : Prop :=
  ∀ w, v.Reaches w → (∀ view, w ≠ .genericMap view) ∧ w ≠ .float .negZero

theorem definite_iff {v : Value} : v.Definite ↔
    ((∀ view, v ≠ .genericMap view) ∧ v ≠ .float .negZero) ∧
      (∀ i < v.items.size, (v.items.item i).Definite) ∧
        ∀ name ∈ v.keys, ∀ x, v.subscript name = .ok x → x.Definite :=
  forall_reaches_iff

theorem Equal.listSimilar {v w : Value} (h : Equal v w) (hv : v.Definite) (hw : w.Definite) :
    ListSimilar v w := by
  induction h with
  | empty => exact .empty
  | bool b => exact .bool b
  | int n => exact .int n
  | str s => exact .str s
  | @float x y h =>
    have hx : x ≠ .negZero := fun hzero => (definite_iff.mp hv).1.2 (congrArg Value.float hzero)
    have hy : y ≠ .negZero := fun hzero => (definite_iff.mp hw).1.2 (congrArg Value.float hzero)
    obtain rfl : x = y := Binary64.eq_of_equals h hx hy
    exact .float x
  | @list v w hvl hwl hsize _ ih =>
    have hvi := (definite_iff.mp hv).2.1
    have hwi := (definite_iff.mp hw).2.1
    exact .list hvl hwl hsize fun i hi => ih i hi (hvi i hi) (hwi i (hsize ▸ hi))
  | @map v w hvm hwm hkeys _ _ _ ih =>
    obtain ⟨⟨hvlazy, -⟩, -, hventry⟩ := definite_iff.mp hv
    obtain ⟨⟨hwlazy, -⟩, -, hwentry⟩ := definite_iff.mp hw
    -- Neither map is lazy, so what they answer for a key is the entry of it.
    cases v with
    | map es =>
      cases w with
      | map fs =>
        refine .map hkeys fun name x y hx hy => ?_
        have hname : name ∈ keys (.map es) :=
          mem_keys_map.mpr (hx ▸ Option.some_ne_none x)
        have hxs : subscript (.map es) name = .ok x := by rw [subscript, hx, Option.getD_some]
        have hys : subscript (.map fs) name = .ok y := by rw [subscript, hy, Option.getD_some]
        have hname' : name ∈ keys (.map fs) := hkeys ▸ hname
        exact ih name hname x y hxs hys (hventry name hname x hxs) (hwentry name hname' y hys)
      | genericMap view => exact absurd rfl (hwlazy view)
      | _ => cases hwm
    | genericMap view => exact absurd rfl (hvlazy view)
    | _ => cases hvm

theorem definite_of_scalar {v : Value} (hl : v.isList = false) (hm : v.isMap = false)
    (hzero : v ≠ .float .negZero) : v.Definite :=
  forall_reaches_of_scalar ⟨ne_genericMap_of_not_isMap hm, hzero⟩ hl hm

theorem definite_of_isList {v : Value} (hv : v.isList)
    (h : ∀ i < v.items.size, (v.items.item i).Definite) : v.Definite := by
  refine forall_reaches_of_isList ⟨ne_genericMap_of_not_isMap (isMap_of_isList hv), ?_⟩ hv h
  rintro rfl
  cases hv

end Value

/-- Equal templates render alike in every context, if their constants hold neither a lazy map nor a
negative zero. -/
theorem Template.render_equal {a b : Template} (hequal : Stmt.allEqual a b = true)
    (ha : ∀ v, .const v ∈ Stmt.exprsAll a → v.Definite)
    (hb : ∀ v, .const v ∈ Stmt.exprsAll b → v.Definite) (c : Context) (sink : Sink) :
    let o := Stmt.renderAll a sink c
    let o' := Stmt.renderAll b sink c
    o.sink = o'.sink ∧ ResultRel EvalError.ListSimilar Eq o.result o'.result ∧
      Context.Rel Value.ListSimilar o.context o'.context := by
  have htrees : Stmt.AllRel Value.ListSimilar (fun _ => True) a b :=
    (Stmt.allRel_of_allEqual hequal).guarded (fun _ _ h hv hw => h.listSimilar hv hw) ha hb
  have htracks := Context.Rel.tracks Value.ListSimilar fun _ => True
  have hself : Context.Rel Value.ListSimilar c c := .refl Value.ListSimilar.refl c
  have h := htrees.renderAll Value.ListSimilar.congruence htracks .same sink c c hself
  exact ⟨h.sink_eq, h.result, h.context⟩

theorem Template.render_equal_lazyList :
    let owned := Value.list [.float .zero, .list [.int 1]]
    let view := Value.genericList ⟨2, fun i => if i = 0 then .float .zero else .list [.int 1]⟩
    let body (v : Value) : Template := [.output (.const v),
      .assign ["pair"] (some (.list [.const v, .var "x"])), .output (.call "range" [.const v])]
    let c := (Context.new .empty).define "x" (.float ⟨0x7ff8000000000000⟩)
    let o := Stmt.renderAll (body owned) .empty c
    let o' := Stmt.renderAll (body view) .empty c
    Stmt.allEqual (body owned) (body view) = true ∧
      o.result = .error (.typeMismatch "int" "list") ∧
      o'.result = .error (.typeMismatch "int" "generic list") ∧ o.sink = o'.sink ∧
      Context.Rel Value.ListSimilar o.context o'.context := by
  intro owned view body c o o'
  have hint : (Value.int 1).Definite := Value.definite_of_scalar rfl rfl nofun
  have hzero : (Value.float .zero).Definite :=
    Value.definite_of_scalar rfl rfl fun h => absurd (Value.float.inj h) (by decide)
  have hinner : (Value.list [.int 1]).Definite := by
    refine Value.definite_of_isList rfl fun i hi => ?_
    obtain rfl : i = 0 := Nat.lt_one_iff.mp hi
    exact hint
  have howned : owned.Definite := by
    refine Value.definite_of_isList rfl fun i hi => ?_
    match i, hi with
    | 0, _ => exact hzero
    | 1, _ => exact hinner
  have hview : view.Definite := by
    refine Value.definite_of_isList rfl fun i hi => ?_
    match i, hi with
    | 0, _ => exact hzero
    | 1, _ => exact hinner
  have hconstants {u : Value} (hu : u.Definite) :
      ∀ v, .const v ∈ Stmt.exprsAll (body u) → v.Definite := by
    intro v hv
    obtain rfl : v = u := by
      simpa [body, Stmt.exprsAll, Stmt.exprs, Expr.subexprs, Expr.subexprsAll] using hv
    exact hu
  have hequal : Stmt.allEqual (body owned) (body view) = true := by decide
  have hrun := Template.render_equal hequal (hconstants howned) (hconstants hview) c .empty
  exact ⟨hequal, rfl, rfl, hrun.1, hrun.2.2⟩

end TextTemplate
