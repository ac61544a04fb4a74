import TextTemplate.Proofs.ContextDependence
import TextTemplate.Proofs.TreeEquality

/-! Equality of trees is a partial equivalence, because equality of their constants is one. A tree
fails to be equal to itself just when a constant somewhere in it does, so whenever a NaN or a key
that cannot be read is inside one of its constants. -/

namespace TextTemplate

section relatedTrees

variable {V : Value → Value → Prop} {N : String → Prop}

-- What the constants are related by decides; the rest of two related trees is the same. Hence each
-- law of the relation of the constants is handed up along the derivation.
mutual

theorem Expr.Rel.symm (hV : ∀ v w, V v w → V w v) :
    ∀ {e f : Expr}, Expr.Rel V N e f → Expr.Rel V N f e
  | _, _, .const h => .const (hV _ _ h)
  | _, _, .var hname => .var hname
  | _, _, .attr name h => .attr name (h.symm hV)
  | _, _, .index h k => .index (h.symm hV) (k.symm hV)
  | _, _, .list h => .list (h.symm hV)
  | _, _, .not h => .not (h.symm hV)
  | _, _, .call name h => .call name (h.symm hV)
  | _, _, .method name h hs => .method name (h.symm hV) (hs.symm hV)

theorem Expr.AllRel.symm (hV : ∀ v w, V v w → V w v) :
    ∀ {es fs : List Expr}, Expr.AllRel V N es fs → Expr.AllRel V N fs es
  | _, _, .nil => .nil
  | _, _, .cons h hs => .cons (h.symm hV) (hs.symm hV)

end

mutual

theorem Stmt.Rel.symm (hV : ∀ v w, V v w → V w v) :
    ∀ {s t : Stmt}, Stmt.Rel V N s t → Stmt.Rel V N t s
  | _, _, .text s => .text s
  | _, _, .output h => .output (h.symm hV)
  | _, _, .forLoop vars h hbody hother =>
    .forLoop vars (h.symm hV) (hbody.symm hV) (hother.symm hV)
  | _, _, .ifChain h hbody hbranches => .ifChain (h.symm hV) (hbody.symm hV) (hbranches.symm hV)
  | _, _, .assignNone names => .assignNone names
  | _, _, .assign names h => .assign names (h.symm hV)

theorem Stmt.AllRel.symm (hV : ∀ v w, V v w → V w v) :
    ∀ {ss ts : List Stmt}, Stmt.AllRel V N ss ts → Stmt.AllRel V N ts ss
  | _, _, .nil => .nil
  | _, _, .cons h hs => .cons (h.symm hV) (hs.symm hV)

theorem Stmt.ElseRel.symm (hV : ∀ v w, V v w → V w v) :
    ∀ {body body' : Option (List Stmt)}, Stmt.ElseRel V N body body' → Stmt.ElseRel V N body' body
  | _, _, .none => .none
  | _, _, .some h => .some (h.symm hV)

theorem Stmt.BranchesRel.symm (hV : ∀ v w, V v w → V w v) :
    ∀ {bs bs' : List (BranchOf Stmt)}, Stmt.BranchesRel V N bs bs' → Stmt.BranchesRel V N bs' bs
  | _, _, .nil => .nil
  | _, _, .bare h hs => .bare (h.symm hV) (hs.symm hV)
  | _, _, .cond hcond h hs => .cond (hcond.symm hV) (h.symm hV) (hs.symm hV)

end

mutual

theorem Expr.Rel.trans (hV : ∀ u v w, V u v → V v w → V u w) :
    ∀ {e f g : Expr}, Expr.Rel V N e f → Expr.Rel V N f g → Expr.Rel V N e g
  | _, _, _, .const h, .const k => .const (hV _ _ _ h k)
  | _, _, _, .var hname, .var _ => .var hname
  | _, _, _, .attr name h, .attr _ k => .attr name (h.trans hV k)
  | _, _, _, .index h i, .index k j => .index (h.trans hV k) (i.trans hV j)
  | _, _, _, .list h, .list k => .list (h.trans hV k)
  | _, _, _, .not h, .not k => .not (h.trans hV k)
  | _, _, _, .call name h, .call _ k => .call name (h.trans hV k)
  | _, _, _, .method name h hs, .method _ k ks => .method name (h.trans hV k) (hs.trans hV ks)

theorem Expr.AllRel.trans (hV : ∀ u v w, V u v → V v w → V u w) :
    ∀ {es fs gs : List Expr}, Expr.AllRel V N es fs → Expr.AllRel V N fs gs →
      Expr.AllRel V N es gs
  | _, _, _, .nil, .nil => .nil
  | _, _, _, .cons h hs, .cons k ks => .cons (h.trans hV k) (hs.trans hV ks)

end

mutual

theorem Stmt.Rel.trans (hV : ∀ u v w, V u v → V v w → V u w) :
    ∀ {s t u : Stmt}, Stmt.Rel V N s t → Stmt.Rel V N t u → Stmt.Rel V N s u
  | _, _, _, .text s, .text _ => .text s
  | _, _, _, .output h, .output k => .output (h.trans hV k)
  | _, _, _, .forLoop vars h hbody hother, .forLoop _ k kbody kother =>
    .forLoop vars (h.trans hV k) (hbody.trans hV kbody) (hother.trans hV kother)
  | _, _, _, .ifChain h hbody hbranches, .ifChain k kbody kbranches =>
    .ifChain (h.trans hV k) (hbody.trans hV kbody) (hbranches.trans hV kbranches)
  | _, _, _, .assignNone names, .assignNone _ => .assignNone names
  | _, _, _, .assign names h, .assign _ k => .assign names (h.trans hV k)

theorem Stmt.AllRel.trans (hV : ∀ u v w, V u v → V v w → V u w) :
    ∀ {ss ts us : List Stmt}, Stmt.AllRel V N ss ts → Stmt.AllRel V N ts us →
      Stmt.AllRel V N ss us
  | _, _, _, .nil, .nil => .nil
  | _, _, _, .cons h hs, .cons k ks => .cons (h.trans hV k) (hs.trans hV ks)

theorem Stmt.ElseRel.trans (hV : ∀ u v w, V u v → V v w → V u w) :
    ∀ {body body' body'' : Option (List Stmt)}, Stmt.ElseRel V N body body' →
      Stmt.ElseRel V N body' body'' → Stmt.ElseRel V N body body''
  | _, _, _, .none, .none => .none
  | _, _, _, .some h, .some k => .some (h.trans hV k)

theorem Stmt.BranchesRel.trans (hV : ∀ u v w, V u v → V v w → V u w) :
    ∀ {bs bs' bs'' : List (BranchOf Stmt)}, Stmt.BranchesRel V N bs bs' →
      Stmt.BranchesRel V N bs' bs'' → Stmt.BranchesRel V N bs bs''
  | _, _, _, .nil, .nil => .nil
  | _, _, _, .bare h hs, .bare k ks => .bare (h.trans hV k) (hs.trans hV ks)
  | _, _, _, .cond hcond h hs, .cond kcond k ks =>
    .cond (hcond.trans hV kcond) (h.trans hV k) (hs.trans hV ks)

end

theorem Expr.constantsAre_operands {P : Value → Prop} {es : List Expr} {e : Expr}
    (he : ∀ v, .const v ≠ e) (hes : ConstantsAre P es) : ConstantsAre P (es ++ [e]) := by
  intro v hv
  rcases List.mem_append.mp hv with hv | hv
  · exact hes v hv
  · exact absurd (List.mem_singleton.mp hv) (he v)

mutual

theorem Expr.Rel.constantsAre : ∀ {e f : Expr}, Expr.Rel V N e f →
    Expr.ConstantsAre (fun v => ∃ w, V v w) e.subexprs
  | .const v, .const w, .const h => by
    intro u hu
    obtain rfl : u = v := Expr.const.inj (List.mem_singleton.mp hu)
    exact ⟨w, h⟩
  | _, _, .var _ => fun _ hv => nomatch List.mem_singleton.mp hv
  | _, _, .attr _ h => Expr.constantsAre_operands nofun h.constantsAre
  | _, _, .index h k => by
    have hoperands := Expr.constantsAre_append.mpr ⟨h.constantsAre, k.constantsAre⟩
    exact Expr.constantsAre_operands nofun hoperands
  | _, _, .list h => Expr.constantsAre_operands nofun h.constantsAre
  | _, _, .not h => Expr.constantsAre_operands nofun h.constantsAre
  | _, _, .call _ h => Expr.constantsAre_operands nofun h.constantsAre
  | _, _, .method _ h hs => by
    have hoperands := Expr.constantsAre_append.mpr ⟨h.constantsAre, hs.constantsAre⟩
    exact Expr.constantsAre_operands nofun hoperands

theorem Expr.AllRel.constantsAre : ∀ {es fs : List Expr}, Expr.AllRel V N es fs →
    Expr.ConstantsAre (fun v => ∃ w, V v w) (Expr.subexprsAll es)
  | _, _, .nil => nofun
  | _, _, .cons h hs => Expr.constantsAre_append.mpr ⟨h.constantsAre, hs.constantsAre⟩

end

mutual

theorem Stmt.Rel.constantsAre : ∀ {s t : Stmt}, Stmt.Rel V N s t →
    Expr.ConstantsAre (fun v => ∃ w, V v w) s.exprs
  | _, _, .text _ => nofun
  | _, _, .output h => h.constantsAre
  | _, _, .forLoop _ h hbody hother => by
    have hinside := Expr.constantsAre_append.mpr ⟨h.constantsAre, hbody.constantsAre⟩
    exact Expr.constantsAre_append.mpr ⟨hinside, hother.constantsAre⟩
  | _, _, .ifChain h hbody hbranches => by
    have hinside := Expr.constantsAre_append.mpr ⟨h.constantsAre, hbody.constantsAre⟩
    exact Expr.constantsAre_append.mpr ⟨hinside, hbranches.constantsAre⟩
  | _, _, .assignNone _ => nofun
  | _, _, .assign _ h => h.constantsAre

theorem Stmt.AllRel.constantsAre : ∀ {ss ts : List Stmt}, Stmt.AllRel V N ss ts →
    Expr.ConstantsAre (fun v => ∃ w, V v w) (Stmt.exprsAll ss)
  | _, _, .nil => nofun
  | _, _, .cons h hs => Expr.constantsAre_append.mpr ⟨h.constantsAre, hs.constantsAre⟩

theorem Stmt.ElseRel.constantsAre : ∀ {body body' : Option (List Stmt)},
    Stmt.ElseRel V N body body' →
      Expr.ConstantsAre (fun v => ∃ w, V v w) (Stmt.exprsElse body)
  | _, _, .none => nofun
  | _, _, .some h => h.constantsAre

theorem Stmt.BranchesRel.constantsAre : ∀ {bs bs' : List (BranchOf Stmt)},
    Stmt.BranchesRel V N bs bs' →
      Expr.ConstantsAre (fun v => ∃ w, V v w) (Stmt.exprsBranches bs)
  | _, _, .nil => nofun
  | _, _, .bare h hs => Expr.constantsAre_append.mpr ⟨h.constantsAre, hs.constantsAre⟩
  | _, _, .cond hcond h hs => by
    have hinside := Expr.constantsAre_append.mpr ⟨hcond.constantsAre, h.constantsAre⟩
    exact Expr.constantsAre_append.mpr ⟨hinside, hs.constantsAre⟩

end

/-- For a partial equivalence of the constants, a template is related to itself just when each of
its constants is. -/
theorem Stmt.allRel_self_iff (hsymm : ∀ v w, V v w → V w v)
    (htrans : ∀ u v w, V u v → V v w → V u w) (body : Template) :
    Stmt.AllRel V (fun _ => True) body body ↔
      Expr.ConstantsAre (fun v => V v v) (Stmt.exprsAll body) := by
  constructor
  · intro h v hv
    obtain ⟨w, hvw⟩ := h.constantsAre v hv
    exact htrans v w v hvw (hsymm v w hvw)
  · intro h
    have hsame : Stmt.AllRel Eq (fun _ => True) body body :=
      Stmt.AllRel.refl (fun _ => rfl) body fun _ _ => trivial
    apply hsame.guarded _ h h
    rintro v _ rfl hv _
    exact hv

end relatedTrees

section equalTrees

mutual

theorem Expr.equals_of_rel : ∀ {e f : Expr}, Expr.Rel Value.Equal (fun _ => True) e f →
    e.equals f = true
  | .const v, .const w, .const h => by
    rw [Expr.equals]
    exact Value.equals_iff_equal.mpr h
  | _, _, .var _ => beq_self_eq_true _
  | _, _, .attr _ h => by
    rw [Expr.equals, equals_of_rel h, beq_self_eq_true, Bool.and_self]
  | _, _, .index h k => by
    rw [Expr.equals, equals_of_rel h, equals_of_rel k, Bool.and_self]
  | _, _, .list h => by
    rw [Expr.equals]
    exact allEqual_of_allRel h
  | _, _, .not h => by
    rw [Expr.equals]
    exact equals_of_rel h
  | _, _, .call _ h => by
    rw [Expr.equals, allEqual_of_allRel h, beq_self_eq_true, Bool.and_self]
  | _, _, .method _ h hs => by
    rw [Expr.equals, equals_of_rel h, allEqual_of_allRel hs, beq_self_eq_true, Bool.and_self,
      Bool.and_self]

theorem Expr.allEqual_of_allRel : ∀ {es fs : List Expr},
    Expr.AllRel Value.Equal (fun _ => True) es fs → Expr.allEqual es fs = true
  | _, _, .nil => rfl
  | _, _, .cons h hs => by
    rw [Expr.allEqual, equals_of_rel h, allEqual_of_allRel hs, Bool.and_self]

end

mutual

theorem Stmt.equals_of_rel : ∀ {s t : Stmt}, Stmt.Rel Value.Equal (fun _ => True) s t →
    s.equals t = true
  | _, _, .text s => beq_self_eq_true s
  | _, _, .output h => by
    rw [Stmt.equals]
    exact Expr.equals_of_rel h
  | _, _, .forLoop vars h hbody hother => by
    rw [Stmt.equals, beq_self_eq_true, Expr.equals_of_rel h, allEqual_of_allRel hbody,
      elseEquals_of_elseRel hother]
    rfl
  | _, _, .ifChain h hbody hbranches => by
    rw [Stmt.equals, Expr.equals_of_rel h, allEqual_of_allRel hbody,
      branchesEqual_of_branchesRel hbranches]
    rfl
  | _, _, .assignNone names => by
    rw [Stmt.equals, beq_self_eq_true]
    rfl
  | _, _, .assign names h => by
    rw [Stmt.equals, beq_self_eq_true, Expr.optionEquals, Expr.equals_of_rel h, Bool.and_self]

theorem Stmt.allEqual_of_allRel : ∀ {ss ts : List Stmt},
    Stmt.AllRel Value.Equal (fun _ => True) ss ts → Stmt.allEqual ss ts = true
  | _, _, .nil => rfl
  | _, _, .cons h hs => by
    rw [Stmt.allEqual, equals_of_rel h, allEqual_of_allRel hs, Bool.and_self]

theorem Stmt.elseEquals_of_elseRel : ∀ {body body' : Option (List Stmt)},
    Stmt.ElseRel Value.Equal (fun _ => True) body body' → Stmt.elseEquals body body' = true
  | _, _, .none => rfl
  | _, _, .some h => by
    rw [Stmt.elseEquals]
    exact allEqual_of_allRel h

theorem Stmt.branchesEqual_of_branchesRel : ∀ {bs bs' : List (BranchOf Stmt)},
    Stmt.BranchesRel Value.Equal (fun _ => True) bs bs' → Stmt.branchesEqual bs bs' = true
  | _, _, .nil => rfl
  | _, _, .bare h hs => by
    rw [Stmt.branchesEqual, allEqual_of_allRel h, branchesEqual_of_branchesRel hs]
    rfl
  | _, _, .cond hcond h hs => by
    rw [Stmt.branchesEqual, Expr.optionEquals, Expr.equals_of_rel hcond, allEqual_of_allRel h,
      branchesEqual_of_branchesRel hs]
    rfl

end

theorem Stmt.allEqual_iff_allRel {a b : Template} :
    Stmt.allEqual a b = true ↔ Stmt.AllRel Value.Equal (fun _ => True) a b :=
  ⟨Stmt.allRel_of_allEqual, Stmt.allEqual_of_allRel⟩

end equalTrees

theorem Value.selfComparable_iff {v : Value} : v.SelfComparable ↔ v.isNaN = false ∧
    ∀ view, v = .genericMap view → ∀ name ∈ view.keys, ∃ x, view.byName name = .ok x := by
  apply and_congr_right
  intro _
  cases v with
  | genericMap view =>
    have hkeys : ∀ name, name ∈ keys (.genericMap view) ↔ name ∈ view.keys :=
      fun name => Names.mem_sort
    constructor
    · rintro h _ ⟨⟩ name hname
      exact h name ((hkeys name).mpr hname)
    · intro h name hname
      exact h view rfl name ((hkeys name).mp hname)
  | map entries => exact iff_of_true (fun _ _ => ⟨_, rfl⟩) nofun
  | _ => exact iff_of_true (fun _ hname => nomatch hname) nofun

/-- Equality of templates is a partial equivalence. A template differs from itself just when a NaN,
or a listed key that cannot be read, is inside one of its constants. -/
theorem Template.equality_partialEquivalence :
    (∀ a b : Template, Stmt.allEqual a b = Stmt.allEqual b a) ∧
      (∀ a b c : Template, Stmt.allEqual a b = true → Stmt.allEqual b c = true →
        Stmt.allEqual a c = true) ∧
      ∀ a : Template, Stmt.allEqual a a = true ↔
        ∀ v, .const v ∈ Stmt.exprsAll a → ∀ w, v.Reaches w → w.isNaN = false ∧
          ∀ view, w = .genericMap view → ∀ name ∈ view.keys, ∃ x, view.byName name = .ok x := by
  have hsymm : ∀ v w, Value.Equal v w → Value.Equal w v := fun _ _ h => h.symm
  have htrans : ∀ u v w, Value.Equal u v → Value.Equal v w → Value.Equal u w :=
    fun _ _ _ h k => h.trans k
  refine ⟨fun a b => ?_, fun a b c h k => ?_, fun a => ?_⟩
  · rw [Bool.eq_iff_iff, Stmt.allEqual_iff_allRel, Stmt.allEqual_iff_allRel]
    exact ⟨Stmt.AllRel.symm hsymm, Stmt.AllRel.symm hsymm⟩
  · rw [Stmt.allEqual_iff_allRel] at h k ⊢
    exact h.trans htrans k
  · rw [Stmt.allEqual_iff_allRel, Stmt.allRel_self_iff hsymm htrans]
    simp only [Expr.ConstantsAre, Value.equal_self_iff, Value.selfComparable_iff]

/-- A NaN deep in an else body keeps a template from being equal to itself. -/
example :
    let body (x : Binary64) : Template := [.forLoop ["item"] (.var "items") [.text "some"]
      (some [.output (.call "range" [.const (.list [.int 1, .float x])])])]
    Stmt.allEqual (body .zero) (body .negZero) = true ∧
      Stmt.allEqual (body ⟨0x7ff8000000000000⟩) (body ⟨0x7ff8000000000000⟩) = false := by
  decide

end TextTemplate
