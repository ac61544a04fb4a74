import TextTemplate.Context
import TextTemplate.Proofs.ValueShape
import Mathlib.Data.List.Forall2

/-! Relations of values that one step of looking into the values keeps. Whatever reads two related
values then gives related answers, so no reader has to be looked at for each relation anew. The
first of two related maps may refuse a name that it does not list where the second has nothing; a
reader that does not get over this stops early. -/

namespace TextTemplate

inductive ResultRel {α β : Type} (E : EvalError → EvalError → Prop) (R : α → β → Prop) :
    Except EvalError α → Except EvalError β → Prop
  | ok {a : α} {b : β} : R a b → ResultRel E R (.ok a) (.ok b)
  | error {e e' : EvalError} : E e e' → ResultRel E R (.error e) (.error e')

/-- Related results, or an error of `S` that stops the first side alone. -/
inductive EarlyResultRel {α β : Type} (S : EvalError → Prop) (E : EvalError → EvalError → Prop)
    (R : α → β → Prop) : Except EvalError α → Except EvalError β → Prop
  | both {x : Except EvalError α} {y : Except EvalError β} :
      ResultRel E R x y → EarlyResultRel S E R x y
  | stop {e : EvalError} (y : Except EvalError β) : S e → EarlyResultRel S E R (.error e) y

section results

variable {α β γ δ : Type} {S : EvalError → Prop} {E : EvalError → EvalError → Prop}
  {R : α → β → Prop} {T : γ → δ → Prop}

theorem ResultRel.refl {R : α → α → Prop} (hE : ∀ e, E e e) (hR : ∀ a, R a a)
    (x : Except EvalError α) : ResultRel E R x x := by
  cases x with
  | ok a => exact .ok (hR a)
  | error e => exact .error (hE e)

theorem ResultRel.of_ok {x : Except EvalError α} {y : Except EvalError β}
    (h : ResultRel E (fun _ _ => True) x y) (hok : ∀ a b, x = .ok a → y = .ok b → R a b) :
    ResultRel E R x y := by
  cases h with
  | ok _ => exact .ok (hok _ _ rfl rfl)
  | error he => exact .error he

theorem ResultRel.exists_of_ok {x : Except EvalError α} {y : Except EvalError β}
    (h : ResultRel E R x y) {a : α} (hx : x = .ok a) : ∃ b, y = .ok b ∧ R a b := by
  cases h with
  | ok hab =>
    cases hx
    exact ⟨_, rfl, hab⟩
  | error _ => cases hx

theorem EarlyResultRel.ok {a : α} {b : β} (h : R a b) : EarlyResultRel S E R (.ok a) (.ok b) :=
  .both (.ok h)

theorem EarlyResultRel.error {e e' : EvalError} (h : E e e') :
    EarlyResultRel S E R (.error e) (.error e') :=
  .both (.error h)

theorem EarlyResultRel.bind {x : Except EvalError α} {y : Except EvalError β}
    {f : α → Except EvalError γ} {g : β → Except EvalError δ} (h : EarlyResultRel S E R x y)
    (hfg : ∀ a b, R a b → EarlyResultRel S E T (f a) (g b)) :
    EarlyResultRel S E T (x >>= f) (y >>= g) := by
  cases h with
  | both h =>
    cases h with
    | ok hab => exact hfg _ _ hab
    | error he => exact .error he
  | stop y he => exact .stop _ he

theorem optionRel_getD {a : α} {b : β} (h : R a b) {x : Option α} {y : Option β}
    (hxy : Option.Rel R x y) : R (x.getD a) (y.getD b) := by
  cases hxy with
  | none => exact h
  | some hab => exact hab

theorem forall₂_getD {as : List α} {bs : List β} (h : List.Forall₂ R as bs) {a : α} {b : β}
    (hab : R a b) (i : Nat) : R (as.getD i a) (bs.getD i b) := by
  induction h generalizing i with
  | nil => exact hab
  | cons hfirst _ ih =>
    cases i with
    | zero => exact hfirst
    | succ i => exact ih i

end results

def Scope.Rel (V : Value → Value → Prop) (s s' : Scope) : Prop :=
  ∀ name, Option.Rel V (s.get? name) (s'.get? name)

theorem Scope.Rel.of_get? {V : Value → Value → Prop} {s s' : Scope} (h : Scope.Rel V s s')
    {name : String} {v w : Value} (hv : s.get? name = some v) (hw : s'.get? name = some w) :
    V v w := by
  have hname := h name
  rw [hv, hw] at hname
  cases hname with
  | some hvw => exact hvw

theorem Entries.get?_rel {R : Value → Value → Prop} {es fs : List (String × Value)}
    (hkeys : Value.keys (.map es) = Value.keys (.map fs)) {name : String}
    (h : ∀ x y, Entries.get? es name = some x → Entries.get? fs name = some y → R x y) :
    Option.Rel R (Entries.get? es name) (Entries.get? fs name) := by
  have hiff : Entries.get? es name ≠ none ↔ Entries.get? fs name ≠ none := by
    rw [← Value.mem_keys_map, ← Value.mem_keys_map, hkeys]
  generalize Entries.get? es name = x, Entries.get? fs name = y at h hiff ⊢
  cases x with
  | none =>
    cases y with
    | none => exact .none
    | some y => exact absurd rfl (hiff.mpr (Option.some_ne_none y))
  | some x =>
    cases y with
    | none => exact absurd rfl (hiff.mp (Option.some_ne_none x))
    | some y => exact .some (h x y rfl rfl)

namespace Value

section relations

variable (V : Value → Value → Prop) (S : EvalError → Prop) (E : EvalError → EvalError → Prop)

/-- What two maps answer for a name: the like, or a refusal where there is no entry. -/
inductive EntryRel (listed : Prop) : Except EvalError Value → Except EvalError Value → Prop
  | related {x y : Except EvalError Value} : ResultRel E V x y → EntryRel listed x y
  | refused {e : EvalError} : S e → ¬listed → EntryRel listed (.error e) (.ok .empty)

/-- Two values that one step into them does not tell apart, as far as `V` goes. -/
inductive Alike : Value → Value → Prop
  | scalar {v : Value} (hl : v.isList = false) (hm : v.isMap = false) : Alike v v
  | list {v w : Value} (hv : v.isList) (hw : w.isList) (hsize : v.items.size = w.items.size)
      (hitem : ∀ i < v.items.size, V (v.items.item i) (w.items.item i)) : Alike v w
  | map {v w : Value} (hv : v.isMap) (hw : w.isMap) (htruthy : v.isTruthy = w.isTruthy)
      (hkeys : v.keys = w.keys)
      (hentry : ∀ name, EntryRel V S E (name ∈ v.keys) (v.subscript name) (w.subscript name)) :
      Alike v w

/-- A relation of values that looking into them and making new ones keeps. Two errors that only name
the types of related values are the same for it. -/
structure Bisimulation : Prop where
  refl : ∀ v, V v v
  list : ∀ {vs ws}, List.Forall₂ V vs ws → V (.list vs) (.list ws)
  ofBindings : ∀ {b b'}, Scope.Rel V b b' → V (.ofBindings b) (.ofBindings b')
  alike : ∀ {v w}, V v w → Alike V S E v w
  typeMismatch : ∀ {v w}, V v w → ∀ expected,
    E (.typeMismatch expected v.typeName) (.typeMismatch expected w.typeName)
  undefinedMethod : ∀ {v w}, V v w → ∀ method,
    E (.undefinedMethod method v.typeName) (.undefinedMethod method w.typeName)

end relations

variable {V : Value → Value → Prop} {S : EvalError → Prop} {E : EvalError → EvalError → Prop}
  {v w : Value}

namespace Alike

theorem refl (hV : ∀ v, V v v) (hE : ∀ e, E e e) (v : Value) : Alike V S E v v := by
  cases hl : v.isList with
  | true => exact .list hl hl rfl fun i _ => hV _
  | false =>
    cases hm : v.isMap with
    | true => exact .map hm hm rfl rfl fun name => .related (.refl hE hV _)
    | false => exact .scalar hl hm

theorem ownedMap {es fs : List (String × Value)} (hempty : V .empty .empty)
    (hkeys : keys (.map es) = keys (.map fs))
    (hentry : ∀ name x y, Entries.get? es name = some x → Entries.get? fs name = some y → V x y) :
    Alike V S E (.map es) (.map fs) := by
  refine .map rfl rfl (by rw [isTruthy_map, isTruthy_map, hkeys]) hkeys fun name => ?_
  have hname : Option.Rel V (Entries.get? es name) (Entries.get? fs name) :=
    Entries.get?_rel hkeys (hentry name)
  exact .related (.ok (optionRel_getD hempty hname))

theorem lazyMap {m n : MapView Value} (hkeys : m.keys = n.keys) (hsize : m.size = n.size)
    (hname : ∀ name, ResultRel E (fun _ _ => True) (m.byName name) (n.byName name))
    (hnamed : ∀ name x y, m.byName name = .ok x → n.byName name = .ok y → V x y) :
    Alike V S E (.genericMap m) (.genericMap n) := by
  have htruthy : isTruthy (.genericMap m) = isTruthy (.genericMap n) := by
    rw [isTruthy, isTruthy, hsize]
  refine .map rfl rfl htruthy (congrArg Names.sort hkeys) fun name => ?_
  exact .related ((hname name).of_ok (hnamed name))

theorem isList_eq (h : Alike V S E v w) : v.isList = w.isList := by
  cases h with
  | scalar _ _ => rfl
  | list hv hw _ _ => rw [hv, hw]
  | map hv hw _ _ _ => rw [isList_of_isMap hv, isList_of_isMap hw]

theorem isMap_eq (h : Alike V S E v w) : v.isMap = w.isMap := by
  cases h with
  | scalar _ _ => rfl
  | list hv hw _ _ => rw [isMap_of_isList hv, isMap_of_isList hw]
  | map hv hw _ _ _ => rw [hv, hw]

theorem asInt?_eq (h : Alike V S E v w) : v.asInt? = w.asInt? := by
  cases h with
  | scalar _ _ => rfl
  | list hv hw _ _ => rw [asInt?_of_isList hv, asInt?_of_isList hw]
  | map hv hw _ _ _ => rw [asInt?_of_isMap hv, asInt?_of_isMap hw]

theorem isTruthy_eq (h : Alike V S E v w) : v.isTruthy = w.isTruthy := by
  cases h with
  | scalar _ _ => rfl
  | list hv hw hsize _ => rw [isTruthy_of_isList hv, isTruthy_of_isList hw, hsize]
  | map _ _ htruthy _ _ => exact htruthy

theorem size_eq (h : Alike V S E v w) : v.items.size = w.items.size := by
  cases h with
  | scalar _ _ => rfl
  | list _ _ hsize _ => exact hsize
  | map hv hw _ _ _ =>
    rw [items_of_not_isList (isList_of_isMap hv), items_of_not_isList (isList_of_isMap hw)]

theorem item (h : Alike V S E v w) :
    ∀ i < v.items.size, V (v.items.item i) (w.items.item i) := by
  cases h with
  | scalar hl _ =>
    rw [items_of_not_isList hl]
    exact fun i hi => absurd hi i.not_lt_zero
  | list _ _ _ hitem => exact hitem
  | map hv _ _ _ _ =>
    rw [items_of_not_isList (isList_of_isMap hv)]
    exact fun i hi => absurd hi i.not_lt_zero

end Alike

namespace Bisimulation

variable (hV : Bisimulation V S E)
include hV

theorem entry (h : V v w) (name : String) :
    EntryRel V S E (name ∈ v.keys) (v.subscript name) (w.subscript name) := by
  cases hV.alike h with
  | scalar _ hm =>
    rw [subscript_of_not_isMap hm]
    exact .related (.ok (hV.refl _))
  | list hv hw _ _ =>
    rw [subscript_of_not_isMap (isMap_of_isList hv), subscript_of_not_isMap (isMap_of_isList hw)]
    exact .related (.ok (hV.refl _))
  | map _ _ _ _ hentry => exact hentry name

theorem subscript (h : V v w) (name : String) :
    EarlyResultRel S E V (v.subscript name) (w.subscript name) := by
  have hentry := hV.entry h name
  generalize v.subscript name = x, w.subscript name = y at hentry ⊢
  cases hentry with
  | related hxy => exact .both hxy
  | refused he _ => exact .stop _ he

theorem index (h : V v w) {i j : Value} (hij : V i j) :
    EarlyResultRel S E V (v.index i) (w.index j) := by
  have halike := hV.alike h
  cases hV.alike hij with
  | list hi hj _ _ =>
    rw [index_of_isList hi, index_of_isList hj]
    exact .ok (hV.refl _)
  | map hi hj _ _ _ =>
    rw [index_of_isMap hi, index_of_isMap hj]
    exact .ok (hV.refl _)
  | scalar _ _ =>
    cases i with
    | str name => exact hV.subscript h name
    | int n =>
      rw [Value.index, Value.index, halike.isList_eq, ← halike.size_eq]
      split
      · rename_i hn
        exact .ok (halike.item _ hn.2.2)
      · exact .ok (hV.refl _)
    | _ => exact .ok (hV.refl _)

theorem display_eq (h : V v w) : v.display = w.display := by
  induction v using shapeInduction generalizing w with
  | scalar v hl hm =>
    cases hV.alike h with
    | scalar _ _ => rfl
    | list hv _ _ _ => rw [hl] at hv; cases hv
    | map hv _ _ _ _ => rw [hm] at hv; cases hv
  | list v hv ih =>
    have halike := hV.alike h
    have hw : w.isList := halike.isList_eq ▸ hv
    exact display_eq_of_items hv hw halike.size_eq fun i hi => ih i hi (halike.item i hi)
  | map v hv ih =>
    have hw : w.isMap := (hV.alike h).isMap_eq ▸ hv
    have hkeys : v.keys = w.keys := by
      cases hV.alike h with
      | scalar _ _ => rfl
      | list hl _ _ _ => rw [isMap_of_isList hl] at hv; cases hv
      | map _ _ _ hkeys _ => exact hkeys
    -- Only keys are asked for, and for these there is no refusal.
    refine display_eq_of_entries hv hw hkeys fun name hname => ?_
    have hentry := hV.entry h name
    have ihName := ih name hname
    generalize v.subscript name = x, w.subscript name = y at hentry ihName ⊢
    cases hentry with
    | refused _ hn => exact absurd hname hn
    | related hxy =>
      cases hxy with
      | error _ => rfl
      | ok hxy => exact ihName _ rfl hxy

section arguments

variable {vs ws : List Value} (h : List.Forall₂ V vs ws)
include h

theorem integers : EarlyResultRel S E Eq (Value.integers vs) (Value.integers ws) := by
  induction h with
  | nil => exact .ok rfl
  | @cons v w vs ws hvw _ ih =>
    rw [integers_cons, integers_cons, (hV.alike hvw).asInt?_eq]
    cases w.asInt? with
    | none => exact .error (hV.typeMismatch hvw "int")
    | some n => exact ih.bind fun ns ns' hns => .ok (congrArg (n :: ·) hns)

theorem range (hE : ∀ e, E e e) : EarlyResultRel S E V (Value.range vs) (Value.range ws) := by
  unfold Value.range
  refine (hV.integers h).bind fun ns ns' hns => ?_
  rw [hns, h.length_eq]
  exact .both (.refl hE hV.refl _)

theorem callFunction (hE : ∀ e, E e e) (name : String) :
    EarlyResultRel S E V (Value.callFunction name vs) (Value.callFunction name ws) := by
  unfold Value.callFunction
  split
  · exact hV.range h hE
  · exact .error (hE _)

theorem callMethod (hvw : V v w) (name : String) :
    EarlyResultRel S E V (v.callMethod name vs) (w.callMethod name ws) := by
  by_cases hname : name = "cycle"
  · subst hname
    have hposition : (v.subscript "index0").toOption.bind asInt? =
        (w.subscript "index0").toOption.bind asInt? := by
      have hentry := hV.entry hvw "index0"
      generalize v.subscript "index0" = x, w.subscript "index0" = y at hentry ⊢
      cases hentry with
      | refused _ _ => rfl
      | related hxy =>
        cases hxy with
        | error _ => rfl
        | ok hxy => exact (hV.alike hxy).asInt?_eq
    rw [callMethod_cycle, callMethod_cycle, hposition]
    cases (w.subscript "index0").toOption.bind asInt? with
    | none => exact .error (hV.undefinedMethod hvw "cycle")
    | some position =>
      refine .ok ?_
      rw [cycle, cycle, h.length_eq]
      exact forall₂_getD h (hV.refl _) _
  · rw [callMethod_of_ne hname, callMethod_of_ne hname]
    exact .error (hV.undefinedMethod hvw name)

end arguments

end Bisimulation
end Value
end TextTemplate
