import TextTemplate.Proofs.ValueShape
import TextTemplate.Value.Equality
import Mathlib.Data.Nat.Init

/-! Equality of values as a relation: scalars of one kind, lists of one size with equal items, and
maps of the same keys with equal entries, whatever each side is made of. It is symmetric and
transitive. A value equals itself unless a NaN, or a key that cannot be read, is inside it. -/

namespace TextTemplate.Value

inductive Equal : Value → Value → Prop
  | empty : Equal .empty .empty
  | bool (b : Bool) : Equal (.bool b) (.bool b)
  | int (n : Int64) : Equal (.int n) (.int n)
  | float {x y : Binary64} (h : x.equals y = true) : Equal (.float x) (.float y)
  | str (s : String) : Equal (.str s) (.str s)
  | list {v w : Value} (hv : v.isList) (hw : w.isList) (hsize : v.items.size = w.items.size)
      (hitem : ∀ i < v.items.size, Equal (v.items.item i) (w.items.item i)) : Equal v w
  | map {v w : Value} (hv : v.isMap) (hw : w.isMap) (hkeys : v.keys = w.keys)
      (hleft : ∀ name ∈ v.keys, ∃ x, v.subscript name = .ok x)
      (hright : ∀ name ∈ v.keys, ∃ y, w.subscript name = .ok y)
      (hentry : ∀ name ∈ v.keys, ∀ x y, v.subscript name = .ok x → w.subscript name = .ok y →
        Equal x y) : Equal v w

section comparison

theorem natAll_iff (n : Nat) (p : Nat → Bool) :
    (n.all fun i _ => p i) = true ↔ ∀ i < n, p i = true := by
  simp [Nat.all_eq_finRange_all, Fin.forall_iff]

theorem itemsEqual_iff (xs : List Value) (item : Nat → Value) (start : Nat) :
    itemsEqual xs item start = true ↔
      ∀ i < xs.length, ((listView xs).item i).equals (item (start + i)) = true := by
  induction xs generalizing start with
  | nil => simp [itemsEqual]
  | cons x xs ih =>
    rw [itemsEqual, Bool.and_eq_true, ih, List.length_cons, Nat.forall_lt_succ_left]
    simp only [Nat.add_assoc, Nat.add_comm 1]
    rfl

theorem zipEquals_iff {xs ys : List Value} (h : xs.length = ys.length) :
    zipEquals xs ys = true ↔
      ∀ i < xs.length, ((listView xs).item i).equals ((listView ys).item i) = true := by
  induction xs generalizing ys with
  | nil => simp [zipEquals]
  | cons x xs ih =>
    cases ys with
    | nil => cases h
    | cons y ys =>
      rw [zipEquals, Bool.and_eq_true, ih (Nat.succ.inj h), List.length_cons,
        Nat.forall_lt_succ_left]
      rfl

theorem equals_of_isList {v : Value} (hv : v.isList) (w : Value) : v.equals w = true ↔
    w.isList ∧ v.items.size = w.items.size ∧
      ∀ i < v.items.size, (v.items.item i).equals (w.items.item i) = true := by
  cases v with
  | list xs =>
    cases w with
    | list ys =>
      rw [equals, Bool.and_eq_true, beq_iff_eq]
      have hsize : (items (.list xs)).size = (items (.list ys)).size ↔ xs.length = ys.length :=
        Iff.rfl
      rw [hsize]
      refine ⟨fun h => ⟨rfl, h.1, (zipEquals_iff h.1).mp h.2⟩, fun h => ⟨h.2.1, ?_⟩⟩
      exact (zipEquals_iff h.2.1).mpr h.2.2
    | genericList view =>
      rw [equals, Bool.and_eq_true, beq_iff_eq, itemsEqual_iff]
      simp only [Nat.zero_add]
      exact ⟨fun h => ⟨rfl, h⟩, fun h => h.2⟩
    | _ => simp [equals, isList]
  | genericList view =>
    rw [equals, Bool.and_eq_true, Bool.and_eq_true, beq_iff_eq, and_assoc,
      natAll_iff view.size fun i => (view.item i).equals (w.items.item i)]
    rfl
  | _ => cases hv

theorem resultEquals_iff {r s : Except EvalError Value} :
    resultEquals r s = true ↔ ∃ x y, r = .ok x ∧ s = .ok y ∧ x.equals y = true := by
  cases r with
  | error e => simp [resultEquals]
  | ok x =>
    cases s with
    | error e => simp [resultEquals]
    | ok y => simp [resultEquals]

theorem entryEquals_eq (entries : List (String × Value)) (name : String)
    (answer : Except EvalError Value) :
    entryEquals entries name answer = resultEquals (subscript (.map entries) name) answer := by
  induction entries with
  | nil =>
    cases answer with
    | error e => rfl
    | ok w => cases w <;> rfl
  | cons e rest ih =>
    obtain ⟨k, v⟩ := e
    rw [entryEquals.eq_def, subscript, Entries.get?]
    dsimp only
    split
    · cases answer <;> rfl
    · exact ih

theorem equals_of_isMap {v : Value} (hv : v.isMap) (w : Value) : v.equals w = true ↔
    w.isMap ∧ v.keys = w.keys ∧ ∀ name ∈ v.keys, ∃ x y, v.subscript name = .ok x ∧
      w.subscript name = .ok y ∧ x.equals y = true := by
  cases v with
  | map entries =>
    rw [equals, Bool.and_eq_true, Bool.and_eq_true, beq_iff_eq, and_assoc, List.all_eq_true]
    simp only [entryEquals_eq, resultEquals_iff]
  | genericMap view =>
    rw [equals, Bool.and_eq_true, Bool.and_eq_true, beq_iff_eq, and_assoc, List.all_eq_true]
    simp only [resultEquals_iff]
    rfl
  | _ => cases hv

theorem equal_of_equals_scalar {v w : Value} (hl : v.isList = false) (hm : v.isMap = false)
    (h : v.equals w = true) : Equal v w := by
  cases v with
  | empty =>
    cases w with
    | empty => exact .empty
    | _ => cases h
  | bool b =>
    cases w with
    | bool c =>
      obtain rfl : b = c := by simpa [equals] using h
      exact .bool b
    | _ => cases h
  | int n =>
    cases w with
    | int m =>
      obtain rfl : n = m := by simpa [equals] using h
      exact .int n
    | _ => cases h
  | float x =>
    cases w with
    | float y => exact .float h
    | _ => cases h
  | str s =>
    cases w with
    | str t =>
      obtain rfl : s = t := by simpa [equals] using h
      exact .str s
    | _ => cases h
  | list _ => cases hl
  | genericList _ => cases hl
  | map _ => cases hm
  | genericMap _ => cases hm

end comparison

theorem equals_iff_equal {v w : Value} : v.equals w = true ↔ Equal v w := by
  constructor
  · intro h
    induction v using shapeInduction generalizing w with
    | scalar v hl hm => exact equal_of_equals_scalar hl hm h
    | list v hv ih =>
      obtain ⟨hw, hsize, hitem⟩ := (equals_of_isList hv w).mp h
      exact .list hv hw hsize fun i hi => ih i hi (hitem i hi)
    -- For each key `equals` has found two answers that are equal, so both sides can be read.
    | map v hv ih =>
      obtain ⟨hw, hkeys, hanswer⟩ := (equals_of_isMap hv w).mp h
      refine .map hv hw hkeys (fun name hname => ?_) (fun name hname => ?_) ?_
      · obtain ⟨x, _, hx, _⟩ := hanswer name hname
        exact ⟨x, hx⟩
      · obtain ⟨_, y, _, hy, _⟩ := hanswer name hname
        exact ⟨y, hy⟩
      · intro name hname x y hx hy
        obtain ⟨x', y', hx', hy', hxy⟩ := hanswer name hname
        cases hx.symm.trans hx'
        cases hy.symm.trans hy'
        exact ih name hname x hx hxy
  · intro h
    induction h with
    | list hv hw hsize _ ih => exact (equals_of_isList hv _).mpr ⟨hw, hsize, ih⟩
    | map hv hw hkeys hleft hright _ ih =>
      refine (equals_of_isMap hv _).mpr ⟨hw, hkeys, fun name hname => ?_⟩
      obtain ⟨x, hx⟩ := hleft name hname
      obtain ⟨y, hy⟩ := hright name hname
      exact ⟨x, y, hx, hy, ih name hname x y hx hy⟩
    | float h => exact h
    | _ => simp [equals]

theorem equal_iff_of_isList {v w : Value} (hv : v.isList) : Equal v w ↔
    w.isList ∧ v.items.size = w.items.size ∧
      ∀ i < v.items.size, Equal (v.items.item i) (w.items.item i) := by
  simp only [← equals_iff_equal]
  exact equals_of_isList hv w

theorem equal_iff_of_isMap {v w : Value} (hv : v.isMap) : Equal v w ↔
    w.isMap ∧ v.keys = w.keys ∧ ∀ name ∈ v.keys, ∃ x y, v.subscript name = .ok x ∧
      w.subscript name = .ok y ∧ Equal x y := by
  simp only [← equals_iff_equal]
  exact equals_of_isMap hv w

namespace Equal

variable {u v w : Value}

theorem isList_eq (h : Equal v w) : v.isList = w.isList := by
  cases h with
  | list hv hw _ _ => rw [hv, hw]
  | map hv hw _ _ _ _ => rw [isList_of_isMap hv, isList_of_isMap hw]
  | _ => rfl

theorem isMap_eq (h : Equal v w) : v.isMap = w.isMap := by
  cases h with
  | list hv hw _ _ => rw [isMap_of_isList hv, isMap_of_isList hw]
  | map hv hw _ _ _ _ => rw [hv, hw]
  | _ => rfl

theorem symm (h : Equal v w) : Equal w v := by
  induction h with
  | empty => exact .empty
  | bool b => exact .bool b
  | int n => exact .int n
  | float h => exact .float (by rwa [Binary64.equals_comm])
  | str s => exact .str s
  | list hv hw hsize _ ih =>
    exact .list hw hv hsize.symm fun i hi => ih i (hsize ▸ hi)
  | map hv hw hkeys hleft hright _ ih =>
    rw [hkeys] at hleft hright ih
    exact .map hw hv hkeys.symm hright hleft fun name hname y x hy hx => ih name hname x y hx hy

theorem trans (h : Equal u v) (k : Equal v w) : Equal u w := by
  induction h generalizing w with
  | empty => exact k
  | bool b => exact k
  | int n => exact k
  | str s => exact k
  | float h =>
    cases k with
    | float k => exact .float (Binary64.equals_trans h k)
    | list hv _ _ _ => cases hv
    | map hv _ _ _ _ _ => cases hv
  | list hu hv hsize _ ih =>
    obtain ⟨hw, hsize', hitem⟩ := (equal_iff_of_isList hv).mp k
    exact .list hu hw (hsize.trans hsize') fun i hi => ih i hi (hitem i (hsize ▸ hi))
  | map hu hv hkeys hleft _ _ ih =>
    obtain ⟨hw, hkeys', hanswer⟩ := (equal_iff_of_isMap hv).mp k
    rw [← hkeys] at hkeys' hanswer
    refine .map hu hw hkeys' hleft (fun name hname => ?_) fun name hname x z hx hz => ?_
    · obtain ⟨_, z, _, hz, _⟩ := hanswer name hname
      exact ⟨z, hz⟩
    · obtain ⟨y, z', hy, hz', hyz⟩ := hanswer name hname
      obtain rfl : z' = z := Except.ok.inj (hz'.symm.trans hz)
      exact ih name hname x y hx hy hyz

theorem list_self {items : List Value} (h : ∀ v ∈ items, Equal v v) :
    Equal (.list items) (.list items) :=
  .list rfl rfl rfl fun _ hi => h _ (item_listView_mem hi)

theorem map_self {entries : List (String × Value)}
    (h : ∀ name v, Entries.get? entries name = some v → Equal v v) :
    Equal (.map entries) (.map entries) := by
  have hreadable : ∀ name ∈ keys (.map entries), ∃ v, subscript (.map entries) name = .ok v :=
    fun name _ => ⟨_, rfl⟩
  refine .map rfl rfl rfl hreadable hreadable fun name hname x y hx hy => ?_
  obtain ⟨v, hv, hsub⟩ := exists_entry hname
  obtain rfl : v = x := Except.ok.inj (hsub.symm.trans hx)
  obtain rfl : v = y := Except.ok.inj (hsub.symm.trans hy)
  exact h name v hv

end Equal

/-- The values inside a value: itself, and what is inside the items of a list and inside the entries
that a map lists. -/
inductive Reaches : Value → Value → Prop
  | refl (v : Value) : Reaches v v
  | item {v w : Value} {i : Nat} (hi : i < v.items.size) (h : Reaches (v.items.item i) w) :
      Reaches v w
  | entry {v x w : Value} {name : String} (hname : name ∈ v.keys) (hx : v.subscript name = .ok x)
      (h : Reaches x w) : Reaches v w

theorem forall_reaches_iff {v : Value} {P : Value → Prop} : (∀ w, v.Reaches w → P w) ↔
    P v ∧ (∀ i < v.items.size, ∀ w, (v.items.item i).Reaches w → P w) ∧
      ∀ name ∈ v.keys, ∀ x, v.subscript name = .ok x → ∀ w, x.Reaches w → P w := by
  constructor
  · intro h
    exact ⟨h v (.refl v), fun i hi w hw => h w (.item hi hw),
      fun name hname x hx w hw => h w (.entry hname hx hw)⟩
  · rintro ⟨hself, hitem, hentry⟩ w hw
    cases hw with
    | refl => exact hself
    | item hi h => exact hitem _ hi w h
    | entry hname hx h => exact hentry _ hname _ hx w h

section forallReaches

variable {v : Value} {P : Value → Prop} (h : P v)
include h

theorem forall_reaches_of_scalar (hl : v.isList = false) (hm : v.isMap = false) :
    ∀ w, v.Reaches w → P w := by
  rw [forall_reaches_iff, items_of_not_isList hl, keys_of_not_isMap hm]
  exact ⟨h, fun i hi => absurd hi i.not_lt_zero, fun _ hname => nomatch hname⟩

theorem forall_reaches_of_isList (hv : v.isList)
    (hitem : ∀ i < v.items.size, ∀ w, (v.items.item i).Reaches w → P w) :
    ∀ w, v.Reaches w → P w := by
  rw [forall_reaches_iff, keys_of_not_isMap (isMap_of_isList hv)]
  exact ⟨h, hitem, fun _ hname => nomatch hname⟩

theorem forall_reaches_of_isMap (hv : v.isMap)
    (hentry : ∀ name ∈ v.keys, ∀ x, v.subscript name = .ok x → ∀ w, x.Reaches w → P w) :
    ∀ w, v.Reaches w → P w := by
  rw [forall_reaches_iff, items_of_not_isList (isList_of_isMap hv)]
  exact ⟨h, fun i hi => absurd hi i.not_lt_zero, hentry⟩

end forallReaches

theorem ne_genericMap_of_not_isMap {v : Value} (hm : v.isMap = false) (view : MapView Value) :
    v ≠ .genericMap view := by
  rintro rfl
  cases hm

def isNaN : Value → Bool
  | .float x => x.isNaN
  | _ => false

def SelfComparable (v : Value) : Prop :=
  v.isNaN = false ∧ ∀ name ∈ v.keys, ∃ x, v.subscript name = .ok x

theorem equal_self_of_scalar {v : Value} (hl : v.isList = false) (hm : v.isMap = false) :
    Equal v v ↔ v.isNaN = false := by
  cases v with
  | empty => exact iff_of_true .empty rfl
  | bool b => exact iff_of_true (.bool b) rfl
  | int n => exact iff_of_true (.int n) rfl
  | float x =>
    rw [← equals_iff_equal, equals, Binary64.equals_self, isNaN, Bool.not_eq_true']
  | str s => exact iff_of_true (.str s) rfl
  | list _ => cases hl
  | genericList _ => cases hl
  | map _ => cases hm
  | genericMap _ => cases hm

theorem isNaN_of_isList {v : Value} (h : v.isList) : v.isNaN = false := by
  cases v with
  | float _ => cases h
  | _ => rfl

theorem isNaN_of_isMap {v : Value} (h : v.isMap) : v.isNaN = false := by
  cases v with
  | float _ => cases h
  | _ => rfl

theorem equal_self_iff (v : Value) : Equal v v ↔ ∀ w, v.Reaches w → w.SelfComparable := by
  induction v using shapeInduction with
  | scalar v hl hm =>
    rw [equal_self_of_scalar hl hm, forall_reaches_iff, SelfComparable, items_of_not_isList hl,
      keys_of_not_isMap hm]
    simp [emptyView]
  | list v hv ih =>
    rw [forall_reaches_iff, SelfComparable, isNaN_of_isList hv,
      keys_of_not_isMap (isMap_of_isList hv), equal_iff_of_isList hv]
    constructor
    · rintro ⟨-, -, hitem⟩
      exact ⟨⟨rfl, by simp⟩, fun i hi => (ih i hi).mp (hitem i hi), by simp⟩
    · rintro ⟨-, hitem, -⟩
      exact ⟨hv, rfl, fun i hi => (ih i hi).mpr (hitem i hi)⟩
  | map v hv ih =>
    rw [forall_reaches_iff, SelfComparable, isNaN_of_isMap hv,
      items_of_not_isList (isList_of_isMap hv), equal_iff_of_isMap hv]
    constructor
    · rintro ⟨-, -, hanswer⟩
      refine ⟨⟨rfl, fun name hname => ?_⟩, fun i hi => absurd hi i.not_lt_zero,
        fun name hname x hx => ?_⟩
      · obtain ⟨x, _, hx, _⟩ := hanswer name hname
        exact ⟨x, hx⟩
      · obtain ⟨x', y, hx', hy, hxy⟩ := hanswer name hname
        cases hx.symm.trans hx'
        cases hx.symm.trans hy
        exact (ih name hname x hx).mp hxy
    · rintro ⟨⟨-, hreadable⟩, -, hentry⟩
      refine ⟨hv, rfl, fun name hname => ?_⟩
      obtain ⟨x, hx⟩ := hreadable name hname
      exact ⟨x, x, hx, hx, (ih name hname x hx).mpr (hentry name hname x hx)⟩

theorem equals_float_iff (x y : Binary64) : (Value.float x).equals (.float y) = true ↔
    x.isNaN = false ∧ y.isNaN = false ∧ (x = y ∨ x.isZero = true ∧ y.isZero = true) := by
  have hbits : x.bits = y.bits ↔ x = y := by
    rw [Binary64.mk.injEq]
  simp [equals, Binary64.equals, hbits, and_assoc]

/-- Equality of values is a partial equivalence. A value differs from itself just when a NaN, or a
listed key that cannot be read, is inside it. -/
theorem equals_partialEquivalence :
    (∀ v w : Value, v.equals w = w.equals v) ∧
      (∀ u v w : Value, u.equals v = true → v.equals w = true → u.equals w = true) ∧
      (∀ v : Value, v.equals v = true ↔ ∀ w, v.Reaches w →
        w.isNaN = false ∧ ∀ name ∈ w.keys, ∃ x, w.subscript name = .ok x) ∧
      ∀ x y : Binary64, (Value.float x).equals (.float y) = true ↔
        x.isNaN = false ∧ y.isNaN = false ∧ (x = y ∨ x.isZero = true ∧ y.isZero = true) := by
  refine ⟨fun v w => ?_, fun u v w h k => ?_, fun v => ?_, equals_float_iff⟩
  · rw [Bool.eq_iff_iff, equals_iff_equal, equals_iff_equal]
    exact ⟨Equal.symm, Equal.symm⟩
  · rw [equals_iff_equal] at h k ⊢
    exact h.trans k
  · rw [equals_iff_equal]
    exact equal_self_iff v

end TextTemplate.Value
