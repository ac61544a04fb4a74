import TextTemplate.Proofs.RecordViews
import TextTemplate.Proofs.ValueDepth

/-! What is bound through an anchor that points at nothing. It has the shape of its type: a record
keeps its names, a sequence or set is empty, and everything else is `empty`. Record types may refer
to themselves, but only through an option, a handle, a sequence or a set, and there a missing part
ends. -/

namespace TextTemplate

namespace Value

/-- One step of reading, which does not ask first whether there is such a part. -/
def read (v : Value) : Selector → Except EvalError Value
  | .entry name => v.subscript name
  | .item i =>
    match v with
    | .genericMap view => view.byIndex i
    | v => .ok (v.items.item i)

theorem subscript_of_part? {v x : Value} {name : String} (h : v.part? (.entry name) = some x) :
    v.subscript name = .ok x := by
  simp only [part?] at h
  split at h
  · cases hx : v.subscript name with
    | error e =>
      rw [hx] at h
      cases h
    | ok y =>
      rw [hx] at h
      exact congrArg Except.ok (Option.some.inj h)
  · cases h

def follow (v : Value) : List Selector → Except EvalError Value
  | [] => .ok v
  | s :: path => v.read s >>= fun x => x.follow path

theorem follow_cons_eq_ok {v w : Value} {s : Selector} {path : List Selector} :
    v.follow (s :: path) = .ok w ↔ ∃ x, v.read s = .ok x ∧ x.follow path = .ok w := by
  rw [follow]
  cases v.read s with
  | error e => exact iff_of_false nofun nofun
  | ok x =>
    constructor
    · intro h
      exact ⟨x, rfl, h⟩
    · rintro ⟨_, ⟨⟩, h⟩
      exact h

theorem exists_follow_of_not_isMap {v : Value} (h : v.isMap = false) (names : List String) :
    ∃ w, v.follow (names.map .entry) = .ok w := by
  induction names generalizing v with
  | nil => exact ⟨v, rfl⟩
  | cons name names ih =>
    have hempty : Value.empty.isMap = false := rfl
    obtain ⟨w, hw⟩ := ih hempty
    exact ⟨w, follow_cons_eq_ok.mpr ⟨.empty, subscript_of_not_isMap h name, hw⟩⟩

end Value

namespace Registry

variable {reg : Registry}

section absent

theorem absent_cases (reg : Registry) (t : HostType) :
    reg.absent t = .empty ∨ reg.absent t = .genericList Value.emptyView ∨
      ∃ (table : Bindings Member) (rest : Registry), rest.length < reg.length ∧
        reg.absent t = .genericMap (.ofBindings table fun m => absent rest m.type) := by
  induction reg with
  | nil =>
    cases t with
    | sequence _ => exact .inr (.inl rfl)
    | set _ => exact .inr (.inl rfl)
    | _ => exact .inl rfl
  | cons s rest ih =>
    cases t with
    | sequence _ => exact .inr (.inl rfl)
    | set _ => exact .inr (.inl rfl)
    | record name =>
      rw [absent]
      split
      · exact .inr (.inr ⟨s.table, rest, Nat.lt_succ_self _, rfl⟩)
      · rcases ih with h | h | ⟨table, rest', hlt, h⟩
        · exact .inl h
        · exact .inr (.inl h)
        · exact .inr (.inr ⟨table, rest', Nat.lt_succ_of_lt hlt, h⟩)
    | _ => exact .inl rfl

theorem absent_read {t : HostType} {s : Value.Selector} {x : Value}
    (h : (reg.absent t).read s = .ok x) :
    ∃ (rest : Registry) (t' : HostType), x = absent rest t' := by
  have hempty : (.ok .empty : Except EvalError Value) = .ok x →
      ∃ (rest : Registry) (t' : HostType), x = absent rest t' := by
    rintro ⟨⟩
    exact ⟨[], .int, rfl⟩
  rcases reg.absent_cases t with hcase | hcase | ⟨table, rest, _, hcase⟩
  · rw [hcase] at h
    cases s <;> exact hempty h
  · rw [hcase] at h
    cases s <;> exact hempty h
  · rw [hcase] at h
    cases s with
    | entry name =>
      obtain ⟨m, _, hm⟩ := MapView.exists_of_byName h
      exact ⟨rest, m.type, hm.symm⟩
    | item i =>
      obtain ⟨m, hm⟩ := MapView.exists_of_byIndex h
      exact ⟨rest, m.type, hm.symm⟩

theorem absent_follow {path : List Value.Selector} {t : HostType} {w : Value}
    (h : (reg.absent t).follow path = .ok w) :
    ∃ (rest : Registry) (t' : HostType), w = absent rest t' := by
  induction path generalizing reg t with
  | nil => exact ⟨reg, t, (Except.ok.inj h).symm⟩
  | cons s path ih =>
    obtain ⟨x, hx, hw⟩ := Value.follow_cons_eq_ok.mp h
    obtain ⟨rest, t', rfl⟩ := absent_read hx
    exact ih hw

theorem absent_nestedWithin (reg : Registry) (t : HostType) :
    (reg.absent t).NestedWithin reg.length := by
  induction hn : reg.length using Nat.strongRecOn generalizing reg t with
  | ind n ih =>
    subst hn
    apply Value.nestedWithin_of_parts
    intro s x hx
    rcases reg.absent_cases t with hcase | hcase | ⟨table, rest, hlt, hcase⟩
    · rw [hcase] at hx
      cases s <;> cases hx
    · rw [hcase] at hx
      cases s <;> cases hx
    · rw [hcase] at hx
      cases s with
      | item i => cases hx
      | entry name =>
        obtain ⟨m, _, rfl⟩ := MapView.exists_of_byName (Value.subscript_of_part? hx)
        exact ⟨rest.length, hlt, ih rest.length hlt rest m.type rfl⟩

theorem absent_of_unknown {name : String} (h : reg.schema? name = none) :
    reg.absent (.record name) = .empty := by
  have hother : ∀ s ∈ reg, HostType.record name ≠ .record s.name := by
    intro s hs heq
    have hname : s.name = name := (HostType.record.inj heq).symm
    exact absurd (decide_eq_true hname) (List.find?_eq_none.mp h s hs)
  have hpassed : absent (reg ++ []) (.record name) = absent [] (.record name) :=
    absent_append hother
  rwa [List.append_nil] at hpassed

end absent

/-- What a missing part of a type is bound to, one step deep. The members of a record are bound
through missing anchors in turn. -/
def AbsentShape (reg : Registry) (v : Value) : HostType → Prop
  | .int | .float | .bool | .str | .option _ | .shared _ => v = .empty
  | .sequence _ | .set _ =>
    ∃ view, v = .genericList view ∧ view.size = 0 ∧ ∀ i, view.item i = .empty
  | .record name => ∀ s, reg.schema? name = some s → ∃ view, v = .genericMap view ∧
      view.Consistent ∧ (∀ shown, shown ∈ view.keys ↔ shown ∈ Entries.names s.fields) ∧
      (∀ a, ∀ u ∈ reg.bindings (.record name) a, ∃ there, u = .genericMap there ∧
        there.keys = view.keys) ∧
      ∀ shown m, s.table.get? shown = some m →
        view.byName shown = .ok (reg.reflectBorrowed m.type none)

theorem reflectBorrowed_absentShape (hreg : reg.Ordered) (t : HostType) :
    reg.AbsentShape (reg.reflectBorrowed t none) t := by
  cases t with
  | sequence _ => cases reg <;> exact ⟨_, rfl, rfl, fun _ => rfl⟩
  | set _ => cases reg <;> exact ⟨_, rfl, rfl, fun _ => rfl⟩
  | record name =>
    intro s hs
    obtain ⟨member, hview, hmember⟩ := exists_reflectBorrowed_record hs none
    refine ⟨_, hview, MapView.ofBindings_consistent _ _, fun _ => Bindings.mem_names_ofList, ?_, ?_⟩
    · intro a u hu
      obtain ⟨member', hthere, _⟩ := exists_reflectBorrowed_record hs a
      exact ⟨_, (eq_of_mem_bindings hu).trans hthere, rfl⟩
    · intro shown m hm
      have hfield : (shown, m) ∈ s.fields := Bindings.mem_of_get?_ofList hm
      rw [MapView.byName_ofBindings member hm, hmember (.inr hreg) shown m hfield]
      rfl
  | _ => cases reg <;> rfl

/-- Names lead at least as far into a missing part as into one that is there. -/
theorem exists_follow_missing (hreg : reg.Ordered) {names : List String} {t : HostType}
    {a : Anchor} {w : Value}
    (h : (reg.reflectBorrowed t a).follow (names.map .entry) = .ok w) :
    ∃ x, (reg.reflectBorrowed t none).follow (names.map .entry) = .ok x := by
  -- On the names of the path: each leads to a member, which has an anchor of its own.
  induction names generalizing t a with
  | nil => exact ⟨_, rfl⟩
  | cons shown names ih =>
    cases t with
    | record name =>
      cases hs : reg.schema? name with
      | none =>
        have hempty : reg.reflectBorrowed (.record name) none = .empty := absent_of_unknown hs
        rw [hempty]
        exact Value.exists_follow_of_not_isMap rfl _
      | some s =>
        obtain ⟨member, hview, hmember⟩ := exists_reflectBorrowed_record hs a
        obtain ⟨missing, hmissing, hmember'⟩ := exists_reflectBorrowed_record hs none
        rw [hview] at h
        obtain ⟨x, hx, hw⟩ := Value.follow_cons_eq_ok.mp h
        obtain ⟨m, hm, rfl⟩ := MapView.exists_of_byName hx
        have hfield : (shown, m) ∈ s.fields := Bindings.mem_of_get?_ofList hm
        rw [hmember (.inr hreg) shown m hfield] at hw
        obtain ⟨y, hy⟩ := ih hw
        refine ⟨y, ?_⟩
        rw [hmissing]
        apply Value.follow_cons_eq_ok.mpr
        refine ⟨missing m, MapView.byName_ofBindings missing hm, ?_⟩
        rw [hmember' (.inr hreg) shown m hfield]
        exact hy
    | _ => cases reg <;> exact Value.exists_follow_of_not_isMap rfl _

/-- A missing part has the shape of its type and every path of names that data of the type has. Its
text and its equality are found in one round more than there are record types. -/
theorem absent_shape (hreg : reg.Ordered) (t : HostType) :
    let v := reg.reflectBorrowed t none
    reg.AbsentShape v t ∧
      (∀ path w, v.follow path = .ok w → w = .empty ∨
        (∃ view, w = .genericList view ∧ view.size = 0) ∨ ∃ view, w = .genericMap view) ∧
      (∀ a, ∀ u ∈ reg.bindings t a, ∀ (names : List String) w, u.follow (names.map .entry) = .ok w →
        ∃ x, v.follow (names.map .entry) = .ok x) ∧
      ∀ n, reg.length < n → v.displayWithin n = some v.display ∧
        ∀ w, v.equalsWithin n w = some (v.equals w) ∧ w.equalsWithin n v = some (w.equals v) := by
  intro v
  refine ⟨reflectBorrowed_absentShape hreg t, ?_, ?_, ?_⟩
  · intro path w h
    obtain ⟨rest, t', rfl⟩ := absent_follow h
    rcases rest.absent_cases t' with hcase | hcase | ⟨table, rest', _, hcase⟩
    · exact .inl hcase
    · exact .inr (.inl ⟨_, hcase, rfl⟩)
    · exact .inr (.inr ⟨_, hcase⟩)
  · intro a u hu names w h
    rw [eq_of_mem_bindings hu] at h
    exact exists_follow_missing hreg h
  · intro n hn
    obtain ⟨m, rfl⟩ : ∃ m, n = m + 1 := Nat.exists_eq_succ_of_ne_zero (Nat.ne_zero_of_lt hn)
    have hnested : v.NestedWithin m :=
      (absent_nestedWithin reg t).mono (Nat.le_of_lt_succ hn)
    refine ⟨Value.displayWithin_eq hnested, fun w => ?_⟩
    exact ⟨Value.equalsWithin_eq (.inl hnested), Value.equalsWithin_eq (.inr hnested)⟩

theorem absent_shape_recursive :
    let node : Schema := ⟨"Node", [("label", ⟨0, .str⟩), ("at", ⟨1, .record "Point"⟩),
      ("children", ⟨2, .sequence (.record "Node")⟩),
      ("next", ⟨3, .option (.shared (.record "Node"))⟩)]⟩
    let point : Schema := ⟨"Point", [("x", ⟨0, .float⟩), ("tags", ⟨1, .set .str⟩)]⟩
    let reg : Registry := [node, point]
    let place : Datum := .record [.float .negZero, .items [.str "far"]]
    let last : Datum := .record [.str "last", place, .items [], .none]
    let first : Datum := .record [.str "first", place, .items [last], .some (.shared last)]
    let path := ["next", "at", "x"].map Value.Selector.entry
    let v := reg.reflectBorrowed (.record "Node") none
    reg.Ordered ∧ v.display = "\x7bat: \x7btags: [], x: \x7d, children: [], label: , next: \x7d" ∧
      v.displayWithin 3 = some v.display ∧
      (reg.reflect (.record "Node") first).follow path = .ok (.float .negZero) ∧
      (∃ x, v.follow path = .ok x) ∧
      ∃ view, v = .genericMap view ∧ view.keys = ["at", "children", "label", "next"] ∧
        view.byName "at" = .ok (reg.reflectBorrowed (.record "Point") none) := by
  intro node point reg place last first path v
  have hreg : reg.Ordered := ⟨by decide, by decide⟩
  obtain ⟨hshape, -, hpaths, hrounds⟩ := absent_shape hreg (.record "Node")
  obtain ⟨view, hview, -, -, -, hmember⟩ := hshape node rfl
  have hkeys : view.keys = ["at", "children", "label", "next"] := by
    cases hview
    decide
  have hfirst : (reg.reflect (.record "Node") first).follow path = .ok (.float .negZero) := rfl
  have hpath : ∃ x, v.follow path = .ok x :=
    hpaths (some first) _ List.mem_cons_self ["next", "at", "x"] _ hfirst
  have hdisplay :
      v.display = "\x7bat: \x7btags: [], x: \x7d, children: [], label: , next: \x7d" := by decide
  exact ⟨hreg, hdisplay, (hrounds 3 (by decide)).1, hfirst, hpath, view, hview, hkeys,
    hmember "at" _ rfl⟩

end Registry
end TextTemplate
