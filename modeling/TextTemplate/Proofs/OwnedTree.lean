import TextTemplate.Host.Bind
import TextTemplate.Proofs.ValueEquality

/-! The owned value that some host data amounts to, and the proof that every way to bind the data
shows just that: the same kinds, sizes, keys and scalars at every path, only with lazy lists and
maps in place of owned ones. Data that is there never runs into a missing part. -/

namespace TextTemplate

/-- Data of a type. A record has every member that its schema shows, and may have more. -/
inductive Datum.HasType (reg : Registry) : Datum → HostType → Prop
  | int (n : Int) : HasType reg (.int n) .int
  | float (x : Binary64) : HasType reg (.float x) .float
  | bool (b : Bool) : HasType reg (.bool b) .bool
  | str (s : String) : HasType reg (.str s) .str
  | none (t : HostType) : HasType reg .none (.option t)
  | some {d : Datum} {t : HostType} (h : HasType reg d t) : HasType reg (.some d) (.option t)
  | shared {d : Datum} {t : HostType} (h : HasType reg d t) : HasType reg (.shared d) (.shared t)
  | sequence {ds : List Datum} {t : HostType} (h : ∀ d ∈ ds, HasType reg d t) :
      HasType reg (.items ds) (.sequence t)
  | set {ds : List Datum} {t : HostType} (h : ∀ d ∈ ds, HasType reg d t) :
      HasType reg (.items ds) (.set t)
  | record {name : String} {s : Schema} {ms : List Datum} (hs : reg.schema? name = .some s)
      (hthere : ∀ f ∈ s.fields, f.2.position < ms.length)
      (hmember : ∀ f ∈ s.fields, ∀ d, ms[f.2.position]? = .some d → HasType reg d f.2.type) :
      HasType reg (.record ms) (.record name)

namespace Datum

mutual

def hasNaN : Datum → Bool
  | .float x => x.isNaN
  | .some d => hasNaN d
  | .shared d => hasNaN d
  | .items ds => anyNaN ds
  | .record ms => anyNaN ms
  | _ => false
termination_by structural d => d

def anyNaN : List Datum → Bool
  | [] => false
  | d :: ds => hasNaN d || anyNaN ds
termination_by structural ds => ds

end

theorem hasNaN_of_mem {ds : List Datum} (h : anyNaN ds = false) {d : Datum} (hd : d ∈ ds) :
    d.hasNaN = false := by
  induction ds with
  | nil => cases hd
  | cons e es ih =>
    obtain ⟨he, hes⟩ := Bool.or_eq_false_iff.mp h
    rcases List.mem_cons.mp hd with rfl | hd
    · exact he
    · exact ih hes hd

end Datum

namespace Registry

mutual

/-- The map of a record is made of its registrations in their order. -/
def tree (reg : Registry) : Datum → HostType → Value
  | .int n, .int => Value.saturated n
  | .float x, .float => .float x
  | .bool b, .bool => .bool b
  | .str s, .str => .str s
  | .some d, .option t => tree reg d t
  | .shared d, .shared t => tree reg d t
  | .items ds, .sequence t => .list (treeItems reg ds t)
  | .items ds, .set t => .list (treeItems reg ds t)
  | .record ms, .record name =>
    match reg.schema? name with
    | some s => .ofPairs (s.fields.map fun f => (f.1, treeMember reg ms f.2.position f.2.type))
    | none => .empty
  | _, _ => .empty
termination_by structural d => d

def treeItems (reg : Registry) : List Datum → HostType → List Value
  | [], _ => []
  | d :: ds, t => tree reg d t :: treeItems reg ds t
termination_by structural ds => ds

def treeMember (reg : Registry) : List Datum → Nat → HostType → Value
  | [], _, _ => .empty
  | d :: _, 0, t => tree reg d t
  | _ :: ds, i + 1, t => treeMember reg ds i t
termination_by structural ds => ds

end

variable {reg : Registry}

theorem treeItems_eq_map (reg : Registry) (ds : List Datum) (t : HostType) :
    reg.treeItems ds t = ds.map (reg.tree · t) := by
  induction ds with
  | nil => rfl
  | cons d ds ih => rw [treeItems, ih, List.map_cons]

theorem treeMember_of_getElem? {ms : List Datum} {i : Nat} {d : Datum} (h : ms[i]? = some d)
    (t : HostType) : reg.treeMember ms i t = reg.tree d t := by
  induction ms generalizing i with
  | nil => cases h
  | cons m ms ih =>
    cases i with
    | zero => cases h; rfl
    | succ i => exact ih h

theorem tree_record {name : String} {s : Schema} (h : reg.schema? name = some s)
    (ms : List Datum) : reg.tree (.record ms) (.record name) =
      .ofBindings (s.table.map fun m => reg.treeMember ms m.position m.type) := by
  simp only [tree, h]
  rw [Value.ofPairs, Schema.table, Bindings.map_ofList]

theorem reflect_eq_reflectBorrowed (reg : Registry) (t : HostType) (d : Datum) :
    reg.reflect t d = reg.reflectBorrowed t (some d) := by
  induction t generalizing d with
  | option t ih =>
    cases d with
    | some d =>
      rw [reflect, ih]
      rfl
    | _ => rfl
  | shared t ih => cases d <;> rfl
  | _ => rfl

theorem reflectRef_eq_reflectBorrowed (reg : Registry) (t : HostType) (d : Datum) :
    reg.reflectRef t d = reg.reflectBorrowed t (some d) := by
  induction t generalizing d with
  | option t ih =>
    cases d with
    | some d =>
      rw [reflectRef, ih]
      rfl
    | _ => exact reg.reflect_eq_reflectBorrowed _ _
  | _ => exact reg.reflect_eq_reflectBorrowed _ d

end Registry

namespace Value

inductive Selector where
  | entry (name : String)
  | item (position : Nat)

def part? (v : Value) : Selector → Option Value
  | .entry name => if name ∈ v.keys then (v.subscript name).toOption else none
  | .item i => if i < v.items.size then some (v.items.item i) else none

def at? (v : Value) : List Selector → Option Value
  | [] => some v
  | s :: path => (v.part? s).bind fun w => w.at? path

def size : Value → Nat
  | .map entries => entries.length
  | .genericMap view => view.size
  | v => v.items.size

def scalar? (v : Value) : Option Value :=
  if v.isList ∨ v.isMap then none else some v

def lazyTypeName : Value → String
  | .list _ => "generic list"
  | .map _ => "generic map"
  | v => v.typeName

/-- A value that can be told from an owned one only by the name of its type, as far as one step into
it shows. -/
structure Shows (v owned : Value) : Prop where
  typeName_eq : v.typeName = owned.lazyTypeName
  isTruthy_eq : v.isTruthy = owned.isTruthy
  size_eq : v.size = owned.size
  keys_eq : v.keys = owned.keys
  scalar?_eq : v.scalar? = owned.scalar?

/-- The same scalars in lists and maps that are lazy on the one side and owned on the other. -/
inductive Mirrors : Value → Value → Prop
  | scalar {v : Value} (hl : v.isList = false) (hm : v.isMap = false) : Mirrors v v
  | list {view : ListView Value} {items : List Value} (hsize : view.size = items.length)
      (hitem : ∀ i < items.length, Mirrors (view.item i) ((listView items).item i)) :
      Mirrors (.genericList view) (.list items)
  | map {view : MapView Value} {entries : List (String × Value)}
      (hkeys : keys (.genericMap view) = keys (.map entries)) (hsize : view.size = entries.length)
      (hthere : ∀ name ∈ keys (.map entries), ∃ x, view.byName name = .ok x)
      (hentry : ∀ name x y, view.byName name = .ok x → Entries.get? entries name = some y →
        Mirrors x y) : Mirrors (.genericMap view) (.map entries)

namespace Mirrors

variable {v w : Value}

theorem shows (h : Mirrors v w) : Shows v w := by
  cases h with
  | scalar hl hm =>
    cases v with
    | list _ => cases hl
    | map _ => cases hm
    | _ => exact ⟨rfl, rfl, rfl, rfl, rfl⟩
  | @list view items hsize _ =>
    have htruthy := isTruthy_of_isList (v := .list items) rfl
    refine ⟨rfl, ?_, hsize, rfl, rfl⟩
    rw [htruthy, isTruthy, hsize]
    rfl
  | @map view entries hkeys hsize _ _ =>
    refine ⟨rfl, ?_, hsize, hkeys, rfl⟩
    rw [isTruthy, isTruthy, hsize]
    cases entries <;> rfl

theorem part? (h : Mirrors v w) (s : Selector) :
    Option.Rel Mirrors (v.part? s) (w.part? s) := by
  cases h with
  | scalar hl hm =>
    cases s with
    | entry name =>
      rw [Value.part?, keys_of_not_isMap hm, if_neg List.not_mem_nil]
      exact .none
    | item i =>
      have hsize : ¬i < v.items.size := by
        rw [items_of_not_isList hl]
        exact i.not_lt_zero
      rw [Value.part?, if_neg hsize]
      exact .none
  | @list view items hsize hitem =>
    cases s with
    | entry name => exact .none
    | item i =>
      change Option.Rel Mirrors (if i < view.size then some (view.item i) else none)
        (if i < items.length then some ((listView items).item i) else none)
      rw [hsize]
      split
      · rename_i hi
        exact .some (hitem i hi)
      · exact .none
  | @map view entries hkeys _ hthere hentry =>
    cases s with
    | item i => exact .none
    | entry name =>
      rw [Value.part?, Value.part?, hkeys]
      split
      · rename_i hname
        obtain ⟨x, hx⟩ := hthere name hname
        obtain ⟨y, hy, hsub⟩ := exists_entry hname
        rw [hsub, subscript, hx]
        exact .some (hentry name x y hx hy)
      · exact .none

theorem at? (h : Mirrors v w) (path : List Selector) :
    Option.Rel Mirrors (v.at? path) (w.at? path) := by
  induction path generalizing v w with
  | nil => exact .some h
  | cons s path ih =>
    have hpart := h.part? s
    rw [Value.at?, Value.at?]
    generalize v.part? s = x, w.part? s = y at hpart ⊢
    cases hpart with
    | none => exact .none
    | some hxy => exact ih hxy

theorem equal (h : Mirrors v w) (hw : Equal w w) : Equal v w := by
  induction h with
  | scalar _ _ => exact hw
  | list hsize _ ih =>
    cases hw with
    | list _ _ _ hself =>
      exact .list rfl rfl hsize fun i hi =>
        have hlt := hsize ▸ hi
        ih i hlt (hself i hlt)
    | map hm _ _ _ _ _ => cases hm
  | @map view entries hkeys _ hthere _ ih =>
    cases hw with
    | list hl _ _ _ => cases hl
    | map _ _ _ hreadable _ hself =>
      refine .map rfl rfl hkeys (hkeys ▸ hthere) (hkeys ▸ hreadable) fun name hname x y hx hy => ?_
      rw [hkeys] at hname
      obtain ⟨z, hz, hsub⟩ := exists_entry hname
      obtain rfl : z = y := Except.ok.inj (hsub.symm.trans hy)
      exact ih name x z hx hz (hself name hname z z hy hy)

theorem ofBindings {β : Type} {table : Bindings β} {f g : β → Value}
    (h : ∀ name b, table.get? name = some b → Mirrors (f b) (g b)) :
    Mirrors (.genericMap (.ofBindings table f)) (.ofBindings (table.map g)) := by
  have hkeys : keys (.genericMap (.ofBindings table f)) = keys (.map (table.map g).entries) :=
    congrArg Names.sort (Bindings.names_map g table).symm
  have hbyName : ∀ name b, table.get? name = some b →
      (MapView.ofBindings table f).byName name = .ok (f b) := by
    intro name b hb
    simp only [MapView.ofBindings, hb]
  have hget : ∀ name, Entries.get? (table.map g).entries name = (table.get? name).map g :=
    table.get?_map g
  refine .map hkeys (table.size_map g).symm (fun name hname => ?_) fun name x y hx hy => ?_
  · obtain ⟨y, hy, _⟩ := exists_entry hname
    rw [hget] at hy
    obtain ⟨b, hb, _⟩ := Option.map_eq_some_iff.mp hy
    exact ⟨f b, hbyName name b hb⟩
  · rw [hget] at hy
    obtain ⟨b, hb, rfl⟩ := Option.map_eq_some_iff.mp hy
    obtain rfl : f b = x := Except.ok.inj ((hbyName name b hb).symm.trans hx)
    exact h name b hb

end Mirrors
end Value

namespace Registry

variable {reg : Registry} {d : Datum} {t : HostType}

theorem presentItem_mirrors {ds : List Datum}
    (h : ∀ d ∈ ds, Value.Mirrors (reg.reflectBorrowed t (some d)) (reg.tree d t)) :
    Value.Mirrors (.genericList ⟨ds.length, fun i => reg.presentItem ds i t⟩)
      (.list (reg.treeItems ds t)) := by
  rw [treeItems_eq_map]
  refine .list (List.length_map _).symm fun i hi => ?_
  have hlt : i < ds.length := by rwa [List.length_map] at hi
  have hitem : (Value.listView (ds.map (reg.tree · t))).item i = reg.tree ds[i] t := by
    simp [Value.listView, hlt]
  have hview : reg.presentItem ds i t = reg.reflectBorrowed t (some ds[i]) := by
    rw [presentItem_eq, if_pos hlt, List.getElem?_eq_getElem hlt]
  change Value.Mirrors (reg.presentItem ds i t) _
  rw [hview, hitem]
  exact h ds[i] (List.getElem_mem hlt)

theorem exists_member {s : Schema} {ms : List Datum}
    (hthere : ∀ f ∈ s.fields, f.2.position < ms.length) {shown : String} {m : Member}
    (hm : s.table.get? shown = some m) :
    (shown, m) ∈ s.fields ∧ ∃ d ∈ ms, ms[m.position]? = some d := by
  have hfield : (shown, m) ∈ s.fields := Bindings.mem_of_get?_ofList hm
  have hlt : m.position < ms.length := hthere _ hfield
  exact ⟨hfield, ms[m.position], List.getElem_mem hlt, List.getElem?_eq_getElem hlt⟩

theorem present_mirrors_tree (h : d.HasType reg t) :
    Value.Mirrors (reg.reflectBorrowed t (some d)) (reg.tree d t) := by
  induction h with
  | int n => exact .scalar rfl rfl
  | float x => exact .scalar rfl rfl
  | bool b => exact .scalar rfl rfl
  | str s => exact .scalar rfl rfl
  | none t => exact .scalar rfl rfl
  | some _ ih => exact ih
  | shared _ ih => exact ih
  | sequence _ ih => exact presentItem_mirrors ih
  | set _ ih => exact presentItem_mirrors ih
  | @record name s ms hs hthere _ ih =>
    rw [reflectBorrowed_record hs, tree_record hs]
    refine .ofBindings fun shown m hm => ?_
    obtain ⟨hfield, d, _, hd⟩ := exists_member hthere hm
    rw [treeMember_of_getElem? hd, Anchor.member, hd]
    exact ih (shown, m) hfield d hd

theorem treeItems_equal_self {ds : List Datum}
    (h : ∀ d ∈ ds, d.hasNaN = false → Value.Equal (reg.tree d t) (reg.tree d t))
    (hds : Datum.anyNaN ds = false) :
    Value.Equal (.list (reg.treeItems ds t)) (.list (reg.treeItems ds t)) := by
  rw [treeItems_eq_map]
  refine .list_self fun v hv => ?_
  obtain ⟨d, hd, rfl⟩ := List.mem_map.mp hv
  exact h d hd (Datum.hasNaN_of_mem hds hd)

theorem tree_equal_self (h : d.HasType reg t) (hd : d.hasNaN = false) :
    Value.Equal (reg.tree d t) (reg.tree d t) := by
  induction h with
  | int n => exact .int _
  | float x =>
    refine .float ?_
    rw [Binary64.equals_self, Bool.not_eq_true']
    exact hd
  | bool b => exact .bool b
  | str s => exact .str s
  | none t => exact .empty
  | some _ ih => exact ih hd
  | shared _ ih => exact ih hd
  | sequence _ ih => exact treeItems_equal_self ih hd
  | set _ ih => exact treeItems_equal_self ih hd
  | @record name s ms hs hthere _ ih =>
    rw [tree_record hs]
    refine .map_self fun shown v hv => ?_
    have hget : (s.table.get? shown).map (fun m => reg.treeMember ms m.position m.type) = some v :=
      (Bindings.get?_map _ s.table shown).symm.trans hv
    obtain ⟨m, hm, rfl⟩ := Option.map_eq_some_iff.mp hget
    obtain ⟨hfield, e, he, hmember⟩ := exists_member hthere hm
    rw [treeMember_of_getElem? hmember]
    exact ih (shown, m) hfield e hmember (Datum.hasNaN_of_mem hd he)

/-- Every way of binding shows the tree of the data at every path, and equals the tree unless there
is a NaN in the data. -/
theorem bindings_show_tree (h : d.HasType reg t) {a : Anchor} (ha : a = some d) :
    ∀ v ∈ [reg.reflect t d, reg.reflect (.shared t) (.shared d), reg.reflectShared t d,
        reg.reflectBorrowed t a, reg.reflectRef t d],
      (∀ path, Option.Rel Value.Shows (v.at? path) ((reg.tree d t).at? path)) ∧
        (d.hasNaN = false → v.equals (reg.tree d t) = true) := by
  intro v hv
  have hsame : v = reg.reflectBorrowed t (some d) := by
    subst ha
    simp only [List.mem_cons, List.not_mem_nil, or_false] at hv
    rcases hv with rfl | rfl | rfl | rfl | rfl
    · exact reg.reflect_eq_reflectBorrowed t d
    · rfl
    · rfl
    · rfl
    · exact reg.reflectRef_eq_reflectBorrowed t d
  have hmirrors : Value.Mirrors v (reg.tree d t) := hsame ▸ present_mirrors_tree h
  refine ⟨fun path => ?_, fun hd => ?_⟩
  · have hat := hmirrors.at? path
    generalize v.at? path = x, (reg.tree d t).at? path = y at hat ⊢
    cases hat with
    | none => exact .none
    | some hxy => exact .some hxy.shows
  · exact Value.equals_iff_equal.mpr (hmirrors.equal (tree_equal_self h hd))

theorem bindings_show_tree_linked :
    let reg : Registry := [⟨"Node", [("value", ⟨0, .float⟩),
      ("next", ⟨1, .option (.shared (.record "Node"))⟩), ("tags", ⟨2, .set .str⟩)]⟩]
    let last : Datum := .record [.float .negZero, .none, .items []]
    let node : Datum := .record [.float .zero, .some (.shared last), .items [.str "a", .str "b"]]
    node.HasType reg (.record "Node") ∧ node.hasNaN = false ∧
      (reg.reflect (.record "Node") node).equals (reg.tree node (.record "Node")) = true := by
  intro reg last node
  have hrecord : ∀ x next ds, Datum.HasType reg next (.option (.shared (.record "Node"))) →
      (∀ d ∈ ds, Datum.HasType reg d .str) →
      Datum.HasType reg (.record [.float x, next, .items ds]) (.record "Node") := by
    intro x next ds hnext hds
    refine .record rfl (by simp) fun f hf d hd => ?_
    simp only [List.mem_cons, List.not_mem_nil, or_false] at hf
    rcases hf with rfl | rfl | rfl <;> cases hd
    · exact .float x
    · exact hnext
    · exact .set hds
  have htags : ∀ d ∈ [Datum.str "a", .str "b"], Datum.HasType reg d .str := by
    simp only [List.forall_mem_cons]
    exact ⟨.str "a", .str "b", fun _ h => nomatch h⟩
  have hlast : last.HasType reg (.record "Node") := hrecord .negZero .none [] (.none _) (by simp)
  have hnode : node.HasType reg (.record "Node") :=
    hrecord .zero (.some (.shared last)) _ (.some (.shared hlast)) htags
  exact ⟨hnode, rfl, (bindings_show_tree hnode rfl _ List.mem_cons_self).2 rfl⟩

end Registry
end TextTemplate
