import TextTemplate.EvalError
import TextTemplate.Entries
import TextTemplate.Names
import TextTemplate.Bindings
import TextTemplate.Binary64.Basic

/-! Template values. Beside scalars and owned lists and maps there are lazy ones, which hold only a
view that answers questions about data kept elsewhere. -/

namespace TextTemplate

/-- Sized, indexed access to items. Indices from `size` on may be asked for too. -/
structure ListView (α : Type) where
  size : Nat
  item : Nat → α

namespace ListView

variable {α : Type}

def take (view : ListView α) (count : Nat) : List α :=
  (List.range (min count view.size)).map view.item

end ListView

/-- Keyed and ordinal access to named values. The five answers of an arbitrary view need not
agree with each other. -/
structure MapView (α : Type) where
  keys : List String
  size : Nat
  hasValue : String → Bool
  byName : String → Except EvalError α
  byIndex : Nat → Except EvalError α

namespace MapView

variable {α β : Type}

/-- Names ascend, an unbound name is an invalid field, and positions follow the names. -/
def ofBindings (table : Bindings β) (value : β → α) : MapView α where
  keys := table.names
  size := table.size
  hasValue := table.contains
  byName name :=
    match table.get? name with
    | some b => .ok (value b)
    | none => .error (.invalidField name)
  byIndex i :=
    match table.entries[i]? with
    | some e => .ok (value e.2)
    | none => .error (.indexOutOfBounds i table.size)

end MapView

inductive Value where
  /-- What unbound names and absent entries stand for. -/
  | empty
  | bool (b : Bool)
  | int (n : Int64)
  | float (x : Binary64)
  | str (s : String)
  | list (items : List Value)
  | map (entries : List (String × Value))
  | genericList (view : ListView Value)
  | genericMap (view : MapView Value)

namespace Value

instance : Inhabited Value := ⟨empty⟩

@[elab_as_elim]
theorem induction {motive : Value → Prop}
    (empty : motive .empty)
    (bool : ∀ b, motive (.bool b))
    (int : ∀ n, motive (.int n))
    (float : ∀ x, motive (.float x))
    (str : ∀ s, motive (.str s))
    (list : ∀ items, (∀ v ∈ items, motive v) → motive (.list items))
    (map : ∀ entries, (∀ e ∈ entries, motive e.2) → motive (.map entries))
    (genericList : ∀ view : ListView Value, (∀ i, motive (view.item i)) →
      motive (.genericList view))
    (genericMap : ∀ view : MapView Value,
      (∀ name v, view.byName name = .ok v → motive v) →
      (∀ i v, view.byIndex i = .ok v → motive v) → motive (.genericMap view))
    (v : Value) : motive v := by
  -- The views and the lists inside a value have motives of their own.
  refine Value.rec (motive_1 := motive) (motive_2 := fun items => ∀ v ∈ items, motive v)
    (motive_3 := fun entries => ∀ e ∈ entries, motive e.2)
    (motive_4 := fun view => ∀ i, motive (view.item i))
    (motive_5 := fun view => (∀ name v, view.byName name = .ok v → motive v) ∧
      ∀ i v, view.byIndex i = .ok v → motive v)
    (motive_6 := fun e => motive e.2)
    (motive_7 := fun r => ∀ v, r = .ok v → motive v)
    empty bool int float str list map genericList
    (fun view h => genericMap view h.1 h.2) ?_ ?_ ?_ ?_ ?_ ?_ ?_ ?_ ?_ v
  · simp
  · intro x xs hx hxs v hv
    rcases List.mem_cons.mp hv with rfl | hv
    · exact hx
    · exact hxs v hv
  · simp
  · intro x xs hx hxs e he
    rcases List.mem_cons.mp he with rfl | he
    · exact hx
    · exact hxs e he
  · exact fun size item h => h
  · exact fun keys size hasValue byName byIndex hn hi => ⟨fun name => hn name, fun i => hi i⟩
  · exact fun _ _ h => h
  · exact fun e v h => nomatch h
  · exact fun v hv w h => by cases h; exact hv

end Value
end TextTemplate
