import TextTemplate.Eval.Call
import TextTemplate.Value.Display

/-! What the readers of a value need of a list-shaped or map-shaped one: of the first its items, of
the second its keys and what it answers for them. Whether it is owned or lazy does not matter. -/

namespace TextTemplate.Value

def listTypes : List String :=
  ["list", "generic list"]

section listShaped

variable {v : Value} (h : v.isList)
include h

theorem isMap_of_isList : v.isMap = false := by
  cases v with
  | list items => rfl
  | genericList view => rfl
  | _ => cases h

theorem isTruthy_of_isList : v.isTruthy = decide (v.items.size ≠ 0) := by
  cases v with
  | list items => cases items <;> rfl
  | genericList view => rfl
  | _ => cases h

theorem index_of_isList (object : Value) : object.index v = .ok .empty := by
  cases v with
  | list items => rfl
  | genericList view => rfl
  | _ => cases h

theorem asInt?_of_isList : v.asInt? = none := by
  cases v with
  | list items => rfl
  | genericList view => rfl
  | _ => cases h

theorem typeName_of_isList : v.typeName ∈ listTypes := by
  cases v with
  | list items => exact List.mem_cons_self
  | genericList view => exact List.mem_cons_of_mem _ List.mem_cons_self
  | _ => cases h

end listShaped

theorem displayItems_eq_map (items : List Value) : displayItems items = items.map display := by
  induction items with
  | nil => rfl
  | cons v vs ih => rw [displayItems, ih, List.map_cons]

theorem map_listView {α : Type} (f : Value → α) (items : List Value) :
    ((List.range items.length).map fun i => f ((listView items).item i)) = items.map f := by
  refine List.ext_getElem (by simp) fun i hi hi' => ?_
  have hlt : i < items.length := by simpa using hi'
  simp [listView, hlt]

theorem display_of_isList {v : Value} (h : v.isList) : v.display =
    bracketed ((List.range v.items.size).map fun i => (v.items.item i).display) := by
  cases v with
  | list items =>
    rw [display, displayItems_eq_map]
    exact congrArg bracketed (map_listView display items).symm
  | genericList view => rfl
  | _ => cases h

theorem displayEntry_eq (entries : List (String × Value)) (name : String) :
    displayEntry entries name = ((Entries.get? entries name).getD .empty).display := by
  induction entries with
  | nil => rfl
  | cons e rest ih =>
    obtain ⟨k, v⟩ := e
    rw [displayEntry, Entries.get?]
    split
    · rfl
    · exact ih

theorem display_of_isMap {v : Value} (h : v.isMap) : v.display =
    braced (v.keys.map fun name => name ++ ": " ++ displayResult (v.subscript name)) := by
  cases v with
  | map entries =>
    rw [display]
    simp only [displayEntry_eq]
    rfl
  | genericMap view => rfl
  | _ => cases h

theorem display_eq_of_items {v w : Value} (hv : v.isList) (hw : w.isList)
    (hsize : v.items.size = w.items.size)
    (hitem : ∀ i < v.items.size, (v.items.item i).display = (w.items.item i).display) :
    v.display = w.display := by
  rw [display_of_isList hv, display_of_isList hw, ← hsize]
  refine congrArg bracketed (List.map_congr_left fun i hi => ?_)
  exact hitem i (List.mem_range.mp hi)

theorem display_eq_of_entries {v w : Value} (hv : v.isMap) (hw : w.isMap)
    (hkeys : v.keys = w.keys) (hentry : ∀ name ∈ v.keys,
      displayResult (v.subscript name) = displayResult (w.subscript name)) :
    v.display = w.display := by
  rw [display_of_isMap hv, display_of_isMap hw, ← hkeys]
  refine congrArg braced (List.map_congr_left fun name hname => ?_)
  rw [hentry name hname]

theorem mem_keys_map {entries : List (String × Value)} {name : String} :
    name ∈ keys (.map entries) ↔ Entries.get? entries name ≠ none := by
  rw [keys, Names.mem_sort, ne_eq, Entries.get?_eq_none_iff, Decidable.not_not]

theorem exists_entry {entries : List (String × Value)} {name : String}
    (h : name ∈ keys (.map entries)) :
    ∃ v, Entries.get? entries name = some v ∧ subscript (.map entries) name = .ok v := by
  obtain ⟨v, hv⟩ := Option.ne_none_iff_exists'.mp (mem_keys_map.mp h)
  refine ⟨v, hv, ?_⟩
  rw [subscript, hv]
  rfl

theorem isTruthy_map (entries : List (String × Value)) :
    (Value.map entries).isTruthy = decide (keys (.map entries) ≠ []) := by
  have hlen : (keys (.map entries)).length = entries.length := by
    rw [keys, (Names.sort_perm _).length_eq, Entries.names, List.length_map]
  rw [isTruthy]
  cases entries with
  | nil => rfl
  | cons e rest =>
    have hne : keys (.map (e :: rest)) ≠ [] := by
      intro hnil
      rw [hnil] at hlen
      exact absurd hlen (by simp)
    rw [decide_eq_true hne]
    rfl

theorem integers_cons (v : Value) (rest : List Value) : integers (v :: rest) =
    match v.asInt? with
    | some n => do return n :: (← integers rest)
    | none => .error (.typeMismatch "int" v.typeName) := by
  cases v <;> rfl

def ofProgression (p : Progression) : Except EvalError Value :=
  if p.step = 0 then .error zeroStep
  else if UInt64.size ≤ p.length then
    .error (.custom ("range() of " ++ p.length.repr ++ " elements is too large"))
  else .ok (.genericList p.view)

theorem range_eq (args : List Value) : range args = integers args >>= fun ns =>
    match ns with
    | [stop] => ofProgression ⟨0, stop, 1⟩
    | [start, stop] => ofProgression ⟨start, stop, 1⟩
    | [start, stop, step] => ofProgression ⟨start, stop, step⟩
    | _ => .error (.wrongArgCount "range" 1 3 args.length) :=
  rfl

theorem callMethod_cycle (receiver : Value) (args : List Value) :
    receiver.callMethod "cycle" args =
      match (receiver.subscript "index0").toOption.bind asInt? with
      | some position => .ok (cycle position args)
      | none => .error (.undefinedMethod "cycle" receiver.typeName) := by
  rw [callMethod, if_pos rfl]
  cases receiver.subscript "index0" with
  | error e => rfl
  | ok v => cases v <;> rfl

theorem callMethod_of_ne {name : String} (h : name ≠ "cycle") (receiver : Value)
    (args : List Value) :
    receiver.callMethod name args = .error (.undefinedMethod name receiver.typeName) :=
  if_neg h

theorem isList_of_isMap {v : Value} (h : v.isMap) : v.isList = false := by
  cases v with
  | map entries => rfl
  | genericMap view => rfl
  | _ => cases h

theorem index_of_isMap {v : Value} (h : v.isMap) (object : Value) :
    object.index v = .ok .empty := by
  cases v with
  | map entries => rfl
  | genericMap view => rfl
  | _ => cases h

theorem asInt?_of_isMap {v : Value} (h : v.isMap) : v.asInt? = none := by
  cases v with
  | map entries => rfl
  | genericMap view => rfl
  | _ => cases h

theorem items_of_not_isList {v : Value} (h : v.isList = false) : v.items = emptyView := by
  cases v with
  | list items => cases h
  | genericList view => cases h
  | _ => rfl

theorem subscript_of_not_isMap {v : Value} (h : v.isMap = false) (name : String) :
    v.subscript name = .ok .empty := by
  cases v with
  | map entries => cases h
  | genericMap view => cases h
  | _ => rfl

theorem keys_of_not_isMap {v : Value} (h : v.isMap = false) : v.keys = [] := by
  cases v with
  | map entries => cases h
  | genericMap view => cases h
  | _ => rfl

theorem item_listView_mem {items : List Value} {i : Nat} (h : i < items.length) :
    (listView items).item i ∈ items := by
  change items.getD i .empty ∈ items
  rw [List.getD_eq_getElem?_getD, List.getElem?_eq_getElem h, Option.getD_some]
  exact List.getElem_mem h

/-- Induction over the items of a list and the listed entries of a map, owned or lazy. -/
@[elab_as_elim]
theorem shapeInduction {motive : Value → Prop}
    (scalar : ∀ v : Value, v.isList = false → v.isMap = false → motive v)
    (list : ∀ v : Value, v.isList → (∀ i < v.items.size, motive (v.items.item i)) → motive v)
    (map : ∀ v : Value, v.isMap →
      (∀ name ∈ v.keys, ∀ x, v.subscript name = .ok x → motive x) → motive v)
    (v : Value) : motive v := by
  induction v using Value.induction with
  | list items ih => exact list _ rfl fun i hi => ih _ (item_listView_mem hi)
  | genericList view ih => exact list _ rfl fun i _ => ih i
  | map entries ih =>
    refine map _ rfl fun name hname x hx => ?_
    obtain ⟨y, hy, hsub⟩ := exists_entry hname
    obtain rfl : y = x := Except.ok.inj (hsub.symm.trans hx)
    exact ih _ (Entries.mem_of_get? hy)
  | genericMap view ihName _ => exact map _ rfl fun name _ x hx => ihName name x hx
  | _ => exact scalar _ rfl rfl

end TextTemplate.Value
