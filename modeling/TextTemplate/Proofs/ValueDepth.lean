import TextTemplate.Proofs.OwnedTree
import Mathlib.Tactic.SplitIfs

/-! How deep values are nested. The text of a value and its equality with another one are found by
asking for its parts, then for the parts of these, and so on. Of a lazy value nothing tells
beforehand that this ends, so both are done here with a limit on the rounds. One round more is
enough than the longest path into the value, or into either of the two compared, has steps. -/

namespace TextTemplate

section eachElement

variable {α β : Type} {l : List α}

theorem mapM_eq_some {f : α → Option β} {g : α → β} (h : ∀ a ∈ l, f a = some (g a)) :
    l.mapM f = some (l.map g) := by
  induction l with
  | nil => rfl
  | cons a l ih =>
    obtain ⟨hfirst, hrest⟩ := List.forall_mem_cons.mp h
    rw [List.mapM_cons, hfirst, ih hrest]
    rfl

theorem allM_eq_some {p : α → Option Bool} {q : α → Bool} (h : ∀ a ∈ l, p a = some (q a)) :
    l.allM p = some (l.all q) := by
  induction l with
  | nil => rfl
  | cons a l ih =>
    obtain ⟨hfirst, hrest⟩ := List.forall_mem_cons.mp h
    have hall := ih hrest
    rw [List.allM, hfirst, List.all_cons]
    cases q a with
    | true => exact hall
    | false => rfl

end eachElement

namespace Value

/-- No path leads more than `n` steps into the value. -/
def NestedWithin (n : Nat) (v : Value) : Prop :=
  ∀ path w, v.at? path = some w → path.length ≤ n

section nesting

variable {v x : Value} {n : Nat} {s : Selector}

theorem NestedWithin.mono {m : Nat} (h : v.NestedWithin m) (hle : m ≤ n) : v.NestedWithin n :=
  fun path w hw => Nat.le_trans (h path w hw) hle

theorem nestedWithin_of_parts (h : ∀ s x, v.part? s = some x → ∃ m < n, x.NestedWithin m) :
    v.NestedWithin n := by
  intro path w hw
  cases path with
  | nil => exact n.zero_le
  | cons s path =>
    obtain ⟨x, hx, hpath⟩ := Option.bind_eq_some_iff.mp hw
    obtain ⟨m, hm, hnested⟩ := h s x hx
    have hlength : path.length ≤ m := hnested path w hpath
    exact Nat.lt_of_le_of_lt hlength hm

theorem NestedWithin.part (h : v.NestedWithin n) (hx : v.part? s = some x) :
    ∃ m, n = m + 1 ∧ x.NestedWithin m := by
  have hat : ∀ path, v.at? (s :: path) = x.at? path := by
    intro path
    rw [at?, hx, Option.bind_some]
  cases n with
  | zero => exact absurd (h [s] x (hat [])) (Nat.not_succ_le_zero 0)
  | succ m =>
    refine ⟨m, rfl, fun path w hw => ?_⟩
    have hlength : (s :: path).length ≤ m + 1 := h (s :: path) w ((hat path).trans hw)
    exact Nat.le_of_succ_le_succ hlength

theorem part?_item {i : Nat} (hi : i < v.items.size) :
    v.part? (.item i) = some (v.items.item i) :=
  if_pos hi

theorem part?_entry {name : String} (hname : name ∈ v.keys) (hx : v.subscript name = .ok x) :
    v.part? (.entry name) = some x := by
  rw [part?, if_pos hname, hx]
  rfl

end nesting

/-- The text of a value, found in at most `n` rounds. A scalar takes one. -/
def displayWithin : Nat → Value → Option String
  | 0, _ => none
  | n + 1, v =>
    if v.isList then do
      let parts ← (List.range v.items.size).mapM fun i => displayWithin n (v.items.item i)
      return bracketed parts
    else if v.isMap then do
      let parts ← v.keys.mapM fun name =>
        match v.subscript name with
        | .ok x => do return name ++ ": " ++ (← displayWithin n x)
        | .error _ => some (name ++ ": ")
      return braced parts
    else some v.display

def equalsWithin : Nat → Value → Value → Option Bool
  | 0, _, _ => none
  | n + 1, v, w =>
    if v.isList ∧ w.isList then
      if v.items.size = w.items.size then
        (List.range v.items.size).allM fun i => equalsWithin n (v.items.item i) (w.items.item i)
      else some false
    else if v.isMap ∧ w.isMap then
      if v.keys = w.keys then
        v.keys.allM fun name =>
          match v.subscript name, w.subscript name with
          | .ok x, .ok y => equalsWithin n x y
          | _, _ => some false
      else some false
    else some (v.equals w)

section rounds

variable {v w : Value} {n : Nat}

theorem displayWithin_succ (h : ∀ s x, v.part? s = some x → x.displayWithin n = some x.display) :
    v.displayWithin (n + 1) = some v.display := by
  by_cases hl : v.isList
  · have hparts : (List.range v.items.size).mapM (fun i => displayWithin n (v.items.item i)) =
        some ((List.range v.items.size).map fun i => (v.items.item i).display) := by
      apply mapM_eq_some
      intro i hi
      exact h _ _ (part?_item (List.mem_range.mp hi))
    rw [displayWithin, if_pos hl, hparts, display_of_isList hl]
    rfl
  · by_cases hm : v.isMap
    · have hparts : (v.keys.mapM fun name =>
          match v.subscript name with
          | .ok x => do return name ++ ": " ++ (← displayWithin n x)
          | .error _ => some (name ++ ": ")) =
          some (v.keys.map fun name => name ++ ": " ++ displayResult (v.subscript name)) := by
        apply mapM_eq_some
        intro name hname
        cases hx : v.subscript name with
        | ok x =>
          have htext : x.displayWithin n = some x.display := h _ _ (part?_entry hname hx)
          simp only [htext]
          rfl
        | error e => simp only [displayResult, String.append_empty]
      rw [displayWithin, if_neg hl, if_pos hm, hparts, display_of_isMap hm]
      rfl
    · rw [displayWithin, if_neg hl, if_neg hm]

theorem displayWithin_eq (h : v.NestedWithin n) : v.displayWithin (n + 1) = some v.display := by
  -- The bound of a part is less by one, and a value with the bound zero has no parts.
  induction n using Nat.strongRecOn generalizing v with
  | ind n ih =>
    apply displayWithin_succ
    intro s x hx
    obtain ⟨m, rfl, hnested⟩ := h.part hx
    exact ih m m.lt_succ_self hnested

theorem equals_eq_all_items (hv : v.isList) (hw : w.isList) (hsize : v.items.size = w.items.size) :
    v.equals w =
      (List.range v.items.size).all fun i => (v.items.item i).equals (w.items.item i) := by
  rw [Bool.eq_iff_iff, equals_of_isList hv, List.all_eq_true]
  simp only [List.mem_range]
  exact ⟨fun h => h.2.2, fun h => ⟨hw, hsize, h⟩⟩

theorem equals_eq_all_entries (hv : v.isMap) (hw : w.isMap) (hkeys : v.keys = w.keys) :
    v.equals w = v.keys.all fun name => resultEquals (v.subscript name) (w.subscript name) := by
  rw [Bool.eq_iff_iff, equals_of_isMap hv, List.all_eq_true]
  simp only [resultEquals_iff]
  exact ⟨fun h => h.2.2, fun h => ⟨hw, hkeys, h⟩⟩

theorem equalsWithin_succ (h : ∀ s x y, v.part? s = some x → w.part? s = some y →
    equalsWithin n x y = some (x.equals y)) :
    equalsWithin (n + 1) v w = some (v.equals w) := by
  rw [equalsWithin]
  split_ifs with hlists hsize hmaps hkeys
  · obtain ⟨hv, hw⟩ := hlists
    rw [equals_eq_all_items hv hw hsize]
    apply allM_eq_some
    intro i hi
    have hlt : i < v.items.size := List.mem_range.mp hi
    exact h _ _ _ (part?_item hlt) (part?_item (hsize ▸ hlt))
  · have hne : ¬v.equals w = true := fun hequal =>
      hsize ((equals_of_isList hlists.1 w).mp hequal).2.1
    rw [Bool.not_eq_true] at hne
    rw [hne]
  · obtain ⟨hv, hw⟩ := hmaps
    rw [equals_eq_all_entries hv hw hkeys]
    apply allM_eq_some
    intro name hname
    cases hx : v.subscript name with
    | error e => rfl
    | ok x =>
      cases hy : w.subscript name with
      | error e => rfl
      | ok y => exact h _ _ _ (part?_entry hname hx) (part?_entry (hkeys ▸ hname) hy)
  · have hne : ¬v.equals w = true := fun hequal =>
      hkeys ((equals_of_isMap hmaps.1 w).mp hequal).2.1
    rw [Bool.not_eq_true] at hne
    rw [hne]
  · rfl

theorem nestedWithin_parts {s : Selector} {x y : Value} (h : v.NestedWithin n ∨ w.NestedWithin n)
    (hx : v.part? s = some x) (hy : w.part? s = some y) :
    ∃ m, n = m + 1 ∧ (x.NestedWithin m ∨ y.NestedWithin m) := by
  rcases h with hv | hw
  · obtain ⟨m, hm, hnested⟩ := hv.part hx
    exact ⟨m, hm, .inl hnested⟩
  · obtain ⟨m, hm, hnested⟩ := hw.part hy
    exact ⟨m, hm, .inr hnested⟩

theorem equalsWithin_eq (h : v.NestedWithin n ∨ w.NestedWithin n) :
    equalsWithin (n + 1) v w = some (v.equals w) := by
  induction n using Nat.strongRecOn generalizing v w with
  | ind n ih =>
    apply equalsWithin_succ
    intro s x y hx hy
    obtain ⟨m, rfl, hnested⟩ := nestedWithin_parts h hx hy
    exact ih m m.lt_succ_self hnested

end rounds

end Value
end TextTemplate
