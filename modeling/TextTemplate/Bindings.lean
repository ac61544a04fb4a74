import TextTemplate.Entries

/-! Finite maps from names to values. The entries are strictly ascending by name, so two maps that
bind alike are equal. -/

namespace TextTemplate

structure Bindings (α : Type) where
  entries : List (String × α)
  ascending : Entries.Ascending entries

namespace Bindings

variable {α : Type}

def empty : Bindings α :=
  ⟨[], .nil⟩

instance : EmptyCollection (Bindings α) := ⟨empty⟩
instance : Inhabited (Bindings α) := ⟨empty⟩

def get? (b : Bindings α) (name : String) : Option α :=
  Entries.get? b.entries name

def contains (b : Bindings α) (name : String) : Bool :=
  (b.get? name).isSome

def size (b : Bindings α) : Nat :=
  b.entries.length

def isEmpty (b : Bindings α) : Bool :=
  b.entries.isEmpty

def names (b : Bindings α) : List String :=
  Entries.names b.entries

def insert (b : Bindings α) (name : String) (value : α) : Bindings α :=
  ⟨Entries.insert name value b.entries, b.ascending.insert name value⟩

def erase (b : Bindings α) (name : String) : Bindings α :=
  ⟨Entries.erase name b.entries, b.ascending.erase name⟩

def insertAll (b : Bindings α) (pairs : List (String × α)) : Bindings α :=
  pairs.foldl (fun b p => b.insert p.1 p.2) b

def ofList (pairs : List (String × α)) : Bindings α :=
  empty.insertAll pairs

def map {β : Type} (f : α → β) (b : Bindings α) : Bindings β where
  entries := b.entries.map fun e => (e.1, f e.2)
  ascending := by
    refine List.pairwise_map.mpr ?_
    exact b.ascending

@[simp] theorem get?_empty (name : String) : (empty : Bindings α).get? name = none := rfl

@[simp] theorem get?_insert (b : Bindings α) (name other : String) (value : α) :
    (b.insert name value).get? other = if name = other then some value else b.get? other :=
  Entries.get?_insert name other value b.entries

@[simp] theorem get?_erase (b : Bindings α) (name other : String) :
    (b.erase name).get? other = if name = other then none else b.get? other :=
  Entries.get?_erase name other b.entries

@[ext] theorem ext {a b : Bindings α} (h : ∀ name, a.get? name = b.get? name) : a = b := by
  obtain ⟨es, he⟩ := a
  obtain ⟨fs, hf⟩ := b
  cases he.ext hf h
  rfl

theorem contains_iff_mem_names (b : Bindings α) (name : String) :
    b.contains name = true ↔ name ∈ b.names := by
  have h := Entries.get?_eq_none_iff b.entries name
  unfold contains get? names
  cases hg : Entries.get? b.entries name with
  | none => simp [h.mp hg]
  | some v =>
    have : name ∈ Entries.names b.entries := by
      simpa [hg] using (not_congr h).mp (by simp [hg])
    simp [this]

theorem insert_comm {first second : String} (h : first ≠ second) (b : Bindings α) (x y : α) :
    (b.insert first x).insert second y = (b.insert second y).insert first x := by
  ext1 name
  simp only [get?_insert]
  by_cases hfirst : first = name
  · have hne : second ≠ name := hfirst ▸ h.symm
    simp [hfirst, hne]
  · simp [hfirst]

theorem mem_names_insert {b : Bindings α} {name other : String} {value : α} :
    other ∈ (b.insert name value).names ↔ name = other ∨ other ∈ b.names := by
  rw [← contains_iff_mem_names, ← contains_iff_mem_names, contains, contains, get?_insert]
  split <;> simp [*]

theorem mem_names_insertAll {b : Bindings α} {pairs : List (String × α)} {name : String} :
    name ∈ (b.insertAll pairs).names ↔ name ∈ Entries.names pairs ∨ name ∈ b.names := by
  induction pairs generalizing b with
  | nil => simp [insertAll, Entries.names]
  | cons p rest ih =>
    change name ∈ ((b.insert p.1 p.2).insertAll rest).names ↔ name ∈ p.1 :: Entries.names rest ∨ _
    rw [ih, mem_names_insert, List.mem_cons, eq_comm (a := name), or_left_comm, or_assoc]

theorem mem_names_ofList {pairs : List (String × α)} {name : String} :
    name ∈ (ofList pairs).names ↔ name ∈ Entries.names pairs :=
  mem_names_insertAll.trans (or_iff_left List.not_mem_nil)

theorem get?_insertAll_of_not_mem {b : Bindings α} {pairs : List (String × α)} {name : String}
    (h : name ∉ Entries.names pairs) : (b.insertAll pairs).get? name = b.get? name := by
  induction pairs generalizing b with
  | nil => rfl
  | cons p rest ih =>
    obtain ⟨hfirst, hrest⟩ := not_or.mp (mt List.mem_cons.mpr h)
    change ((b.insert p.1 p.2).insertAll rest).get? name = _
    rw [ih hrest, get?_insert, if_neg (Ne.symm hfirst)]

theorem get?_ofList_last {before after : List (String × α)} {name : String}
    (h : name ∉ Entries.names after) (value : α) :
    (ofList (before ++ (name, value) :: after)).get? name = some value := by
  rw [ofList, insertAll, List.foldl_append, List.foldl_cons]
  change (insertAll _ after).get? name = _
  rw [get?_insertAll_of_not_mem h, get?_insert, if_pos rfl]

theorem mem_of_get?_insertAll {b : Bindings α} {pairs : List (String × α)} {name : String}
    {value : α} (h : (b.insertAll pairs).get? name = some value) :
    (name, value) ∈ pairs ∨ b.get? name = some value := by
  induction pairs generalizing b with
  | nil => exact .inr h
  | cons p rest ih =>
    rcases ih h with hrest | hfirst
    · exact .inl (List.mem_cons_of_mem _ hrest)
    · rw [get?_insert] at hfirst
      split at hfirst
      · rename_i hname
        cases hfirst
        exact .inl (hname ▸ List.mem_cons_self)
      · exact .inr hfirst

theorem mem_of_get?_ofList {pairs : List (String × α)} {name : String} {value : α}
    (h : (ofList pairs).get? name = some value) : (name, value) ∈ pairs :=
  (mem_of_get?_insertAll h).resolve_right (Option.some_ne_none value ∘ Eq.symm)

theorem entries_insertAll_perm {b : Bindings α} {pairs : List (String × α)}
    (h : (Entries.names (pairs ++ b.entries)).Nodup) :
    (b.insertAll pairs).entries.Perm (pairs ++ b.entries) := by
  induction pairs generalizing b with
  | nil => exact .refl _
  | cons p rest ih =>
    obtain ⟨hfirst, hrest⟩ := List.nodup_cons.mp h
    have hnew : p.1 ∉ Entries.names b.entries := by
      intro hmem
      obtain ⟨e, he, hname⟩ := List.mem_map.mp hmem
      exact hfirst (List.mem_map.mpr ⟨e, List.mem_append_right _ he, hname⟩)
    have hinsert : (rest ++ (b.insert p.1 p.2).entries).Perm (p :: (rest ++ b.entries)) :=
      ((Entries.insert_perm p.2 hnew).append_left rest).trans List.perm_middle
    have hnodup : (Entries.names (rest ++ (b.insert p.1 p.2).entries)).Nodup :=
      (hinsert.map _).nodup_iff.mpr h
    exact (ih hnodup).trans hinsert

theorem entries_ofList_perm {pairs : List (String × α)} (h : (Entries.names pairs).Nodup) :
    (ofList pairs).entries.Perm pairs := by
  have hperm : (ofList pairs).entries.Perm (pairs ++ []) :=
    entries_insertAll_perm (by rwa [empty, List.append_nil])
  rwa [List.append_nil] at hperm

section map

variable {β : Type} (f : α → β)

@[simp] theorem get?_map (b : Bindings α) (name : String) :
    (b.map f).get? name = (b.get? name).map f :=
  Entries.get?_map f b.entries name

@[simp] theorem names_map (b : Bindings α) : (b.map f).names = b.names := by
  simp [names, Entries.names, map]

@[simp] theorem size_map (b : Bindings α) : (b.map f).size = b.size :=
  List.length_map _

theorem map_insert (b : Bindings α) (name : String) (value : α) :
    (b.insert name value).map f = (b.map f).insert name (f value) := by
  ext1 other
  rw [get?_map, get?_insert, get?_insert, get?_map]
  split <;> rfl

theorem map_insertAll (b : Bindings α) (pairs : List (String × α)) :
    (b.insertAll pairs).map f = (b.map f).insertAll (pairs.map fun p => (p.1, f p.2)) := by
  induction pairs generalizing b with
  | nil => rfl
  | cons p rest ih =>
    change ((b.insert p.1 p.2).insertAll rest).map f = _
    rw [ih, map_insert]
    rfl

theorem map_ofList (pairs : List (String × α)) :
    (ofList pairs).map f = ofList (pairs.map fun p => (p.1, f p.2)) :=
  map_insertAll f empty pairs

end map

theorem names_ascending (b : Bindings α) : b.names.Pairwise (· < ·) :=
  List.pairwise_map.mpr b.ascending

end Bindings
end TextTemplate
