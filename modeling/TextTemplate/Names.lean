/-! Lists of names in the order of their code points. -/

namespace TextTemplate.Names

def insert (name : String) : List String → List String
  | [] => [name]
  | k :: rest => if k < name then k :: insert name rest else name :: k :: rest

def sort (names : List String) : List String :=
  names.foldr insert []

theorem insert_perm (name : String) (names : List String) :
    (insert name names).Perm (name :: names) := by
  induction names with
  | nil => exact .refl _
  | cons k rest ih =>
    unfold insert
    split
    · exact (ih.cons k).trans (.swap name k rest)
    · exact .refl _

theorem sort_perm (names : List String) : (sort names).Perm names := by
  induction names with
  | nil => exact .refl _
  | cons k rest ih => exact (insert_perm k (sort rest)).trans (ih.cons k)

theorem insert_sorted {names : List String} (name : String) (h : names.Pairwise (· ≤ ·)) :
    (insert name names).Pairwise (· ≤ ·) := by
  induction names with
  | nil => exact List.pairwise_singleton ..
  | cons k rest ih =>
    obtain ⟨hk, hr⟩ := List.pairwise_cons.mp h
    unfold insert
    split
    · rename_i hlt
      refine List.pairwise_cons.mpr ⟨fun a ha => ?_, ih hr⟩
      rcases List.mem_cons.mp ((insert_perm name rest).mem_iff.mp ha) with rfl | ha
      · exact Std.le_of_lt hlt
      · exact hk a ha
    · rename_i hnl
      have hle : name ≤ k := String.not_lt.mp hnl
      refine List.pairwise_cons.mpr ⟨fun a ha => ?_, h⟩
      rcases List.mem_cons.mp ha with rfl | ha
      · exact hle
      · exact Std.le_trans hle (hk a ha)

theorem sort_sorted (names : List String) : (sort names).Pairwise (· ≤ ·) := by
  induction names with
  | nil => exact .nil
  | cons k rest ih => exact insert_sorted k ih

theorem mem_sort {name : String} {names : List String} : name ∈ sort names ↔ name ∈ names :=
  (sort_perm names).mem_iff

theorem sort_eq_of_perm {names names' : List String} (h : names.Perm names') :
    sort names = sort names' := by
  have hperm := ((sort_perm names).trans h).trans (sort_perm names').symm
  exact hperm.eq_of_pairwise (fun _ _ _ _ => Std.le_antisymm) (sort_sorted names)
    (sort_sorted names')

end TextTemplate.Names
