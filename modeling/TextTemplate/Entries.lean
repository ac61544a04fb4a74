/-! Lists of named entries. A name is bound to the value of its first entry; `insert` keeps the
entries in strictly ascending order of their names, so each name then has one entry. -/

namespace TextTemplate

namespace Entries

variable {α : Type}

def get? : List (String × α) → String → Option α
  | [], _ => none
  | e :: rest, name => if e.1 = name then some e.2 else get? rest name

def names (es : List (String × α)) : List String :=
  es.map (·.1)

def insert (name : String) (value : α) : List (String × α) → List (String × α)
  | [] => [(name, value)]
  | e :: rest =>
    if e.1 = name then (name, value) :: rest
    else if name < e.1 then (name, value) :: e :: rest
    else e :: insert name value rest

def erase (name : String) (es : List (String × α)) : List (String × α) :=
  es.filter fun e => e.1 ≠ name

def Ascending (es : List (String × α)) : Prop :=
  es.Pairwise fun a b => a.1 < b.1

theorem get?_insert (name other : String) (value : α) (es : List (String × α)) :
    get? (insert name value es) other = if name = other then some value else get? es other := by
  induction es with
  | nil => simp [insert, get?]
  | cons e rest ih =>
    unfold insert
    by_cases he : e.1 = name
    · subst he
      by_cases ho : e.1 = other <;> simp [get?, ho]
    · rw [if_neg he]
      split
      · by_cases ho : name = other <;> simp [get?, ho]
      · by_cases ho : e.1 = other
        · have hn : name ≠ other := fun h => he (ho.trans h.symm)
          simp [get?, ho, hn]
        · simp [get?, ho, ih]

theorem get?_erase (name other : String) (es : List (String × α)) :
    get? (erase name es) other = if name = other then none else get? es other := by
  induction es with
  | nil => simp [erase, get?]
  | cons e rest ih =>
    unfold erase at ih ⊢
    by_cases he : e.1 = name
    · subst he
      rw [List.filter_cons_of_neg (by simp), ih]
      by_cases ho : e.1 = other <;> simp [get?, ho]
    · rw [List.filter_cons_of_pos (by simp [he])]
      by_cases ho : e.1 = other
      · have hn : name ≠ other := fun h => he (ho.trans h.symm)
        simp [get?, ho, hn]
      · simpa [get?, ho] using ih

theorem get?_eq_none_iff (es : List (String × α)) (name : String) :
    get? es name = none ↔ name ∉ names es := by
  induction es with
  | nil => simp [get?, names]
  | cons e rest ih =>
    unfold names at ih ⊢
    by_cases he : e.1 = name
    · simp [get?, he]
    · simp [get?, he, ih, Ne.symm he]

theorem get?_map {β : Type} (f : α → β) (es : List (String × α)) (name : String) :
    get? (es.map fun e => (e.1, f e.2)) name = (get? es name).map f := by
  induction es with
  | nil => rfl
  | cons e rest ih =>
    rw [List.map_cons, get?, get?]
    split
    · rfl
    · exact ih

theorem mem_of_get? {es : List (String × α)} {name : String} {value : α}
    (h : get? es name = some value) : (name, value) ∈ es := by
  induction es with
  | nil => simp [get?] at h
  | cons e rest ih =>
    by_cases he : e.1 = name
    · simp only [get?, he, if_true, Option.some.injEq] at h
      subst he h
      exact List.mem_cons_self
    · simp only [get?, he, if_false] at h
      exact List.mem_cons_of_mem _ (ih h)

theorem insert_perm {name : String} (value : α) {es : List (String × α)} (h : name ∉ names es) :
    (insert name value es).Perm ((name, value) :: es) := by
  induction es with
  | nil => exact .refl _
  | cons e rest ih =>
    obtain ⟨hfirst, hrest⟩ := not_or.mp (mt List.mem_cons.mpr h)
    rw [insert, if_neg (Ne.symm hfirst)]
    split
    · exact .refl _
    · exact ((ih hrest).cons e).trans (.swap ..)

theorem lt_of_mem_insert {name bound : String} {value : α} {es : List (String × α)}
    (hn : bound < name) (h : ∀ e ∈ es, bound < e.1) :
    ∀ e ∈ insert name value es, bound < e.1 := by
  induction es with
  | nil => simpa [insert] using hn
  | cons a rest ih =>
    have hr : ∀ e ∈ rest, bound < e.1 := fun e he => h e (List.mem_cons_of_mem _ he)
    unfold insert
    split
    · intro e he
      rcases List.mem_cons.mp he with rfl | he
      · exact hn
      · exact hr e he
    · split
      · intro e he
        rcases List.mem_cons.mp he with rfl | he
        · exact hn
        · exact h e he
      · intro e he
        rcases List.mem_cons.mp he with rfl | he
        · exact h _ List.mem_cons_self
        · exact ih hr e he

theorem Ascending.insert {es : List (String × α)} (h : Ascending es) (name : String) (value : α) :
    Ascending (Entries.insert name value es) := by
  induction es with
  | nil => exact List.pairwise_singleton ..
  | cons e rest ih =>
    obtain ⟨he, hr⟩ := List.pairwise_cons.mp h
    unfold Entries.insert
    split
    · rename_i heq
      exact List.pairwise_cons.mpr ⟨fun a ha => heq ▸ he a ha, hr⟩
    · rename_i hne
      split
      · rename_i hlt
        refine List.pairwise_cons.mpr ⟨fun a ha => ?_, h⟩
        rcases List.mem_cons.mp ha with rfl | ha
        · exact hlt
        · exact String.lt_trans hlt (he a ha)
      · rename_i hnl
        have hlt : e.1 < name := Std.lt_of_le_of_ne (String.not_lt.mp hnl) hne
        exact List.pairwise_cons.mpr ⟨lt_of_mem_insert hlt he, ih hr⟩

theorem Ascending.erase {es : List (String × α)} (h : Ascending es) (name : String) :
    Ascending (Entries.erase name es) :=
  h.sublist List.filter_sublist

theorem Ascending.nodup_names {es : List (String × α)} (h : Ascending es) : (names es).Nodup := by
  refine List.pairwise_map.mpr (h.imp fun hlt heq => ?_)
  exact String.lt_irrefl _ (heq ▸ hlt)

theorem get?_eq_some_iff {es : List (String × α)} (h : (names es).Nodup) {name : String}
    {value : α} : get? es name = some value ↔ (name, value) ∈ es := by
  refine ⟨mem_of_get?, fun hmem => ?_⟩
  induction es with
  | nil => simp at hmem
  | cons e rest ih =>
    obtain ⟨hfirst, hrest⟩ := List.nodup_cons.mp h
    rcases List.mem_cons.mp hmem with rfl | hmem
    · simp [get?]
    · have hne : e.1 ≠ name := by
        rintro rfl
        exact hfirst (List.mem_map.mpr ⟨_, hmem, rfl⟩)
      simp [get?, hne, ih hrest hmem]

theorem get?_eq_of_perm {es fs : List (String × α)} (hperm : es.Perm fs) (h : (names es).Nodup)
    (name : String) : get? es name = get? fs name := by
  have hfs : (names fs).Nodup := (hperm.map _).nodup_iff.mp h
  ext value
  rw [get?_eq_some_iff h, get?_eq_some_iff hfs, hperm.mem_iff]

theorem Ascending.ext {es fs : List (String × α)} (he : Ascending es) (hf : Ascending fs)
    (h : ∀ name, get? es name = get? fs name) : es = fs := by
  induction es generalizing fs with
  | nil =>
    cases fs with
    | nil => rfl
    | cons f _ => simpa [get?] using h f.1
  | cons e rest ih =>
    cases fs with
    | nil => simpa [get?] using h e.1
    | cons f rest' =>
      obtain ⟨he1, he2⟩ := List.pairwise_cons.mp he
      obtain ⟨hf1, hf2⟩ := List.pairwise_cons.mp hf
      -- Each list holds the first entry of the other, so were the first names different, each would
      -- come after the other.
      have hname : e.1 = f.1 := by
        have h1 : (e.1, e.2) ∈ f :: rest' := mem_of_get? (by rw [← h]; simp [get?])
        have h2 : (f.1, f.2) ∈ e :: rest := mem_of_get? (by rw [h]; simp [get?])
        rcases List.mem_cons.mp h1 with h1 | h1
        · exact congrArg Prod.fst h1
        · rcases List.mem_cons.mp h2 with h2 | h2
          · exact (congrArg Prod.fst h2).symm
          · exact absurd (he1 _ h2) (String.lt_asymm (hf1 _ h1))
      have hvalue : e.2 = f.2 := by simpa [get?, hname] using h e.1
      -- Behind its first entry no list binds that name again.
      have hrest : rest = rest' := by
        refine ih he2 hf2 fun name => ?_
        by_cases hn : e.1 = name
        · have h1 : name ∉ names rest := by
            simp only [names, List.mem_map, not_exists, not_and]
            exact fun a ha hc => String.lt_irrefl name (by simpa [hn, hc] using he1 a ha)
          have h2 : name ∉ names rest' := by
            simp only [names, List.mem_map, not_exists, not_and]
            exact fun a ha hc =>
              String.lt_irrefl name (by simpa [← hname, hn, hc] using hf1 a ha)
          rw [(get?_eq_none_iff rest name).mpr h1, (get?_eq_none_iff rest' name).mpr h2]
        · simpa [get?, hn, ← hname] using h name
      rw [hrest, Prod.ext hname hvalue]

end Entries
end TextTemplate
