import TextTemplate.Proofs.OwnedTree

/-! The views that records are bound as. A view answers five questions: for its names, for their
number, whether a name is there, for the value of a name, and for the value at a position. The
answers of a record fit together, whatever its names are and wherever its anchor points. -/

namespace TextTemplate

/-- The five answers of a view fit together. Its names ascend, those and no others have values, and
positions follow the names. -/
structure MapView.Consistent {α : Type} (view : MapView α) : Prop where
  ascending : view.keys.Pairwise (· < ·)
  size_eq : view.size = view.keys.length
  hasValue_iff : ∀ name, view.hasValue name = true ↔ name ∈ view.keys
  byName_iff : ∀ name, (∃ v, view.byName name = .ok v) ↔ name ∈ view.keys
  byName_error : ∀ name e, view.byName name = .error e → e = .invalidField name
  byIndex_eq : ∀ i name, view.keys[i]? = some name → view.byIndex i = view.byName name
  byIndex_error : ∀ i, view.size ≤ i → view.byIndex i = .error (.indexOutOfBounds i view.size)

namespace MapView

variable {α β : Type} (table : Bindings β) (value : β → α)

theorem byName_ofBindings {table : Bindings β} {name : String} {b : β}
    (h : table.get? name = some b) : (ofBindings table value).byName name = .ok (value b) := by
  simp only [ofBindings, h]

theorem exists_of_byName {table : Bindings β} {value : β → α} {name : String} {x : α}
    (h : (ofBindings table value).byName name = .ok x) :
    ∃ b, table.get? name = some b ∧ value b = x := by
  cases hname : table.get? name with
  | none =>
    simp only [ofBindings, hname] at h
    cases h
  | some b => exact ⟨b, rfl, Except.ok.inj ((byName_ofBindings value hname).symm.trans h)⟩

theorem exists_of_byIndex {table : Bindings β} {value : β → α} {i : Nat} {x : α}
    (h : (ofBindings table value).byIndex i = .ok x) : ∃ b, value b = x := by
  simp only [ofBindings] at h
  cases hi : table.entries[i]? with
  | none =>
    rw [hi] at h
    cases h
  | some e =>
    rw [hi] at h
    exact ⟨e.2, Except.ok.inj h⟩

theorem ofBindings_consistent : (ofBindings table value).Consistent where
  ascending := table.names_ascending
  size_eq := (List.length_map _).symm
  hasValue_iff := table.contains_iff_mem_names
  byName_iff name := by
    change _ ↔ name ∈ table.names
    rw [← table.contains_iff_mem_names, Bindings.contains]
    cases hname : table.get? name <;> simp [ofBindings, hname]
  byName_error name e h := by
    cases hname : table.get? name with
    | none =>
      simp only [ofBindings, hname] at h
      exact (Except.error.inj h).symm
    | some b => cases (byName_ofBindings value hname).symm.trans h
  byIndex_eq i name h := by
    change (table.entries.map (·.1))[i]? = some name at h
    rw [List.getElem?_map] at h
    obtain ⟨e, he, rfl⟩ := Option.map_eq_some_iff.mp h
    have hget : table.get? e.1 = some e.2 :=
      (Entries.get?_eq_some_iff table.ascending.nodup_names).mpr (List.mem_of_getElem? he)
    rw [byName_ofBindings value hget]
    simp only [ofBindings, he]
  byIndex_error i h := by
    have hnone : table.entries[i]? = none := List.getElem?_eq_none h
    simp only [ofBindings, hnone]

end MapView

/-- Whether a record has one of another type in place: not behind an option or a handle, and not in
a sequence. -/
def Schema.holds (s : Schema) (name : String) : Bool :=
  s.fields.any fun f => f.2.type = .record name

namespace Registry

/-- A record that holds another one in place stands before it. -/
structure Ordered (reg : Registry) : Prop where
  irreflexive : ∀ s ∈ reg, s.holds s.name = false
  pairwise : reg.Pairwise fun before s => s.holds before.name = false

section order

variable (rank : String → Nat) (reg : Registry)

def byRank : Registry :=
  reg.mergeSort fun s s' => rank s'.name ≤ rank s.name

theorem byRank_perm : (byRank rank reg).Perm reg :=
  List.mergeSort_perm _ _

theorem byRank_descending :
    (byRank rank reg).Pairwise fun s s' => rank s'.name ≤ rank s.name := by
  have hsorted : (byRank rank reg).Pairwise fun s s' => decide (rank s'.name ≤ rank s.name) := by
    apply List.pairwise_mergeSort
    · intro a b c hab hbc
      exact decide_eq_true (Nat.le_trans (of_decide_eq_true hbc) (of_decide_eq_true hab))
    · intro a b
      rw [Bool.or_eq_true, decide_eq_true_iff, decide_eq_true_iff]
      exact Nat.le_total _ _
  exact hsorted.imp of_decide_eq_true

variable {rank reg}

/-- Ranks of the record types that fall towards the inside are all that an order takes. -/
theorem byRank_ordered
    (hrank : ∀ s ∈ reg, ∀ inner ∈ reg, s.holds inner.name = true → rank inner.name < rank s.name) :
    (byRank rank reg).Ordered := by
  have hmem : ∀ s ∈ byRank rank reg, s ∈ reg := fun _ => (byRank_perm rank reg).mem_iff.mp
  have hnot : ∀ s ∈ byRank rank reg, ∀ other ∈ byRank rank reg, rank s.name ≤ rank other.name →
      s.holds other.name = false := by
    intro s hs other hother hle
    apply Bool.eq_false_iff.mpr
    intro hholds
    have hlt : rank other.name < rank s.name := hrank s (hmem s hs) other (hmem other hother) hholds
    exact absurd hlt (Nat.not_lt.mpr hle)
  constructor
  · intro s hs
    exact hnot s hs s hs (Nat.le_refl _)
  · apply (byRank_descending rank reg).imp_of_mem
    intro before s hbefore hs hle
    exact hnot s hs before hbefore hle

end order

/-- All values that an anchor of some type can be bound to. -/
def bindings (reg : Registry) (t : HostType) : Anchor → List Value
  | none => [reg.reflectBorrowed t none]
  | some d => [reg.reflect t d, reg.reflect (.shared t) (.shared d), reg.reflectShared t d,
      reg.reflectBorrowed t (some d), reg.reflectRef t d]

theorem eq_of_mem_bindings {reg : Registry} {t : HostType} {a : Anchor} {v : Value}
    (h : v ∈ reg.bindings t a) : v = reg.reflectBorrowed t a := by
  cases a with
  | none => exact List.mem_singleton.mp h
  | some d =>
    simp only [bindings, List.mem_cons, List.not_mem_nil, or_false] at h
    rcases h with rfl | rfl | rfl | rfl | rfl
    · exact reg.reflect_eq_reflectBorrowed t d
    · rfl
    · rfl
    · rfl
    · exact reg.reflectRef_eq_reflectBorrowed t d

section absent

variable {reg before rest : Registry} {s : Schema} {name : String}

theorem absent_append {t : HostType} (h : ∀ s ∈ before, t ≠ .record s.name) :
    absent (before ++ rest) t = absent rest t := by
  induction before with
  | nil => rfl
  | cons s before ih =>
    obtain ⟨hfirst, hbefore⟩ := List.forall_mem_cons.mp h
    rw [← ih hbefore, List.cons_append]
    cases t with
    | record name =>
      have hne : s.name ≠ name := fun heq => hfirst (congrArg HostType.record heq.symm)
      rw [absent, if_neg hne]
    | _ => cases before ++ rest <;> rfl

theorem exists_split (h : reg.schema? name = some s) : ∃ before rest,
    reg = before ++ s :: rest ∧ s.name = name ∧ ∀ s' ∈ before, s'.name ≠ name := by
  obtain ⟨hname, before, rest, hsplit, hbefore⟩ := List.find?_eq_some_iff_append.mp h
  refine ⟨before, rest, hsplit, of_decide_eq_true hname, fun s' hs' => ?_⟩
  simpa using hbefore s' hs'

theorem absent_record (hbefore : ∀ s' ∈ before, s'.name ≠ s.name) :
    absent (before ++ s :: rest) (.record s.name) =
      .genericMap (.ofBindings s.table fun m => absent rest m.type) := by
  have hother : ∀ s' ∈ before, HostType.record s.name ≠ .record s'.name :=
    fun s' hs' heq => hbefore s' hs' (HostType.record.inj heq).symm
  rw [absent_append hother, absent, if_pos rfl]

/-- In an ordered registry a member does not depend on where the record stands. -/
theorem absent_member (hreg : Ordered (before ++ s :: rest)) {shown : String} {m : Member}
    (hm : (shown, m) ∈ s.fields) : absent rest m.type = absent (before ++ s :: rest) m.type := by
  have hsplit : before ++ s :: rest = (before ++ [s]) ++ rest := by
    rw [List.append_assoc, List.singleton_append]
  rw [hsplit, absent_append]
  intro s' hs' htype
  have hholds : s.holds s'.name = true :=
    List.any_eq_true.mpr ⟨_, hm, decide_eq_true htype⟩
  rw [List.mem_append, List.mem_singleton] at hs'
  have hnot : s.holds s'.name = false := by
    rcases hs' with hs' | rfl
    · exact (List.pairwise_append.mp hreg.pairwise).2.2 s' hs' s List.mem_cons_self
    · exact hreg.irreflexive _ (List.mem_append_right _ List.mem_cons_self)
  exact Bool.false_ne_true (hnot.symm.trans hholds)

end absent

theorem exists_reflectBorrowed_record {reg : Registry} {name : String} {s : Schema}
    (hs : reg.schema? name = some s) (a : Anchor) : ∃ member : Member → Value,
      reg.reflectBorrowed (.record name) a = .genericMap (.ofBindings s.table member) ∧
        ((∃ ms, a = some (.record ms)) ∨ reg.Ordered → ∀ shown m, (shown, m) ∈ s.fields →
          member m = reg.reflectBorrowed m.type (a.member m.position)) := by
  -- Without the data of a record, its members are bound by the types declared after it.
  have habsent : ∃ member : Member → Value,
      reg.absent (.record name) = .genericMap (.ofBindings s.table member) ∧
        (reg.Ordered → ∀ shown m, (shown, m) ∈ s.fields → member m = reg.absent m.type) := by
    obtain ⟨before, rest, rfl, rfl, hbefore⟩ := exists_split hs
    exact ⟨_, absent_record hbefore, fun hreg _ _ hm => absent_member hreg hm⟩
  obtain ⟨member, hmember, hordered⟩ := habsent
  match a with
  | some (.record ms) => exact ⟨_, reflectBorrowed_record hs ms, fun _ _ _ _ => rfl⟩
  | none => exact ⟨member, hmember, fun h => hordered (h.resolve_left nofun)⟩
  | some (.int _) | some (.float _) | some (.bool _) | some (.str _) | some .none
  | some (.some _) | some (.shared _) | some (.items _) =>
    exact ⟨member, hmember, fun h => hordered (h.resolve_left nofun)⟩

/-- The view of a record answers alike in every way. Its names ascend, and each stands for the
member of its last registration, there or missing. -/
theorem record_views_agree {reg : Registry} {name : String} {s : Schema}
    (hs : reg.schema? name = some s) (a : Anchor) :
    ∀ v ∈ reg.bindings (.record name) a, ∃ view : MapView Value, v = .genericMap view ∧
      view.Consistent ∧ (∀ shown, shown ∈ view.keys ↔ shown ∈ Entries.names s.fields) ∧
      ((∃ ms, a = some (.record ms)) ∨ reg.Ordered →
        ∀ before shown m after, s.fields = before ++ (shown, m) :: after →
          shown ∉ Entries.names after →
            view.byName shown = .ok (reg.reflectBorrowed m.type (a.member m.position))) := by
  intro v hv
  obtain ⟨member, hview, hmember⟩ := exists_reflectBorrowed_record hs a
  refine ⟨.ofBindings s.table member, (eq_of_mem_bindings hv).trans hview,
    MapView.ofBindings_consistent _ _, fun shown => Bindings.mem_names_ofList, ?_⟩
  intro hthere before shown m after hsplit hlast
  have hget : s.table.get? shown = some m := by
    rw [Schema.table, hsplit]
    exact Bindings.get?_ofList_last hlast m
  have hfield : (shown, m) ∈ s.fields :=
    hsplit ▸ List.mem_append_right before List.mem_cons_self
  rw [MapView.byName_ofBindings member hget, hmember hthere shown m hfield]

theorem record_views_agree_missing :
    let frame : Schema := ⟨"Frame", [("index", ⟨0, .int⟩)]⟩
    let reel : Schema := ⟨"Reel", [("é", ⟨0, .str⟩), ("poster", ⟨0, .str⟩), ("Z", ⟨0, .str⟩),
      ("poster", ⟨1, .record "Frame"⟩)]⟩
    let reg : Registry := [reel, frame]
    reg.Ordered ∧ ∃ view, reg.reflectBorrowed (.record "Reel") none = .genericMap view ∧
      view.keys = ["Z", "poster", "é"] ∧
      view.byName "poster" = .ok (reg.reflectBorrowed (.record "Frame") none) ∧
      view.byIndex 1 = view.byName "poster" ∧ view.byIndex 3 = .error (.indexOutOfBounds 3 3) := by
  intro frame reel reg
  have hreg : reg.Ordered := ⟨by decide, by decide⟩
  have hreel : reg.schema? "Reel" = some reel := rfl
  obtain ⟨view, hview, hagree, -, hmember⟩ :=
    record_views_agree hreel none _ (List.mem_singleton_self _)
  have hkeys : view.keys = ["Z", "poster", "é"] := by
    cases hview
    decide
  have hsize : view.size = 3 := by rw [hagree.size_eq, hkeys, List.length_cons]; rfl
  have hposter := hmember (.inr hreg) [("é", ⟨0, .str⟩), ("poster", ⟨0, .str⟩), ("Z", ⟨0, .str⟩)]
    "poster" ⟨1, .record "Frame"⟩ [] rfl List.not_mem_nil
  refine ⟨hreg, view, hview, hkeys, hposter, hagree.byIndex_eq 1 "poster" ?_, ?_⟩
  · rw [hkeys]
    rfl
  · rw [hagree.byIndex_error 3 (Nat.le_of_eq hsize), hsize]

end Registry
end TextTemplate
