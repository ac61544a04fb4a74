import TextTemplate.Proofs.ValueEquality

/-! The content of a value: its scalars, the items of its lists, and the keys of its maps with what
stands under them, whether a list or a map is owned or lazy. The answers of equality and the text of
a value depend on its content alone. Values that are equal have one content, unless they differ in
the sign of a zero, and then they look alike in every way, unless a lazy map miscounts its keys. -/

namespace TextTemplate.Value

/-- Lists of the same items and maps with the same keys in any order and the same values, owned or
lazy. -/
inductive SameContent : Value → Value → Prop
  | scalar {v : Value} (hl : v.isList = false) (hm : v.isMap = false) : SameContent v v
  | list {v w : Value} (hv : v.isList) (hw : w.isList) (hsize : v.items.size = w.items.size)
      (hitem : ∀ i < v.items.size, SameContent (v.items.item i) (w.items.item i)) :
      SameContent v w
  | map {v w : Value} (hv : v.isMap) (hw : w.isMap) (hkeys : v.keys = w.keys)
      (hreadable : ∀ name ∈ v.keys,
        (∃ x, v.subscript name = .ok x) ↔ ∃ y, w.subscript name = .ok y)
      (hentry : ∀ name ∈ v.keys, ∀ x y, v.subscript name = .ok x → w.subscript name = .ok y →
        SameContent x y) : SameContent v w

namespace SameContent

variable {v v' w w' : Value}

theorem refl (v : Value) : SameContent v v := by
  induction v using shapeInduction with
  | scalar v hl hm => exact .scalar hl hm
  | list v hv ih => exact .list hv hv rfl ih
  | map v hv ih =>
    refine .map hv hv rfl (fun _ _ => Iff.rfl) fun name hname x y hx hy => ?_
    obtain rfl : x = y := Except.ok.inj (hx.symm.trans hy)
    exact ih name hname x hx

theorem symm (h : SameContent v w) : SameContent w v := by
  induction h with
  | scalar hl hm => exact .scalar hl hm
  | list hv hw hsize _ ih => exact .list hw hv hsize.symm fun i hi => ih i (hsize ▸ hi)
  | map hv hw hkeys hreadable _ ih =>
    rw [hkeys] at hreadable ih
    exact .map hw hv hkeys.symm (fun name hname => (hreadable name hname).symm)
      fun name hname y x hy hx => ih name hname x y hx hy

section introduction

theorem lazyList {items : List Value} {view : ListView Value} (hsize : items.length = view.size)
    (hitem : ∀ i < items.length, SameContent ((listView items).item i) (view.item i)) :
    SameContent (.list items) (.genericList view) :=
  .list rfl rfl hsize hitem

theorem lazyMap {entries : List (String × Value)} {view : MapView Value}
    (hkeys : (Entries.names entries).Perm view.keys)
    (hentry : ∀ name x, Entries.get? entries name = some x →
      ∃ y, view.byName name = .ok y ∧ SameContent x y) :
    SameContent (.map entries) (.genericMap view) := by
  refine .map rfl rfl (Names.sort_eq_of_perm hkeys) (fun name hname => ?_) ?_
  · obtain ⟨x, hx, hsub⟩ := exists_entry hname
    obtain ⟨y, hy, _⟩ := hentry name x hx
    exact iff_of_true ⟨x, hsub⟩ ⟨y, hy⟩
  · intro name hname x y hx hy
    obtain ⟨x', hx', hsub⟩ := exists_entry hname
    obtain ⟨y', hy', hxy⟩ := hentry name x' hx'
    obtain rfl : x' = x := Except.ok.inj (hsub.symm.trans hx)
    obtain rfl : y' = y := Except.ok.inj (hy'.symm.trans hy)
    exact hxy

theorem reordered {es fs : List (String × Value)} (hperm : es.Perm fs)
    (hnames : (Entries.names es).Nodup) : SameContent (.map es) (.map fs) := by
  have hsub : subscript (.map es) = subscript (.map fs) := by
    funext name
    rw [subscript, subscript, Entries.get?_eq_of_perm hperm hnames]
  have hkeys : keys (.map es) = keys (.map fs) := Names.sort_eq_of_perm (hperm.map _)
  refine .map rfl rfl hkeys (fun name _ => by rw [hsub]) fun name _ x y hx hy => ?_
  rw [hsub] at hx
  obtain rfl : x = y := Except.ok.inj (hx.symm.trans hy)
  exact refl x

theorem ofPairs {pairs entries : List (String × Value)} (hperm : pairs.Perm entries)
    (hnames : (Entries.names pairs).Nodup) : SameContent (.ofPairs pairs) (.map entries) := by
  have hstored := Bindings.entries_ofList_perm hnames
  exact reordered (hstored.trans hperm) (Bindings.ofList pairs).ascending.nodup_names

end introduction

section inversion

variable (h : SameContent v w)
include h

theorem eq_of_scalar (hl : v.isList = false) (hm : v.isMap = false) : v = w := by
  cases h with
  | scalar _ _ => rfl
  | list hv _ _ _ => simp [hl] at hv
  | map hv _ _ _ _ => simp [hm] at hv

theorem of_isList (hv : v.isList) : w.isList ∧ v.items.size = w.items.size ∧
    ∀ i < v.items.size, SameContent (v.items.item i) (w.items.item i) := by
  cases h with
  | scalar hl _ => simp [hl] at hv
  | list _ hw hsize hitem => exact ⟨hw, hsize, hitem⟩
  | map hm _ _ _ _ => simp [isMap_of_isList hv] at hm

theorem of_isMap (hv : v.isMap) : w.isMap ∧ v.keys = w.keys ∧ ∀ name ∈ v.keys, ∀ x,
    v.subscript name = .ok x → ∃ y, w.subscript name = .ok y ∧ SameContent x y := by
  cases h with
  | scalar _ hm => simp [hm] at hv
  | list hl _ _ _ => simp [isList_of_isMap hv] at hl
  | map _ hw hkeys hreadable hentry =>
    refine ⟨hw, hkeys, fun name hname x hx => ?_⟩
    obtain ⟨y, hy⟩ := (hreadable name hname).mp ⟨x, hx⟩
    exact ⟨y, hy, hentry name hname x y hx hy⟩

theorem keys_eq : v.keys = w.keys := by
  cases h with
  | scalar _ _ => rfl
  | list hv hw _ _ =>
    rw [keys_of_not_isMap (isMap_of_isList hv), keys_of_not_isMap (isMap_of_isList hw)]
  | map _ _ hkeys _ _ => exact hkeys

theorem size_eq : v.items.size = w.items.size := by
  cases h with
  | scalar _ _ => rfl
  | list _ _ hsize _ => exact hsize
  | map hv hw _ _ _ =>
    rw [items_of_not_isList (isList_of_isMap hv), items_of_not_isList (isList_of_isMap hw)]

end inversion

theorem display_eq (h : SameContent v w) : v.display = w.display := by
  induction h with
  | scalar _ _ => rfl
  | list hv hw hsize _ ih => exact display_eq_of_items hv hw hsize ih
  | @map v w hv hw hkeys hreadable _ ih =>
    refine display_eq_of_entries hv hw hkeys fun name hname => ?_
    have hread := hreadable name hname
    have hshown := ih name hname
    cases hx : v.subscript name with
    | ok x =>
      obtain ⟨y, hy⟩ := hread.mp ⟨x, hx⟩
      rw [hy]
      exact hshown x y hx hy
    | error e =>
      cases hy : w.subscript name with
      | ok y =>
        obtain ⟨x, hx'⟩ := hread.mpr ⟨y, hy⟩
        rw [hx] at hx'
        cases hx'
      | error e' => rfl

theorem equal (hv : SameContent v v') (hw : SameContent w w') (h : Equal v w) : Equal v' w' := by
  -- On the left side; the right one has its shape by `h`, which takes `hw` apart in turn.
  induction hv generalizing w w' with
  | scalar hl hm =>
    have hwl : w.isList = false := h.isList_eq ▸ hl
    have hwm : w.isMap = false := h.isMap_eq ▸ hm
    rwa [← hw.eq_of_scalar hwl hwm]
  | list hvl hvl' hsize _ ih =>
    obtain ⟨hwl, hsizes, hitem⟩ := (equal_iff_of_isList hvl).mp h
    obtain ⟨hwl', hwsize, hwitem⟩ := hw.of_isList hwl
    have hsizes' := hsize.symm.trans (hsizes.trans hwsize)
    refine (equal_iff_of_isList hvl').mpr ⟨hwl', hsizes', fun i hi => ?_⟩
    have hvi := hsize ▸ hi
    have hwi := hsizes ▸ hvi
    exact ih i hvi (hwitem i hwi) (hitem i hvi)
  | map hvm hvm' hkeys hreadable _ ih =>
    obtain ⟨hwm, hboth, hentry⟩ := (equal_iff_of_isMap hvm).mp h
    obtain ⟨hwm', hwkeys, hwentry⟩ := hw.of_isMap hwm
    have hboth' := hkeys.symm.trans (hboth.trans hwkeys)
    refine (equal_iff_of_isMap hvm').mpr ⟨hwm', hboth', fun name hname => ?_⟩
    have hvname := hkeys ▸ hname
    have hwname := hboth ▸ hvname
    obtain ⟨x, y, hx, hy, hxy⟩ := hentry name hvname
    obtain ⟨x', hx'⟩ := (hreadable name hvname).mp ⟨x, hx⟩
    obtain ⟨y', hy', hyy⟩ := hwentry name hwname y hy
    exact ⟨x', y', hx', hy', ih name hvname x x' hx hx' hyy hxy⟩

end SameContent

def viewsEqual (v w : ListView Value) : Bool :=
  v.size == w.size && v.size.all fun i _ => (v.item i).equals (w.item i)

theorem equals_eq_viewsEqual {v w : Value} (hv : v.isList) (hw : w.isList) :
    v.equals w = viewsEqual v.items w.items := by
  rw [Bool.eq_iff_iff, equals_of_isList hv, viewsEqual, Bool.and_eq_true, beq_iff_eq,
    natAll_iff v.items.size fun i => (v.items.item i).equals (w.items.item i)]
  exact and_iff_right hw

/-- Equality does not change its answer when lists and maps, at any places in the two values, are
replaced by lazy ones of the same content or the reverse. -/
theorem equals_sameContent {v v' w w' : Value} (hv : SameContent v v') (hw : SameContent w w') :
    v.equals w = v'.equals w' ∧
      ∀ xs ys : List Value,
        (Value.list xs).equals (.list ys) = viewsEqual (listView xs) (listView ys) := by
  refine ⟨?_, fun xs ys => equals_eq_viewsEqual rfl rfl⟩
  rw [Bool.eq_iff_iff, equals_iff_equal, equals_iff_equal]
  exact ⟨hv.equal hw, hv.symm.equal hw.symm⟩

theorem equals_sameContent_nested :
    let view : MapView Value :=
      { keys := ["b", "a"]
        size := 0
        hasValue := fun _ => false
        byName := fun name => if name = "a" then .ok (.int 1) else .ok (.list [.int 2])
        byIndex := fun i => .error (.indexOutOfBounds i 0) }
    let v := Value.list [.map [("a", .int 1), ("b", .list [.int 2])]]
    let v' := Value.genericList ⟨1, fun _ => .genericMap view⟩
    let w := Value.list [.map [("a", .int 1), ("b", .genericList ⟨1, fun _ => .int 2⟩)]]
    v.equals w = true ∧ v'.equals w = v.equals w := by
  intro view v v' w
  have hinner : SameContent (.map [("a", .int 1), ("b", .list [.int 2])]) (.genericMap view) := by
    refine .lazyMap (.swap "b" "a" []) fun name x hx => ?_
    have hmem := Entries.mem_of_get? hx
    simp only [List.mem_cons, List.not_mem_nil, or_false, Prod.mk.injEq] at hmem
    rcases hmem with ⟨rfl, rfl⟩ | ⟨rfl, rfl⟩
    · exact ⟨.int 1, rfl, .refl _⟩
    · exact ⟨.list [.int 2], rfl, .refl _⟩
  have hv : SameContent v v' := .lazyList rfl fun i hi => by
    obtain rfl : i = 0 := Nat.lt_one_iff.mp hi
    exact hinner
  exact ⟨by decide, (equals_sameContent hv (.refl w)).1.symm⟩

/-- No negative zero is inside the value, and the lazy maps inside count their keys. -/
def Regular (v : Value) : Prop :=
  ∀ w, v.Reaches w →
    w ≠ .float .negZero ∧ ∀ view, w = .genericMap view → view.size = view.keys.length

theorem regular_iff {v : Value} : v.Regular ↔
    (v ≠ .float .negZero ∧ ∀ view, v = .genericMap view → view.size = view.keys.length) ∧
      (∀ i < v.items.size, (v.items.item i).Regular) ∧
        ∀ name ∈ v.keys, ∀ x, v.subscript name = .ok x → x.Regular :=
  forall_reaches_iff

theorem regular_of_scalar {v : Value} (hl : v.isList = false) (hm : v.isMap = false)
    (hzero : v ≠ .float .negZero) : v.Regular :=
  forall_reaches_of_scalar
    ⟨hzero, fun view hview => absurd hview (ne_genericMap_of_not_isMap hm view)⟩ hl hm

theorem regular_of_isList {v : Value} (hv : v.isList)
    (h : ∀ i < v.items.size, (v.items.item i).Regular) : v.Regular := by
  have hlazy := ne_genericMap_of_not_isMap (isMap_of_isList hv)
  refine forall_reaches_of_isList ⟨?_, fun view hview => absurd hview (hlazy view)⟩ hv h
  rintro rfl
  cases hv

theorem regular_of_isMap {v : Value} (hv : v.isMap)
    (hsize : ∀ view, v = .genericMap view → view.size = view.keys.length)
    (h : ∀ name ∈ v.keys, ∀ x, v.subscript name = .ok x → x.Regular) : v.Regular := by
  refine forall_reaches_of_isMap ⟨?_, hsize⟩ hv h
  rintro rfl
  cases hv

theorem Equal.sameContent {v w : Value} (h : Equal v w) (hv : v.Regular) (hw : w.Regular) :
    SameContent v w := by
  induction h with
  | @float x y h =>
    have hx : x ≠ .negZero := fun hzero => (regular_iff.mp hv).1.1 (congrArg Value.float hzero)
    have hy : y ≠ .negZero := fun hzero => (regular_iff.mp hw).1.1 (congrArg Value.float hzero)
    obtain rfl : x = y := Binary64.eq_of_equals h hx hy
    exact .scalar rfl rfl
  | list hvl hwl hsize _ ih =>
    obtain ⟨-, hvitem, -⟩ := regular_iff.mp hv
    obtain ⟨-, hwitem, -⟩ := regular_iff.mp hw
    exact .list hvl hwl hsize fun i hi => ih i hi (hvitem i hi) (hwitem i (hsize ▸ hi))
  | map hvm hwm hkeys hleft hright _ ih =>
    obtain ⟨-, -, hventry⟩ := regular_iff.mp hv
    obtain ⟨-, -, hwentry⟩ := regular_iff.mp hw
    refine .map hvm hwm hkeys
      (fun name hname => iff_of_true (hleft name hname) (hright name hname)) ?_
    intro name hname x y hx hy
    have hwname := hkeys ▸ hname
    exact ih name hname x y hx hy (hventry name hname x hx) (hwentry name hwname y hy)
  | _ => exact .scalar rfl rfl

theorem isTruthy_of_isMap {v : Value} (hv : v.isMap)
    (hsize : ∀ view, v = .genericMap view → view.size = view.keys.length) :
    v.isTruthy = decide (v.keys ≠ []) := by
  cases v with
  | map entries => exact isTruthy_map entries
  | genericMap view =>
    have hlength : (keys (.genericMap view)).length = view.size := by
      rw [hsize view rfl]
      exact (Names.sort_perm view.keys).length_eq
    rw [isTruthy, ← hlength]
    simp
  | _ => cases hv

theorem SameContent.isTruthy_eq {v w : Value} (h : SameContent v w) (hv : v.Regular)
    (hw : w.Regular) : v.isTruthy = w.isTruthy := by
  cases h with
  | scalar _ _ => rfl
  | list hvl hwl hsize _ => rw [isTruthy_of_isList hvl, isTruthy_of_isList hwl, hsize]
  | map hvm hwm hkeys _ _ =>
    obtain ⟨⟨-, hvsize⟩, -⟩ := regular_iff.mp hv
    obtain ⟨⟨-, hwsize⟩, -⟩ := regular_iff.mp hw
    rw [isTruthy_of_isMap hvm hvsize, isTruthy_of_isMap hwm hwsize, hkeys]

/-- Equal values look alike, and a map is written in one way, in whatever order its entries were put
in or are listed. -/
theorem equals_looksAlike :
    (∀ v w : Value, v.Regular → w.Regular → v.equals w = true →
      v.display = w.display ∧ v.isTruthy = w.isTruthy ∧ v.keys = w.keys ∧
        v.items.size = w.items.size) ∧
    (∀ pairs entries : List (String × Value), pairs.Perm entries →
      (Entries.names pairs).Nodup → (ofPairs pairs).display = (Value.map entries).display) ∧
    ∀ (entries : List (String × Value)) (view : MapView Value),
      (Entries.names entries).Perm view.keys →
      (∀ name x, Entries.get? entries name = some x →
        ∃ y, view.byName name = .ok y ∧ SameContent x y) →
      (Value.map entries).display = (Value.genericMap view).display := by
  refine ⟨fun v w hv hw h => ?_, fun pairs entries hperm hnames => ?_,
    fun entries view hkeys hentry => ?_⟩
  · have hcontent : SameContent v w := (equals_iff_equal.mp h).sameContent hv hw
    exact ⟨hcontent.display_eq, hcontent.isTruthy_eq hv hw, hcontent.keys_eq, hcontent.size_eq⟩
  · exact (SameContent.ofPairs hperm hnames).display_eq
  · exact (SameContent.lazyMap hkeys hentry).display_eq

theorem equals_looksAlike_mixed :
    let view (size : Nat) : MapView Value :=
      { keys := ["b", "a"]
        size := size
        hasValue := fun _ => true
        byName := fun name =>
          if name = "a" then .ok (.float .zero) else .ok (.genericList ⟨1, fun _ => .int 1⟩)
        byIndex := fun i => .error (.indexOutOfBounds i size) }
    let entries : List (String × Value) := [("a", .float .zero), ("b", .list [.int 1])]
    (Value.map entries).display = (Value.genericMap (view 2)).display ∧
      (Value.map entries).isTruthy = (Value.genericMap (view 2)).isTruthy ∧
      (ofPairs [("b", .list [.int 1]), ("a", .float .zero)]).display =
        (Value.map entries).display ∧
      (Value.map entries).display = (Value.genericMap (view 0)).display := by
  intro view entries
  have hzero : Regular (.float .zero) :=
    regular_of_scalar rfl rfl fun h => absurd (Value.float.inj h) (by decide)
  have hint : Regular (.int 1) := regular_of_scalar rfl rfl (by simp)
  have howned : Regular (.list [.int 1]) := by
    refine regular_of_isList rfl fun i hi => ?_
    obtain rfl : i = 0 := Nat.lt_one_iff.mp hi
    exact hint
  have hlazy : Regular (.genericList ⟨1, fun _ => .int 1⟩) :=
    regular_of_isList rfl fun _ _ => hint
  have hlist : SameContent (.list [.int 1]) (.genericList ⟨1, fun _ => .int 1⟩) := by
    refine .lazyList rfl fun i hi => ?_
    obtain rfl : i = 0 := Nat.lt_one_iff.mp hi
    exact .refl _
  have hentries : Regular (.map entries) := by
    refine regular_of_isMap rfl (fun view h => by cases h) fun name hname x hx => ?_
    have hname : name = "a" ∨ name = "b" := by
      simpa [keys, Names.mem_sort, entries, Entries.names] using hname
    rcases hname with rfl | rfl <;> cases hx
    · exact hzero
    · exact howned
  have hview : Regular (.genericMap (view 2)) := by
    refine regular_of_isMap rfl (fun view h => by cases h; rfl) fun name hname x hx => ?_
    have hname : name = "b" ∨ name = "a" := by
      simpa [keys, Names.mem_sort, view] using hname
    rcases hname with rfl | rfl <;> cases hx
    · exact hlazy
    · exact hzero
  have hequal : (Value.map entries).equals (.genericMap (view 2)) = true := by decide
  obtain ⟨hdisplay, htruthy, -⟩ := equals_looksAlike.1 _ _ hentries hview hequal
  have hput := equals_looksAlike.2.1 [("b", .list [.int 1]), ("a", .float .zero)] entries
    (.swap ..) (by decide)
  have hmiscounted := equals_looksAlike.2.2 entries (view 0) (.swap ..) fun name x hx => by
    have hmem := Entries.mem_of_get? hx
    simp only [entries, List.mem_cons, List.not_mem_nil, or_false, Prod.mk.injEq] at hmem
    rcases hmem with ⟨rfl, rfl⟩ | ⟨rfl, rfl⟩
    · exact ⟨.float .zero, rfl, .refl _⟩
    · exact ⟨_, rfl, hlist⟩
  exact ⟨hdisplay, htruthy, hput, hmiscounted⟩

/-- The two zeros are equal and are not written alike. -/
example : (Value.float .zero).equals (.float .negZero) = true ∧
    (Value.float .zero).display ≠ (Value.float .negZero).display := by
  decide

end TextTemplate.Value
