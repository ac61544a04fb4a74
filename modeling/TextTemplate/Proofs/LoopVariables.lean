import TextTemplate.Proofs.ScopeFrame
import TextTemplate.Proofs.PlainLoop

/-! What the variables of a loop with several names mean when its body starts. A map is unpacked
into all of the names, and any other item goes to the first name alone. All iterations share one
scope, so there the other names keep what the latest map has left in it. -/

namespace TextTemplate

theorem Context.lookup_defineFields {value : Value} {names : List String} {c after : Context}
    (h : c.defineFields value names = (after, .ok ())) {name : String} (hn : name ∈ names) :
    ∃ x, value.subscript name = .ok x ∧ after.lookup name = some x := by
  induction names generalizing c with
  | nil => cases hn
  | cons first rest ih =>
    cases hfirst : value.subscript first with
    | error e =>
      simp only [defineFields, hfirst] at h
      cases h
    | ok field =>
      simp only [defineFields, hfirst] at h
      by_cases hrest : name ∈ rest
      · exact ih h hrest
      · obtain rfl : name = first := (List.mem_cons.mp hn).resolve_right hrest
        have hframe : ChangesOnly rest (c.define name field)
            ((c.define name field).defineFields value rest).1 :=
          Outcome.defineFields_along value (fun n hn c v => define_changesOnly hn c v) .silent _
        rw [h] at hframe
        refine ⟨field, hfirst, ?_⟩
        rw [hframe.lookup_eq hrest, lookup_define, if_pos rfl]

theorem Context.defineFields_result (value : Value) (names : List String) (c c' : Context) :
    (c.defineFields value names).2 = (c'.defineFields value names).2 := by
  induction names generalizing c c' with
  | nil => rfl
  | cons name rest ih =>
    simp only [defineFields]
    cases value.subscript name with
    | ok field => exact ih _ _
    | error e => rfl

namespace Loop

theorem bindItem_result (vars : List String) (item : Value) (sink sink' : Sink) (c c' : Context) :
    (bindItem vars item sink c).result = (bindItem vars item sink' c').result := by
  unfold bindItem
  split
  · exact Context.defineFields_result item vars c c'
  · cases vars <;> rfl

section bindItem

variable {vars : List String} {item : Value} {name : String} {sink sink' : Sink}
  {c after : Context} (hbind : bindItem vars item sink c = Outcome.done sink' after)
include hbind

theorem lookup_bindItem_map (hseveral : 1 < vars.length) (hmap : item.isMap = true)
    (hn : name ∈ vars) : ∃ x, item.subscript name = .ok x ∧ after.lookup name = some x := by
  rw [bindItem.eq_def, if_pos ⟨hseveral, hmap⟩] at hbind
  have hunpack : c.defineFields item vars = (after, .ok ()) :=
    Prod.ext (congrArg Outcome.context hbind) (congrArg Outcome.result hbind)
  exact Context.lookup_defineFields hunpack hn

theorem exists_define_of_not_isMap (hmap : item.isMap = false) (hn : name ∈ vars) :
    ∃ first, vars.head? = some first ∧ after = c.define first item := by
  have hwhole : ¬(1 < vars.length ∧ item.isMap = true) :=
    fun h => Bool.false_ne_true (hmap.symm.trans h.2)
  rw [bindItem.eq_def, if_neg hwhole] at hbind
  cases vars with
  | nil => cases hn
  | cons first rest => exact ⟨first, rfl, (congrArg Outcome.context hbind).symm⟩

theorem lookup_bindItem_first (hmap : item.isMap = false) (hn : name ∈ vars)
    (hfirst : vars.head? = some name) : after.lookup name = some item := by
  obtain ⟨first, hhead, rfl⟩ := exists_define_of_not_isMap hbind hmap hn
  rw [Context.lookup_define, if_pos (Option.some.inj (hhead.symm.trans hfirst))]

theorem lookup_bindItem_other (hmap : item.isMap = false) (hn : name ∈ vars)
    (hother : vars.head? ≠ some name) : after.lookup name = c.lookup name := by
  obtain ⟨first, hhead, rfl⟩ := exists_define_of_not_isMap hbind hmap hn
  have hne : first ≠ name := by
    rintro rfl
    exact hother hhead
  rw [Context.lookup_define, if_neg hne]

end bindItem

def latestMap (items : ListView Value) : (i : Nat) → Option Value
  | 0 => none
  | i + 1 => if (items.item i).isMap then some (items.item i) else latestMap items i

/-- What a name means that was unpacked from a map, or is as it was outside if there was none. -/
def HeldFrom (latest : Option Value) (name : String) (outside held : Option Value) : Prop :=
  match latest with
  | none => held = outside
  | some m => ∃ x, m.subscript name = .ok x ∧ held = some x

/-- In a context, all names but the first hold entries of the latest map before a position. -/
def HoldsLatest (items : ListView Value) (vars : List String) (outside : Context) (i : Nat)
    (c : Context) : Prop :=
  ∀ name ∈ vars, vars.head? ≠ some name →
    HeldFrom (latestMap items i) name (outside.lookup name) (c.lookup name)

section run

variable {items : ListView Value} {vars : List String} {outside c : Context} {i : Nat}

theorem HoldsLatest.of_lookup_eq {c' : Context} (h : HoldsLatest items vars outside i c)
    (hlookup : ∀ name ∈ vars, c'.lookup name = c.lookup name) :
    HoldsLatest items vars outside i c' := by
  intro name hn hother
  rw [hlookup name hn]
  exact h name hn hother

section bindItem

variable {sink sink₁ : Sink} {after : Context} (h : HoldsLatest items vars outside i c)
  (hbind : Loop.bindItem vars (items.item i) sink c = Outcome.done sink₁ after)
include h hbind

theorem HoldsLatest.bindItem (hseveral : 1 < vars.length) :
    HoldsLatest items vars outside (i + 1) after := by
  intro name hn hother
  unfold latestMap
  cases hmap : (items.item i).isMap with
  | true => exact lookup_bindItem_map hbind hseveral hmap hn
  | false =>
    rw [lookup_bindItem_other hbind hmap hn hother]
    exact h name hn hother

theorem HoldsLatest.lookup_eq_alone {sink' sink₂ : Sink} {d alone : Context} {name : String}
    (hbind' : Loop.bindItem vars (items.item i) sink' d = Outcome.done sink₂ alone)
    (hd : d.lookup name = outside.lookup name) (hseveral : 1 < vars.length) (hn : name ∈ vars)
    (hcase : (items.item i).isMap ∨ vars.head? = some name ∨ latestMap items i = none) :
    after.lookup name = alone.lookup name := by
  cases hmap : (items.item i).isMap with
  | true =>
    obtain ⟨x, hx, hlookup⟩ := lookup_bindItem_map hbind hseveral hmap hn
    obtain ⟨x', hx', hlookup'⟩ := lookup_bindItem_map hbind' hseveral hmap hn
    cases hx.symm.trans hx'
    exact hlookup.trans hlookup'.symm
  | false =>
    by_cases hfirst : vars.head? = some name
    · rw [lookup_bindItem_first hbind hmap hn hfirst, lookup_bindItem_first hbind' hmap hn hfirst]
    · have hnone : latestMap items i = none :=
        (hcase.resolve_left (by rw [hmap]; exact Bool.false_ne_true)).resolve_left hfirst
      have hheld := h name hn hfirst
      rw [hnone] at hheld
      rw [lookup_bindItem_other hbind hmap hn hfirst, lookup_bindItem_other hbind' hmap hn hfirst,
        hd]
      exact hheld

theorem HoldsLatest.lookup_eq_latest {name : String} {latest : Value}
    (hmap : (items.item i).isMap = false) (hn : name ∈ vars) (hother : vars.head? ≠ some name)
    (hlatest : latestMap items i = some latest) :
    ∃ x, latest.subscript name = .ok x ∧ after.lookup name = some x := by
  have hheld := h name hn hother
  rw [hlatest] at hheld
  rw [lookup_bindItem_other hbind hmap hn hother]
  exact hheld

end bindItem

theorem head?_startsFrom (body : Rendering) {count : Nat} {sink sink' : Sink} {bound : Context}
    (h : bindItem vars (items.item i) sink (c.define "loop" (.ofBindings (fieldsAt items i))) =
      Outcome.done sink' bound) :
    (startsFrom items vars body (count + 1) i sink c).head? = some (sink', bound) := by
  simp only [startsFrom, h, Outcome.done, List.head?_cons]

theorem HoldsLatest.exists_bindItem (hseveral : 1 < vars.length) (hloop : "loop" ∉ vars)
    {body : Rendering}
    (hbody : ∀ sink c, ∀ name ∈ vars, (body sink c).context.lookup name = c.lookup name)
    {count k : Nat} {sink : Sink} (h : HoldsLatest items vars outside i c) {start : Sink × Context}
    (hstart : (startsFrom items vars body count i sink c)[k]? = some start) :
    ∃ sink' c', HoldsLatest items vars outside (i + k) c' ∧
      Loop.bindItem vars (items.item (i + k)) sink' c' = Outcome.done start.1 start.2 := by
  have hfields : ∀ {i : Nat} {c : Context}, HoldsLatest items vars outside i c →
      HoldsLatest items vars outside i (c.define "loop" (.ofBindings (fieldsAt items i))) := by
    intro i c h
    refine h.of_lookup_eq fun name hn => ?_
    have hne : name ≠ "loop" := ne_of_mem_of_not_mem hn hloop
    rw [Context.lookup_define, if_neg hne.symm]
  have hstep : ∀ i sink c sink' bound, HoldsLatest items vars outside i c →
      Loop.bindItem vars (items.item i) sink (c.define "loop" (.ofBindings (fieldsAt items i))) =
        Outcome.done sink' bound →
      HoldsLatest items vars outside (i + 1) (body sink' bound).context :=
    fun i sink c sink' bound h hb =>
      ((hfields h).bindItem hb hseveral).of_lookup_eq (hbody sink' bound)
  obtain ⟨sink', c', h', hb⟩ := exists_start hstep h hstart
  exact ⟨sink', _, hfields h', hb⟩

end run

end Loop

def Stmt.bodyStarts (vars : List String) (iterable : Expr) (body : Template) (sink : Sink)
    (c : Context) : List (Sink × Context) :=
  match c.eval iterable, c.enter with
  | .ok source, .ok opened => Loop.starts source.items vars (Stmt.renderAll body) sink opened
  | _, _ => []

theorem Stmt.bodyStarts_of_ok {iterable : Expr} {source : Value} {c opened : Context}
    (hsource : c.eval iterable = .ok source) (hopened : c.enter = .ok opened) (vars : List String)
    (body : Template) (sink : Sink) : bodyStarts vars iterable body sink c =
      Loop.starts source.items vars (Stmt.renderAll body) sink opened := by
  rw [bodyStarts, hsource, hopened]

theorem Stmt.head?_bodyStarts_single {vars : List String} {item : Value} {sink : Sink}
    {c opened : Context} (hopened : c.enter = .ok opened)
    (hbound : (Loop.bindItem vars item sink opened).result = .ok ()) (body : Template) :
    ∃ fields start, (bodyStarts vars (.const (.list [item])) body sink c).head? = some start ∧
      Loop.bindItem vars item sink (opened.define "loop" fields) =
        Outcome.done start.1 start.2 := by
  let fields : Value := .ofBindings (Loop.fieldsAt (Value.list [item]).items 0)
  rw [Loop.bindItem_result vars item sink sink opened (opened.define "loop" fields)] at hbound
  cases hb : Loop.bindItem vars item sink (opened.define "loop" fields) with
  | mk sink' bound result =>
  rw [hb] at hbound
  cases hbound
  refine ⟨fields, (sink', bound), ?_, hb⟩
  have hsource : c.eval (.const (.list [item])) = .ok (.list [item]) := rfl
  rw [bodyStarts_of_ok hsource hopened]
  exact Loop.head?_startsFrom _ hb

/-- An item that is a map gives each name its entry. Any other item gives the first name its value,
and the others keep their entries of the latest map. -/
theorem Stmt.bodyStarts_variables {vars : List String} {iterable : Expr} {body : Template}
    {c : Context} {source : Value} {sink : Sink} {i : Nat} {start : Sink × Context}
    (hseveral : 1 < vars.length) (hloop : "loop" ∉ vars)
    (hbody : ∀ name ∈ vars, name ∉ Stmt.targetsAll body) (hsource : c.eval iterable = .ok source)
    (hstart : (bodyStarts vars iterable body sink c)[i]? = some start) (sink' : Sink) :
    let item := source.items.item i
    ∃ alone, (bodyStarts vars (.const (.list [item])) body sink' c).head? = some alone ∧
      ∀ name ∈ vars,
        (item.isMap ∨ vars.head? = some name ∨ Loop.latestMap source.items i = none →
          start.2.lookup name = alone.2.lookup name) ∧
        ∀ latest, item.isMap = false → vars.head? ≠ some name →
          Loop.latestMap source.items i = some latest →
            ∃ x, latest.subscript name = .ok x ∧ start.2.lookup name = some x ∧
              alone.2.lookup name = c.lookup name := by
  intro item
  cases hopened : c.enter with
  | error e =>
    simp only [bodyStarts, hsource, hopened] at hstart
    cases hstart
  | ok opened =>
  rw [bodyStarts_of_ok hsource hopened] at hstart
  have hkept : ∀ sink c, ∀ name ∈ vars,
      (Stmt.renderAll body sink c).context.lookup name = c.lookup name :=
    fun sink c name hn => (Stmt.renderAll_along body sink c).lookup_eq (hbody name hn)
  -- There is no map before the first item, so all names are as outside.
  have hinitial : Loop.HoldsLatest source.items vars c 0 opened := by
    intro name hn hother
    exact congrFun (Context.lookup_of_enter hopened) name
  obtain ⟨sink₀, c₀, hholds, hb⟩ := hinitial.exists_bindItem hseveral hloop hkept hstart
  rw [Nat.zero_add] at hholds hb
  have hbound : (Loop.bindItem vars item sink' opened).result = .ok () := by
    rw [Loop.bindItem_result vars item sink' sink₀ opened c₀, hb]
    rfl
  obtain ⟨fields, alone, hhead, hb'⟩ := Stmt.head?_bodyStarts_single hopened hbound body
  refine ⟨alone, hhead, fun name hn => ?_⟩
  have houtside : (opened.define "loop" fields).lookup name = c.lookup name := by
    have hne : name ≠ "loop" := ne_of_mem_of_not_mem hn hloop
    rw [Context.lookup_define, if_neg hne.symm, Context.lookup_of_enter hopened]
  refine ⟨hholds.lookup_eq_alone hb hb' houtside hseveral hn, fun latest hmap hother hlatest => ?_⟩
  obtain ⟨x, hx, hheld⟩ := hholds.lookup_eq_latest hb hmap hn hother hlatest
  have halone := Loop.lookup_bindItem_other hb' hmap hn hother
  exact ⟨x, hx, hheld, halone.trans houtside⟩

theorem Stmt.bodyStarts_variables_afterMap :
    let c := Context.new .empty
    let starts (items : List Value) :=
      bodyStarts ["a", "b"] (.const (.list items)) [.output (.var "b")] .empty c
    let record := Value.map [("a", .int 1), ("b", .int 2)]
    ∃ start alone, (starts [record, .int 7, .int 8])[2]? = some start ∧
      (starts [.int 8]).head? = some alone ∧
      start.2.lookup "a" = alone.2.lookup "a" ∧
      start.2.lookup "b" = some (.int 2) ∧ alone.2.lookup "b" = none := by
  intro c starts record
  obtain ⟨start, hstart⟩ : ∃ start, (starts [record, .int 7, .int 8])[2]? = some start := ⟨_, rfl⟩
  have hkeeps : ∀ name ∈ ["a", "b"], name ∉ Stmt.targetsAll [.output (.var "b")] :=
    fun _ _ => List.not_mem_nil
  have hsource : c.eval (.const (.list [record, .int 7, .int 8])) =
      .ok (.list [record, .int 7, .int 8]) := rfl
  obtain ⟨alone, halone, hvars⟩ :=
    Stmt.bodyStarts_variables (by decide) (by decide) hkeeps hsource hstart .empty
  have hfirst := (hvars "a" (by decide)).1 (.inr (.inl rfl))
  obtain ⟨x, hx, hheld, hother⟩ := (hvars "b" (by decide)).2 record rfl (by decide) rfl
  cases hx
  exact ⟨start, alone, hstart, halone, hfirst, hheld, hother⟩

/-- The second item is no map, and `b` has the entry of the first in it. -/
theorem Stmt.bodyStarts_leftover :
    let c := Context.new .empty
    let body : Template := [.output (.var "b"), .text ";"]
    let starts (items : List Value) := bodyStarts ["a", "b"] (.const (.list items)) body .empty c
    let written (items : List Value) :=
      (Stmt.render (.forLoop ["a", "b"] (.const (.list items)) body none) .empty c).sink
    let record := Value.map [("a", .int 1), ("b", .int 2)]
    Stmt.targetsAll body = [] ∧
      (starts [record, .int 7])[1]?.map (fun start => start.2.lookup "b") =
        some (some (.int 2)) ∧
      (starts [.int 7]).head?.map (fun start => start.2.lookup "b") = some none ∧
      written [record, .int 7] = .buffer "2;2;" ∧ written [.int 7] = .buffer ";" :=
  ⟨rfl, rfl, rfl, rfl, rfl⟩

end TextTemplate
