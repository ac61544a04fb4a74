import TextTemplate.Proofs.RelationalRender

/-! A lazy map in the place of an owned one. Where it lists the same keys and answers alike for
them, a template can tell the two apart only by asking for a name that is no key: the owned map has
nothing there, and the lazy one refuses. So a render with lazy maps either goes as the one with
owned maps does or is stopped by such a refusal. -/

namespace TextTemplate

/-- The view lists the names of the entries, in any order, and knows no others. -/
structure MapView.StandsFor (view : MapView Value) (entries : List (String × Value)) : Prop where
  keys_perm : view.keys.Perm (Entries.names entries)
  size_eq : view.size = (Entries.names entries).length
  succeeds : ∀ name ∈ Entries.names entries, ∃ x, view.byName name = .ok x
  refuses : ∀ name, name ∉ Entries.names entries → view.byName name = .error (.invalidField name)

/-- The same error, but that it may name a lazy map where the other names an owned one. -/
inductive EvalError.StandsIn : EvalError → EvalError → Prop
  | same (e : EvalError) : EvalError.StandsIn e e
  | typeMismatch (expected : String) :
      EvalError.StandsIn (.typeMismatch expected "generic map") (.typeMismatch expected "map")
  | undefinedMethod (method : String) :
      EvalError.StandsIn (.undefinedMethod method "generic map") (.undefinedMethod method "map")

section replacements

-- The lazy maps, each with the entries of the owned map that it replaces.
variable (M : MapView Value → List (String × Value) → Prop)

inductive EvalError.Refusal : EvalError → Prop
  | invalidField {view : MapView Value} {entries : List (String × Value)} {name : String}
      (hM : M view entries) (hname : name ∉ Entries.names entries) :
      EvalError.Refusal (.invalidField name)

/-- The same value, but that at any depth a lazy map of `M` may stand for an owned one. -/
inductive Value.StandsIn : Value → Value → Prop
  | same (v : Value) : StandsIn v v
  | list {v w : Value} (hv : v.isList) (hw : w.isList) (htype : v.typeName = w.typeName)
      (hsize : v.items.size = w.items.size)
      (hitem : ∀ i < v.items.size, StandsIn (v.items.item i) (w.items.item i)) : StandsIn v w
  | map {es fs : List (String × Value)} (hkeys : keys (.map es) = keys (.map fs))
      (hentry : ∀ name x y, Entries.get? es name = some x → Entries.get? fs name = some y →
        StandsIn x y) : StandsIn (.map es) (.map fs)
  | genericMap {m n : MapView Value} (hkeys : m.keys = n.keys) (hsize : m.size = n.size)
      (hname : ∀ name,
        ResultRel EvalError.StandsIn (fun _ _ => True) (m.byName name) (n.byName name))
      (hnamed : ∀ name x y, m.byName name = .ok x → n.byName name = .ok y → StandsIn x y) :
      StandsIn (.genericMap m) (.genericMap n)
  | replaced {m : MapView Value} {fs : List (String × Value)} (hM : M m fs) (h : m.StandsFor fs)
      (hentry : ∀ name x y, m.byName name = .ok x → Entries.get? fs name = some y →
        StandsIn x y) : StandsIn (.genericMap m) (.map fs)

def Template.StandsIn (body body' : Template) : Prop :=
  Stmt.AllRel (Value.StandsIn M) (fun _ => True) body body'

end replacements

namespace MapView.StandsFor

variable {view : MapView Value} {entries : List (String × Value)} (h : view.StandsFor entries)
include h

theorem keys_eq : Value.keys (.genericMap view) = Value.keys (.map entries) :=
  Names.sort_eq_of_perm h.keys_perm

theorem isTruthy_eq : (Value.genericMap view).isTruthy = (Value.map entries).isTruthy := by
  have hlength := (Names.sort_perm (Entries.names entries)).length_eq
  rw [Value.isTruthy_map, Value.isTruthy, h.size_eq, ← hlength]
  exact decide_eq_decide.mpr (not_congr List.length_eq_zero_iff)

end MapView.StandsFor

namespace Value.StandsIn

variable {M : MapView Value → List (String × Value) → Prop} {v w : Value}

theorem replaced_entry {m : MapView Value} {fs : List (String × Value)} (hM : M m fs)
    (h : m.StandsFor fs) (hentry : ∀ name x y, m.byName name = .ok x →
      Entries.get? fs name = some y → StandsIn M x y) (name : String) :
    EntryRel (StandsIn M) (EvalError.Refusal M) EvalError.StandsIn (name ∈ keys (.genericMap m))
      (subscript (.genericMap m) name) (subscript (.map fs) name) := by
  by_cases hname : name ∈ Entries.names fs
  · obtain ⟨x, hx⟩ := h.succeeds name hname
    obtain ⟨y, hy, hsub⟩ := exists_entry (Names.mem_sort.mpr hname)
    rw [hsub, subscript, hx]
    exact .related (.ok (hentry name x y hx hy))
  · have hunlisted : name ∉ keys (.genericMap m) := by
      rw [h.keys_eq]
      exact fun hkey => hname (Names.mem_sort.mp hkey)
    rw [subscript, subscript, h.refuses name hname, (Entries.get?_eq_none_iff fs name).mpr hname]
    exact .refused (.invalidField hM hname) hunlisted

theorem alike (h : StandsIn M v w) :
    Alike (StandsIn M) (EvalError.Refusal M) EvalError.StandsIn v w := by
  cases h with
  | same _ => exact .refl .same .same v
  | list hv hw _ hsize hitem => exact .list hv hw hsize hitem
  | map hkeys hentry => exact .ownedMap (.same .empty) hkeys hentry
  | genericMap hkeys hsize hname hnamed => exact .lazyMap hkeys hsize hname hnamed
  | replaced hM h hentry =>
    exact .map rfl rfl h.isTruthy_eq h.keys_eq (replaced_entry hM h hentry)

theorem typeName (h : StandsIn M v w) :
    v.typeName = w.typeName ∨ v.typeName = "generic map" ∧ w.typeName = "map" := by
  cases h with
  | list _ _ htype _ _ => exact .inl htype
  | replaced _ _ _ => exact .inr ⟨rfl, rfl⟩
  | _ => exact .inl rfl

theorem bisimulation (M : MapView Value → List (String × Value) → Prop) :
    Bisimulation (StandsIn M) (EvalError.Refusal M) EvalError.StandsIn where
  refl := .same
  list h := .list rfl rfl rfl h.length_eq fun i _ => forall₂_getD h (.same .empty) i
  ofBindings h := .map (congrArg Names.sort h.names_eq) fun _ _ _ => h.of_get?
  alike := alike
  typeMismatch h expected := by
    rcases h.typeName with heq | ⟨hv, hw⟩
    · rw [heq]
      exact .same _
    · rw [hv, hw]
      exact .typeMismatch expected
  undefinedMethod h method := by
    rcases h.typeName with heq | ⟨hv, hw⟩
    · rw [heq]
      exact .same _
    · rw [hv, hw]
      exact .undefinedMethod method

end Value.StandsIn

/-- With lazy maps in the place of owned ones a render goes alike, until it is refused a name that
is no key of a replaced map. -/
theorem Template.render_standsIn {M : MapView Value → List (String × Value) → Prop}
    {body body' : Template} {c c' : Context} (hbody : body.StandsIn M body')
    (hc : Context.Rel (Value.StandsIn M) c c') :
    let e := body.effect c
    let e' := body'.effect c'
    (e.text = e'.text ∧ ResultRel EvalError.StandsIn Eq e.result e'.result ∧
        Context.Rel (Value.StandsIn M) e.context e'.context ∨
      (∃ name, e.result = .error (.invalidField name) ∧
        ∃ view entries, M view entries ∧ name ∉ Entries.names entries) ∧
        ∃ more, e'.text = e.text ++ more) ∧
    (e.result = .ok () → e'.result = .ok () ∧ e'.text = e.text) := by
  intro e e'
  have htracks := Context.Rel.tracks (Value.StandsIn M) fun _ => True
  have hrun := hbody.effect_early (Value.StandsIn.bisimulation M) htracks .same hc
  rcases hrun with ⟨htext, hresult, hcontext⟩ | ⟨error, more, hrefusal, herror, htext⟩
  · refine ⟨.inl ⟨htext, hresult, hcontext⟩, fun hok => ?_⟩
    obtain ⟨_, hok', _⟩ := hresult.exists_of_ok hok
    exact ⟨hok', htext.symm⟩
  · cases hrefusal with
    | invalidField hM hname =>
      refine ⟨.inr ⟨⟨_, herror, _, _, hM, hname⟩, more, htext⟩, fun hok => ?_⟩
      cases hok.symm.trans herror

theorem Template.render_standsIn_refused :
    let view : MapView Value :=
      { keys := ["b", "a"]
        size := 2
        hasValue := fun name => name = "a" || name = "b"
        byName := fun name =>
          if name = "a" then .ok (.int 1) else if name = "b" then .ok (.int 2)
          else .error (.invalidField name)
        byIndex := fun i => .error (.indexOutOfBounds i 2) }
    let entries : List (String × Value) := [("a", .int 1), ("b", .int 2)]
    let body : Template := [.output (.var "m"), .output (.attr (.var "m") "c"), .text "."]
    let e := body.effect ((Context.new .empty).define "m" (.genericMap view))
    let e' := body.effect ((Context.new .empty).define "m" (.map entries))
    e.result = .error (.invalidField "c") ∧ e'.result = .ok () ∧
      ∃ more, e'.text = e.text ++ more := by
  intro view entries body e e'
  have hview : view.StandsFor entries := by
    refine ⟨.swap "a" "b" [], rfl, fun name hname => ?_, fun name hname => ?_⟩
    · rcases List.mem_pair.mp hname with rfl | rfl
      · exact ⟨.int 1, rfl⟩
      · exact ⟨.int 2, rfl⟩
    · obtain ⟨ha, hb⟩ := not_or.mp (mt List.mem_pair.mpr hname)
      exact (if_neg ha).trans (if_neg hb)
  have hvalue : Value.StandsIn MapView.StandsFor (.genericMap view) (.map entries) := by
    refine .replaced hview hview fun name x y hx hy => ?_
    have hname : name ∈ Entries.names entries := by
      by_contra hname
      rw [(Entries.get?_eq_none_iff entries name).mpr hname] at hy
      cases hy
    rcases List.mem_pair.mp hname with rfl | rfl
    · cases hx
      cases hy
      exact .same _
    · cases hx
      cases hy
      exact .same _
  have hbody : body.StandsIn MapView.StandsFor body :=
    .cons (.output (.var trivial)) (.cons (.output (.attr "c" (.var trivial)))
      (.cons (.text ".") .nil))
  have hnew : Context.Rel (Value.StandsIn MapView.StandsFor) (Context.new .empty)
      (Context.new .empty) := ⟨rfl, .cons (fun _ => .none) .nil⟩
  have herror : e.result = .error (.invalidField "c") := rfl
  refine ⟨herror, rfl, ?_⟩
  have hrun := (Template.render_standsIn hbody (hnew.define hvalue "m")).1
  rcases hrun with ⟨_, hresult, _⟩ | ⟨_, htext⟩
  · cases hresult
  · exact htext

end TextTemplate
