import TextTemplate.Render.Stmt

/-! Iteration without looking ahead: every iteration asks the view for its item and both neighbours
anew, and makes its `loop` from nothing. The map that a loop carries from one iteration to the next
cannot be told from these fresh ones, whatever a body does. -/

namespace TextTemplate
namespace Loop

/-- What `loop` holds at a position. A neighbour that is not there has no entry. -/
def fieldsAt (items : ListView Value) (i : Nat) : Bindings Value :=
  .ofList <|
    [("length", Value.saturated items.size), ("index", Value.saturated (i + 1)),
     ("index0", Value.saturated i), ("first", .bool (i = 0)),
     ("last", .bool (i + 1 = items.size))] ++
    (if 0 < i then [("previtem", items.item (i - 1))] else []) ++
    (if i + 1 < items.size then [("nextitem", items.item (i + 1))] else [])

def plainFrom (items : ListView Value) (vars : List String) (body : Rendering) :
    (count i : Nat) → Rendering
  | 0, _ => Outcome.done
  | count + 1, i => fun sink c =>
    (step vars body (fieldsAt items i) (items.item i) sink c).andThen
      (plainFrom items vars body count (i + 1))

def plain (items : ListView Value) (vars : List String) (body : Rendering) : Rendering :=
  plainFrom items vars body items.size 0

def startsFrom (items : ListView Value) (vars : List String) (body : Rendering) :
    (count i : Nat) → Sink → Context → List (Sink × Context)
  | 0, _, _, _ => []
  | count + 1, i, sink, c =>
    let bound := bindItem vars (items.item i) sink
      (c.define "loop" (.ofBindings (fieldsAt items i)))
    match bound.result with
    | .error _ => []
    | .ok _ =>
      let o := body bound.sink bound.context
      (bound.sink, bound.context) ::
        match o.result with
        | .error _ => []
        | .ok _ => startsFrom items vars body count (i + 1) o.sink o.context

def starts (items : ListView Value) (vars : List String) (body : Rendering) (sink : Sink)
    (c : Context) : List (Sink × Context) :=
  startsFrom items vars body items.size 0 sink c

def previousItem (items : ListView Value) (i : Nat) : Option Value :=
  if 0 < i then some (items.item (i - 1)) else none

def nextItem (items : ListView Value) (i : Nat) : Option Value :=
  if i + 1 < items.size then some (items.item (i + 1)) else none

theorem get?_fieldsAt (items : ListView Value) (i : Nat) (name : String) :
    (fieldsAt items i).get? name =
      if name = "length" then some (Value.saturated items.size)
      else if name = "index" then some (Value.saturated (i + 1))
      else if name = "index0" then some (Value.saturated i)
      else if name = "first" then some (.bool (i = 0))
      else if name = "last" then some (.bool (i + 1 = items.size))
      else if name = "previtem" then previousItem items i
      else if name = "nextitem" then nextItem items i
      else none := by
  unfold previousItem nextItem
  by_cases hprev : 0 < i <;> by_cases hnext : i + 1 < items.size <;>
    simp only [fieldsAt, hprev, hnext, if_true, if_false, Bindings.ofList, Bindings.insertAll,
      List.foldl_append, List.foldl_cons, List.foldl_nil, Bindings.get?_insert,
      Bindings.get?_empty] <;> grind

theorem get?_advance (fields : Bindings Value) (i : Nat) (previous next : Option Value)
    (name : String) : (advance fields i previous next).get? name =
      if name = "index" then some (Value.saturated (i + 1))
      else if name = "index0" then some (Value.saturated i)
      else if name = "first" then some (.bool (i = 0))
      else if name = "last" then some (.bool next.isNone)
      else if name = "previtem" then previous.or (fields.get? name)
      else if name = "nextitem" then next
      else fields.get? name := by
  cases previous <;> cases next <;>
    simp only [advance, Bindings.insertAll, List.foldl_cons, List.foldl_nil,
      Bindings.get?_insert, Bindings.get?_erase] <;> grind

/-- What the map of loop fields may hold when an iteration begins. The first one has no `previtem`
to inherit. -/
structure Carried (items : ListView Value) (i : Nat) (fields : Bindings Value) : Prop where
  length : fields.get? "length" = some (Value.saturated items.size)
  previtem : i = 0 → fields.get? "previtem" = none
  other : ∀ name, name ∉ ["length", "index", "index0", "first", "last", "previtem", "nextitem"] →
    fields.get? name = none

theorem carried_commonFields (items : ListView Value) :
    Carried items 0 (commonFields items.size) := by
  have hget : ∀ name, (commonFields items.size).get? name =
      if "length" = name then some (Value.saturated items.size) else none := fun name => by
    simp only [commonFields, Bindings.ofList, Bindings.insertAll, List.foldl_cons,
      List.foldl_nil, Bindings.get?_insert, Bindings.get?_empty]
  refine ⟨by rw [hget, if_pos rfl], fun _ => by rw [hget, if_neg (by decide)], ?_⟩
  intro name hn
  have hne : "length" ≠ name := by
    rintro rfl
    exact hn List.mem_cons_self
  rw [hget, if_neg hne]

theorem carried_fieldsAt (items : ListView Value) (i : Nat) :
    Carried items (i + 1) (fieldsAt items i) := by
  refine ⟨by rw [get?_fieldsAt, if_pos rfl], fun h => absurd h (Nat.succ_ne_zero i), ?_⟩
  intro name hn
  rw [get?_fieldsAt]
  grind

theorem Carried.advance_eq {items : ListView Value} {i : Nat} {fields : Bindings Value}
    (h : Carried items i fields) (hi : i < items.size) :
    advance fields i (previousItem items i) (nextItem items i) = fieldsAt items i := by
  have hlast : (nextItem items i).isNone = decide (i + 1 = items.size) := by
    unfold nextItem
    split <;> simp only [Option.isNone_some, Option.isNone_none] <;> grind
  have hprev : (previousItem items i).or (fields.get? "previtem") = previousItem items i := by
    unfold previousItem
    split
    · rfl
    · rw [h.previtem (by omega), Option.or_none]
  -- `length` and the names that no iteration writes come from the carried map, and `previtem` does
  -- where there is no new one.
  ext1 name
  have hlength := h.length
  have hother := h.other name
  rw [get?_advance, get?_fieldsAt, hlast]
  grind

section run

variable {items : ListView Value} {vars : List String} {body : Rendering}

theorem iterate_eq_plainFrom {rest i : Nat} {fields : Bindings Value}
    (h : Carried items i fields) (hsize : i + rest + 1 = items.size) :
    iterate items vars body rest i fields (previousItem items i) (items.item i) =
      plainFrom items vars body (rest + 1) i := by
  -- An iteration needs of the one before it just what `h` and the two arguments hand on.
  induction rest generalizing i fields with
  | zero =>
    have hnext : none = nextItem items i := (if_neg (by omega)).symm
    funext sink c
    rw [iterate, hnext, h.advance_eq (by omega)]
    exact (Outcome.andThen_done_right _).symm
  | succ rest ih =>
    have hnext : some (items.item (i + 1)) = nextItem items i := (if_pos (by omega)).symm
    have hprev : some (items.item i) = previousItem items (i + 1) := (if_pos i.succ_pos).symm
    funext sink c
    simp only [iterate, hnext, hprev]
    rw [h.advance_eq (by omega), ih (carried_fieldsAt items i) (by omega)]
    rfl

theorem run_eq_plain (items : ListView Value) (vars : List String) (body : Rendering) :
    run items vars body = plain items vars body := by
  unfold run plain
  cases hsize : items.size with
  | zero => rfl
  | succ rest =>
    have hprev : none = previousItem items 0 := rfl
    have hcarried := carried_commonFields items
    rw [hsize] at hcarried
    simp only [hprev]
    exact iterate_eq_plainFrom hcarried (by omega)

theorem run_single (h : items.size = 1) (vars : List String) (body : Rendering) :
    run items vars body = step vars body (fieldsAt items 0) (items.item 0) := by
  funext sink c
  rw [run_eq_plain, plain, h]
  simp only [plainFrom]
  exact Outcome.andThen_done_right _

theorem length_startsFrom {count i : Nat} {sink : Sink} {c : Context}
    (h : (plainFrom items vars body count i sink c).result = .ok ()) :
    (startsFrom items vars body count i sink c).length = count := by
  induction count generalizing i sink c with
  | zero => rfl
  | succ count ih =>
    simp only [plainFrom, step] at h
    simp only [startsFrom]
    generalize bindItem vars _ sink _ = bound at h ⊢
    obtain ⟨sink', c', result⟩ := bound
    cases result with
    | error e => cases h
    | ok _ =>
      simp only [Outcome.andThen] at h ⊢
      generalize body sink' c' = o at h ⊢
      obtain ⟨sink'', c'', result⟩ := o
      cases result with
      | error e => cases h
      | ok _ => rw [List.length_cons, ih h]

/-- A failure is that of the body last started, or of the bindings of the position after it. -/
theorem startsFrom_of_error {count i : Nat} {sink : Sink} {c : Context} {e : EvalError}
    (h : (plainFrom items vars body count i sink c).result = .error e) :
    let starts := startsFrom items vars body count i sink c
    let o := plainFrom items vars body count i sink c
    (starts.length ≤ count ∧ ∃ s ∈ starts.getLast?, body s.1 s.2 = o) ∨
      (starts.length < count ∧ ∃ sink' c',
        (sink' = sink ∨ ∃ s ∈ starts, sink' = (body s.1 s.2).sink) ∧
          bindItem vars (items.item (i + starts.length)) sink' c' = o) := by
  induction count generalizing i sink c with
  | zero => cases h
  | succ count ih =>
    simp only [plainFrom, step] at h ⊢
    simp only [startsFrom]
    cases hb : bindItem vars (items.item i) sink
        (c.define "loop" (.ofBindings (fieldsAt items i))) with
    | mk sink' c' result =>
    rw [hb] at h
    cases result with
    | error e => exact .inr ⟨Nat.succ_pos count, sink, _, .inl rfl, hb⟩
    | ok _ =>
      simp only [Outcome.andThen] at h ⊢
      cases ho : body sink' c' with
      | mk sink'' c'' result =>
      rw [ho] at h
      cases result with
      | error e => exact .inl ⟨Nat.le_add_left 1 count, _, rfl, ho⟩
      | ok _ =>
        rcases ih h with ⟨hlen, s, hs, hbody⟩ | ⟨hlen, last, bound, hlast, hbind⟩
        · refine .inl ⟨Nat.succ_le_succ hlen, s, ?_, hbody⟩
          rw [Option.mem_def] at hs ⊢
          rw [List.getLast?_cons, hs, Option.getD_some]
        · refine .inr ⟨Nat.succ_lt_succ hlen, last, bound, .inr ?_, ?_⟩
          · rcases hlast with rfl | ⟨s, hs, hsink⟩
            · exact ⟨_, List.mem_cons_self, (congrArg Outcome.sink ho).symm⟩
            · exact ⟨s, List.mem_cons_of_mem _ hs, hsink⟩
          · -- The starts of the later iterations are counted from `i + 1`.
            rwa [List.length_cons, Nat.add_comm _ 1, ← Nat.add_assoc]

/-- Every start of the body is the binding of its item, in a context that has what the iterations
keep. -/
theorem exists_start {P : Nat → Context → Prop}
    (hstep : ∀ i sink c sink' bound, P i c →
      bindItem vars (items.item i) sink (c.define "loop" (.ofBindings (fieldsAt items i))) =
        Outcome.done sink' bound → P (i + 1) (body sink' bound).context)
    {count i k : Nat} {sink : Sink} {c : Context} (h : P i c) {start : Sink × Context}
    (hstart : (startsFrom items vars body count i sink c)[k]? = some start) :
    ∃ sink' c', P (i + k) c' ∧ bindItem vars (items.item (i + k)) sink'
      (c'.define "loop" (.ofBindings (fieldsAt items (i + k)))) = Outcome.done start.1 start.2 := by
  -- By iterations: `P` goes from a position to the next one with the body between them.
  induction count generalizing i k sink c with
  | zero => cases hstart
  | succ count ih =>
    simp only [startsFrom] at hstart
    cases hb : bindItem vars (items.item i) sink
        (c.define "loop" (.ofBindings (fieldsAt items i))) with
    | mk sink' bound result =>
    rw [hb] at hstart
    cases result with
    | error e => cases hstart
    | ok _ =>
      cases k with
      | zero =>
        cases hstart
        exact ⟨sink, c, h, hb⟩
      | succ k =>
        simp only [List.getElem?_cons_succ] at hstart
        cases hresult : (body sink' bound).result with
        | error e =>
          rw [hresult] at hstart
          cases hstart
        | ok _ =>
          rw [hresult] at hstart
          have hlater := ih (hstep i sink c sink' bound h hb) hstart
          rwa [Nat.add_right_comm, Nat.add_assoc] at hlater

end run

end Loop

def Stmt.renderPlainLoop (vars : List String) (iterable : Expr) (body : Template)
    (other : Option Template) : Rendering := fun sink c =>
  Outcome.withValue (c.eval iterable) (fun source sink c =>
    (Outcome.inScope (Loop.plain source.items vars (Stmt.renderAll body)) sink c).andThen
      (if source.items.size = 0 then Stmt.renderElse other else Outcome.done)) sink c

/-- Looking ahead cannot be seen from outside, whatever the body does. -/
theorem Stmt.render_forLoop_eq_plain (vars : List String) (iterable : Expr) (body : Template)
    (other : Option Template) (sink : Sink) (c : Context) :
    Stmt.render (.forLoop vars iterable body other) sink c =
        Stmt.renderPlainLoop vars iterable body other sink c ∧
      ∀ (items : ListView Value) (anyBody : Rendering),
        let o := Loop.run items vars anyBody sink c
        let starts := Loop.starts items vars anyBody sink c
        o = Loop.plain items vars anyBody sink c ∧
          (o.result = .ok () → starts.length = items.size) ∧
          ∀ e, o.result = .error e →
            (starts.length ≤ items.size ∧ ∃ s ∈ starts.getLast?, anyBody s.1 s.2 = o) ∨
              (starts.length < items.size ∧ ∃ sink' c',
                Loop.bindItem vars (items.item starts.length) sink' c' = o) := by
  constructor
  · simp only [Stmt.render, Stmt.renderPlainLoop, Loop.run_eq_plain]
  · intro items anyBody
    rw [Loop.run_eq_plain]
    refine ⟨rfl, fun h => Loop.length_startsFrom h, fun e h => ?_⟩
    have hend := Loop.startsFrom_of_error h
    simp only [Nat.zero_add] at hend
    exact hend.imp_right fun ⟨hlen, sink', c', _, hbind⟩ => ⟨hlen, sink', c', hbind⟩

end TextTemplate
