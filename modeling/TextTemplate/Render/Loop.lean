import TextTemplate.Render.Outcome

/-! Iteration over the items of a list. Each item is asked for once, one step ahead of its use, so
that an iteration knows its neighbours. -/

namespace TextTemplate.Loop

def commonFields (size : Nat) : Bindings Value :=
  .ofList [("length", Value.saturated size)]

def advance (fields : Bindings Value) (i : Nat) (previous next : Option Value) :
    Bindings Value :=
  let fields := fields.insertAll
    [("index", Value.saturated (i + 1)), ("index0", Value.saturated i),
     ("first", .bool (i = 0)), ("last", .bool next.isNone)]
  let fields := match previous with
    | some v => fields.insert "previtem" v
    | none => fields
  match next with
  | some v => fields.insert "nextitem" v
  | none => fields.erase "nextitem"

/-- Several names take the entries of a map-shaped item; otherwise the first name, if any, takes
the item. -/
def bindItem (vars : List String) (item : Value) : Rendering :=
  if 1 < vars.length ∧ item.isMap then Outcome.defineFields vars item
  else match vars with
    | [] => Outcome.done
    | name :: _ => fun sink c => Outcome.done sink (c.define name item)

@[inline]
def step (vars : List String) (body : Rendering) (fields : Bindings Value) (item : Value) :
    Rendering := fun sink c =>
  (bindItem vars item sink (c.define "loop" (.ofBindings fields))).andThen body

def iterate (items : ListView Value) (vars : List String) (body : Rendering) :
    (rest i : Nat) → (fields : Bindings Value) → (previous : Option Value) → (item : Value) →
    Rendering
  | 0, i, fields, previous, item =>
    step vars body (advance fields i previous none) item
  | rest + 1, i, fields, previous, item => fun sink c =>
    let next := items.item (i + 1)
    let fields := advance fields i previous (some next)
    (step vars body fields item sink c).andThen
      (iterate items vars body rest (i + 1) fields (some item) next)

def run (items : ListView Value) (vars : List String) (body : Rendering) : Rendering :=
  match items.size with
  | 0 => Outcome.done
  | rest + 1 => iterate items vars body rest 0 (commonFields items.size) none (items.item 0)

end TextTemplate.Loop
