import TextTemplate.Value.Access

/-! Equality of values. Lists are compared item by item and maps entry by entry, whether they are
owned or lazy; floats are compared as numbers. -/

namespace TextTemplate.Value

mutual

def equals : Value → Value → Bool
  | .empty, .empty => true
  | .bool a, .bool b => a == b
  | .int a, .int b => a == b
  | .float a, .float b => a.equals b
  | .str a, .str b => a == b
  | .list xs, .list ys => xs.length == ys.length && zipEquals xs ys
  | .list xs, .genericList w => xs.length == w.size && itemsEqual xs w.item 0
  | .genericList v, b =>
    b.isList && v.size == b.items.size &&
      Nat.all v.size fun i _ => equals (v.item i) (b.items.item i)
  | .map es, b =>
    b.isMap && keys (.map es) == b.keys &&
      (keys (.map es)).all fun name => entryEquals es name (b.subscript name)
  | .genericMap m, b =>
    b.isMap && keys (.genericMap m) == b.keys &&
      (keys (.genericMap m)).all fun name => resultEquals (m.byName name) (b.subscript name)
  | _, _ => false
termination_by structural v => v

def zipEquals : List Value → List Value → Bool
  | x :: xs, y :: ys => equals x y && zipEquals xs ys
  | _, _ => true
termination_by structural xs => xs

def itemsEqual : List Value → (Nat → Value) → Nat → Bool
  | [], _, _ => true
  | x :: xs, item, i => equals x (item i) && itemsEqual xs item (i + 1)
termination_by structural xs => xs

def entryEquals : List (String × Value) → String → Except EvalError Value → Bool
  | [], _, answer =>
    match answer with
    | .ok .empty => true
    | _ => false
  | (k, v) :: es, name, answer =>
    if k = name then
      match answer with
      | .ok w => equals v w
      | .error _ => false
    else entryEquals es name answer
termination_by structural es => es

/-- Two answers are equal values; a failure equals nothing. -/
def resultEquals : Except EvalError Value → Except EvalError Value → Bool
  | .ok x, .ok y => equals x y
  | _, _ => false
termination_by structural r => r

end

end TextTemplate.Value
