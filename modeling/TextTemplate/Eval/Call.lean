import TextTemplate.Progression

/-! The operators of expressions, on values. -/

namespace TextTemplate

namespace Value

/-- A string asks for an entry and an integer for an item of a list; any other index, and a
position that the list does not have, gives `empty`. -/
def index (object : Value) : Value → Except EvalError Value
  | .str name => object.subscript name
  | .int n =>
    if object.isList ∧ 0 ≤ n.toInt ∧ n.toInt.toNat < object.items.size then
      .ok (object.items.item n.toInt.toNat)
    else .ok .empty
  | _ => .ok .empty

def integers : List Value → Except EvalError (List Int64)
  | [] => .ok []
  | .int n :: rest => do
    let ns ← integers rest
    return n :: ns
  | v :: _ => .error (.typeMismatch "int" v.typeName)

def zeroStep : EvalError :=
  .custom "range() step must not be zero"

/-- Sizes are kept within 64 bits, which every progression of 64-bit integers fits. -/
def range (args : List Value) : Except EvalError Value := do
  let ns ← integers args
  let p ← match ns with
    | [stop] => Except.ok (Progression.mk 0 stop 1)
    | [start, stop] => .ok ⟨start, stop, 1⟩
    | [start, stop, step] => .ok ⟨start, stop, step⟩
    | _ => .error (.wrongArgCount "range" 1 3 args.length)
  if p.step = 0 then throw zeroStep
  if UInt64.size ≤ p.length then
    throw (.custom ("range() of " ++ p.length.repr ++ " elements is too large"))
  return .genericList p.view

def callFunction (name : String) (args : List Value) : Except EvalError Value :=
  if name = "range" then range args else .error (.undefinedFunction name)

def cycle (position : Int64) (args : List Value) : Value :=
  args.getD (position.toInt % args.length).toNat .empty

/-- `cycle` is the one method; it is there for whatever has an integer entry `index0`. -/
def callMethod (receiver : Value) (name : String) (args : List Value) : Except EvalError Value :=
  let undefined := .error (.undefinedMethod name receiver.typeName)
  if name = "cycle" then
    match receiver.subscript "index0" with
    | .ok (.int position) => .ok (cycle position args)
    | _ => undefined
  else undefined

end Value
end TextTemplate
