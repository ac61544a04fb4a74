import TextTemplate.Value.Basic

/-! What can be asked of any value: its kind, its truth, its scalar, its items and its entries.
Questions that do not fit the kind are answered by nothing, an empty view or `empty`. -/

namespace TextTemplate.Value

def ofBindings (b : Bindings Value) : Value :=
  .map b.entries

def ofPairs (pairs : List (String × Value)) : Value :=
  ofBindings (.ofList pairs)

def saturated (n : Int) : Value :=
  .int (Int64.ofIntClamp n)

def listView (items : List Value) : ListView Value :=
  ⟨items.length, fun i => items.getD i .empty⟩

def emptyView : ListView Value :=
  ⟨0, fun _ => .empty⟩

def typeName : Value → String
  | .empty => "empty"
  | .bool _ => "bool"
  | .int _ => "int"
  | .float _ => "float"
  | .str _ => "str"
  | .list _ => "list"
  | .map _ => "map"
  | .genericList _ => "generic list"
  | .genericMap _ => "generic map"

def isMap : Value → Bool
  | .map _ | .genericMap _ => true
  | _ => false

def isList : Value → Bool
  | .list _ | .genericList _ => true
  | _ => false

def asBool? : Value → Option Bool
  | .bool b => some b
  | _ => none

def asInt? : Value → Option Int64
  | .int n => some n
  | _ => none

/-- The number of a value; an integer stands for the float nearest to it. -/
def asFloat? : Value → Option Binary64
  | .float x => some x
  | .int n => some (.ofInt64 n)
  | _ => none

def asStr? : Value → Option String
  | .str s => some s
  | _ => none

def asList? : Value → Option (List Value)
  | .list items => some items
  | _ => none

def asMap : Value → Except EvalError (List (String × Value))
  | .map entries => .ok entries
  | v => .error (.typeMismatch "map" v.typeName)

/-- The entry of a name. An absent entry of an owned map is `empty`, a lazy map answers for itself,
and what is not map-shaped has only `empty` entries. -/
def subscript : Value → String → Except EvalError Value
  | .map entries, name => .ok ((Entries.get? entries name).getD .empty)
  | .genericMap view, name => view.byName name
  | _, _ => .ok .empty

def keys : Value → List String
  | .map entries => Names.sort (Entries.names entries)
  | .genericMap view => Names.sort view.keys
  | _ => []

def items : Value → ListView Value
  | .list items => listView items
  | .genericList view => view
  | _ => emptyView

/-- Numbers other than zero and everything that has content; a NaN is no zero. -/
def isTruthy : Value → Bool
  | .empty => false
  | .bool b => b
  | .int n => n ≠ 0
  | .float x => !x.isZero
  | .str s => !s.isEmpty
  | .list items => !items.isEmpty
  | .map entries => !entries.isEmpty
  | .genericList view => view.size ≠ 0
  | .genericMap view => view.size ≠ 0

end TextTemplate.Value
