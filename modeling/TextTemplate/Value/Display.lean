import TextTemplate.Value.Access
import TextTemplate.Binary64.Decimal

/-! The text of a value, as an output statement writes it. -/

namespace TextTemplate.Value

def bracketed (parts : List String) : String :=
  "[" ++ ", ".intercalate parts ++ "]"

def braced (parts : List String) : String :=
  "\x7b" ++ ", ".intercalate parts ++ "\x7d"

mutual

/-- Strings stand as they are and `empty` leaves nothing. Maps are written by ascending key, and an
entry that cannot be read is written as `empty`. -/
def display : Value → String
  | .empty => ""
  | .bool b => if b then "true" else "false"
  | .int n => n.toInt.repr
  | .float x => x.toText
  | .str s => s
  | .list items => bracketed (displayItems items)
  | .map entries =>
    braced ((keys (.map entries)).map fun name => name ++ ": " ++ displayEntry entries name)
  | .genericList view => bracketed ((List.range view.size).map fun i => display (view.item i))
  | .genericMap view =>
    braced ((keys (.genericMap view)).map fun name =>
      name ++ ": " ++ displayResult (view.byName name))
termination_by structural v => v

def displayItems : List Value → List String
  | [] => []
  | v :: vs => display v :: displayItems vs
termination_by structural vs => vs

def displayEntry : List (String × Value) → String → String
  | [], _ => ""
  | (k, v) :: es, name => if k = name then display v else displayEntry es name
termination_by structural es => es

def displayResult : Except EvalError Value → String
  | .ok v => display v
  | .error _ => ""
termination_by structural r => r

end

end TextTemplate.Value
