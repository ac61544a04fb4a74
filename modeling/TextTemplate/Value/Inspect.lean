import TextTemplate.Value.Display
import TextTemplate.Text.Quoted

/-! The form of a value that shows its kind, for those who write templates. -/

namespace TextTemplate.Value

mutual

/-- Owned values name their kind, and lazy ones show only their content. A lazy map keeps the order
of its keys and shows the error message of an entry that cannot be read. -/
def inspect : Value → String
  | .empty => "Empty"
  | .bool b => "Bool(" ++ (if b then "true" else "false") ++ ")"
  | .int n => "Int(" ++ n.toInt.repr ++ ")"
  | .float x => "Float(" ++ x.toText ++ ")"
  | .str s => "Str(" ++ Text.quoted s ++ ")"
  | .list items => "List(" ++ bracketed (inspectItems items) ++ ")"
  | .map entries => "Map(" ++ braced (inspectEntries entries) ++ ")"
  | .genericList view => bracketed ((List.range view.size).map fun i => inspect (view.item i))
  | .genericMap view =>
    braced (view.keys.map fun name =>
      Text.quoted name ++ ": " ++ inspectResult (view.byName name))
termination_by structural v => v

def inspectItems : List Value → List String
  | [] => []
  | v :: vs => inspect v :: inspectItems vs
termination_by structural vs => vs

def inspectEntries : List (String × Value) → List String
  | [] => []
  | (k, v) :: es => (Text.quoted k ++ ": " ++ inspect v) :: inspectEntries es
termination_by structural es => es

def inspectResult : Except EvalError Value → String
  | .ok v => inspect v
  | .error e => Text.quoted e.message
termination_by structural r => r

end

def inspectList (items : List Value) : String :=
  bracketed (inspectItems items)

end TextTemplate.Value
