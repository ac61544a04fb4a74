import TextTemplate.Value.Display

/-! Where rendered text goes. Text is only ever appended. -/

namespace TextTemplate

inductive Sink where
  | buffer (text : String)
  /-- Prints the text and keeps none; what was printed is recorded here. -/
  | stdout (printed : String)
  | silent
  deriving DecidableEq

namespace Sink

def empty : Sink := buffer ""

instance : Inhabited Sink := ⟨empty⟩

/-- Appends text. When there is none, nothing is passed on. -/
def write (sink : Sink) (text : String) : Sink :=
  if text.isEmpty then sink
  else match sink with
    | buffer before => buffer (before ++ text)
    | stdout before => stdout (before ++ text)
    | silent => silent

/-- Appends a value as it is displayed. Two kinds of values need not be displayed first. -/
def writeValue (sink : Sink) (value : Value) : Sink :=
  match value with
  | .empty => sink
  | .str s => sink.write s
  | v => sink.write v.display

def output : Sink → String
  | buffer text => text
  | stdout _ => ""
  | silent => ""

def printed : Sink → String
  | stdout text => text
  | _ => ""

/-- Forgets the kept text; what was printed cannot be taken back. -/
def clear : Sink → Sink
  | buffer _ => empty
  | stdout text => stdout text
  | silent => silent

def takeOutput (sink : Sink) : String × Sink :=
  (sink.output, sink.clear)

@[simp] theorem write_buffer (before text : String) :
    (buffer before).write text = buffer (before ++ text) := by
  unfold write
  split
  · rename_i h
    rw [String.isEmpty_iff.mp h, String.append_empty]
  · rfl

@[simp] theorem write_stdout (before text : String) :
    (stdout before).write text = stdout (before ++ text) := by
  unfold write
  split
  · rename_i h
    rw [String.isEmpty_iff.mp h, String.append_empty]
  · rfl

@[simp] theorem write_silent (text : String) : silent.write text = silent :=
  ite_self silent

@[simp] theorem write_empty (sink : Sink) : sink.write "" = sink := rfl

@[simp] theorem write_write (sink : Sink) (a b : String) :
    (sink.write a).write b = sink.write (a ++ b) := by
  cases sink <;> simp [String.append_assoc]

theorem writeValue_eq (sink : Sink) (value : Value) :
    sink.writeValue value = sink.write value.display := by
  cases value with
  | empty => exact (sink.write_empty).symm
  | _ => rfl

end Sink
end TextTemplate
