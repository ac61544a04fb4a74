import TextTemplate.Context
import TextTemplate.Sink

/-! What a rendering step leaves behind. The sink and the context are there after a failure too, so
text written before it stays written. -/

namespace TextTemplate

structure Outcome where
  sink : Sink
  context : Context
  result : Except EvalError Unit

abbrev Rendering := Sink → Context → Outcome

namespace Outcome

def done : Rendering := fun sink c => ⟨sink, c, .ok ()⟩

def fail (e : EvalError) : Rendering := fun sink c => ⟨sink, c, .error e⟩

@[inline]
def andThen (o : Outcome) (next : Rendering) : Outcome :=
  match o.result with
  | .ok _ => next o.sink o.context
  | .error _ => o

@[simp] theorem andThen_done (sink : Sink) (c : Context) (next : Rendering) :
    (done sink c).andThen next = next sink c := rfl

@[simp] theorem andThen_fail (e : EvalError) (sink : Sink) (c : Context) (next : Rendering) :
    (fail e sink c).andThen next = fail e sink c := rfl

@[simp] theorem andThen_done_right (o : Outcome) : o.andThen done = o := by
  obtain ⟨sink, c, result⟩ := o
  cases result <;> rfl

theorem andThen_assoc (o : Outcome) (f g : Rendering) :
    (o.andThen f).andThen g = o.andThen fun sink c => (f sink c).andThen g := by
  obtain ⟨sink, c, result⟩ := o
  cases result <;> rfl

@[inline]
def withValue (value : Except EvalError Value) (next : Value → Rendering) : Rendering :=
  fun sink c =>
    match value with
    | .ok v => next v sink c
    | .error e => fail e sink c

def inScope (step : Rendering) : Rendering := fun sink c =>
  match c.enter with
  | .error e => fail e sink c
  | .ok opened =>
    let o := step sink opened
    ⟨o.sink, o.context.exit, o.result⟩

def defineFields (names : List String) (value : Value) : Rendering := fun sink c =>
  let (after, result) := c.defineFields value names
  ⟨sink, after, result⟩

end Outcome
end TextTemplate
