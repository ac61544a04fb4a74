import TextTemplate.Value.Access

/-! Arithmetic progressions of 64-bit integers, from a start by steps up to but not including a
stop. Their items are computed when they are asked for. -/

namespace TextTemplate

structure Progression where
  start : Int64
  stop : Int64
  step : Int64
  deriving DecidableEq

namespace Progression

/-- The distance still to cover, rounded up to whole steps; nothing when the stop lies behind. -/
def length (p : Progression) : Nat :=
  let span := if 0 < p.step then p.stop.toInt - p.start.toInt else p.start.toInt - p.stop.toInt
  let step := p.step.toInt.natAbs
  (span.toNat + step - 1) / step

def intOrEmpty (n : Int) : Value :=
  if h : Int64.minValue.toInt ≤ n ∧ n ≤ Int64.maxValue.toInt then
    .int (Int64.ofIntLE n h.1 h.2)
  else .empty

def view (p : Progression) : ListView Value where
  size := p.length
  item i := if i < p.length then intOrEmpty (p.start.toInt + p.step.toInt * i) else .empty

end Progression
end TextTemplate
