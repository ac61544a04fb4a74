import TextTemplate.Binary64.Basic

/-! The decimal text of a number: the fewest digits that read back to the same number, written out
in full. All arithmetic is on natural numbers, so the text is exact. -/

namespace TextTemplate

structure Decimal where
  digits : Nat
  exponent : Int
  deriving DecidableEq

namespace Decimal

def positional (d : Decimal) : String :=
  let digits := Nat.toDigits 10 d.digits
  let places := (-d.exponent).toNat
  if places = 0 then
    String.ofList (digits ++ List.replicate d.exponent.toNat '0')
  else if places < digits.length then
    let whole := digits.length - places
    String.ofList (digits.take whole ++ '.' :: digits.drop whole)
  else
    String.ofList ('0' :: '.' :: List.replicate (places - digits.length) '0' ++ digits)

end Decimal

namespace Binary64

/-- The reals that round to a number, in units of `2 ^ scale`. -/
structure Neighbourhood where
  low : Nat
  value : Nat
  high : Nat
  scale : Int
  closed : Bool

namespace Neighbourhood

/-- The gap below a power of two is half the gap above it. The ends round to the number itself when
its significand is even. -/
def around (x : Binary64) : Neighbourhood :=
  let quarters := 4 * x.significand
  { low := quarters - (if x.fraction = 0 ∧ 1 < x.exponentField then 1 else 2)
    value := quarters
    high := quarters + 2
    scale := x.scale - 2
    closed := x.significand % 2 = 0 }

/-- The nearest multiple of `10 ^ exponent` in the neighbourhood, as a count; of two equally near
ones the larger. Only the two next to the value can be nearest. -/
def nearest? (r : Neighbourhood) (exponent : Int) : Option Nat :=
  let unit := Nat.pow 10 (-exponent).toNat <<< r.scale.toNat
  let grid := Nat.pow 10 exponent.toNat <<< (-r.scale).toNat
  let inside (count : Nat) : Bool :=
    if r.closed then r.low * unit ≤ count * grid ∧ count * grid ≤ r.high * unit
    else r.low * unit < count * grid ∧ count * grid < r.high * unit
  let below := r.value * unit / grid
  let above := below + 1
  match inside below, inside above with
  | false, false => none
  | true, false => some below
  | false, true => some above
  | true, true =>
    if above * grid - r.value * unit ≤ r.value * unit - below * grid then some above
    else some below

/-- The number on the coarsest decimal grid that meets the neighbourhood, tried from
`10 ^ (steps - 324)` downwards. Gaps are never narrower than `10 ^ (-324)`. -/
def coarsest (r : Neighbourhood) : Nat → Decimal
  | 0 => ⟨(r.nearest? (-324)).getD 0, -324⟩
  | steps + 1 =>
    let exponent : Int := steps + 1 - 324
    match r.nearest? exponent with
    | some digits => ⟨digits, exponent⟩
    | none => r.coarsest steps

end Neighbourhood

def shortest (x : Binary64) : Decimal :=
  (Neighbourhood.around x).coarsest 633

def toText (x : Binary64) : String :=
  if x.isNaN then "NaN"
  else
    let magnitude :=
      if x.isInfinite then "inf"
      else if x.isZero then "0"
      else x.shortest.positional
    if x.negative then "-" ++ magnitude else magnitude

end Binary64
end TextTemplate
