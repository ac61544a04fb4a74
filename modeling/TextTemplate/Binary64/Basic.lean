/-! Floating-point numbers of 64 bits: a sign, an exponent field of 11 bits and a fraction of 52.
They are held as their bits, so that equality of values of this type tells the two zeros and all
NaNs apart; `equals` is the comparison of numbers. -/

namespace TextTemplate

structure Binary64 where
  bits : UInt64
  deriving DecidableEq, Inhabited

namespace Binary64

def negative (x : Binary64) : Bool :=
  x.bits.toNat.testBit 63

def exponentField (x : Binary64) : Nat :=
  (x.bits.toNat >>> 52) % 2048

def fraction (x : Binary64) : Nat :=
  x.bits.toNat % (1 <<< 52)

def isNaN (x : Binary64) : Bool :=
  x.exponentField = 2047 ∧ x.fraction ≠ 0

def isInfinite (x : Binary64) : Bool :=
  x.exponentField = 2047 ∧ x.fraction = 0

def isZero (x : Binary64) : Bool :=
  x.bits.toNat % (1 <<< 63) = 0

/-- The two zeros are equal, and a NaN equals nothing. -/
def equals (x y : Binary64) : Bool :=
  !x.isNaN && !y.isNaN && (x.bits == y.bits || (x.isZero && y.isZero))

/-- The integer significand of a finite number; its value is this times two to the `scale`. -/
def significand (x : Binary64) : Nat :=
  if x.exponentField = 0 then x.fraction else (1 <<< 52) + x.fraction

def scale (x : Binary64) : Int :=
  if x.exponentField = 0 then -1074 else x.exponentField - 1075

def zero : Binary64 := ⟨0⟩

def negZero : Binary64 := ⟨0x8000000000000000⟩

/-- The nearest whole multiple of `2 ^ shift`, as a count of them; a tie goes to the even count. -/
def roundShift (n shift : Nat) : Nat :=
  let unit := 1 <<< shift
  let count := n / unit
  let twice := 2 * (n % unit)
  if unit < twice ∨ (twice = unit ∧ count % 2 = 1) then count + 1 else count

/-- A significand that rounds up to `2 ^ 53` carries into the exponent field. -/
def magnitudeBits (n : Nat) : Nat :=
  if n = 0 then 0
  else
    let top := n.log2
    let significand :=
      if top ≤ 52 then n <<< (52 - top) else roundShift n (top - 52)
    ((top + 1022) <<< 52) + significand

def ofInt64 (n : Int64) : Binary64 :=
  let sign := if n.toInt < 0 then 1 <<< 63 else 0
  ⟨UInt64.ofNat (sign + magnitudeBits n.toInt.natAbs)⟩

theorem equals_self (x : Binary64) : x.equals x = !x.isNaN := by
  simp [equals]

theorem equals_comm (x y : Binary64) : x.equals y = y.equals x := by
  simp only [equals, Bool.beq_comm (a := x.bits)]
  cases x.isNaN <;> cases y.isNaN <;> cases x.isZero <;> cases y.isZero <;> simp

theorem equals_trans {x y z : Binary64} (hxy : x.equals y = true) (hyz : y.equals z = true) :
    x.equals z = true := by
  simp only [equals, Bool.and_eq_true, Bool.or_eq_true, beq_iff_eq] at hxy hyz ⊢
  obtain ⟨⟨hx, hy⟩, hxy⟩ := hxy
  obtain ⟨⟨_, hz⟩, hyz⟩ := hyz
  refine ⟨⟨hx, hz⟩, ?_⟩
  rcases hxy with hxy | ⟨hx0, hy0⟩
  · have : x = y := by cases x; cases y; simpa using hxy
    exact this ▸ hyz
  · rcases hyz with hyz | ⟨_, hz0⟩
    · have : y = z := by cases y; cases z; simpa using hyz
      exact .inr ⟨hx0, this ▸ hy0⟩
    · exact .inr ⟨hx0, hz0⟩

theorem isZero_iff (x : Binary64) : x.isZero = true ↔ x = zero ∨ x = negZero := by
  obtain ⟨bits⟩ := x
  have hunit : 1 <<< 63 = 9223372036854775808 := rfl
  have hbits : bits.toNat < 2 * (1 <<< 63) := bits.toNat_lt
  have hzero : (⟨bits⟩ : Binary64) = zero ↔ bits.toNat = 0 := by
    rw [zero, Binary64.mk.injEq, ← UInt64.toNat_inj]
    rfl
  have hnegZero : (⟨bits⟩ : Binary64) = negZero ↔ bits.toNat = 1 <<< 63 := by
    rw [negZero, Binary64.mk.injEq, ← UInt64.toNat_inj]
    rfl
  rw [hzero, hnegZero, isZero, decide_eq_true_iff]
  rw [hunit] at hbits ⊢
  dsimp only
  omega

theorem eq_of_equals {x y : Binary64} (h : x.equals y = true) (hx : x ≠ negZero)
    (hy : y ≠ negZero) : x = y := by
  simp only [equals, Bool.and_eq_true, Bool.or_eq_true, beq_iff_eq] at h
  rcases h.2 with hbits | ⟨hx0, hy0⟩
  · cases x
    cases y
    exact congrArg Binary64.mk hbits
  · have hxz : x = zero := ((isZero_iff x).mp hx0).resolve_right hx
    have hyz : y = zero := ((isZero_iff y).mp hy0).resolve_right hy
    rw [hxz, hyz]

end Binary64
end TextTemplate
