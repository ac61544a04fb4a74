import TextTemplate.Proofs.ValueShape

/-! What a range lists. A progression has just enough items to come to its stop, and each of them is
a 64-bit integer, however close to the ends of the 64 bits it begins or ends. So a range over
integers fails only for the number of its arguments or for a step of zero. -/

namespace TextTemplate

namespace Progression

/-- After some steps from the start the stop is reached, in the direction of the step. -/
def Covers (p : Progression) (n : Nat) : Prop :=
  (0 < p.step → p.stop.toInt ≤ p.start.toInt + p.step.toInt * n) ∧
    (p.step < 0 → p.start.toInt + p.step.toInt * n ≤ p.stop.toInt)

section bounds

variable (p : Progression)

theorem step_pos_iff : 0 < p.step ↔ 0 < p.step.toInt := by
  rw [Int64.lt_iff_toInt_lt, Int64.toInt_zero]

theorem step_neg_iff : p.step < 0 ↔ p.step.toInt < 0 := by
  rw [Int64.lt_iff_toInt_lt, Int64.toInt_zero]

theorem step_ne_zero_iff : p.step ≠ 0 ↔ p.step.toInt ≠ 0 := by
  rw [← Int64.toInt_zero, ne_eq, ne_eq, Int64.toInt_inj]

theorem natAbs_span_lt : (p.stop.toInt - p.start.toInt).natAbs < UInt64.size := by
  have hstart := p.start.le_toInt
  have hstart' := p.start.toInt_lt
  have hstop := p.stop.le_toInt
  have hstop' := p.stop.toInt_lt
  have hsize : UInt64.size = 2 ^ 64 := rfl
  omega

variable {p} (hstep : p.step ≠ 0)
include hstep

theorem length_le_iff (n : Nat) : p.length ≤ n ↔ p.Covers n := by
  have hne : p.step.toInt ≠ 0 := p.step_ne_zero_iff.mp hstep
  have hpos : 0 < p.step.toInt.natAbs := Int.natAbs_pos.mpr hne
  -- The length is the span divided by the step and rounded up, and zero when there is no way.
  have hceil (span : Int) : (span.toNat + p.step.toInt.natAbs - 1) / p.step.toInt.natAbs ≤ n ↔
      span ≤ p.step.toInt.natAbs * n := by
    rw [Nat.div_le_iff_le_mul_add_pred hpos]
    omega
  rw [length, hceil, Covers]
  simp only [step_pos_iff, step_neg_iff]
  rcases Int.lt_or_gt_of_ne hne with hneg | hpos
  · have habs : (p.step.toInt.natAbs : Int) * n = -(p.step.toInt * n) := by
      rw [Int.ofNat_natAbs_of_nonpos (Int.le_of_lt hneg), Int.neg_mul]
    rw [habs, if_neg (Int.lt_asymm hneg)]
    omega
  · have habs : (p.step.toInt.natAbs : Int) * n = p.step.toInt * n := by
      rw [Int.natAbs_of_nonneg (Int.le_of_lt hpos)]
    rw [habs, if_pos hpos]
    omega

theorem covers_length : p.Covers p.length :=
  (length_le_iff hstep p.length).mp (Nat.le_refl _)

theorem between_of_lt {i : Nat} (hi : i < p.length) :
    p.start.toInt ≤ p.start.toInt + p.step.toInt * i ∧
        p.start.toInt + p.step.toInt * i < p.stop.toInt ∨
      p.stop.toInt < p.start.toInt + p.step.toInt * i ∧
        p.start.toInt + p.step.toInt * i ≤ p.start.toInt := by
  -- Fewer steps than the length do not reach the stop.
  have hshort : ¬p.Covers i := fun h => Nat.not_le_of_lt hi ((length_le_iff hstep i).mpr h)
  rw [Covers, step_pos_iff, step_neg_iff] at hshort
  rcases Int.lt_or_gt_of_ne (p.step_ne_zero_iff.mp hstep) with hneg | hpos
  · have hoffset : p.step.toInt * i ≤ 0 :=
      Int.mul_nonpos_of_nonpos_of_nonneg (Int.le_of_lt hneg) (Int.natCast_nonneg i)
    omega
  · have hoffset : 0 ≤ p.step.toInt * i :=
      Int.mul_nonneg (Int.le_of_lt hpos) (Int.natCast_nonneg i)
    omega

theorem exists_item {i : Nat} (hi : i < p.length) :
    ∃ n : Int64, p.view.item i = .int n ∧ n.toInt = p.start.toInt + p.step.toInt * i := by
  have hbetween := between_of_lt hstep hi
  have hstart := p.start.minValue_le_toInt
  have hstart' := p.start.toInt_le
  have hstop := p.stop.minValue_le_toInt
  have hstop' := p.stop.toInt_le
  have hfits : Int64.minValue.toInt ≤ p.start.toInt + p.step.toInt * i ∧
      p.start.toInt + p.step.toInt * i ≤ Int64.maxValue.toInt := by
    omega
  refine ⟨Int64.ofIntLE _ hfits.1 hfits.2, ?_, Int64.toInt_ofIntLE⟩
  change (if i < p.length then intOrEmpty _ else _) = _
  rw [if_pos hi, intOrEmpty, dif_pos hfits]

end bounds

theorem length_lt (p : Progression) : p.length < UInt64.size := by
  by_cases hstep : p.step = 0
  · have hzero : p.length = 0 := by
      rw [length, hstep]
      exact Nat.div_zero _
    rw [hzero]
    decide
  · have hspan := p.natAbs_span_lt
    have hsize : UInt64.size = 18446744073709551615 + 1 := rfl
    -- A step moves by one at least, and no span takes more moves than that.
    have hcovers : p.Covers 18446744073709551615 := by
      rw [Covers, step_pos_iff, step_neg_iff]
      omega
    rw [hsize]
    exact Nat.lt_succ_of_le ((length_le_iff hstep _).mpr hcovers)

/-- The list of the integers from the start by steps up to but not including the stop. Differences
that are formed on the way are exact in integers of twice the width. -/
structure Enumerates (p : Progression) (view : ListView Value) : Prop where
  covers : p.Covers view.size
  least : ∀ n, p.Covers n → view.size ≤ n
  size_lt : view.size < UInt64.size
  item : ∀ i < view.size,
    ∃ n : Int64, view.item i = .int n ∧ n.toInt = p.start.toInt + p.step.toInt * i
  past : ∀ i, view.size ≤ i → view.item i = .empty
  span_lt : (p.stop.toInt - p.start.toInt).natAbs < UInt64.size
  offset_lt : ∀ i < view.size, (p.step.toInt * i).natAbs < UInt64.size

theorem view_enumerates {p : Progression} (hstep : p.step ≠ 0) : p.Enumerates p.view where
  covers := covers_length hstep
  least n h := (length_le_iff hstep n).mpr h
  size_lt := p.length_lt
  item _ hi := exists_item hstep hi
  past _ hi := if_neg (Nat.not_lt_of_le hi)
  span_lt := p.natAbs_span_lt
  offset_lt i hi := by
    have hbetween := between_of_lt hstep hi
    have hspan := p.natAbs_span_lt
    omega

end Progression

namespace Value

theorem integers_map_int (ns : List Int64) : integers (ns.map .int) = .ok ns := by
  induction ns with
  | nil => rfl
  | cons n ns ih =>
    rw [List.map_cons, integers, ih]
    rfl

theorem integers_append_of_ne_int (ns : List Int64) {v : Value} (hv : ∀ n, v ≠ .int n)
    (after : List Value) :
    integers (ns.map .int ++ v :: after) = .error (.typeMismatch "int" v.typeName) := by
  induction ns with
  | nil =>
    cases v with
    | int n => exact absurd rfl (hv n)
    | _ => rfl
  | cons n ns ih =>
    rw [List.map_cons, List.cons_append, integers, ih]
    rfl

theorem ints_or_firstOther (args : List Value) : (∃ ns : List Int64, args = ns.map .int) ∨
    ∃ (ns : List Int64) (v : Value) (after : List Value),
      args = ns.map .int ++ v :: after ∧ ∀ n, v ≠ .int n := by
  induction args with
  | nil => exact .inl ⟨[], rfl⟩
  | cons v args ih =>
    by_cases hv : ∃ n, v = .int n
    · obtain ⟨n, rfl⟩ := hv
      rcases ih with ⟨ns, rfl⟩ | ⟨ns, w, after, rfl, hw⟩
      · exact .inl ⟨n :: ns, rfl⟩
      · exact .inr ⟨n :: ns, w, after, rfl, hw⟩
    · exact .inr ⟨[], v, args, rfl, fun n h => hv ⟨n, h⟩⟩

theorem ofProgression_of_step_ne_zero {p : Progression} (h : p.step ≠ 0) :
    ofProgression p = .ok (.genericList p.view) := by
  rw [ofProgression, if_neg h, if_neg (Nat.not_le_of_lt p.length_lt)]

section range

theorem range_of_ne_int (ns : List Int64) {v : Value} (hv : ∀ n, v ≠ .int n)
    (after : List Value) :
    range (ns.map .int ++ v :: after) = .error (.typeMismatch "int" v.typeName) := by
  rw [range_eq, integers_append_of_ne_int ns hv after]
  rfl

theorem range_of_count {ns : List Int64} (h : ns = [] ∨ 3 < ns.length) :
    range (ns.map .int) = .error (.wrongArgCount "range" 1 3 ns.length) := by
  rw [range_eq, integers_map_int, List.length_map]
  match ns, h with
  | [], _ => rfl
  | _ :: _ :: _ :: _ :: _, _ => rfl

theorem range_of_zero_step (start stop : Int64) :
    range [.int start, .int stop, .int 0] = .error zeroStep :=
  rfl

theorem exists_range {ns : List Int64} (hmin : 1 ≤ ns.length) (hmax : ns.length ≤ 3)
    (hstep : ns[2]? ≠ some 0) :
    ∃ p : Progression, range (ns.map .int) = .ok (.genericList p.view) := by
  have hone : (1 : Int64) ≠ 0 := by decide
  rw [range_eq, integers_map_int]
  match ns with
  | [stop] => exact ⟨_, ofProgression_of_step_ne_zero (p := ⟨0, stop, 1⟩) hone⟩
  | [start, stop] => exact ⟨_, ofProgression_of_step_ne_zero (p := ⟨start, stop, 1⟩) hone⟩
  | [start, stop, step] =>
    have hne : step ≠ 0 := fun h => hstep (congrArg some h)
    exact ⟨_, ofProgression_of_step_ne_zero (p := ⟨start, stop, step⟩) hne⟩

theorem range_eq_of_step_ne_zero (start stop : Int64) {step : Int64} (h : step ≠ 0) :
    range [.int start, .int stop, .int step] =
      .ok (.genericList (Progression.view ⟨start, stop, step⟩)) :=
  ofProgression_of_step_ne_zero (p := ⟨start, stop, step⟩) h

theorem zeroStep_ne_tooLarge (size : Nat) :
    zeroStep ≠ .custom ("range() of " ++ size.repr ++ " elements is too large") := by
  intro h
  -- The two texts part at their ninth letter.
  have htext := congrArg (fun text : String => text.toList[8]?) (EvalError.custom.inj h)
  simp at htext

/-- All that a range can give: the four outcomes in the order in which they are looked for. -/
theorem range_cases (args : List Value) :
    (∃ (ns : List Int64) (v : Value) (after : List Value), args = ns.map .int ++ v :: after ∧
        (∀ n, v ≠ .int n) ∧ range args = .error (.typeMismatch "int" v.typeName)) ∨
      ∃ ns : List Int64, args = ns.map .int ∧
        ((ns = [] ∨ 3 < ns.length) ∧ range args = .error (.wrongArgCount "range" 1 3 ns.length) ∨
          (∃ start stop, ns = [start, stop, 0]) ∧ range args = .error zeroStep ∨
          (1 ≤ ns.length ∧ ns.length ≤ 3 ∧ ns[2]? ≠ some 0) ∧
            ∃ p : Progression, range args = .ok (.genericList p.view)) := by
  rcases ints_or_firstOther args with ⟨ns, rfl⟩ | ⟨ns, v, after, rfl, hv⟩
  · refine .inr ⟨ns, rfl, ?_⟩
    by_cases hcount : ns = [] ∨ 3 < ns.length
    · exact .inl ⟨hcount, range_of_count hcount⟩
    · obtain ⟨hne, hmax⟩ := not_or.mp hcount
      have hmin : 1 ≤ ns.length := List.length_pos_iff.mpr hne
      by_cases hzero : ns[2]? = some 0
      · match ns, hzero with
        | [start, stop, step], hzero =>
          obtain rfl : step = 0 := Option.some.inj hzero
          exact .inr (.inl ⟨⟨start, stop, rfl⟩, range_of_zero_step start stop⟩)
        | _ :: _ :: _ :: _ :: _, _ => simp at hmax
      · have hsuccess := exists_range hmin (Nat.not_lt.mp hmax) hzero
        exact .inr (.inr ⟨⟨hmin, Nat.not_lt.mp hmax, hzero⟩, hsuccess⟩)
  · exact .inl ⟨ns, v, after, rfl, hv, range_of_ne_int ns hv after⟩

theorem exists_range_iff (args : List Value) : (∃ v, range args = .ok v) ↔
    ∃ ns : List Int64, args = ns.map .int ∧ 1 ≤ ns.length ∧ ns.length ≤ 3 ∧ ns[2]? ≠ some 0 := by
  constructor
  · rintro ⟨v, hv⟩
    rcases range_cases args with ⟨_, _, _, _, _, h⟩ | ⟨ns, hns, ⟨_, h⟩ | ⟨_, h⟩ | ⟨hcount, _⟩⟩
    · cases h.symm.trans hv
    · cases h.symm.trans hv
    · cases h.symm.trans hv
    · exact ⟨ns, hns, hcount⟩
  · rintro ⟨ns, rfl, hmin, hmax, hstep⟩
    obtain ⟨p, hp⟩ := exists_range hmin hmax hstep
    exact ⟨_, hp⟩

theorem range_ne_tooLarge (args : List Value) (size : Nat) : range args ≠
    .error (.custom ("range() of " ++ size.repr ++ " elements is too large")) := by
  intro h
  rcases range_cases args with ⟨_, _, _, _, _, h'⟩ | ⟨_, _, ⟨_, h'⟩ | ⟨_, h'⟩ | ⟨_, _, h'⟩⟩
  · cases h'.symm.trans h
  · cases h'.symm.trans h
  · exact zeroStep_ne_tooLarge size (Except.error.inj (h'.symm.trans h))
  · cases h'.symm.trans h

end range

/-- A range succeeds just for one to three integers of which the third is no zero, and lists the
integers on the way from the start to the stop. -/
theorem range_exact :
    (∀ args : List Value,
      ((∃ v, range args = .ok v) ↔ ∃ ns : List Int64,
          args = ns.map .int ∧ 1 ≤ ns.length ∧ ns.length ≤ 3 ∧ ns[2]? ≠ some 0) ∧
        (∀ (ns : List Int64) (v : Value) (after : List Value),
          args = ns.map .int ++ v :: after → (∀ n, v ≠ .int n) →
            range args = .error (.typeMismatch "int" v.typeName)) ∧
        (∀ ns : List Int64, args = ns.map .int → ns = [] ∨ 3 < ns.length →
          range args = .error (.wrongArgCount "range" 1 3 args.length)) ∧
        (∀ start stop, args = [.int start, .int stop, .int 0] →
          range args = .error (.custom "range() step must not be zero")) ∧
        ∀ size : Nat, range args ≠
          .error (.custom ("range() of " ++ size.repr ++ " elements is too large"))) ∧
      (∀ stop, range [.int stop] = range [.int 0, .int stop, .int 1]) ∧
      (∀ start stop, range [.int start, .int stop] = range [.int start, .int stop, .int 1]) ∧
      ∀ start stop step : Int64, step ≠ 0 →
        ∃ view, range [.int start, .int stop, .int step] = .ok (.genericList view) ∧
          Progression.Enumerates ⟨start, stop, step⟩ view := by
  refine ⟨fun args => ⟨exists_range_iff args, ?_, ?_, ?_, range_ne_tooLarge args⟩,
    fun stop => rfl, fun start stop => rfl, fun start stop step hstep => ?_⟩
  · rintro ns v after rfl hv
    exact range_of_ne_int ns hv after
  · rintro ns rfl hcount
    rw [List.length_map]
    exact range_of_count hcount
  · rintro start stop rfl
    exact range_of_zero_step start stop
  · exact ⟨_, range_eq_of_step_ne_zero start stop hstep, Progression.view_enumerates hstep⟩

theorem range_exact_allIntegers :
    ∃ view, range [.int Int64.minValue, .int Int64.maxValue, .int 1] = .ok (.genericList view) ∧
      view.size = 18446744073709551615 ∧
      view.item 18446744073709551614 = .int (Int64.maxValue - 1) := by
  obtain ⟨-, -, -, hlist⟩ := range_exact
  obtain ⟨view, hview, h⟩ := hlist Int64.minValue Int64.maxValue 1 (by decide)
  have hcovers : (9223372036854775807 : Int) ≤ -9223372036854775808 + 1 * view.size :=
    h.covers.1 (by decide)
  have hlt : view.size < 18446744073709551616 := h.size_lt
  have hsize : view.size = 18446744073709551615 := by omega
  obtain ⟨n, hitem, htoInt⟩ := h.item 18446744073709551614 (by omega)
  have hlast : n = Int64.maxValue - 1 := Int64.toInt_inj.mp (htoInt.trans (by decide))
  exact ⟨view, hview, hsize, hlast ▸ hitem⟩

end Value
end TextTemplate
