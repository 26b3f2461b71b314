import WapitiStew.Spec.Tmr.CameraControl

/-!
# Conversions to the values of a control

A position takes a whole number of steps that the range has (`toInt_valueFromNormalized`), a
quantity the nearest number of steps, which the maximum may cut off (`toInt_valueFromPhysical`).
Steps that the range has can be set where no difference overflows (`settable_steps`). So all
values can be set exactly if the nearest number of steps to the maximum is inside
(`controls_settable`).
-/

namespace WSE.Proof.Tmr

open WSE.Framework WSE.Impl.Tmr WSE.Spec.Tmr CameraControlCapability

variable {c : CameraControlCapability}

/-! ## A valid capability -/

/-- What the conversions use of a valid capability. -/
structure Measured (c : CameraControlCapability) (scale : ℚ) : Prop where
  range : c.minimum.toInt ≤ c.maximum.toInt
  step : 0 < c.step.toInt
  scaled : c.physicalScale = some scale
  scale_pos : 0 < scale

theorem measured_of_valid (h : c.valid = true) : ∃ scale, Measured c scale := by
  simp only [CameraControlCapability.valid, Bool.and_eq_true, decide_eq_true_eq] at h
  obtain ⟨⟨⟨⟨⟨⟨-, -⟩, hr⟩, hs⟩, hp⟩, -⟩, -⟩ := h
  cases hscale : c.physicalScale with
  | none =>
    rw [hscale] at hp
    cases hp
  | some scale =>
    rw [hscale, Option.any_some, decide_eq_true_eq] at hp
    exact ⟨scale, Int64.le_iff_toInt_le.mp hr, Int64.lt_iff_toInt_lt.mp hs, hscale, hp⟩

theorem span_nonneg {scale : ℚ} (h : Measured c scale) : 0 ≤ span c := by
  have := h.range
  unfold span
  omega

theorem span_split (c : CameraControlCapability) :
    c.step.toInt * (span c / c.step.toInt) = span c - span c % c.step.toInt := by
  have := Int.mul_ediv_add_emod (span c) c.step.toInt
  omega

/-- An aligned value that is whole and in the range. -/
theorem toInt_toValue {n : ℤ} (hmin : c.minimum.toInt ≤ n) (hmax : n ≤ c.maximum.toInt) :
    (toValue (n : ℚ)).toInt = n := by
  rw [toValue, truncate_intCast]
  exact Int64.toInt_ofInt_of_le (by have := c.minimum.le_toInt; omega)
    (by have := c.maximum.toInt_lt; omega)

/-! ## The conversions -/

/-- The steps that a position takes. -/
def positionSteps (c : CameraControlCapability) (x : ℚ) : ℤ :=
  roundAway (max 0 (min 1 x) * (span c / c.step.toInt : ℤ))

/-- The steps that a quantity of the device takes, before the maximum cuts them off. -/
def nearestSteps (c : CameraControlCapability) (native : ℚ) : ℤ :=
  roundAway ((max (c.minimum.toInt : ℚ) (min c.maximum.toInt native) - c.minimum.toInt) /
    c.step.toInt)

section Conversions

variable {scale : ℚ} (h : Measured c scale)

include h

theorem positionSteps_range (x : ℚ) :
    0 ≤ positionSteps c x ∧ positionSteps c x ≤ span c / c.step.toInt := by
  have hcount : 0 ≤ span c / c.step.toInt := Int.ediv_nonneg (span_nonneg h) h.step.le
  have hcount' : (0 : ℚ) ≤ (span c / c.step.toInt : ℤ) := Int.cast_nonneg hcount
  have hle : max 0 (min 1 x) ≤ 1 := max_le zero_le_one (min_le_left 1 x)
  have hpos : 0 ≤ max 0 (min 1 x) * ((span c / c.step.toInt : ℤ) : ℚ) :=
    mul_nonneg (le_max_left 0 _) hcount'
  refine ⟨roundAway_nonneg hpos, ?_⟩
  calc positionSteps c x ≤ roundAway ((span c / c.step.toInt : ℤ) : ℚ) :=
        roundAway_le_roundAway hpos (mul_le_of_le_one_left hcount' hle)
    _ = span c / c.step.toInt := roundAway_intCast _

theorem nearestSteps_nonneg (native : ℚ) : 0 ≤ nearestSteps c native :=
  roundAway_nonneg (div_nonneg (sub_nonneg.mpr (le_max_left _ _)) (Int.cast_nonneg h.step.le))

theorem toInt_valueFromNormalized (hv : c.valid = true) (x : ℚ) :
    (c.valueFromNormalized (some x)).toInt = c.minimum.toInt + positionSteps c x * c.step.toInt := by
  obtain ⟨h0, hle⟩ := positionSteps_range h x
  have hmin : c.minimum.toInt ≤ c.minimum.toInt + positionSteps c x * c.step.toInt :=
    Int.le_add_of_nonneg_right (Int.mul_nonneg h0 h.step.le)
  have hmax : c.minimum.toInt + positionSteps c x * c.step.toInt ≤ c.maximum.toInt := by
    have hmul := Int.mul_le_mul_of_nonneg_right hle h.step.le
    have hspan := Int.ediv_mul_le (span c) h.step.ne'
    have hdef : span c = c.maximum.toInt - c.minimum.toInt := rfl
    omega
  have hcount : ⌊((c.maximum.toInt : ℚ) - c.minimum.toInt) / c.step.toInt⌋ =
      span c / c.step.toInt := by
    rw [← Int.cast_sub]
    exact floor_div _ h.step
  rw [valueFromNormalized]
  simp only [hv, Bool.not_true, Bool.false_eq_true, if_false, hcount]
  rw [← positionSteps, ← Int.cast_mul, ← Int.cast_add, ← Int.cast_min, ← Int.cast_max,
    min_eq_right hmax, max_eq_right hmin]
  exact toInt_toValue hmin hmax

theorem toInt_valueFromPhysical (hv : c.valid = true) (x : ℚ) :
    (c.valueFromPhysical (some x)).toInt =
      min c.maximum.toInt (c.minimum.toInt + nearestSteps c (x / scale) * c.step.toInt) := by
  have hmin : c.minimum.toInt ≤ c.minimum.toInt + nearestSteps c (x / scale) * c.step.toInt :=
    Int.le_add_of_nonneg_right (Int.mul_nonneg (nearestSteps_nonneg h _) h.step.le)
  unfold valueFromPhysical
  simp only [h.scaled, hv, Bool.not_true, Bool.false_eq_true, if_false]
  rw [← nearestSteps, ← Int.cast_mul, ← Int.cast_add, ← Int.cast_min, ← Int.cast_max,
    max_eq_right (le_min h.range hmin)]
  exact toInt_toValue (le_min h.range hmin) (min_le_left _ _)

theorem positionSteps_mono {x y : ℚ} (hxy : x ≤ y) : positionSteps c x ≤ positionSteps c y := by
  have hcount : (0 : ℚ) ≤ (span c / c.step.toInt : ℤ) :=
    Int.cast_nonneg (Int.ediv_nonneg (span_nonneg h) h.step.le)
  exact roundAway_le_roundAway (mul_nonneg (le_max_left 0 _) hcount)
    (mul_le_mul_of_nonneg_right (max_le_max_left 0 (min_le_min_left 1 hxy)) hcount)

theorem nearestSteps_mono {x y : ℚ} (hxy : x ≤ y) : nearestSteps c x ≤ nearestSteps c y := by
  have hstep : (0 : ℚ) ≤ c.step.toInt := Int.cast_nonneg h.step.le
  refine roundAway_le_roundAway (div_nonneg (sub_nonneg.mpr (le_max_left _ _)) hstep) ?_
  exact div_le_div_of_nonneg_right
    (sub_le_sub_right (max_le_max_left _ (min_le_min_left _ hxy)) _) hstep

/-- No quantity takes more steps than the maximum does. -/
theorem nearestSteps_le (native : ℚ) : nearestSteps c native ≤
    if 2 * (span c % c.step.toInt) < c.step.toInt then span c / c.step.toInt
    else span c / c.step.toInt + 1 := by
  rw [← roundAway_div (K := ℚ) (span_nonneg h) h.step]
  have hstep : (0 : ℚ) ≤ c.step.toInt := Int.cast_nonneg h.step.le
  refine roundAway_le_roundAway (div_nonneg (sub_nonneg.mpr (le_max_left _ _)) hstep)
    (div_le_div_of_nonneg_right ?_ hstep)
  rw [span, Int.cast_sub]
  exact sub_le_sub_right (max_le (Int.cast_le.mpr h.range) (min_le_left _ _)) _

theorem nearestSteps_maximum : nearestSteps c c.maximum.toInt =
    if 2 * (span c % c.step.toInt) < c.step.toInt then span c / c.step.toInt
    else span c / c.step.toInt + 1 := by
  rw [← roundAway_div (K := ℚ) (span_nonneg h) h.step, nearestSteps, min_self,
    max_eq_right (Int.cast_le.mpr h.range), span, Int.cast_sub]

/-! ## Values that can be set -/

/-- Steps that the range has. -/
theorem settable_steps (hfit : c.writable = true → c.supportsManual = true →
      span c - span c % c.step.toInt ≤ Int64.maxValue.toInt) {v : Int64} {k : ℤ}
    (hv : v.toInt = c.minimum.toInt + k * c.step.toInt) (h0 : 0 ≤ k)
    (hk : k ≤ span c / c.step.toInt) : Settable c v := by
  have hmul := Int.mul_le_mul_of_nonneg_right hk h.step.le
  rw [Int.mul_comm (span c / _), span_split] at hmul
  have hpos := Int.mul_nonneg h0 h.step.le
  have hmod := Int.emod_nonneg (span c) h.step.ne'
  have hdef : span c = c.maximum.toInt - c.minimum.toInt := rfl
  have hdiff : v.toInt - c.minimum.toInt = k * c.step.toInt := by omega
  have hmin : c.minimum ≤ v := Int64.le_iff_toInt_le.mpr (by omega)
  have hmax : v ≤ c.maximum := Int64.le_iff_toInt_le.mpr (by omega)
  have hdvd : c.step.toInt ∣ v.toInt - c.minimum.toInt := hdiff ▸ Int.dvd_mul_left _ _
  refine ⟨⟨hmin, hmax⟩, hdvd, fun hw hm => ?_⟩
  have hover := hfit hw hm
  have hzero : c.step ≠ 0 := fun he => h.step.ne' (by rw [he]; rfl)
  simp only [controlValid, hw, hm, hmin, hmax, decide_true, Bool.and_self, if_true, hzero,
    decide_false, Bool.false_or, decide_eq_true_eq, hdiff]
  rw [if_neg (by omega), Int.tmod_eq_zero_of_dvd (Int.dvd_mul_left _ _)]
  rfl

theorem converts_of_fit (hv : c.valid = true) (hfit : StepsFit c) : ConvertsToSettable c where
  normalized x := by
    obtain ⟨h0, hle⟩ := positionSteps_range h x
    exact settable_steps h hfit.2 (toInt_valueFromNormalized h hv x) h0 hle
  physical x := by
    have hle := nearestSteps_le h (x / scale)
    rw [if_pos hfit.1] at hle
    have hmul := Int.mul_le_mul_of_nonneg_right hle h.step.le
    have hspan := Int.ediv_mul_le (span c) h.step.ne'
    have hdef : span c = c.maximum.toInt - c.minimum.toInt := rfl
    have hval := toInt_valueFromPhysical h hv x
    rw [min_eq_right (by omega)] at hval
    exact settable_steps h hfit.2 hval (nearestSteps_nonneg h _) hle
  normalized_mono x y hxy := by
    rw [Int64.le_iff_toInt_le, toInt_valueFromNormalized h hv, toInt_valueFromNormalized h hv]
    have hsteps := Int.mul_le_mul_of_nonneg_right (positionSteps_mono h hxy) h.step.le
    omega
  physical_mono x y hxy := by
    rw [Int64.le_iff_toInt_le, toInt_valueFromPhysical h hv, toInt_valueFromPhysical h hv]
    have hsteps := Int.mul_le_mul_of_nonneg_right
      (nearestSteps_mono h (div_le_div_of_nonneg_right hxy h.scale_pos.le)) h.step.le
    omega

/-- The greatest position and the greatest quantity tell whether the steps fit. -/
theorem fit_of_converts (hv : c.valid = true) (hc : ConvertsToSettable c) : StepsFit c := by
  refine ⟨?_, fun hw hm => ?_⟩
  · by_contra hup
    have hval := toInt_valueFromPhysical h hv (c.maximum.toInt * scale)
    rw [mul_div_cancel_right₀ _ h.scale_pos.ne', nearestSteps_maximum h, if_neg hup,
      Int.add_mul, Int.one_mul, Int.mul_comm, span_split] at hval
    have hlt := Int.emod_lt_of_pos (span c) h.step
    have hdef : span c = c.maximum.toInt - c.minimum.toInt := rfl
    rw [min_eq_left (by omega)] at hval
    have hdvd := (hc.physical (c.maximum.toInt * scale)).grid
    rw [hval, ← hdef] at hdvd
    have := Int.emod_eq_zero_of_dvd hdvd
    have := h.step
    omega
  · have hval := toInt_valueFromNormalized h hv 1
    have hone : positionSteps c 1 = span c / c.step.toInt := by
      rw [positionSteps, min_self, max_eq_right zero_le_one, one_mul, roundAway_intCast]
    rw [hone, Int.mul_comm, span_split] at hval
    have hacc := (hc.normalized 1).accepted hw hm
    by_contra hover
    obtain ⟨hmin, hmax⟩ := (hc.normalized 1).range
    simp only [controlValid, hw, hm, hmin, hmax, decide_true, Bool.and_self, if_true] at hacc
    rw [if_pos (Bool.or_eq_true_iff.mpr (.inr (decide_eq_true (by omega))))] at hacc
    cases hacc

end Conversions

/-- Every value that is converted can be set, exactly if the steps fit the range. -/
theorem controls_settable (c : CameraControlCapability) (hv : c.valid = true) :
    ConvertsToSettable c ↔ StepsFit c := by
  obtain ⟨scale, h⟩ := measured_of_valid hv
  exact ⟨fit_of_converts h hv, converts_of_fit h hv⟩

/-- A control from 0 to 4 in steps of 2. -/
def evenGain : CameraControlCapability :=
  { control := .gain, maximum := 4, step := 2, supportsManual := true }

theorem evenGain_settable : ConvertsToSettable evenGain :=
  (controls_settable evenGain (by decide)).mpr (by decide)

/-- A control from 0 to 5 in steps of 3: its maximum is no whole number of steps. -/
def unevenGain : CameraControlCapability :=
  { control := .gain, maximum := 5, step := 3, supportsManual := true }

theorem unevenGain_off_grid : unevenGain.valid = true ∧ unevenGain.valueFromPhysical (some 5) = 5 ∧
    controlValid unevenGain { control := .gain, value := 5 } = some false ∧
    ¬ConvertsToSettable unevenGain := by
  refine ⟨by decide, by decide +kernel, by decide, fun hc => ?_⟩
  have hdvd := (hc.physical 5).grid
  revert hdvd
  decide +kernel

end WSE.Proof.Tmr
