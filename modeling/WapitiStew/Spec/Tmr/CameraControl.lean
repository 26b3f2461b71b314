import WapitiStew.Impl.Tmr.CameraControl
import WapitiStew.Impl.Tmr.WebCamera

/-!
# Values that a control can be set to

A value can be set if it is in the range, a whole number of steps above the minimum, and passes the
check of `setControl`, where the control is set by hand at all. The conversions of a capability are
to give such values, and greater ones for greater positions and quantities.
-/

namespace WSE.Spec.Tmr

open WSE.Impl.Tmr

structure Settable (c : CameraControlCapability) (v : Int64) : Prop where
  range : c.minimum ≤ v ∧ v ≤ c.maximum
  grid : c.step.toInt ∣ v.toInt - c.minimum.toInt
  accepted : c.writable = true → c.supportsManual = true →
    controlValid c { control := c.control, mode := .manual, value := v } = some true

structure ConvertsToSettable (c : CameraControlCapability) : Prop where
  normalized : ∀ x : ℚ, Settable c (c.valueFromNormalized (some x))
  physical : ∀ x : ℚ, Settable c (c.valueFromPhysical (some x))
  normalized_mono : ∀ x y : ℚ, x ≤ y →
    c.valueFromNormalized (some x) ≤ c.valueFromNormalized (some y)
  physical_mono : ∀ x y : ℚ, x ≤ y → c.valueFromPhysical (some x) ≤ c.valueFromPhysical (some y)

/-- What the range measures. -/
def span (c : CameraControlCapability) : ℤ := c.maximum.toInt - c.minimum.toInt

/-- The greatest whole number of steps in the range is the nearest one to the maximum, and where
the control is set by hand, no `std::int64_t` overflows on the way to it. -/
def StepsFit (c : CameraControlCapability) : Prop :=
  2 * (span c % c.step.toInt) < c.step.toInt ∧
    (c.writable = true → c.supportsManual = true →
      span c - span c % c.step.toInt ≤ Int64.maxValue.toInt)

instance (c : CameraControlCapability) : Decidable (StepsFit c) :=
  inferInstanceAs (Decidable (_ ∧ _))

end WSE.Spec.Tmr
