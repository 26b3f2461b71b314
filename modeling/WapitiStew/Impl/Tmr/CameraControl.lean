import WapitiStew.Framework.Rounding
import WapitiStew.Impl.Tmr.CameraTypes

/-!
# Values of a camera control

The conversions of `sCameraControlCapability` in `core/tmr/camera/CameraTypes.cpp` from a position
between 0 and 1 and from a physical quantity to a value of the device. What the source computes in
`long double` is computed exactly.
-/

namespace WSE.Impl.Tmr.CameraControlCapability

open WSE.Framework

def valid (c : CameraControlCapability) : Bool :=
  c.minimum ≤ c.defaultValue && c.defaultValue ≤ c.maximum && c.minimum ≤ c.maximum &&
    c.step > 0 && c.physicalScale.any (· > 0) && (c.supportsManual || c.supportsAutomatic) &&
    (c.readable || c.writable)

/-- The cast of an aligned value to `std::int64_t`. -/
def toValue (aligned : ℚ) : Int64 := Int64.ofInt (truncate aligned)

def valueFromNormalized (c : CameraControlCapability) (normalized : Double) : Int64 :=
  match normalized with
  | none => c.defaultValue
  | some normalized =>
    if !c.valid then c.defaultValue
    else
      let position := max 0 (min 1 normalized)
      let minimum : ℚ := c.minimum.toInt
      let maximum : ℚ := c.maximum.toInt
      let step : ℚ := c.step.toInt
      let stepCount : ℚ := ⌊(maximum - minimum) / step⌋
      let stepIndex : ℚ := roundAway (position * stepCount)
      toValue (max minimum (min maximum (minimum + stepIndex * step)))

def valueFromPhysical (c : CameraControlCapability) (physical : Double) : Int64 :=
  match physical, c.physicalScale with
  | some physical, some scale =>
    if !c.valid then c.defaultValue
    else
      let native := physical / scale
      let minimum : ℚ := c.minimum.toInt
      let maximum : ℚ := c.maximum.toInt
      let step : ℚ := c.step.toInt
      let bounded := max minimum (min maximum native)
      toValue (max minimum
        (min maximum (minimum + roundAway ((bounded - minimum) / step) * step)))
  | _, _ => c.defaultValue

end WSE.Impl.Tmr.CameraControlCapability
