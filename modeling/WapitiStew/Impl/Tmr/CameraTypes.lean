import Mathlib.Algebra.Group.Int.Defs
import WapitiStew.Framework.Memory

/-!
# Camera values

The values of `api/tmr/camera/CameraError.h` and `api/tmr/camera/CameraTypes.h`
that the camera facade and the frame operations read, with the checks that
`core/tmr/camera/CameraTypes.cpp` makes on them. Sizes are those of a 64-bit
`std::size_t`.
-/

namespace WSE.Impl.Tmr

open WSE.Framework

/-! ## Errors -/

inductive CameraErrorCategory
  | none | validation | lifecycle | device | inputOutput | timeout | unsupported | backend
  deriving DecidableEq

inductive CameraErrorCode
  | none | invalidArgument | notOpen | alreadyOpen | notStreaming | alreadyStreaming
  | concurrentRead | deviceNotFound | deviceDisconnected | unsupportedBackend | unsupportedFormat
  | unsupportedControl | timedOut | openFailed | configurationFailed | readFailed
  | resourceExhausted | backendFailure | controlReadFailed | controlWriteFailed
  | unsupportedExtensionUnit | extensionUnitReadFailed | extensionUnitWriteFailed
  | payloadSizeMismatch | accessDenied
  deriving DecidableEq

structure CameraError where
  category : CameraErrorCategory := .none
  code : CameraErrorCode := .none
  message : String := ""
  nativeCode : Int := 0
  deriving DecidableEq

def CameraError.ok (e : CameraError) : Bool := e.category = .none && e.code = .none

/-- An error that is not empty: a `Result` cannot fail without one. -/
abbrev CameraFailure := { e : CameraError // e.ok = false }

def cameraFailure (category : CameraErrorCategory) (code : CameraErrorCode) (message : String)
    (h : category ≠ .none) : CameraFailure :=
  ⟨{ category, code, message }, by simp [CameraError.ok, h]⟩

theorem validation_ne : CameraErrorCategory.validation ≠ .none := by decide

theorem lifecycle_ne : CameraErrorCategory.lifecycle ≠ .none := by decide

theorem inputOutput_ne : CameraErrorCategory.inputOutput ≠ .none := by decide

theorem unsupported_ne : CameraErrorCategory.unsupported ≠ .none := by decide

theorem backend_ne : CameraErrorCategory.backend ≠ .none := by decide

abbrev CameraResult (α : Type) := Except CameraFailure α

abbrev CameraStatus := CameraResult Unit

/-- `lastError` after a status. -/
def errorOf : CameraStatus → CameraError
  | .ok () => {}
  | .error e => e.val

/-! ## Devices and formats -/

inductive CameraBackend
  | automatic | mediaFoundation | video4Linux2 | libcamera
  deriving DecidableEq

inductive CameraTransport
  | unknown | usbUvc | csi | virtual | network
  deriving DecidableEq

inductive CameraPixelFormat
  | unknown | gray8 | rgb8 | bgr8 | bgra8 | yuyv422 | nv12 | mjpeg | gray16 | rgb16 | bgr16
  | bayer16Rggb | bayer16Bggr | bayer16Grbg | bayer16Gbrg | uyvy422
  deriving DecidableEq

structure CameraUsbIdentity where
  vendorId : UInt16 := 0
  productId : UInt16 := 0
  serialNumber : String := ""
  uvcVersionBcd : UInt16 := 0
  deriving DecidableEq

structure CameraDeviceInfo where
  backend : CameraBackend := .automatic
  id : String := ""
  displayName : String := ""
  transport : String := ""
  transportType : CameraTransport := .unknown
  usb : CameraUsbIdentity := {}
  deriving DecidableEq

structure CameraFormat where
  width : UInt32 := 0
  height : UInt32 := 0
  frameRateNumerator : UInt32 := 0
  frameRateDenominator : UInt32 := 1
  pixelFormat : CameraPixelFormat := .unknown
  deriving DecidableEq

def CameraFormat.valid (f : CameraFormat) : Bool :=
  f.width > 0 && f.height > 0 && f.frameRateNumerator > 0 && f.frameRateDenominator > 0 &&
    f.pixelFormat ≠ .unknown

structure CameraStreamProfile where
  nativeFormat : CameraFormat := {}
  outputFormats : List CameraPixelFormat := []
  deriving DecidableEq

def CameraStreamProfile.valid (p : CameraStreamProfile) : Bool :=
  p.nativeFormat.valid && !p.outputFormats.isEmpty && !p.outputFormats.contains .unknown

def CameraStreamProfile.supportsOutput (p : CameraStreamProfile) (format : CameraPixelFormat) :
    Bool := p.outputFormats.contains format

structure CameraStreamConfiguration where
  nativeFormat : CameraFormat := {}
  outputFormat : CameraPixelFormat := .unknown
  allowConversion : Bool := true
  deriving DecidableEq

def CameraStreamConfiguration.valid (c : CameraStreamConfiguration) : Bool :=
  c.nativeFormat.valid && c.outputFormat ≠ .unknown &&
    (c.allowConversion || c.nativeFormat.pixelFormat = c.outputFormat)

/-! ## Controls and extension units -/

inductive CameraControl
  | exposure | gain | focus | brightness | contrast | saturation | whiteBalance | zoom | iris | hue
  | sharpness | gamma | colorEnable | backlightCompensation | pan | tilt | roll
  | powerLineFrequency | frameRate
  deriving DecidableEq

inductive CameraControlMode
  | manual | automatic
  deriving DecidableEq

/-- A `double` as an exact number, or `none` for one that is not finite. -/
abbrev Double := Option Rat

/-- A control; values and bounds are those of `std::int64_t`. -/
structure CameraControlCapability where
  control : CameraControl := .exposure
  minimum : Int64 := 0
  maximum : Int64 := 0
  step : Int64 := 0
  defaultValue : Int64 := 0
  supportsManual : Bool := false
  supportsAutomatic : Bool := false
  physicalScale : Double := some 1
  readable : Bool := true
  writable : Bool := true
  deriving DecidableEq

structure CameraControlValue where
  control : CameraControl := .exposure
  mode : CameraControlMode := .manual
  value : Int64 := 0
  deriving DecidableEq

structure CameraExtensionUnitSelector where
  unitGuid : Vector Byte 16 := Vector.replicate 16 0
  unitId : Byte := 0
  selector : Byte := 0
  minimumSize : Nat := 0
  maximumSize : Nat := 0
  readable : Bool := false
  writable : Bool := false
  deriving DecidableEq

structure CameraExtensionUnitValue where
  selector : CameraExtensionUnitSelector := {}
  payload : Bytes := []
  deriving DecidableEq

structure CameraCapability where
  device : CameraDeviceInfo := {}
  formats : List CameraFormat := []
  controls : List CameraControlCapability := []
  streamProfiles : List CameraStreamProfile := []
  extensionUnits : List CameraExtensionUnitSelector := []
  deriving DecidableEq

/-! ## Frames -/

/-- The largest `std::size_t`. -/
def sizeMax : Nat := 2 ^ 64 - 1

structure CameraFrameDescription where
  width : UInt32 := 0
  height : UInt32 := 0
  pixelFormat : CameraPixelFormat := .unknown
  rowStride : Nat := 0
  deriving DecidableEq

def CameraPixelFormat.bytesPerPixel : CameraPixelFormat → Nat
  | .gray8 => 1
  | .rgb8 | .bgr8 => 3
  | .bgra8 => 4
  | .yuyv422 | .uyvy422 | .gray16 => 2
  | .rgb16 | .bgr16 => 6
  | .bayer16Rggb | .bayer16Bggr | .bayer16Grbg | .bayer16Gbrg => 2
  | .unknown | .nv12 | .mjpeg => 0

namespace CameraFrameDescription

def minimumRowStride (d : CameraFrameDescription) : Nat :=
  if d.pixelFormat = .nv12 then d.width.toNat
  else
    let bytesPerPixel := d.pixelFormat.bytesPerPixel
    if d.width = 0 || bytesPerPixel = 0 || d.width.toNat > sizeMax / bytesPerPixel then 0
    else d.width.toNat * bytesPerPixel

def memorySize (d : CameraFrameDescription) : Nat :=
  let height := d.height.toNat
  if height = 0 then 0
  else if (d.pixelFormat = .uyvy422 || d.pixelFormat = .yuyv422) && d.width % 2 ≠ 0 then 0
  else if d.pixelFormat = .nv12 then
    if d.width = 0 || d.width % 2 ≠ 0 || d.height % 2 ≠ 0 then 0
    else
      let effectiveStride := if d.rowStride = 0 then d.width.toNat else d.rowStride
      if effectiveStride < d.width.toNat || effectiveStride > sizeMax / height then 0
      else
        let lumaSize := effectiveStride * height
        let chromaRows := height / 2
        if effectiveStride > (sizeMax - lumaSize) / chromaRows then 0
        else lumaSize + effectiveStride * chromaRows
  else if d.pixelFormat = .mjpeg then 0
  else
    let minimumStride := d.minimumRowStride
    let effectiveStride := if d.rowStride = 0 then minimumStride else d.rowStride
    if minimumStride = 0 || effectiveStride < minimumStride ||
        effectiveStride > sizeMax / height then 0
    else effectiveStride * height

/-- `minimumRowStride`, whose product has to be one of `std::size_t`. -/
def minimumRowStride64 (d : CameraFrameDescription) : Option Nat :=
  if d.pixelFormat = .nv12 then some d.width.toNat
  else
    let bytesPerPixel := d.pixelFormat.bytesPerPixel
    if d.width = 0 || bytesPerPixel = 0 || d.width.toNat > sizeMax / bytesPerPixel then some 0
    else mul64 d.width.toNat bytesPerPixel

/-- `memorySize`, whose products and sum have to be of `std::size_t`. -/
def memorySize64 (d : CameraFrameDescription) : Option Nat :=
  let height := d.height.toNat
  if height = 0 then some 0
  else if (d.pixelFormat = .uyvy422 || d.pixelFormat = .yuyv422) && d.width % 2 ≠ 0 then some 0
  else if d.pixelFormat = .nv12 then
    if d.width = 0 || d.width % 2 ≠ 0 || d.height % 2 ≠ 0 then some 0
    else
      let effectiveStride := if d.rowStride = 0 then d.width.toNat else d.rowStride
      if effectiveStride < d.width.toNat || effectiveStride > sizeMax / height then some 0
      else do
        let lumaSize ← mul64 effectiveStride height
        let chromaRows := height / 2
        if effectiveStride > (sizeMax - lumaSize) / chromaRows then some 0
        else add64 lumaSize (← mul64 effectiveStride chromaRows)
  else if d.pixelFormat = .mjpeg then some 0
  else do
    let minimumStride ← d.minimumRowStride64
    let effectiveStride := if d.rowStride = 0 then minimumStride else d.rowStride
    if minimumStride = 0 || effectiveStride < minimumStride ||
        effectiveStride > sizeMax / height then some 0
    else mul64 effectiveStride height

def valid (d : CameraFrameDescription) : Bool :=
  if d.width = 0 || d.height = 0 || d.pixelFormat = .unknown then false
  else if d.pixelFormat = .mjpeg then d.rowStride = 0
  else d.memorySize > 0

end CameraFrameDescription

structure CameraFrame where
  description : CameraFrameDescription := {}
  data : Bytes := []
  sequence : UInt64 := 0
  monotonicTimestampNs : Int := 0
  deriving DecidableEq

def CameraFrame.valid (f : CameraFrame) : Bool :=
  if !f.description.valid then false
  else if f.description.pixelFormat = .mjpeg then !f.data.isEmpty
  else f.data.length ≥ f.description.memorySize

end WSE.Impl.Tmr
