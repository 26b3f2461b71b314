import Mathlib.Data.Nat.GCD.Basic
import WapitiStew.Framework.Sorting
import WapitiStew.Impl.Oui.D3D12Surface

/-!
# The display modes of the D3D12 backend

The mode lists of `platform/oui/win/renderer/D3D12DisplayEnumeration.cpp`, and the checks that
`core/oui/renderer/RendererTypes.cpp` makes of a display. What an output says besides its modes is
given as a description. `std::sort` is a parameter, `std::unique` is `unique`.
-/

namespace WSE.Impl.Oui

open WSE.Framework

/-! ## Descriptions of displays -/

inductive DisplayRotation
  | unknown | identity | rotate90 | rotate180 | rotate270
  deriving DecidableEq

def isKnownDisplayRotation : DisplayRotation → Bool
  | .unknown | .identity | .rotate90 | .rotate180 | .rotate270 => true

/-- `sDisplayDescription`, with what names the display. -/
structure NamedDisplayDescription extends DisplayDescription where
  adapterId : String
  adapterName : String
  displayName : String
  rotation : DisplayRotation
  deriving DecidableEq

/-- A product of two `std::uint32_t`s, as a `std::uint64_t`. -/
def refreshProduct (numerator denominator : Nat) : Nat := numerator * denominator % 2 ^ 64

def isSameDisplayMode (left right : DisplayMode) : Bool :=
  left.extent.width = right.extent.width && left.extent.height = right.extent.height &&
    left.format = right.format && left.interlaced = right.interlaced &&
    refreshProduct left.refreshRateNumerator right.refreshRateDenominator =
      refreshProduct right.refreshRateNumerator left.refreshRateDenominator

def validateDisplayDescription (d : NamedDisplayDescription) : RendererStatus := do
  if d.id = "" || d.adapterId = "" || d.adapterName = "" || d.displayName = "" then
    throw (invalidDescription "Display and adapter identities must be non-empty.")
  if !isKnownDisplayRotation d.rotation then
    throw (invalidDescription "Display rotation value is invalid.")
  if d.desktopExtent.empty then
    throw (invalidDescription "Display desktop extent must be non-empty.")
  validateDisplayMode d.currentMode
  if d.modes = [] then
    throw (invalidDescription "Display mode list must contain the current mode.")
  d.modes.forM validateDisplayMode
  if !d.modes.any (isSameDisplayMode · d.currentMode) then
    throw (invalidDescription "Display mode list does not contain the current mode.")

/-! ## Modes -/

inductive DxgiFormat
  | r8g8b8a8Unorm | b8g8r8a8Unorm | other
  deriving DecidableEq

inductive ScanlineOrder
  | unspecified | progressive | upperFieldFirst | lowerFieldFirst
  deriving DecidableEq

/-- `DXGI_MODE_DESC1`. -/
structure DxgiModeDesc where
  width : UInt32
  height : UInt32
  numerator : UInt32
  denominator : UInt32
  format : DxgiFormat := .r8g8b8a8Unorm
  scanlineOrdering : ScanlineOrder := .progressive
  deriving DecidableEq

def normalizeDisplayMode (m : DisplayMode) : DisplayMode :=
  if m.refreshRateNumerator = 0 || m.refreshRateDenominator = 0 then m
  else
    let divisor := Nat.gcd m.refreshRateNumerator m.refreshRateDenominator
    { m with
      refreshRateNumerator := m.refreshRateNumerator / divisor
      refreshRateDenominator := m.refreshRateDenominator / divisor }

def toPortableDisplayMode (m : DxgiModeDesc) : DisplayMode :=
  normalizeDisplayMode {
    extent := ⟨m.width.toNat, m.height.toNat⟩
    refreshRateNumerator := m.numerator.toNat
    refreshRateDenominator := m.denominator.toNat
    format := if m.format = .b8g8r8a8Unorm then .bgra8Unorm else .rgba8Unorm
    interlaced := m.scanlineOrdering = .upperFieldFirst || m.scanlineOrdering = .lowerFieldFirst }

def sameDisplayMode (left right : DisplayMode) : Bool :=
  left.extent.width = right.extent.width && left.extent.height = right.extent.height &&
    left.refreshRateNumerator = right.refreshRateNumerator &&
    left.refreshRateDenominator = right.refreshRateDenominator &&
    left.format = right.format && left.interlaced = right.interlaced

/-- The value of the enumerator. -/
def RendererPixelFormat.toNat : RendererPixelFormat → Nat
  | unknown => 0
  | r8Unorm => 1
  | rgba8Unorm => 2
  | bgra8Unorm => 3
  | rgba16Float => 4
  | rgba16Unorm => 5

def displayModeLess (left right : DisplayMode) : Bool :=
  if left.extent.width ≠ right.extent.width then left.extent.width < right.extent.width
  else if left.extent.height ≠ right.extent.height then left.extent.height < right.extent.height
  else
    let leftRefresh := refreshProduct left.refreshRateNumerator right.refreshRateDenominator
    let rightRefresh := refreshProduct right.refreshRateNumerator left.refreshRateDenominator
    if leftRefresh ≠ rightRefresh then leftRefresh < rightRefresh
    else if left.interlaced ≠ right.interlaced then !left.interlaced
    else left.format.toNat < right.format.toNat

def sortAndDeduplicateDisplayModes (std : UnstableSort DisplayMode) (modes : List DisplayMode) :
    List DisplayMode := unique sameDisplayMode (std.sort displayModeLess modes)

/-- The settings are those that Windows answers. -/
def queryCurrentDisplayMode (m : NativeDisplayMode) : RendererResult DisplayMode := do
  let mode := normalizeDisplayMode {
    extent := ⟨m.width, m.height⟩
    refreshRateNumerator := m.frequency
    refreshRateDenominator := 1
    format := .rgba8Unorm
    interlaced := m.interlaced }
  validateDisplayMode mode
  pure mode

/-- The modes of a display before they are sorted. -/
def collectDisplayModes (current : DisplayMode) (natives : List DxgiModeDesc) : List DisplayMode :=
  current :: (natives.map toPortableDisplayMode).filter fun m => (validateDisplayMode m).isOk

/-- One output of `enumerateD3D12Displays`; there are no native modes when they are not currently
available. -/
def enumerateD3D12Display (std : UnstableSort DisplayMode) (d : NamedDisplayDescription)
    (settings : NativeDisplayMode) (natives : List DxgiModeDesc) :
    RendererResult NamedDisplayDescription := do
  let current ← queryCurrentDisplayMode settings
  let display := { d with
    currentMode := current
    modes := sortAndDeduplicateDisplayModes std (collectDisplayModes current natives) }
  match validateDisplayDescription display with
  | .error e => throw (makeError .backend .backendFailure
      ("Native display data violates the portable display contract: " ++ e.message) 0)
  | .ok _ => pure display

end WSE.Impl.Oui
