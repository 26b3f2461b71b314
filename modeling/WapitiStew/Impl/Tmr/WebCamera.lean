import WapitiStew.Framework.Transition
import WapitiStew.Impl.Tmr.CameraTypes

/-!
# The web camera facade

`WebCamera` of `core/tmr/device/WebCamera.cpp`: the selection it holds, and the
calls that open, start, stop, close and control the session behind it. A call
carries what the runtime (`capabilities`, `enumerate`) and the session answer;
the session is open or not, with what it was opened with, and one that refuses to
open stays as it was.
-/

namespace WSE.Impl.Tmr

open WSE.Framework

def webCameraFailure (category : CameraErrorCategory) (code : CameraErrorCode) (message : String)
    (h : category ≠ .none) : CameraFailure :=
  cameraFailure category code message h

def isWebCameraCandidate (device : CameraDeviceInfo) : Bool :=
  device.transportType = .usbUvc || device.transportType = .unknown

def filterWebCameraDevices (devices : CameraResult (List CameraDeviceInfo)) :
    CameraResult (List CameraDeviceInfo) := devices.map (List.filter isWebCameraCandidate)

/-- The default outputs, in the order of preference. -/
def preferredFormats : List CameraPixelFormat :=
  [.bgra8, .bgr8, .rgb8, .yuyv422, .nv12, .gray8, .mjpeg]

def preferredOutput (profile : CameraStreamProfile) : Option CameraPixelFormat :=
  preferredFormats.find? profile.supportsOutput

def noUsableProfile : CameraFailure :=
  webCameraFailure .unsupported .unsupportedFormat
    "Web camera does not advertise a usable stream profile." unsupported_ne

/-- The configuration of a profile that is valid and has a preferred output. -/
def profileConfiguration (profile : CameraStreamProfile) : Option CameraStreamConfiguration :=
  match preferredOutput profile with
  | some output =>
    if profile.valid then some ⟨profile.nativeFormat, output, true⟩ else none
  | none => none

def defaultConfiguration (capability : CameraCapability) :
    CameraResult CameraStreamConfiguration :=
  match capability.streamProfiles.findSome? profileConfiguration with
  | some configuration => .ok configuration
  | none => .error noUsableProfile

def findProfile (capability : CameraCapability) (configuration : CameraStreamConfiguration) :
    Option CameraStreamProfile :=
  capability.streamProfiles.find? fun profile =>
    profile.nativeFormat = configuration.nativeFormat &&
      profile.supportsOutput configuration.outputFormat

def findControlCapability (capability : CameraCapability) (control : CameraControl) :
    Option CameraControlCapability :=
  capability.controls.find? fun c => c.control = control

def sameExtensionSelector (left right : CameraExtensionUnitSelector) : Bool :=
  left.unitGuid = right.unitGuid && left.unitId = right.unitId && left.selector = right.selector

/-- The values that `setControl` passes on for a control; `none` where its arithmetic is
undefined: a step of zero, or a difference that `std::int64_t` cannot hold. -/
def controlValid (capability : CameraControlCapability) (value : CameraControlValue) :
    Option Bool :=
  match value.mode with
  | .manual =>
    if capability.writable && capability.supportsManual && capability.minimum ≤ value.value &&
        value.value ≤ capability.maximum then
      let difference := value.value.toInt - capability.minimum.toInt
      if capability.step = 0 || difference > Int64.maxValue.toInt then none
      else some (difference.tmod capability.step.toInt = 0)
    else some false
  | .automatic => some (capability.writable && capability.supportsAutomatic)

/-- The advertised selectors that `setExtensionUnit` accepts for a value. -/
def extensionValid (value : CameraExtensionUnitValue) (advertised : CameraExtensionUnitSelector) :
    Bool :=
  sameExtensionSelector advertised value.selector && advertised.writable &&
    value.payload.length ≥ advertised.minimumSize && value.payload.length ≤ advertised.maximumSize

/-- A device with its capability and the configuration chosen for it. -/
structure Selection where
  device : CameraDeviceInfo := {}
  capability : CameraCapability := {}
  configuration : CameraStreamConfiguration := {}
  deriving DecidableEq

inductive ControlWrite
  | control (value : CameraControlValue)
  | extensionUnit (value : CameraExtensionUnitValue)
  deriving DecidableEq

/-- A call of the facade, with what the runtime and the session answer. -/
inductive WebCameraCall
  /-- `open(device)`: the query of `select`, then the query and the open of the explicit form. -/
  | openDefault (device : CameraDeviceInfo) (selected queried : CameraResult CameraCapability)
      (opened : CameraStatus)
  | openWith (device : CameraDeviceInfo) (configuration : CameraStreamConfiguration)
      (queried : CameraResult CameraCapability) (opened : CameraStatus)
  | start (answer : CameraStatus)
  | stop (answer : CameraStatus)
  | setControl (value : CameraControlValue) (answer : CameraStatus)
  | setExtensionUnit (value : CameraExtensionUnitValue) (answer : CameraStatus)
  | close
  /-- The session is no longer open, for a reason of its own. -/
  | sessionLost
  deriving DecidableEq

/-- The facade. `session` is what the session was opened with while it is open; the last two
fields record the calls with their results, newest first, and the writes that have reached the
session. -/
structure WebCamera where
  hasSession : Bool
  session : Option Selection := none
  selectedDevice : CameraDeviceInfo := {}
  capability : CameraCapability := {}
  configuration : CameraStreamConfiguration := {}
  hasSelection : Bool := false
  legacyIndex : Int := -1
  preferredWidth : UInt32 := 0
  preferredHeight : UInt32 := 0
  preferredFps : UInt32 := 0
  lastError : CameraError := {}
  calls : List (WebCameraCall × CameraStatus) := []
  writes : List ControlWrite := []
  deriving DecidableEq

namespace WebCamera

/-- `remember`. -/
def remember (w : WebCamera) (status : CameraStatus) : WebCamera :=
  { w with lastError := errorOf status }

def noSession : CameraFailure :=
  webCameraFailure .backend .backendFailure "WebCamera has no runtime session." backend_ne

def notCandidate : CameraFailure :=
  webCameraFailure .validation .invalidArgument
    "WebCamera accepts USB UVC or unknown web-camera transports only." validation_ne

def alreadyOpen : CameraFailure :=
  webCameraFailure .lifecycle .alreadyOpen "WebCamera is already open." lifecycle_ne

def invalidConfiguration : CameraFailure :=
  webCameraFailure .validation .invalidArgument "WebCamera stream configuration is invalid."
    validation_ne

def notAdvertised : CameraFailure :=
  webCameraFailure .unsupported .unsupportedFormat
    "WebCamera configuration is not advertised by this web camera." unsupported_ne

/-- The assignments at the end of `select`. -/
def hold (w : WebCamera) (s : Selection) : WebCamera :=
  let format := s.configuration.nativeFormat
  { w with
    selectedDevice := s.device
    capability := s.capability
    configuration := s.configuration
    hasSelection := true
    preferredWidth := format.width
    preferredHeight := format.height
    preferredFps := if format.frameRateDenominator = 0 then 0
      else format.frameRateNumerator / format.frameRateDenominator }

def select (w : WebCamera) (device : CameraDeviceInfo)
    (selected : CameraResult CameraCapability) : WebCamera × CameraStatus :=
  if !isWebCameraCandidate device then (w, .error notCandidate)
  else
    match selected with
    | .error e => (w, .error e)
    | .ok capability =>
      match defaultConfiguration capability with
      | .error e => (w, .error e)
      | .ok configuration => (w.hold ⟨device, capability, configuration⟩, .ok ())

/-- `open(device, configuration)`. -/
def openWith (w : WebCamera) (device : CameraDeviceInfo)
    (configuration : CameraStreamConfiguration) (queried : CameraResult CameraCapability)
    (opened : CameraStatus) : WebCamera × CameraStatus :=
  let reject (e : CameraFailure) : WebCamera × CameraStatus :=
    (w.remember (.error e), .error e)
  if !w.hasSession then (w, .error noSession)
  else if w.session.isSome then reject alreadyOpen
  else if !configuration.valid then reject invalidConfiguration
  else if !isWebCameraCandidate device then reject notCandidate
  else
    match queried with
    | .error e => reject e
    | .ok capability =>
      if (findProfile capability configuration).isNone then reject notAdvertised
      else
        match opened with
        | .error e => reject e
        | .ok () =>
          ({ w with
              session := some ⟨device, capability, configuration⟩
              selectedDevice := device
              capability := capability
              configuration := configuration
              hasSelection := true
              lastError := {} }, .ok ())

/-- `open(device)`. -/
def openDefault (w : WebCamera) (device : CameraDeviceInfo)
    (selected queried : CameraResult CameraCapability) (opened : CameraStatus) :
    WebCamera × CameraStatus :=
  if !w.hasSession then (w, .error noSession)
  else
    match w.select device selected with
    | (w, .error e) => (w.remember (.error e), .error e)
    | (w, .ok ()) => w.openWith device w.configuration queried opened

def close (w : WebCamera) : WebCamera :=
  if w.hasSession then
    { w with
      session := none
      selectedDevice := {}
      capability := {}
      configuration := {}
      hasSelection := false
      legacyIndex := -1
      lastError := {} }
  else w

/-- `start`, with or without a callback. -/
def start (w : WebCamera) (answer : CameraStatus) : WebCamera × CameraStatus :=
  if !w.hasSession then (w, .error noSession) else (w.remember answer, answer)

def stop (w : WebCamera) (answer : CameraStatus) : WebCamera × CameraStatus :=
  if !w.hasSession then (w, .ok ()) else (w.remember answer, answer)

def currentCapabilities (w : WebCamera) : CameraResult CameraCapability :=
  if w.hasSelection then .ok w.capability
  else .error (webCameraFailure .lifecycle .notOpen "No web camera has been selected." lifecycle_ne)

def controlCapability (w : WebCamera) (control : CameraControl) :
    CameraResult CameraControlCapability :=
  match w.currentCapabilities with
  | .error e => .error e
  | .ok capability =>
    match findControlCapability capability control with
    | some c => .ok c
    | none => .error (webCameraFailure .unsupported .unsupportedControl
        "Web camera does not advertise the requested control." unsupported_ne)

/-- The error for a value that does not fit its control. -/
def controlMismatch (capability : CameraControlCapability) : CameraFailure :=
  webCameraFailure .validation
    (if capability.writable then .invalidArgument else .accessDenied)
    "Web camera control value, mode, or access does not match its capability." validation_ne

/-- `setControl`, or `none` where its check is undefined. -/
def setControl (w : WebCamera) (value : CameraControlValue) (answer : CameraStatus) :
    Option (WebCamera × CameraStatus) :=
  if !w.hasSession then some (w, .error noSession)
  else
    match w.controlCapability value.control with
    | .error e => some (w.remember (.error e), .error e)
    | .ok capability =>
      (controlValid capability value).map fun valid =>
        if valid then
          ({ w.remember answer with writes := w.writes ++ [.control value] }, answer)
        else
          (w.remember (.error (controlMismatch capability)), .error (controlMismatch capability))

def unadvertisedExtension : CameraFailure :=
  webCameraFailure .unsupported .unsupportedExtensionUnit
    "Web camera does not advertise this writable extension selector and payload." unsupported_ne

def setExtensionUnit (w : WebCamera) (value : CameraExtensionUnitValue) (answer : CameraStatus) :
    WebCamera × CameraStatus :=
  if !w.hasSession then (w, .error noSession)
  else
    match w.currentCapabilities with
    | .error e => (w.remember (.error e), .error e)
    | .ok capability =>
      if capability.extensionUnits.any (extensionValid value) then
        ({ w.remember answer with writes := w.writes ++ [.extensionUnit value] }, answer)
      else (w.remember (.error unadvertisedExtension), .error unadvertisedExtension)

/-- `WebCamera()`. -/
def constructed (hasSession : Bool) : WebCamera where
  hasSession := hasSession
  lastError := if hasSession then {}
    else { category := .backend, code := .backendFailure,
           message := "WebCamera runtime did not create a camera session." }

/-- `WebCamera(index)`. -/
def constructedAt (hasSession : Bool) (index : Int64)
    (enumerated : CameraResult (List CameraDeviceInfo))
    (capabilities : CameraDeviceInfo → CameraResult CameraCapability) : WebCamera :=
  let w := constructed hasSession
  if index < 0 then w
  else
    match filterWebCameraDevices enumerated with
    | .error e => w.remember (.error e)
    | .ok devices =>
      match devices[index.toInt.toNat]? with
      | none => w.remember (.error (webCameraFailure .validation .invalidArgument
          "The web camera index is out of range." validation_ne))
      | some device =>
        let (w, status) := w.select device (capabilities device)
        w.remember status

/-- The call as it runs. -/
def perform (w : WebCamera) : WebCameraCall → Option (WebCamera × CameraStatus)
  | .openDefault device selected queried opened =>
    some (w.openDefault device selected queried opened)
  | .openWith device configuration queried opened =>
    some (w.openWith device configuration queried opened)
  | .start answer => some (w.start answer)
  | .stop answer => some (w.stop answer)
  | .setControl value answer => w.setControl value answer
  | .setExtensionUnit value answer => some (w.setExtensionUnit value answer)
  | .close => some (w.close, .ok ())
  | .sessionLost => some ({ w with session := none }, .ok ())

end WebCamera

/-- A call, recorded with its result. -/
def webCameraStep (w : WebCamera) (call : WebCameraCall) : Option WebCamera :=
  (w.perform call).map fun (w', status) => { w' with calls := (call, status) :: w.calls }

end WSE.Impl.Tmr
