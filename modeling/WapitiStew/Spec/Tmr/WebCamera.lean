import WapitiStew.Impl.Tmr.WebCamera

/-!
# What the web camera facade holds

The selection that is held (`held`) is the one the session was opened with, or what
the last default open since then has selected before it was rejected
(`lastReselection`). `Permits` says which writes a capability allows,
`OpensOrKeeps` which default opens leave the selection and the session in agreement.
-/

namespace WSE.Spec.Tmr

open WSE.Impl.Tmr

def held (w : WebCamera) : Selection := ⟨w.selectedDevice, w.capability, w.configuration⟩

/-- A call that has opened the session. -/
def opens : WebCameraCall × CameraStatus → Bool
  | (.openDefault _ _ _ _, .ok ()) | (.openWith _ _ _ _, .ok ()) => true
  | _ => false

/-- The default selection of a device with a capability. -/
def defaultSelection (device : CameraDeviceInfo) (capability : CameraCapability) :
    Option Selection :=
  if isWebCameraCandidate device then
    match defaultConfiguration capability with
    | .ok configuration => some ⟨device, capability, configuration⟩
    | .error _ => none
  else none

/-- What a default open that was rejected had selected by then. -/
def reselection : WebCameraCall × CameraStatus → Option Selection
  | (.openDefault device (.ok capability) _ _, .error _) => defaultSelection device capability
  | _ => none

/-- The selection of the last rejected default open since the session was opened; calls stand
newest first. -/
def lastReselection (calls : List (WebCameraCall × CameraStatus)) : Option Selection :=
  (calls.takeWhile fun c => !opens c).findSome? reselection

def ControlAllowed (c : CameraControlCapability) (v : CameraControlValue) : Prop :=
  c.writable = true ∧
    match v.mode with
    | .manual => c.supportsManual = true ∧ c.minimum ≤ v.value ∧ v.value ≤ c.maximum ∧
        c.step.toInt ∣ v.value.toInt - c.minimum.toInt
    | .automatic => c.supportsAutomatic = true

def Permits (capability : CameraCapability) : ControlWrite → Prop
  | .control v => ∃ c ∈ capability.controls, c.control = v.control ∧ ControlAllowed c v
  | .extensionUnit v => ∃ x ∈ capability.extensionUnits,
      x.unitGuid = v.selector.unitGuid ∧ x.unitId = v.selector.unitId ∧
      x.selector = v.selector.selector ∧ x.writable = true ∧
      x.minimumSize ≤ v.payload.length ∧ v.payload.length ≤ x.maximumSize

/-- Nothing but the last error and the record of the calls has changed. -/
structure SameCamera (w w' : WebCamera) : Prop where
  session : w'.session = w.session
  held : held w' = held w
  hasSelection : w'.hasSelection = w.hasSelection
  preferred : (w'.preferredWidth, w'.preferredHeight, w'.preferredFps) =
    (w.preferredWidth, w.preferredHeight, w.preferredFps)
  legacyIndex : w'.legacyIndex = w.legacyIndex
  writes : w'.writes = w.writes

/-- The selection and the session are as before. -/
structure SameSelection (w w' : WebCamera) : Prop where
  session : w'.session = w.session
  held : held w' = held w
  hasSelection : w'.hasSelection = w.hasSelection

/-- What the explicit open asks of a configuration, a capability query and the session. -/
def Opens (w : WebCamera) (configuration : CameraStreamConfiguration)
    (queried : CameraResult CameraCapability) (opened : CameraStatus) : Prop :=
  w.session = none ∧ configuration.valid = true ∧
    (∃ c, queried = .ok c ∧ (findProfile c configuration).isSome = true) ∧ opened = .ok ()

/-- A default open that has something to select opens the session with it, or finds it selected
already. -/
def OpensOrKeeps (w : WebCamera) : WebCameraCall → Prop
  | .openDefault device (.ok capability) queried opened =>
    ∀ s, defaultSelection device capability = some s → w.hasSession = true →
      Opens w s.configuration queried opened ∨ held w = s ∧ w.hasSelection = true
  | _ => True

end WSE.Spec.Tmr
