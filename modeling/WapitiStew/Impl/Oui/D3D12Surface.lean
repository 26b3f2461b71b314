import WapitiStew.Framework.Table
import WapitiStew.Impl.Oui.D3D12Resources

/-!
# The surfaces of the D3D12 backend

The surfaces of `platform/oui/win/renderer/D3D12RendererBackend.cpp`: their creation, the rebuild of
their buffers, the changes of their window mode, the display modes that they set and put back, and
their end, with the checks that `core/oui/renderer/Renderer.cpp` makes. What the device, the windows
and the enumeration of displays answer is given with each call, by what is asked for; a helper of
`Win32WindowTransition.cpp` either succeeds or fails. The places that windows are put at are left
out, and so are the objects behind a texture and its views.
-/

namespace WSE.Impl.Oui

open WSE.Framework

/-! ## Windows -/

/-- `sWindowEventState`. -/
structure WindowEventState where
  alive : Bool := true
  extentChanged : Bool := false
  extent : RendererExtent2D := {}
  minimized : Bool := false
  displayTopologyChanged : Bool := false
  deriving DecidableEq

inductive WindowMessage
  | size (minimized : Bool) (extent : RendererExtent2D)
  /-- `WM_DISPLAYCHANGE` or `WM_DEVICECHANGE`. -/
  | displayChange
  | close
  | ncDestroy
  deriving DecidableEq

/-- What `rendererWindowProcedure` does to the events. -/
def WindowEventState.receive (w : WindowEventState) : WindowMessage → WindowEventState
  | .size minimized extent =>
    if minimized then { w with minimized := true }
    else { w with minimized := false, extent := extent, extentChanged := !extent.empty }
  | .displayChange => { w with displayTopologyChanged := true }
  | .close | .ncDestroy => { w with alive := false }

/-- After it the window is no more. -/
def WindowMessage.destroys : WindowMessage → Bool
  | .close | .ncDestroy => true
  | _ => false

/-! ## Displays -/

/-- `DEVMODEW`; `settings` is what else it says. -/
structure NativeDisplayMode where
  width : Nat
  height : Nat
  frequency : Nat
  interlaced : Bool
  settings : Nat := 0
  deriving DecidableEq

structure DisplayDescription where
  id : String
  desktopExtent : RendererExtent2D
  currentMode : DisplayMode
  modes : List DisplayMode
  deriving DecidableEq

/-- `sD3D12DisplayTarget`. -/
structure DisplayTarget where
  description : DisplayDescription
  deviceName : String
  /-- Windows names its devices. -/
  named : deviceName ≠ ""

/-- How far a native mode is from the refresh rate that is asked for. -/
def refreshDifference (m : DisplayMode) (candidate : NativeDisplayMode) : Nat :=
  let requested := m.refreshRateNumerator
  let refresh := candidate.frequency * m.refreshRateDenominator
  if requested = 0 then 0
  else if requested > refresh then requested - refresh else refresh - requested

def NativeDisplayMode.fits (m : DisplayMode) (candidate : NativeDisplayMode) : Bool :=
  candidate.width = m.extent.width && candidate.height = m.extent.height &&
    candidate.interlaced = m.interlaced

/-- The first of the closest native modes, with its difference. -/
def closestNativeMode (m : DisplayMode) (candidates : List NativeDisplayMode) :
    Option (NativeDisplayMode × Nat) :=
  candidates.foldl (fun closest candidate =>
    if candidate.fits m = false then closest
    else if refreshDifference m candidate < (closest.map (·.2)).getD (2 ^ 64 - 1) then
      some (candidate, refreshDifference m candidate)
    else closest) none

/-! ## Records -/

structure SurfaceTextureRecord where
  description : TextureDescription
  state : TextureState
  /-- The number of the surface, or 0. -/
  surfaceOwner : Nat
  deriving DecidableEq

structure D3D12SurfaceRecord where
  description : SurfaceDescription
  textures : List TextureHandle := []
  swapChain : Bool := false
  /-- There is a window. -/
  window : Bool := false
  windowEvents : WindowEventState := {}
  windowMode : SurfaceWindowMode := .notApplicable
  displayId : String := ""
  displayMode : DisplayMode := {}
  restoreDisplayMode : DisplayMode := {}
  displayDeviceName : String := ""
  restoreNativeDisplayMode : NativeDisplayMode := ⟨0, 0, 0, false, 0⟩
  hasNativeDisplayMode : Bool := false
  windowedExtent : RendererExtent2D := {}
  hasWindowedState : Bool := false
  deriving DecidableEq

namespace D3D12SurfaceRecord

/-- The extent that the window was changed to is known. -/
def settled (sf : D3D12SurfaceRecord) : D3D12SurfaceRecord :=
  { sf with windowEvents := { sf.windowEvents with extentChanged := false } }

/-- In display-mode fullscreen. -/
def inDisplayMode (sf : D3D12SurfaceRecord) (windowedExtent : RendererExtent2D)
    (request : SurfaceWindowModeRequest) (target : DisplayTarget) (restore : NativeDisplayMode) :
    D3D12SurfaceRecord :=
  { sf.settled with
    windowedExtent := windowedExtent, hasWindowedState := true
    windowMode := .displayModeFullscreen, displayId := request.displayId
    displayMode := request.displayMode, restoreDisplayMode := target.description.currentMode
    displayDeviceName := target.deviceName, restoreNativeDisplayMode := restore
    hasNativeDisplayMode := true }

def borderless (sf : D3D12SurfaceRecord) (windowedExtent : RendererExtent2D) (displayId : String) :
    D3D12SurfaceRecord :=
  { sf.settled with
    windowedExtent := windowedExtent, hasWindowedState := true
    windowMode := .borderlessFullscreen, displayId := displayId, displayMode := {} }

/-- `GetCurrentBackBufferIndex`, which answers one of the buffers that the swap chain was created
with. -/
def backBuffer (sf : D3D12SurfaceRecord) (index : Nat) : Nat := index % sf.description.bufferCount

/-- A message of the queue, which is read as long as there is a window. -/
def dispatch (sf : D3D12SurfaceRecord) (m : WindowMessage) : D3D12SurfaceRecord :=
  if sf.window = false then sf
  else { sf with windowEvents := sf.windowEvents.receive m, window := !m.destroys }

/-- Back from borderless fullscreen. -/
def unbordered (sf : D3D12SurfaceRecord) : D3D12SurfaceRecord :=
  { sf.settled with
    windowMode := .windowed, displayId := "", displayMode := {}, hasWindowedState := false
    windowedExtent := {} }

/-- Back from display-mode fullscreen. -/
def windowed (sf : D3D12SurfaceRecord) : D3D12SurfaceRecord :=
  { sf.unbordered with
    restoreDisplayMode := {}, displayDeviceName := ""
    restoreNativeDisplayMode := ⟨0, 0, 0, false, 0⟩, hasNativeDisplayMode := false }

end D3D12SurfaceRecord

inductive SurfaceLogEvent
  /-- These textures are the surface's now. -/
  | buffers (surface : Nat) (textures : List TextureHandle)
  /-- A texture is looked up beyond the end of the list. -/
  | outside (surface index : Nat)
  deriving DecidableEq

structure D3D12Surfaces where
  initialized : Bool := false
  handleGeneration : Nat := 0
  nextResourceId : Nat := 1
  textures : Table SurfaceTextureRecord := ∅
  surfaces : Table D3D12SurfaceRecord := ∅
  /-- The modes that the displays are in, by their devices. -/
  displays : String → NativeDisplayMode
  /-- The surfaces that the shutdown under way is done with. -/
  closing : Option (List Nat) := none
  /-- Of this lifetime. -/
  log : List SurfaceLogEvent := []

/-! ## Answers -/

/-- The code of a native call that fails. -/
abbrev NativeFailure := Option Int

def firstFailure : List (String × NativeFailure) → RendererStatus
  | [] => .ok ()
  | (message, some hr) :: _ => .error (backendError message hr)
  | (_, none) :: rest => firstFailure rest

structure RebuildAnswers where
  descriptorHeap : NativeFailure := none
  idle : Option RendererError := none
  getDesc1 : NativeFailure := none
  resizeBuffers : NativeFailure := none
  /-- `GetBuffer`, index by index. -/
  acquire : List NativeFailure := []
  rollbackResize : NativeFailure := none
  reacquire : List NativeFailure := []

/-- What is asked for during a change of a surface. A helper that puts a window into a place is
`placement`, and `rollback` when it puts it back; a change of a display mode is 0 when the operating
system carries it out. -/
structure TransitionAnswers where
  windowRect : NativeFailure := none
  displays : RendererResult (List DisplayDescription) := .ok []
  target : RendererResult DisplayTarget := .error {}
  capture : Option RendererError := none
  currentSettings : NativeFailure := none
  candidates : List NativeDisplayMode := []
  modeTest : Int := 0
  idle : Option RendererError := none
  modeChange : Int := 0
  placement : Option RendererError := none
  modeRollback : Int := 0
  rollback : Option RendererError := none
  rebuild : RebuildAnswers := {}
  displaysAfter : RendererResult (List DisplayDescription) := .ok []

structure CreationAnswers where
  windowClass : Option RendererError := none
  /-- The title is UTF-8. -/
  titleConverts : Bool := true
  adjustWindowRect : NativeFailure := none
  createWindow : NativeFailure := none
  createSwapChain : NativeFailure := none
  association : NativeFailure := none
  querySwapChain : NativeFailure := none
  descriptorHeap : NativeFailure := none
  getBuffer : List NativeFailure := []
  /-- Of an offscreen surface. -/
  texture : NativeFailure := none
  target : RendererResult DisplayTarget := .error {}
  transition : TransitionAnswers := {}
  destruction : TransitionAnswers := {}

/-! ## Errors -/

def displayChangeError (message : String) (result : Int) : RendererError :=
  makeError .backend .backendFailure message result

def transitionWithRollbackError (transition : RendererError) (rollback : Option RendererError) :
    RendererError :=
  match rollback with
  | none => transition
  | some rollback => makeError .backend .backendFailure
      (transition.message ++ " Rollback also failed: " ++ rollback.message) rollback.nativeCode

/-! ## Buffers -/

namespace D3D12Surfaces

def record (s : D3D12Surfaces) (e : SurfaceLogEvent) : D3D12Surfaces :=
  { s with log := s.log ++ [e] }

def findTexture (s : D3D12Surfaces) (h : TextureHandle) : Option SurfaceTextureRecord :=
  if h.generation ≠ s.handleGeneration then none else s.textures h.value

def findSurface (s : D3D12Surfaces) (h : SurfaceHandle) : Option D3D12SurfaceRecord :=
  if h.generation ≠ s.handleGeneration then none else s.surfaces h.value

def setSurface (s : D3D12Surfaces) (id : Nat) (sf : D3D12SurfaceRecord) : D3D12Surfaces :=
  { s with surfaces := s.surfaces.set id (some sf) }

def modifySurface (s : D3D12Surfaces) (id : Nat) (f : D3D12SurfaceRecord → D3D12SurfaceRecord) :
    D3D12Surfaces := { s with surfaces := s.surfaces.set id ((s.surfaces id).map f) }

def eraseTextures (s : D3D12Surfaces) (hs : List TextureHandle) : D3D12Surfaces :=
  { s with textures := hs.foldl (fun ts h => ts.set h.value none) s.textures }

/-- Handles that have not been given out. -/
def freshHandles (s : D3D12Surfaces) (count : Nat) : List TextureHandle :=
  (List.range count).map fun k => ⟨s.nextResourceId + k, s.handleGeneration⟩

/-- `GetBuffer` for each index; the first failure ends it. -/
def getBuffers (count : Nat) (answers : List NativeFailure) : NativeFailure :=
  ((List.range count).findSome? fun index => (answers[index]?).join)

/-- A buffer of a swap chain as it is registered. -/
def bufferRecord (id : Nat) (extent : RendererExtent2D) (format : RendererPixelFormat)
    (state : TextureState) : SurfaceTextureRecord where
  description :=
    { extent := extent, format := format, usage := { renderTarget := true, transferSource := true }
      initialState := .present }
  state := state
  surfaceOwner := id

/-- What `acquire_buffers` does once it has all buffers. -/
def acquireBuffers (s : D3D12Surfaces) (id : Nat) (sf : D3D12SurfaceRecord)
    (extent : RendererExtent2D) (reused : Option (List TextureHandle))
    (states : Option (List TextureState)) : D3D12Surfaces :=
  let count := sf.description.bufferCount
  let reused := reused.filter fun hs => hs.length = count
  let handles := reused.getD (s.freshHandles count)
  let states := (states.filter fun states => states.length = count).getD
    (List.replicate count .present)
  let records := states.map (bufferRecord id extent sf.description.format)
  { s with
    textures := ((handles.map (·.value)).zip records).foldl
      (fun ts p => ts.set p.1 (some p.2)) s.textures
    nextResourceId := if reused.isSome then s.nextResourceId else s.nextResourceId + count
    surfaces := s.surfaces.set id (some { sf with textures := handles }) }

/-- What the rebuild does once the old textures are erased. -/
def rebuild (s : D3D12Surfaces) (id : Nat) (sf : D3D12SurfaceRecord) (extent : RendererExtent2D)
    (states : List TextureState) (a : RebuildAnswers) : RendererStatus × D3D12Surfaces :=
  let bare := (s.eraseTextures sf.textures).setSurface id { sf with textures := [] }
  let count := sf.description.bufferCount
  let oldExtent := sf.description.extent
  match a.getDesc1 with
  | some hr => (.error (backendError "Failed to query swap-chain resize flags." hr), bare)
  | none =>
    match a.resizeBuffers with
    | some hr =>
      match getBuffers count a.reacquire with
      | some _ => (.error (makeError .backend .backendFailure
          "Swap-chain resize failed and the previous buffers could not be reacquired." hr), bare)
      | none => (.error (backendError "Failed to resize the window swap chain." hr),
          bare.acquireBuffers id sf oldExtent (some sf.textures) (some states))
    | none =>
      match getBuffers count a.acquire with
      | none =>
        let resized := { sf with description := { sf.description with extent := extent } }
        (.ok (), (bare.acquireBuffers id resized extent none none).record
          (.buffers id (bare.freshHandles count)))
      | some hr =>
        match a.rollbackResize, getBuffers count a.reacquire with
        | none, none => (.error (backendError "Failed to acquire a resized swap-chain buffer." hr),
            bare.acquireBuffers id sf oldExtent (some sf.textures) none)
        | rollback, _ => (.error (makeError .backend .backendFailure
            "Swap-chain buffer acquisition failed and resize rollback was unsuccessful."
            (rollback.getD 0)), bare)

def resizeWindowSurfaceBuffers (s : D3D12Surfaces) (id : Nat) (extent : RendererExtent2D)
    (force : Bool) (a : RebuildAnswers) : RendererStatus × D3D12Surfaces :=
  match s.surfaces id with
  | none => (.error (makeError .validation .invalidArgument
      "Window surface resize requires a swap chain." 0), s)
  | some sf =>
    if sf.swapChain = false then (.error (makeError .validation .invalidArgument
      "Window surface resize requires a swap chain." 0), s)
    else if force = false ∧ sf.description.extent = extent then (.ok (), s)
    else
      match a.descriptorHeap, a.idle, sf.textures.mapM s.findTexture with
      | some hr, _, _ => (.error (backendError
          "Failed to create the resized swap-chain descriptor heap." hr), s)
      | none, some e, _ => (.error e, s)
      | none, none, none => (.error (resourceNotFoundError "Surface texture"), s)
      | none, none, some old => s.rebuild id sf extent (old.map (·.state)) a

/-! ## Display modes -/

/-- `ChangeDisplaySettingsExW`, which answers 0 when the mode is changed. -/
def changeDisplaySettings (s : D3D12Surfaces) (device : String) (mode : NativeDisplayMode)
    (answer : Int) : D3D12Surfaces :=
  if answer = 0 then { s with displays := Function.update s.displays device mode } else s

def modeError (message : String) (answer : Int) : Option RendererError :=
  if answer = 0 then none else some (displayChangeError message answer)

/-- Only a window that is still there can be asked for its state. -/
def captureWin32WindowedState (sf : D3D12SurfaceRecord) (a : TransitionAnswers) :
    Option RendererError :=
  if sf.window = false then
    some (makeError .lifecycle .resourceNotFound "Renderer window is unavailable." 0)
  else a.capture

/-- What `enterDisplayModeFullscreen` finds out before it changes the display. -/
def checkEnter (sf : D3D12SurfaceRecord) (request : SurfaceWindowModeRequest)
    (a : TransitionAnswers) : RendererResult (DisplayTarget × NativeDisplayMode) := do
  -- the handle of the window comes with the swap chain, and stays when the window is closed
  if sf.swapChain = false then throw (makeError .validation .invalidArgument
    "Display-mode fullscreen requires a window swap chain." 0)
  if sf.windowMode ≠ .windowed then throw (makeError .lifecycle .resourceInUse
    "Return the surface to windowed mode before selecting a display mode." 0)
  if request.displayMode.format ≠ sf.description.format then
    throw (unsupportedError .unsupportedFormat
      "Display-mode fullscreen must preserve the swap-chain pixel format.")
  let target ← a.target
  if request.displayMode ∉ target.description.modes then
    throw (makeError .validation .invalidDescription
      "Requested display mode is not currently advertised by the target display." 0)
  if let some e := captureWin32WindowedState sf a then throw e
  if let some hr := a.currentSettings then
    throw (backendError "Failed to capture the pre-transition native display mode." hr)
  match closestNativeMode request.displayMode a.candidates with
  | none => throw (makeError .resource .resourceNotFound
      "No native display mode matches the requested portable mode." 0)
  | some (native, _) =>
    if request.displayMode ≠ target.description.currentMode ∧ a.modeTest ≠ 0 then
      throw (displayChangeError "The operating system rejected the requested display mode."
        a.modeTest)
    if let some e := a.idle then throw e
    pure (target, native)

/-- From the change of the display on. The surface's record is read again after the rebuild. -/
def applyMode (s : D3D12Surfaces) (id : Nat) (sf : D3D12SurfaceRecord)
    (request : SurfaceWindowModeRequest) (target : DisplayTarget) (native : NativeDisplayMode)
    (a : TransitionAnswers) : RendererStatus × D3D12Surfaces :=
  let device := target.deviceName
  let restore := s.displays device
  let changed := s.changeDisplaySettings device native a.modeChange
  match modeError "Failed to apply the requested temporary display mode." a.modeChange with
  | some e => (.error e, s)
  | none =>
    match a.placement with
    | some e => (.error (transitionWithRollbackError e (modeError
          "Failed to restore the display after window-placement failure." a.modeRollback)),
        changed.changeDisplaySettings device restore a.modeRollback)
    | none =>
      match changed.resizeWindowSurfaceBuffers id request.displayMode.extent true a.rebuild with
      | (.error e, s) => (.error (transitionWithRollbackError e ((modeError
            "Failed to restore the display after buffer failure." a.modeRollback).or a.rollback)),
          s.changeDisplaySettings device restore a.modeRollback)
      | (.ok (), s) =>
        (.ok (), s.modifySurface id fun now => now.inDisplayMode sf.description.extent request
          target restore)

def enterDisplayModeFullscreen (s : D3D12Surfaces) (id : Nat) (sf : D3D12SurfaceRecord)
    (request : SurfaceWindowModeRequest) (a : TransitionAnswers) : RendererStatus × D3D12Surfaces :=
  match checkEnter sf request a with
  | .error e => (.error e, s)
  | .ok (target, native) => s.applyMode id sf request target native a

/-- The display has the mode again that it had when the surface entered. -/
def verifyDisplay (sf : D3D12SurfaceRecord) (a : TransitionAnswers) : RendererStatus := do
  let displays ← a.displaysAfter
  match displays.find? fun d => d.id = sf.displayId with
  | some d =>
    if d.currentMode ≠ sf.restoreDisplayMode then throw (makeError .backend .backendFailure
      "Display mode did not return to the pre-transition snapshot." 0)
  | none => throw (makeError .backend .backendFailure
      "Display mode did not return to the pre-transition snapshot." 0)

def leaveDisplayModeFullscreen (s : D3D12Surfaces) (id : Nat) (sf : D3D12SurfaceRecord)
    (a : TransitionAnswers) : RendererStatus × D3D12Surfaces :=
  if sf.swapChain = false ∨ sf.windowMode ≠ .displayModeFullscreen ∨ sf.hasWindowedState = false ∨
      sf.hasNativeDisplayMode = false ∨ sf.displayDeviceName = "" then
    (.error (makeError .lifecycle .invalidDescription
      "Display-mode fullscreen restoration state is unavailable." 0), s)
  else
    match a.idle with
    | some e => (.error e, s)
    | none =>
      match modeError "Failed to restore the pre-transition native display mode." a.modeChange with
      | some e => (.error e, s)
      | none =>
        let s :=
          s.changeDisplaySettings sf.displayDeviceName sf.restoreNativeDisplayMode a.modeChange
        match a.placement with
        | some e => (.error e, s)
        | none =>
          match s.resizeWindowSurfaceBuffers id sf.windowedExtent true a.rebuild with
          | (.error e, s) => (.error e, s)
          | (.ok (), s) =>
            match verifyDisplay sf a with
            | .error e => (.error e, s)
            | .ok () => (.ok (), s.modifySurface id D3D12SurfaceRecord.windowed)

/-! ## Window modes and extents -/

def enterBorderless (s : D3D12Surfaces) (id : Nat) (sf : D3D12SurfaceRecord)
    (request : SurfaceWindowModeRequest) (a : TransitionAnswers) : RendererStatus × D3D12Surfaces :=
  match a.displays with
  | .error e => (.error e, s)
  | .ok displays =>
    match displays.find? fun d => d.id = request.displayId with
    | none => (.error (makeError .resource .resourceNotFound
        "Requested display ID is not active." 0), s)
    | some display =>
      if display.desktopExtent.width > maximumTextureExtent ∨
          display.desktopExtent.height > maximumTextureExtent then
        (.error (unsupportedError .unsupportedOperation
          "Display extent exceeds the backend surface limit."), s)
      else
        let windowed := sf.windowMode = .windowed
        match if windowed then captureWin32WindowedState sf a else none, a.placement with
        | some e, _ => (.error e, s)
        | none, some e =>
          (.error (if sf.windowMode = .borderlessFullscreen then
            transitionWithRollbackError e a.rollback else e), s)
        | none, none =>
          match s.resizeWindowSurfaceBuffers id display.desktopExtent false a.rebuild with
          | (.error e, s) => (.error (transitionWithRollbackError e a.rollback), s)
          | (.ok (), s) =>
            (.ok (), s.modifySurface id fun now => now.borderless
              (if windowed then sf.description.extent else sf.windowedExtent) request.displayId)

def restoreWindowed (s : D3D12Surfaces) (id : Nat) (sf : D3D12SurfaceRecord)
    (a : TransitionAnswers) : RendererStatus × D3D12Surfaces :=
  if sf.hasWindowedState = false then (.error (makeError .lifecycle .resourceNotFound
    "Windowed restoration state is unavailable." 0), s)
  else
    match a.placement with
    | some e => (.error (transitionWithRollbackError e a.rollback), s)
    | none =>
      match s.resizeWindowSurfaceBuffers id sf.windowedExtent false a.rebuild with
      | (.error e, s) => (.error (transitionWithRollbackError e a.rollback), s)
      | (.ok (), s) => (.ok (), s.modifySurface id D3D12SurfaceRecord.unbordered)

/-- The surface is in the mode that is asked for. -/
def inMode (sf : D3D12SurfaceRecord) (request : SurfaceWindowModeRequest) : Bool :=
  request.mode = sf.windowMode && request.displayId = sf.displayId &&
    request.displayMode = sf.displayMode

/-- The change of a window surface that is in another mode. -/
def changeWindowMode (s : D3D12Surfaces) (id : Nat) (sf : D3D12SurfaceRecord)
    (request : SurfaceWindowModeRequest) (a : TransitionAnswers) : RendererStatus × D3D12Surfaces :=
  if request.mode = .displayModeFullscreen then s.enterDisplayModeFullscreen id sf request a
  else if sf.windowMode = .displayModeFullscreen then
    if request.mode ≠ .windowed then (.error (makeError .lifecycle .resourceInUse
      "Return display-mode fullscreen to windowed mode before another transition." 0), s)
    else s.leaveDisplayModeFullscreen id sf a
  else
    match a.windowRect with
    | some hr =>
      (.error (backendError "Failed to query the current renderer window bounds." hr), s)
    | none =>
      if request.mode = .borderlessFullscreen then s.enterBorderless id sf request a
      else s.restoreWindowed id sf a

def setSurfaceWindowMode (s : D3D12Surfaces) (h : SurfaceHandle)
    (request : SurfaceWindowModeRequest) (a : TransitionAnswers) : RendererStatus × D3D12Surfaces :=
  match s.findSurface h with
  | none => (.error (resourceNotFoundError "Surface"), s)
  | some sf =>
    if sf.description.type = .directDisplay then
      if inMode sf request then (.ok (), s)
      else (.error (unsupportedError .unsupportedOperation
        "Direct-display mode is fixed for the surface lifetime."), s)
    else if sf.description.type ≠ .window ∨ sf.swapChain = false then
      (.error (unsupportedError .unsupportedOperation
        "Only window surfaces have a window mode."), s)
    else if inMode sf request then (.ok (), s)
    else s.changeWindowMode h.value sf request a

def resizeSurface (s : D3D12Surfaces) (h : SurfaceHandle) (extent : RendererExtent2D)
    (a : TransitionAnswers) : RendererStatus × D3D12Surfaces :=
  match s.findSurface h with
  | none => (.error (resourceNotFoundError "Surface"), s)
  | some sf =>
    if sf.description.type ≠ .window ∨ sf.swapChain = false then
      (.error (unsupportedError .unsupportedOperation "Only window surfaces can be resized."), s)
    else if sf.windowMode ≠ .windowed then (.error (makeError .lifecycle .resourceInUse
      "A borderless-fullscreen surface cannot be resized directly." 0), s)
    else if extent.width > maximumTextureExtent ∨ extent.height > maximumTextureExtent then
      (.error (invalidDescription "Surface resize exceeds the backend extent limit."), s)
    else if sf.description.extent = extent then (.ok (), s)
    else
      match captureWin32WindowedState sf a, a.placement with
      | some e, _ => (.error e, s)
      | none, some e => (.error (transitionWithRollbackError e a.rollback), s)
      | none, none =>
        match s.resizeWindowSurfaceBuffers h.value extent false a.rebuild with
        | (.error e, s) => (.error (transitionWithRollbackError e a.rollback), s)
        | (.ok (), s) => (.ok (), s.modifySurface h.value D3D12SurfaceRecord.settled)

/-! ## Events and presentation -/

def getSurfaceTexture (s : D3D12Surfaces) (h : SurfaceHandle) (index : Nat) :
    RendererResult TextureHandle :=
  match s.findSurface h with
  | none => .error (resourceNotFoundError "Surface")
  | some sf =>
    match sf.textures[if sf.swapChain then sf.backBuffer index else 0]? with
    | none => .error (makeError .backend .backendFailure "Surface buffer index is invalid." 0)
    | some texture => .ok texture

def getSurfaceState (s : D3D12Surfaces) (h : SurfaceHandle) : RendererResult SurfaceState :=
  match s.findSurface h with
  | none => .error (resourceNotFoundError "Surface")
  | some sf =>
    let state : SurfaceState :=
      { type := sf.description.type, extent := sf.description.extent, windowMode := sf.windowMode
        displayId := sf.displayId, displayMode := sf.displayMode }
    match validateSurfaceState state with
    | .error e => .error (makeError .backend .backendFailure
        ("Native surface state violates the portable contract: " ++ e.message) 0)
    | .ok () => .ok state

/-- What is asked for, once the messages are dispatched. -/
def pollExtent (s : D3D12Surfaces) (h : SurfaceHandle) (sf : D3D12SurfaceRecord)
    (a : TransitionAnswers) : RendererResult SurfaceEvents × D3D12Surfaces :=
  let w := sf.windowEvents
  let events : SurfaceEvents :=
    { alive := sf.window && w.alive, extent := sf.description.extent
      displayTopologyChanged := w.displayTopologyChanged }
  let known := { sf with windowEvents := { w with displayTopologyChanged := false } }
  if w.extentChanged = false then (.ok events, s.setSurface h.value known)
  else
    let s := s.setSurface h.value known.settled
    if sf.description.type = .window ∧ sf.windowMode = .windowed ∧ w.minimized = false ∧
        w.extent ≠ sf.description.extent then
      match s.resizeWindowSurfaceBuffers h.value w.extent false a.rebuild with
      | (.error e, s) => (.error (transitionWithRollbackError e a.rollback), s)
      | (.ok (), s) => (.ok { events with extentChanged := true, extent := w.extent }, s)
    else (.ok events, s)

def pollSurfaceEvents (s : D3D12Surfaces) (h : SurfaceHandle) (messages : List WindowMessage)
    (a : TransitionAnswers) : RendererResult SurfaceEvents × D3D12Surfaces :=
  match s.findSurface h with
  | none => (.error (resourceNotFoundError "Surface"), s)
  | some sf =>
    if sf.description.type = .offscreen then (.error (unsupportedError .unsupportedOperation
      "Only presentable surfaces process operating-system events."), s)
    else s.pollExtent h (messages.foldl D3D12SurfaceRecord.dispatch sf) a

/-- The buffer that is presented; the swap chain says which is the current one. -/
def presentSurface (s : D3D12Surfaces) (h : SurfaceHandle) (index : Nat) (present : NativeFailure)
    (signal : NativeFailure) : RendererStatus × D3D12Surfaces :=
  match s.findSurface h with
  | none => (.error (resourceNotFoundError "Surface"), s)
  | some sf =>
    if sf.description.type = .offscreen ∨ sf.swapChain = false then
      (.error (unsupportedError .unsupportedOperation "Only window surfaces can be presented."), s)
    else if sf.window = false then (.error (makeError .lifecycle .resourceNotFound
      "Renderer window has been closed." 0), s)
    else
      match sf.textures[sf.backBuffer index]? with
      -- the list is not asked for its length
      | none => (.ok (), s.record (.outside h.value (sf.backBuffer index)))
      | some texture =>
        if (s.findTexture texture).map (·.state) ≠ some .present then
          (.error (makeError .lifecycle .invalidDescription
            "The current window buffer must end its render pass in Present state." 0), s)
        else (firstFailure [("Failed to present the window surface.", present),
          ("Failed to signal the present fence.", signal)], s)

/-! ## The life of a surface -/

def offscreenTexture (d : SurfaceDescription) : TextureDescription where
  extent := d.extent
  format := d.format
  usage := { renderTarget := true, transferSource := true }
  initialState := .renderTarget

def createOffscreenSurface (s : D3D12Surfaces) (d : SurfaceDescription) (a : CreationAnswers) :
    RendererResult SurfaceHandle × D3D12Surfaces :=
  match (do
      checkTextureDescription (offscreenTexture d)
      firstFailure [("Failed to create a portable texture.", a.texture),
        ("Failed to create a render-target descriptor heap.", a.descriptorHeap)]) with
  | .error e => (.error e, s)
  | .ok () =>
    let texture := s.nextResourceId
    let id := s.nextResourceId + 1
    (.ok ⟨id, s.handleGeneration⟩, { s.record (.buffers id [⟨texture, s.handleGeneration⟩]) with
      textures := s.textures.set texture (some ⟨offscreenTexture d, .renderTarget, id⟩)
      surfaces := s.surfaces.set id (some
        { description := d, textures := [⟨texture, s.handleGeneration⟩] })
      nextResourceId := s.nextResourceId + 2 })

/-- The buffers of a new swap chain, of which `handles` are registered. -/
def createBuffers (id : Nat) (d : SurfaceDescription) (answers : List NativeFailure) :
    Nat → List TextureHandle → D3D12Surfaces → RendererResult (List TextureHandle) × D3D12Surfaces
  | 0, handles, s => (.ok handles, s)
  | n + 1, handles, s =>
    match (answers[handles.length]?).join with
    | some hr => (.error (backendError "Failed to acquire a swap-chain buffer." hr),
        s.eraseTextures handles)
    | none => createBuffers id d answers n (handles ++ [⟨s.nextResourceId, s.handleGeneration⟩])
        { s with
          textures := s.textures.set s.nextResourceId
            (some (bufferRecord id d.extent d.format .present))
          nextResourceId := s.nextResourceId + 1 }

/-- What `createWindowSurface` finds out before it registers the buffers. -/
def checkWindow (d : SurfaceDescription) (a : CreationAnswers) : RendererStatus := do
  if d.format ≠ .rgba8Unorm ∧ d.format ≠ .bgra8Unorm then
    throw (unsupportedError .unsupportedFormat "Window surfaces support RGBA8 and BGRA8.")
  if let some e := a.windowClass then throw e
  if d.title.utf8ByteSize > 2 ^ 31 - 1 then throw (invalidDescription "Window title is too long.")
  if a.titleConverts = false then throw (invalidDescription "Window title must be valid UTF-8.")
  firstFailure [
    ("Failed to calculate the renderer window extent.", a.adjustWindowRect),
    ("Failed to create the renderer window.", a.createWindow),
    ("Failed to create the window swap chain.", a.createSwapChain),
    ("Failed to configure the window association.", a.association),
    ("Failed to query the window swap-chain interface.", a.querySwapChain),
    ("Failed to create the swap-chain descriptor heap.", a.descriptorHeap)]

def createWindowSurface (s : D3D12Surfaces) (d : SurfaceDescription) (a : CreationAnswers) :
    RendererResult SurfaceHandle × D3D12Surfaces :=
  match checkWindow d a with
  | .error e => (.error e, s)
  | .ok () =>
    let id := s.nextResourceId
    match createBuffers id d a.getBuffer d.bufferCount []
        { s with nextResourceId := s.nextResourceId + 1 } with
    | (.error e, s) => (.error e, s)
    | (.ok handles, s) =>
      (.ok ⟨id, s.handleGeneration⟩, (s.setSurface id
        { description := d, textures := handles, swapChain := true, window := true
          windowMode := .windowed }).record (.buffers id handles))

/-- The surface and its textures go. -/
def discard (s : D3D12Surfaces) (id : Nat) : D3D12Surfaces :=
  { s.eraseTextures ((s.surfaces id).elim [] (·.textures)) with
    surfaces := s.surfaces.set id none }

def destroySurface (s : D3D12Surfaces) (h : SurfaceHandle) (a : TransitionAnswers) :
    RendererStatus × D3D12Surfaces :=
  match s.findSurface h with
  | none => (.error (resourceNotFoundError "Surface"), s)
  | some sf =>
    match if sf.windowMode = .displayModeFullscreen then s.leaveDisplayModeFullscreen h.value sf a
        else (.ok (), s) with
    | (.error e, s) => (.error e, s)
    | (.ok (), s) =>
      -- the leave has replaced the textures
      (.ok (), s.discard h.value)

/-- A surface in a window, until it is in its display mode. -/
def asWindow (d : SurfaceDescription) : SurfaceDescription :=
  { d with type := .window, displayId := "", displayMode := {} }

def createDirectDisplaySurface (s : D3D12Surfaces) (d : SurfaceDescription) (a : CreationAnswers) :
    RendererResult SurfaceHandle × D3D12Surfaces :=
  match a.target with
  | .error e => (.error e, s)
  | .ok target =>
    if d.displayMode ∉ target.description.modes then
      (.error (makeError .validation .invalidDescription
        "Direct-display mode is not present in the current display snapshot." 0), s)
    else
      match s.createWindowSurface (asWindow d) a with
      | (.error e, s) => (.error e, s)
      | (.ok h, s) =>
        match s.setSurfaceWindowMode h ⟨.displayModeFullscreen, d.displayId, d.displayMode⟩
            a.transition with
        | (.error e, s) => (.error e, (s.destroySurface h a.destruction).2)
        | (.ok (), s) => (.ok h, s.modifySurface h.value fun sf => { sf with description := d })

def createSurface (s : D3D12Surfaces) (d : SurfaceDescription) (a : CreationAnswers) :
    RendererResult SurfaceHandle × D3D12Surfaces :=
  match d.type with
  | .offscreen => s.createOffscreenSurface d a
  | .window => s.createWindowSurface d a
  | .directDisplay => s.createDirectDisplaySurface d a

def destroyTexture (s : D3D12Surfaces) (h : TextureHandle) : RendererStatus × D3D12Surfaces :=
  match s.findTexture h with
  | none => (.error (resourceNotFoundError "Texture"), s)
  | some t =>
    if t.surfaceOwner ≠ 0 then (.error (makeError .lifecycle .resourceInUse
      "Texture is owned by a surface and must be released through that surface." 0), s)
    else (.ok (), { s with textures := s.textures.set h.value none })

/-! ## The calls -/

/-- The checks of `Renderer`. -/
def guarded {α : Type} (s : D3D12Surfaces) (check : RendererStatus)
    (x : RendererResult α × D3D12Surfaces) : RendererResult α × D3D12Surfaces :=
  match check with
  | .error e => (.error e, s)
  | .ok () => if s.initialized = true then x else (.error notInitializedError, s)

def checkSurfaceHandle (h : SurfaceHandle) : RendererStatus :=
  if h.valid then .ok () else .error (invalidHandleError "Surface")

end D3D12Surfaces

inductive SurfaceCall
  | createSurface (d : SurfaceDescription) (a : CreationAnswers)
  | resizeSurface (h : SurfaceHandle) (extent : RendererExtent2D) (a : TransitionAnswers)
  | setSurfaceWindowMode (h : SurfaceHandle) (request : SurfaceWindowModeRequest)
      (a : TransitionAnswers)
  | pollSurfaceEvents (h : SurfaceHandle) (messages : List WindowMessage) (a : TransitionAnswers)
  | presentSurface (h : SurfaceHandle) (index : Nat) (present signal : NativeFailure)
  | destroySurface (h : SurfaceHandle) (a : TransitionAnswers)
  | destroyTexture (h : TextureHandle)

inductive SurfaceResult
  | surface (r : RendererResult SurfaceHandle)
  | status (r : RendererStatus)
  | events (r : RendererResult SurfaceEvents)
  deriving DecidableEq

def SurfaceResult.failed : SurfaceResult → Bool
  | .surface r => !r.isOk
  | .status r => !r.isOk
  | .events r => !r.isOk

inductive SurfaceAction
  | initializeWith (generation : Nat)
  | call (c : SurfaceCall)
  /-- A window is sent a message outside its queue. -/
  | message (surface : Nat) (m : WindowMessage)
  /-- The shutdown begins. -/
  | shutdown
  /-- It has come to a surface, in no particular order. -/
  | closes (surface : Nat) (a : TransitionAnswers)
  /-- It has been at all of them. -/
  | shutdownEnds

namespace D3D12Surfaces

def perform (s : D3D12Surfaces) : SurfaceCall → SurfaceResult × D3D12Surfaces
  | .createSurface d a =>
    let (r, t) := s.guarded (validateSurfaceDescription d) (s.createSurface d a)
    (.surface r, t)
  | .resizeSurface h extent a =>
    let (r, t) := s.guarded (do
      checkSurfaceHandle h
      if extent.empty then throw invalidExtentError) (s.resizeSurface h extent a)
    (.status r, t)
  | .setSurfaceWindowMode h request a =>
    let (r, t) := s.guarded (do
      checkSurfaceHandle h
      validateSurfaceWindowModeRequest request) (s.setSurfaceWindowMode h request a)
    (.status r, t)
  | .pollSurfaceEvents h messages a =>
    let (r, t) := s.guarded (checkSurfaceHandle h) (s.pollSurfaceEvents h messages a)
    (.events r, t)
  | .presentSurface h index present signal =>
    let (r, t) := s.guarded (checkSurfaceHandle h) (s.presentSurface h index present signal)
    (.status r, t)
  | .destroySurface h a =>
    let (r, t) := s.guarded (checkSurfaceHandle h) (s.destroySurface h a)
    (.status r, t)
  | .destroyTexture h =>
    let (r, t) := s.guarded (if h.valid then .ok () else .error (invalidHandleError "Texture"))
      (s.destroyTexture h)
    (.status r, t)

/-- What a shutdown does with one surface; how the leave ends does not matter to it. -/
def closes (s : D3D12Surfaces) (id : Nat) (sf : D3D12SurfaceRecord) (done : List Nat)
    (a : TransitionAnswers) : D3D12Surfaces :=
  let s := if sf.windowMode = .displayModeFullscreen then (s.leaveDisplayModeFullscreen id sf a).2
    else s
  { s with closing := some (id :: done) }

/-- The end of a shutdown. -/
def closed (s : D3D12Surfaces) : D3D12Surfaces :=
  { s with
    initialized := false, handleGeneration := 0, nextResourceId := 1, textures := ∅, surfaces := ∅
    closing := none, log := [] }

end D3D12Surfaces

def d3d12SurfaceStep (s : D3D12Surfaces) : SurfaceAction → Option D3D12Surfaces
  | .initializeWith generation =>
    if s.closing = none ∧ s.initialized = false ∧ generation ≠ 0 then
      some { s with initialized := true, handleGeneration := generation }
    else none
  | .call c => if s.closing = none then some (s.perform c).2 else none
  | .message id m =>
    match s.surfaces id with
    | some sf => some (s.setSurface id (sf.dispatch m))
    | none => none
  | .shutdown => if s.closing = none then some { s with closing := some [] } else none
  | .closes id a =>
    match s.closing, s.surfaces id with
    | some done, some sf => if id ∈ done then none else some (s.closes id sf done a)
    | _, _ => none
  | .shutdownEnds =>
    match s.closing with
    | some done =>
      if ∀ id < s.nextResourceId, (s.surfaces id).isSome → id ∈ done then some s.closed else none
    | none => none

end WSE.Impl.Oui
