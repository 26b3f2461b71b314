import Mathlib.Algebra.Group.Int.Defs
import Mathlib.Algebra.GroupWithZero.Nat
import Mathlib.Control.Monad.Basic

/-!
# Renderer values

The values of `api/oui/renderer/RendererError.h` and `api/oui/renderer/RendererTypes.h` that the
renderer backends read and return, with the checks of `core/oui/renderer/RendererTypes.cpp` that
`Renderer` makes before it calls a backend. Colours, opacities and edge widths are left out, and
with them the checks that they are finite and normalized.
-/

namespace WSE.Impl.Oui

/-! ## Errors -/

inductive RendererErrorCategory
  | none | validation | lifecycle | resource | execution | timeout | unsupported | backend
  deriving DecidableEq

inductive RendererErrorCode
  | none | invalidArgument | invalidDescription | notInitialized | alreadyInitialized
  | unsupportedBackend | unsupportedFormat | unsupportedSurface | unsupportedOperation
  | resourceNotFound | resourceInUse | resourceExhausted | backendFailure | deviceLost | timedOut
  deriving DecidableEq

structure RendererError where
  category : RendererErrorCategory := .none
  code : RendererErrorCode := .none
  message : String := ""
  nativeCode : Int := 0
  deriving DecidableEq

def RendererError.ok (e : RendererError) : Bool := e.category = .none && e.code = .none

abbrev RendererResult (α : Type) := Except RendererError α

abbrev RendererStatus := RendererResult Unit

def makeError (category : RendererErrorCategory) (code : RendererErrorCode) (message : String)
    (nativeCode : Int) : RendererError := ⟨category, code, message, nativeCode⟩

def invalidDescription (message : String) : RendererError :=
  makeError .validation .invalidDescription message 0

def unsupportedError (code : RendererErrorCode) (message : String) : RendererError :=
  makeError .unsupported code message 0

def resourceNotFoundError (resource : String) : RendererError :=
  makeError .resource .resourceNotFound (resource ++ " handle was not found.") 0

/-- `reserveRendererGeneration` has none left. -/
def exhaustedError : RendererError :=
  makeError .resource .resourceExhausted "Renderer lifetime identities are exhausted." 0

def notInitializedError : RendererError :=
  makeError .lifecycle .notInitialized "Renderer is not initialized." 0

def invalidHandleError (resource : String) : RendererError :=
  makeError .validation .invalidArgument (resource ++ " handle is invalid.") 0

def invalidExtentError : RendererError := invalidDescription "Surface extent must be non-empty."

/-! ## Handles -/

structure FenceHandle where
  value : Nat
  generation : Nat
  deriving DecidableEq

structure TextureHandle where
  value : Nat := 0
  generation : Nat := 0
  deriving DecidableEq

structure MeshHandle where
  value : Nat := 0
  generation : Nat := 0
  deriving DecidableEq

structure SurfaceHandle where
  value : Nat := 0
  generation : Nat := 0
  deriving DecidableEq

def TextureHandle.valid (h : TextureHandle) : Bool := h.value ≠ 0 && h.generation ≠ 0

def MeshHandle.valid (h : MeshHandle) : Bool := h.value ≠ 0 && h.generation ≠ 0

def SurfaceHandle.valid (h : SurfaceHandle) : Bool := h.value ≠ 0 && h.generation ≠ 0

/-! ## Textures -/

structure RendererExtent2D where
  width : Nat := 0
  height : Nat := 0
  deriving DecidableEq

def RendererExtent2D.empty (e : RendererExtent2D) : Bool := e.width = 0 || e.height = 0

structure RendererRegion2D where
  x : Nat := 0
  y : Nat := 0
  extent : RendererExtent2D := {}
  deriving DecidableEq

inductive RendererPixelFormat
  | unknown | r8Unorm | rgba8Unorm | bgra8Unorm | rgba16Float | rgba16Unorm
  deriving DecidableEq

def isKnownFormat (f : RendererPixelFormat) : Bool := f ≠ .unknown

structure TextureUsage where
  sampled : Bool := false
  renderTarget : Bool := false
  transferSource : Bool := false
  transferDestination : Bool := false
  deriving DecidableEq

inductive TextureState
  | undefined | common | renderTarget | shaderResource | copySource | copyDestination | present
  deriving DecidableEq

structure TextureDescription where
  extent : RendererExtent2D := {}
  format : RendererPixelFormat := .unknown
  usage : TextureUsage := {}
  initialState : TextureState := .undefined
  mipLevels : Nat := 1
  deriving DecidableEq

def validateTextureDescription (d : TextureDescription) : RendererStatus := do
  if d.extent.empty then throw (invalidDescription "Texture extent must be non-zero.")
  if !isKnownFormat d.format then throw (invalidDescription "Texture pixel format is unknown.")
  if d.usage = {} || d.mipLevels = 0 then
    throw (invalidDescription "Texture usage bits and mip level count must be valid.")
  if d.initialState = .renderTarget && !d.usage.renderTarget then
    throw (invalidDescription "RenderTarget state requires RenderTarget usage.")
  if d.initialState = .shaderResource && !d.usage.sampled then
    throw (invalidDescription "ShaderResource state requires Sampled usage.")
  if d.initialState = .copySource && !d.usage.transferSource then
    throw (invalidDescription "CopySource state requires TransferSource usage.")
  if d.initialState = .copyDestination && !d.usage.transferDestination then
    throw (invalidDescription "CopyDestination state requires TransferDestination usage.")

structure RendererFrameDescription where
  extent : RendererExtent2D := {}
  format : RendererPixelFormat := .unknown
  rowPitch : Nat := 0
  deriving DecidableEq

namespace RendererFrameDescription

def bytesPerPixel (d : RendererFrameDescription) : Nat :=
  match d.format with
  | .r8Unorm => 1
  | .rgba8Unorm | .bgra8Unorm => 4
  | .rgba16Float | .rgba16Unorm => 8
  | .unknown => 0

def minimumRowPitch (d : RendererFrameDescription) : Nat :=
  if d.bytesPerPixel = 0 ∨ d.extent.width = 0 ∨
      d.extent.width > (2 ^ 64 - 1) / d.bytesPerPixel then 0
  else d.extent.width * d.bytesPerPixel

def effectiveRowPitch (d : RendererFrameDescription) : Nat :=
  if d.rowPitch = 0 then d.minimumRowPitch else d.rowPitch

def memorySize (d : RendererFrameDescription) : Nat :=
  if d.effectiveRowPitch = 0 ∨ d.extent.height = 0 ∨
      d.extent.height > (2 ^ 64 - 1) / d.effectiveRowPitch then 0
  else d.extent.height * d.effectiveRowPitch

end RendererFrameDescription

def validateRendererFrameDescription (d : RendererFrameDescription) : RendererStatus := do
  if d.extent.empty then throw (invalidDescription "Frame extent must be non-zero.")
  if !isKnownFormat d.format then throw (invalidDescription "Frame pixel format is unknown.")
  if d.minimumRowPitch = 0 || d.effectiveRowPitch < d.minimumRowPitch || d.memorySize = 0 then
    throw (invalidDescription "Frame row pitch or memory size is invalid.")

structure RendererFrame where
  description : RendererFrameDescription := {}
  /-- How many bytes there are. -/
  size : Nat := 0
  deriving DecidableEq

def validateRendererFrame (f : RendererFrame) : RendererStatus := do
  validateRendererFrameDescription f.description
  if f.size ≠ f.description.memorySize then
    throw (invalidDescription "Frame data size does not match its description.")

/-! ## Render passes -/

inductive PrimitiveTopology
  | triangleList | triangleStrip
  deriving DecidableEq

inductive ColorBlendMode
  | replace | sourceAlpha
  deriving DecidableEq

inductive AttachmentLoadOperation
  | load | clear | discard
  deriving DecidableEq

inductive AttachmentStoreOperation
  | store | discard
  deriving DecidableEq

structure MeshDescription where
  topology : PrimitiveTopology := .triangleList
  /-- How many vertices there are. -/
  vertices : Nat := 0
  indices : List Nat := []
  deriving DecidableEq

def validateMeshDescription (d : MeshDescription) : RendererStatus := do
  if d.vertices = 0 || d.indices.isEmpty then
    throw (invalidDescription "Mesh vertices and indices must be non-empty.")
  if d.topology = .triangleList && d.indices.length % 3 ≠ 0 then
    throw (invalidDescription "Triangle-list index count must be divisible by three.")
  if d.topology = .triangleStrip && d.indices.length < 3 then
    throw (invalidDescription "Triangle-strip index count must be at least three.")
  if d.indices.any (d.vertices ≤ ·) then
    throw (invalidDescription "Mesh index is outside the vertex array.")

structure MeshDrawCommand where
  mesh : MeshHandle := {}
  sourceTexture : TextureHandle := {}
  /-- Optional. -/
  alphaTexture : TextureHandle := {}
  blendMode : ColorBlendMode := .replace
  deriving DecidableEq

structure RenderPassDescription where
  colorAttachment : TextureHandle := {}
  renderArea : RendererRegion2D := {}
  loadOperation : AttachmentLoadOperation := .clear
  storeOperation : AttachmentStoreOperation := .store
  drawCommands : List MeshDrawCommand := []
  finalState : TextureState := .renderTarget
  deriving DecidableEq

def validateDrawCommand (attachment : TextureHandle) (d : MeshDrawCommand) : RendererStatus := do
  if !d.mesh.valid || !d.sourceTexture.valid then
    throw (invalidDescription "Mesh draw handles must be valid.")
  if d.sourceTexture = attachment then
    throw (invalidDescription "A render attachment cannot sample itself.")
  if d.alphaTexture ≠ {} && !d.alphaTexture.valid then
    throw (invalidDescription "Optional alpha-map handle is incomplete.")
  if d.alphaTexture.valid && d.alphaTexture = attachment then
    throw (invalidDescription "A render attachment cannot be its own alpha map.")

def validateRenderPassDescription (d : RenderPassDescription) : RendererStatus := do
  if !d.colorAttachment.valid then
    throw (invalidDescription "Render pass color attachment handle is invalid.")
  if d.finalState = .undefined then
    throw (invalidDescription "Render pass final state is invalid.")
  if !d.renderArea.extent.empty && (d.renderArea.x > 2 ^ 32 - 1 - d.renderArea.extent.width ||
      d.renderArea.y > 2 ^ 32 - 1 - d.renderArea.extent.height) then
    throw (invalidDescription "Render area overflows its coordinate range.")
  d.drawCommands.forM (validateDrawCommand d.colorAttachment)

/-! ## Surfaces -/

inductive SurfaceType
  | offscreen | window | directDisplay
  deriving DecidableEq

inductive SurfaceWindowMode
  | notApplicable | windowed | borderlessFullscreen | displayModeFullscreen
  deriving DecidableEq

structure DisplayMode where
  extent : RendererExtent2D := {}
  refreshRateNumerator : Nat := 0
  refreshRateDenominator : Nat := 1
  format : RendererPixelFormat := .unknown
  interlaced : Bool := false
  deriving DecidableEq

def isUnspecifiedDisplayMode (m : DisplayMode) : Bool :=
  m.extent.empty && m.refreshRateNumerator = 0 && m.refreshRateDenominator = 1 &&
    m.format = .unknown && !m.interlaced

def validateDisplayMode (m : DisplayMode) : RendererStatus := do
  if m.extent.empty || !isKnownFormat m.format then
    throw (invalidDescription "Display mode extent and pixel format must be valid.")
  if m.refreshRateDenominator = 0 then
    throw (invalidDescription "Display mode refresh-rate denominator must be non-zero.")

structure SurfaceDescription where
  type : SurfaceType := .offscreen
  extent : RendererExtent2D := {}
  format : RendererPixelFormat := .rgba8Unorm
  bufferCount : Nat := 1
  visible : Bool := true
  title : String := "WSE Renderer"
  displayId : String := ""
  displayMode : DisplayMode := {}
  deriving DecidableEq

def validateSurfaceDescription (d : SurfaceDescription) : RendererStatus := do
  if d.extent.empty || !isKnownFormat d.format then
    throw (invalidDescription "Surface extent and pixel format must be valid.")
  if d.bufferCount = 0 || d.bufferCount > 3 then
    throw (invalidDescription "Surface buffer count must be between one and three.")
  match d.type with
  | .offscreen =>
    if d.bufferCount ≠ 1 || d.displayId ≠ "" || !isUnspecifiedDisplayMode d.displayMode then
      throw (invalidDescription "Offscreen surfaces require one buffer and no display target.")
  | .window =>
    if d.bufferCount < 2 || d.title = "" || d.displayId ≠ "" ||
        !isUnspecifiedDisplayMode d.displayMode then
      throw (invalidDescription
        "Window surfaces require two or three buffers, a title, and no initial display target.")
  | .directDisplay =>
    if d.bufferCount < 2 || d.title = "" || d.displayId = "" || !d.visible then
      throw (invalidDescription ("Direct-display surfaces require two or three buffers, " ++
        "a title, a display ID, and visibility."))
    if !(validateDisplayMode d.displayMode).isOk || d.extent ≠ d.displayMode.extent ||
        d.format ≠ d.displayMode.format then
      throw (invalidDescription "Direct-display extent and format must match a valid display mode.")

structure SurfaceState where
  type : SurfaceType := .offscreen
  extent : RendererExtent2D := {}
  windowMode : SurfaceWindowMode := .notApplicable
  displayId : String := ""
  displayMode : DisplayMode := {}
  deriving DecidableEq

def validateSurfaceState (s : SurfaceState) : RendererStatus := do
  if s.extent.empty then
    throw (invalidDescription "Surface state extent or window mode is invalid.")
  match s.type with
  | .window =>
    if s.windowMode = .notApplicable then
      throw (invalidDescription "Window surfaces require a window mode.")
    let displayTargeted : Bool :=
      s.windowMode = .borderlessFullscreen || s.windowMode = .displayModeFullscreen
    if displayTargeted ≠ decide (s.displayId ≠ "") then
      throw (invalidDescription "Only display-targeted surface state carries a display ID.")
    if s.windowMode = .displayModeFullscreen then validateDisplayMode s.displayMode
    else if !isUnspecifiedDisplayMode s.displayMode then
      throw (invalidDescription
        "Windowed and borderless surface state cannot carry a display mode.")
  | .directDisplay =>
    if s.windowMode ≠ .displayModeFullscreen || s.displayId = "" then
      throw (invalidDescription
        "Direct-display state requires display-mode fullscreen and a display ID.")
    validateDisplayMode s.displayMode
  | .offscreen =>
    if s.windowMode ≠ .notApplicable || s.displayId ≠ "" ||
        !isUnspecifiedDisplayMode s.displayMode then
      throw (invalidDescription "Non-window surfaces cannot carry window state.")

structure SurfaceWindowModeRequest where
  mode : SurfaceWindowMode := .windowed
  displayId : String := ""
  displayMode : DisplayMode := {}
  deriving DecidableEq

def validateSurfaceWindowModeRequest (r : SurfaceWindowModeRequest) : RendererStatus :=
  match r.mode with
  | .windowed =>
    if r.displayId = "" && isUnspecifiedDisplayMode r.displayMode then pure ()
    else throw (invalidDescription "Windowed mode must not specify a display target.")
  | .borderlessFullscreen =>
    if r.displayId ≠ "" && isUnspecifiedDisplayMode r.displayMode then pure ()
    else throw (invalidDescription "Borderless fullscreen requires only a display ID.")
  | .displayModeFullscreen =>
    if r.displayId = "" then
      throw (invalidDescription "Display-mode fullscreen requires a display ID.")
    else validateDisplayMode r.displayMode
  | .notApplicable => throw (invalidDescription "Surface window-mode request is invalid.")

structure SurfaceEvents where
  alive : Bool := true
  extentChanged : Bool := false
  extent : RendererExtent2D := {}
  displayTopologyChanged : Bool := false
  deriving DecidableEq

end WSE.Impl.Oui
