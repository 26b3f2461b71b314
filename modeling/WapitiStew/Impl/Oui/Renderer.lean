import WapitiStew.Impl.Oui.D3D12DisplayEnumeration
import WapitiStew.Impl.Oui.ProjectionExecution
import WapitiStew.Impl.Oui.RendererFrameOps

/-!
# The renderer

`core/oui/renderer/Renderer.cpp`: what a `Renderer` asks of the backend that it owns. The backends
are numbered as they are made, and what was done to each is logged. What they and the factory
answer, and whether memory can be had, is given by a `BackendWorld`, in the order in which it is
asked.

A renderer that was moved from has no `Impl`. The overloads for images convert with
`toRendererFrame` and `toImage` and are not repeated.
-/

namespace WSE.Impl.Oui

open WSE.Framework

/-- `eRendererBackend`. -/
inductive RendererBackendKind
  | automatic | direct3D12 | vulkan12
  | other (value : UInt8)
  deriving DecidableEq

/-- `sRendererConfiguration`. -/
structure RendererConfiguration where
  backend : RendererBackendKind := .automatic
  useSoftwareAdapter : Bool := false
  preferDisplayAdapter : Bool := false
  enableValidation : Bool := false
  adapterName : String := ""
  deriving DecidableEq

def isSameConfiguration (left right : RendererConfiguration) : Bool :=
  left.backend = right.backend && left.useSoftwareAdapter = right.useSoftwareAdapter &&
    left.preferDisplayAdapter = right.preferDisplayAdapter &&
    left.enableValidation = right.enableValidation && left.adapterName = right.adapterName

def isKnownBackend (backend : RendererBackendKind) : Bool :=
  backend = .automatic || backend = .direct3D12 || backend = .vulkan12

/-- The checks of `Renderer::initialize`. -/
def RendererConfiguration.validate (c : RendererConfiguration) : RendererStatus := do
  if !isKnownBackend c.backend then
    throw (makeError .validation .invalidArgument "Renderer backend value is unknown." 0)
  if c.useSoftwareAdapter && c.adapterName ≠ "" then
    throw (makeError .validation .invalidArgument
      "An adapter name and the software adapter cannot both be requested." 0)

def alreadyInitializedError : RendererError :=
  makeError .lifecycle .alreadyInitialized
    "Renderer is already initialized with a different configuration." 0

def FenceHandle.valid (h : FenceHandle) : Bool := h.value ≠ 0 && h.generation ≠ 0

/-- What `validateMeshDescription` asks of the arithmetic is which vertices are finite. -/
def finiteSingles : Arithmetic Unit Single where
  ofNat _ := ()
  neg _ := ()
  add _ _ := ()
  sub _ _ := ()
  mul _ _ := ()
  div _ _ := ()
  narrow _ := none
  isfinite := Option.isSome

/-! ## Backends -/

/-- `sRendererCapabilities`, of which the adapter is read. -/
structure RendererCapabilities where
  adapterName : String := ""
  deriving DecidableEq

/-- `std::bad_alloc`, another `std::exception`, or anything else. -/
inductive RendererException
  | badAlloc | exception
  | other (value : Nat)
  deriving DecidableEq

/-- A call that a renderer passes on. -/
inductive BackendCall
  | getCapabilities
  | enumerateDisplays
  | createTexture (d : TextureDescription)
  | destroyTexture (texture : TextureHandle)
  | uploadTexture (texture : TextureHandle) (frame : RendererFrameData)
  | createMesh (d : MeshData Single)
  | updateMesh (mesh : MeshHandle) (d : MeshData Single)
  | destroyMesh (mesh : MeshHandle)
  | createSurface (d : SurfaceDescription)
  | getSurfaceTexture (surface : SurfaceHandle)
  | getSurfaceState (surface : SurfaceHandle)
  | resizeSurface (surface : SurfaceHandle) (extent : RendererExtent2D)
  | setSurfaceWindowMode (surface : SurfaceHandle) (request : SurfaceWindowModeRequest)
  | pollSurfaceEvents (surface : SurfaceHandle)
  | destroySurface (surface : SurfaceHandle)
  | processSurfaceEvents (surface : SurfaceHandle)
  | presentSurface (surface : SurfaceHandle)
  | executeRenderPass (d : PassDescription)
  | waitFence (fence : FenceHandle) (timeoutMs : UInt32)
  | readTexture (texture : TextureHandle) (timeoutMs : UInt32)

/-- What the call returns. -/
def BackendCall.Value : BackendCall → Type
  | .getCapabilities => RendererCapabilities
  | .enumerateDisplays => List NamedDisplayDescription
  | .createTexture _ | .getSurfaceTexture _ => TextureHandle
  | .createMesh _ => MeshHandle
  | .createSurface _ => SurfaceHandle
  | .getSurfaceState _ => SurfaceState
  | .pollSurfaceEvents _ => SurfaceEvents
  | .processSurfaceEvents _ => Bool
  | .uploadTexture .. | .presentSurface _ | .executeRenderPass _ => FenceHandle
  | .readTexture .. => RendererFrameData
  | .destroyTexture _ | .updateMesh .. | .destroyMesh _ | .resizeSurface ..
  | .setSurfaceWindowMode .. | .destroySurface _ | .waitFence .. => Unit

/-- What is done to a backend, with what it answers. -/
inductive BackendStep
  | created (c : RendererConfiguration)
  | initializeWith (c : RendererConfiguration) (answer : Answer RendererException Unit)
  | asked (initialized : Bool)
  | called (call : BackendCall) (answer : Answer RendererException call.Value)
  | shutdown
  | destroyed

structure BackendEvent where
  backend : Nat
  step : BackendStep

/-- The answers of the factory and of the backends. The factory gives a backend, or none and an
error. -/
structure BackendWorld where
  allocates : Nat → Bool
  create : Nat → Except RendererException (Option RendererError)
  initializeWith : Nat → Answer RendererException Unit
  isInitialized : Nat → Bool
  capabilities : Nat → RendererCapabilities
  answer : Nat → (call : BackendCall) → Answer RendererException call.Value

/-- `getCapabilities` neither fails nor throws. -/
def BackendWorld.respond (w : BackendWorld) (tick : Nat) :
    (call : BackendCall) → Answer RendererException call.Value
  | .getCapabilities => .ok (.ok (w.capabilities tick))
  | call => w.answer tick call

/-! ## Renderers -/

/-- `Renderer::Impl`. -/
structure RendererImpl where
  backend : Option Nat := none
  configuration : RendererConfiguration := {}
  deriving DecidableEq

/-- A renderer, with the questions and the backends so far. -/
structure RendererState where
  tick : Nat := 0
  backends : Nat := 0
  log : List BackendEvent := []
  impl : Option RendererImpl := none

def RendererState.backend (s : RendererState) : Option Nat := s.impl.bind (·.backend)

def RendererState.configuration (s : RendererState) : RendererConfiguration :=
  match s.impl with
  | some impl => impl.configuration
  | none => {}

def RendererState.record (s : RendererState) (k : Nat) (step : BackendStep) : RendererState :=
  { s with log := s.log ++ [⟨k, step⟩] }

/-- A question was answered. -/
def RendererState.asked (s : RendererState) : RendererState := { s with tick := s.tick + 1 }

/-- The backend is replaced, and then the old one destroyed. -/
def RendererState.setBackend (s : RendererState) (backend : Option Nat) : RendererState :=
  let t := { s with impl := s.impl.map fun impl => { impl with backend := backend } }
  match s.backend with
  | none => t
  | some old => t.record old .destroyed

def RendererState.setConfiguration (s : RendererState) (c : RendererConfiguration) :
    RendererState :=
  { s with impl := s.impl.map fun impl => { impl with configuration := c } }

/-- There is one more backend. -/
def RendererState.create (s : RendererState) (c : RendererConfiguration) : RendererState :=
  ⟨s.tick, s.backends + 1, s.log ++ [⟨s.backends, .created c⟩], s.impl⟩

/-- The renderer takes a backend that was made. -/
def RendererState.adopt (s : RendererState) (c : RendererConfiguration) : RendererState :=
  (s.create c).setBackend (some s.backends)

abbrev RendererObjectM := EStateM RendererException RendererState

/-- The answer to a question. -/
def askWorld {α : Type} (answer : Nat → α) : RendererObjectM α :=
  fun s => .ok (answer s.tick) s.asked

/-- What a backend answers, which is logged. -/
def askBackend {α : Type} (k : Nat) (answer : Nat → α) (step : α → BackendStep) :
    RendererObjectM α := do
  let a ← askWorld answer
  modify (·.record k (step a))
  return a

section

variable (w : BackendWorld)

def allocate : RendererObjectM Unit := do
  if ← askWorld w.allocates then return else throw .badAlloc

/-- `createPlatformRendererBackend`, and the backend is the renderer's. -/
def createBackend (c : RendererConfiguration) : RendererObjectM (RendererResult Nat) := do
  let created ← askWorld w.create
  match ← rethrow created with
  | some e =>
    modify (·.setBackend none)
    return .error e
  | none =>
    let k := (← get).backends
    modify (·.adopt c)
    return .ok k

def initializeBackend (k : Nat) (c : RendererConfiguration) : RendererObjectM RendererStatus := do
  rethrow (← askBackend k w.initializeWith (.initializeWith c))

def callBackend (k : Nat) (call : BackendCall) : RendererObjectM (RendererResult call.Value) := do
  rethrow (← askBackend k (w.respond · call) (.called call))

namespace RendererObject

/-- `Renderer::isInitialized`, and the backend that answered so. -/
def initialized : RendererObjectM (Option Nat) := do
  match (← get).backend with
  | none => return none
  | some k => return if ← askBackend k w.isInitialized .asked then some k else none

def isInitialized : RendererObjectM Bool := return (← initialized w).isSome

/-- A renderer that was moved from gets an `Impl` again. -/
def ensureImpl : RendererObjectM Unit := do
  if (← get).impl.isNone then
    allocate w
    modify fun s => { s with impl := some {} }

/-- A backend takes the place of one that is not initialized. -/
def startBackend (c : RendererConfiguration) : RendererObjectM RendererStatus := do
  -- The configuration is copied before there is a backend.
  allocate w
  match ← createBackend w c with
  | .error e => return .error e
  | .ok k =>
    match ← initializeBackend w k c with
    | .error e =>
      modify (·.setBackend none)
      return .error e
    | .ok () =>
      modify (·.setConfiguration c)
      return .ok ()

/-- `Renderer::initialize`. -/
def initializeWith (c : RendererConfiguration) : RendererObjectM RendererStatus := do
  match c.validate with
  | .error e => return .error e
  | .ok () =>
    ensureImpl w
    if ← isInitialized w then
      let s ← get
      return if isSameConfiguration s.configuration c then .ok ()
        else .error alreadyInitializedError
    else startBackend w c

def shutdown : RendererObjectM Unit := do
  match (← get).backend with
  | none => return
  | some k =>
    modify (·.record k .shutdown)
    modify (·.setBackend none)

/-- The checks of the arguments come first, then the backend is asked whether it is initialized. -/
def forward (check : RendererStatus) (call : BackendCall) :
    RendererObjectM (RendererResult call.Value) := do
  match check with
  | .error e => return .error e
  | .ok () =>
    match ← initialized w with
    | none => return .error notInitializedError
    | some k => callBackend w k call

def checkHandle (resource : String) (valid : Bool) : RendererStatus :=
  if valid then pure () else throw (invalidHandleError resource)

/-- No timeout is `std::uint32_t`'s maximum, which stands for an endless one. -/
def checkTimeout (timeoutMs : UInt32) (message : String) : RendererStatus :=
  if timeoutMs = 4294967295 then throw (makeError .validation .invalidArgument message 0)
  else pure ()

def getCapabilities : RendererObjectM (RendererResult RendererCapabilities) :=
  forward w (pure ()) .getCapabilities

def enumerateDisplays : RendererObjectM (RendererResult (List NamedDisplayDescription)) :=
  forward w (pure ()) .enumerateDisplays

def createTexture (d : TextureDescription) : RendererObjectM (RendererResult TextureHandle) :=
  forward w (validateTextureDescription d) (.createTexture d)

def destroyTexture (texture : TextureHandle) : RendererObjectM RendererStatus :=
  forward w (checkHandle "Texture" texture.valid) (.destroyTexture texture)

def uploadTexture (texture : TextureHandle) (frame : RendererFrameData) :
    RendererObjectM (RendererResult FenceHandle) :=
  forward w (do checkHandle "Texture" texture.valid; frame.validate) (.uploadTexture texture frame)

def createMesh (d : MeshData Single) : RendererObjectM (RendererResult MeshHandle) :=
  forward w (d.validate finiteSingles) (.createMesh d)

def updateMesh (mesh : MeshHandle) (d : MeshData Single) : RendererObjectM RendererStatus :=
  forward w (do checkHandle "Mesh" mesh.valid; d.validate finiteSingles) (.updateMesh mesh d)

def destroyMesh (mesh : MeshHandle) : RendererObjectM RendererStatus :=
  forward w (checkHandle "Mesh" mesh.valid) (.destroyMesh mesh)

def createSurface (d : SurfaceDescription) : RendererObjectM (RendererResult SurfaceHandle) :=
  forward w (validateSurfaceDescription d) (.createSurface d)

def getSurfaceTexture (surface : SurfaceHandle) : RendererObjectM (RendererResult TextureHandle) :=
  forward w (checkHandle "Surface" surface.valid) (.getSurfaceTexture surface)

def getSurfaceState (surface : SurfaceHandle) : RendererObjectM (RendererResult SurfaceState) :=
  forward w (checkHandle "Surface" surface.valid) (.getSurfaceState surface)

def resizeSurface (surface : SurfaceHandle) (extent : RendererExtent2D) :
    RendererObjectM RendererStatus :=
  forward w
    (do checkHandle "Surface" surface.valid; if extent.empty then throw invalidExtentError)
    (.resizeSurface surface extent)

def setSurfaceWindowMode (surface : SurfaceHandle) (request : SurfaceWindowModeRequest) :
    RendererObjectM RendererStatus :=
  forward w
    (do checkHandle "Surface" surface.valid; validateSurfaceWindowModeRequest request)
    (.setSurfaceWindowMode surface request)

def pollSurfaceEvents (surface : SurfaceHandle) : RendererObjectM (RendererResult SurfaceEvents) :=
  forward w (checkHandle "Surface" surface.valid) (.pollSurfaceEvents surface)

def destroySurface (surface : SurfaceHandle) : RendererObjectM RendererStatus :=
  forward w (checkHandle "Surface" surface.valid) (.destroySurface surface)

def processSurfaceEvents (surface : SurfaceHandle) : RendererObjectM (RendererResult Bool) :=
  forward w (checkHandle "Surface" surface.valid) (.processSurfaceEvents surface)

def presentSurface (surface : SurfaceHandle) : RendererObjectM (RendererResult FenceHandle) :=
  forward w (checkHandle "Surface" surface.valid) (.presentSurface surface)

def executeRenderPass (d : PassDescription) : RendererObjectM (RendererResult FenceHandle) :=
  forward w d.validate (.executeRenderPass d)

def waitFence (fence : FenceHandle) (timeoutMs : UInt32) : RendererObjectM RendererStatus :=
  forward w
    (do checkHandle "Fence" fence.valid; checkTimeout timeoutMs "Fence timeout must be finite.")
    (.waitFence fence timeoutMs)

def readTexture (texture : TextureHandle) (timeoutMs : UInt32) :
    RendererObjectM (RendererResult RendererFrameData) :=
  forward w
    (do checkHandle "Texture" texture.valid
        checkTimeout timeoutMs "Readback timeout must be finite.")
    (.readTexture texture timeoutMs)

/-- The method of a call. -/
def perform : (call : BackendCall) → RendererObjectM (RendererResult call.Value)
  | .getCapabilities => getCapabilities w
  | .enumerateDisplays => enumerateDisplays w
  | .createTexture d => createTexture w d
  | .destroyTexture texture => destroyTexture w texture
  | .uploadTexture texture frame => uploadTexture w texture frame
  | .createMesh d => createMesh w d
  | .updateMesh mesh d => updateMesh w mesh d
  | .destroyMesh mesh => destroyMesh w mesh
  | .createSurface d => createSurface w d
  | .getSurfaceTexture surface => getSurfaceTexture w surface
  | .getSurfaceState surface => getSurfaceState w surface
  | .resizeSurface surface extent => resizeSurface w surface extent
  | .setSurfaceWindowMode surface request => setSurfaceWindowMode w surface request
  | .pollSurfaceEvents surface => pollSurfaceEvents w surface
  | .destroySurface surface => destroySurface w surface
  | .processSurfaceEvents surface => processSurfaceEvents w surface
  | .presentSurface surface => presentSurface w surface
  | .executeRenderPass d => executeRenderPass w d
  | .waitFence fence timeoutMs => waitFence w fence timeoutMs
  | .readTexture texture timeoutMs => readTexture w texture timeoutMs

end RendererObject

end

/-! ## Any number of renderers -/

/-- The renderers of a process: one that was destroyed, or what it is. -/
structure RendererProcess where
  tick : Nat := 0
  backends : Nat := 0
  log : List BackendEvent := []
  renderers : List (Option (Option RendererImpl)) := []

inductive RendererAction
  | construct
  | moveConstruct (source : Nat)
  | moveAssign (target source : Nat)
  | destroy (renderer : Nat)
  | initializeWith (renderer : Nat) (c : RendererConfiguration)
  | shutdown (renderer : Nat)
  | isInitialized (renderer : Nat)
  | call (renderer : Nat) (call : BackendCall)

namespace RendererProcess

/-- A renderer that was not destroyed. -/
def alive (p : RendererProcess) (i : Nat) : Option (Option RendererImpl) := p.renderers[i]?.join

/-- A renderer of the process, on its own. -/
def renderer (p : RendererProcess) (impl : Option RendererImpl) : RendererState :=
  ⟨p.tick, p.backends, p.log, impl⟩

/-- The process after what a renderer did, with the renderers that are left. -/
def after (s : RendererState) (renderers : List (Option (Option RendererImpl))) :
    RendererProcess :=
  ⟨s.tick, s.backends, s.log, renderers⟩

/-- A method of a renderer, whether it returns or throws. -/
def on {α : Type} (p : RendererProcess) (i : Nat) (x : RendererObjectM α) :
    Option RendererProcess :=
  (p.alive i).map fun impl =>
    let s := lastState (x (p.renderer impl))
    after s (p.renderers.set i (some s.impl))

variable (w : BackendWorld)

/-- `Renderer()`: without memory there is no renderer. -/
def construct (p : RendererProcess) : RendererProcess :=
  let made : RendererImpl := {}
  after (p.renderer none).asked
    (if w.allocates p.tick then p.renderers ++ [some (some made)] else p.renderers)

def moveConstruct (p : RendererProcess) (source : Nat) : Option RendererProcess :=
  (p.alive source).map fun impl =>
    after (p.renderer impl) (p.renderers.set source (some none) ++ [some impl])

/-- The `Impl` of the target is destroyed, unless that is the source. -/
def moveAssign (p : RendererProcess) (target source : Nat) : Option RendererProcess :=
  (p.alive target).bind fun old => (p.alive source).map fun impl =>
    if target = source then p
    else after ((p.renderer old).setBackend none)
      ((p.renderers.set source (some none)).set target (some impl))

/-- `~Renderer()`. -/
def destroy (p : RendererProcess) (i : Nat) : Option RendererProcess :=
  (p.alive i).map fun impl =>
    after (lastState (RendererObject.shutdown (p.renderer impl))) (p.renderers.set i none)

def step (p : RendererProcess) : RendererAction → Option RendererProcess
  | .construct => some (p.construct w)
  | .moveConstruct source => p.moveConstruct source
  | .moveAssign target source => p.moveAssign target source
  | .destroy i => p.destroy i
  | .initializeWith i c => p.on i (RendererObject.initializeWith w c)
  | .shutdown i => p.on i RendererObject.shutdown
  | .isInitialized i => p.on i (RendererObject.isInitialized w)
  | .call i call => p.on i (RendererObject.perform w call)

end RendererProcess

end WSE.Impl.Oui
