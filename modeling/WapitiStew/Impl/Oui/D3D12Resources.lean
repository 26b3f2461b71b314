import WapitiStew.Framework.Barriers
import WapitiStew.Framework.Table
import WapitiStew.Impl.Oui.D3D12Fence

/-!
# The textures and meshes of the D3D12 backend

`createTexture`, `uploadTexture`, the operations on meshes, `executeRenderPass` and `readTexture` of
`platform/oui/win/renderer/D3D12RendererBackend.cpp`, with the checks that
`core/oui/renderer/Renderer.cpp` makes before it calls the backend. What happens from the moment a
command list is closed is the step of `D3D12Fence`, which is taken over here together with what it
does to the records. The device's objects are numbered as they are created. No surface is created,
so that none owns a texture, and no texture can be presented.
-/

namespace WSE.Impl.Oui

open WSE.Framework

/-! ## Command lists -/

/-- `COMMON` is `PRESENT`. -/
inductive NativeState
  | common | renderTarget | pixelShaderResource | copySource | copyDest
  deriving DecidableEq

def toNativeState : TextureState → NativeState
  | .renderTarget => .renderTarget
  | .shaderResource => .pixelShaderResource
  | .copySource => .copySource
  | .copyDestination => .copyDest
  | .present | .undefined | .common => .common

abbrev D3D12Barrier := Barrier Nat NativeState

/-- A command with the objects it refers to. A render target view is read when the command is
recorded; what a draw samples is found through the descriptor heap that is set. -/
inductive D3D12Command
  | resourceBarrier (b : D3D12Barrier)
  | copyTextureRegion (destination source : Nat)
  | clearRenderTargetView (resource : Nat)
  | setRenderTargets (resource : Nat)
  | setDescriptorHeaps (heap : Nat)
  | drawIndexedInstanced (vertexBuffer indexBuffer : Nat) (sampled : List Nat)
  deriving DecidableEq

namespace D3D12Command

def uses : D3D12Command → List Nat
  | .resourceBarrier b => [b.image]
  | .copyTextureRegion destination source => [destination, source]
  | .clearRenderTargetView resource | .setRenderTargets resource => [resource]
  | .setDescriptorHeaps heap => [heap]
  | .drawIndexedInstanced vertexBuffer indexBuffer sampled => vertexBuffer :: indexBuffer :: sampled

def barrier : D3D12Command → Option D3D12Barrier
  | .resourceBarrier b => some b
  | _ => none

/-- The textures that are sampled. -/
def sampled : D3D12Command → List Nat
  | .drawIndexedInstanced _ _ sampled => sampled
  | _ => []

end D3D12Command

/-- What `submit` is given, and the states that its caller gives the textures once it succeeds. -/
structure RecordedWork where
  allocator : Nat
  commandList : Nat
  retainedResources : List Nat
  retainedDescriptorHeaps : List Nat := []
  commands : List D3D12Command
  settles : List (Nat × TextureState)
  deriving DecidableEq

namespace RecordedWork

def uses (w : RecordedWork) : List Nat :=
  w.allocator :: w.commandList :: w.commands.flatMap D3D12Command.uses

/-- What is kept with the submission. -/
def retained (w : RecordedWork) : List Nat :=
  w.allocator :: w.commandList :: (w.retainedResources ++ w.retainedDescriptorHeaps)

end RecordedWork

/-! ## The device -/

/-- What the device answers, and how many objects there have been. -/
structure D3D12Device where
  answers : List Int := []
  objects : Nat := 0

abbrev DeviceM := EStateM RendererError D3D12Device

namespace D3D12Device

def answer (message : String) : DeviceM Unit := do
  let d ← get
  set { d with answers := d.answers.tail }
  match d.answers with
  | hr :: _ => if hresultFailed hr then throw (backendError message hr) else pure ()
  | [] => pure ()

/-- A new object. -/
def create (message : String) : DeviceM Nat := do
  answer message
  let d ← get
  set { d with objects := d.objects + 1 }
  pure d.objects

/-- The allocator, and the list. -/
def createCommandList : DeviceM (Nat × Nat) := do
  let allocator ← create "Failed to create a command allocator."
  let commandList ← create "Failed to create a command list."
  pure (allocator, commandList)

end D3D12Device

/-! ## Records -/

structure D3D12TextureRecord where
  resource : Nat
  renderTargetHeap : Option Nat
  shaderResourceHeap : Option Nat
  description : TextureDescription
  state : TextureState
  /-- The number of the surface, or 0. -/
  surfaceOwner : Nat := 0
  deriving DecidableEq

def D3D12TextureRecord.objects (t : D3D12TextureRecord) : List Nat :=
  t.resource :: (t.renderTargetHeap.toList ++ t.shaderResourceHeap.toList)

structure D3D12MeshRecord where
  vertexBuffer : Nat
  indexBuffer : Nat
  topology : PrimitiveTopology
  indexCount : Nat
  deriving DecidableEq

def D3D12MeshRecord.objects (m : D3D12MeshRecord) : List Nat := [m.vertexBuffer, m.indexBuffer]

/-- What the renderer does to its resources, and what it returns. -/
inductive ResourceEvent
  | created (resource : Nat) (state : NativeState)
  /-- A command list is ready to be closed. -/
  | recorded (commands : List D3D12Command)
  | executed (commands : List D3D12Command)
  | texture (r : RendererResult TextureHandle)
  | mesh (r : RendererResult MeshHandle)
  | status (r : RendererStatus)
  | fence (r : RendererResult FenceHandle)
  | frame (r : RendererResult Nat)

structure D3D12Renderer where
  fence : D3D12Fence := {}
  nextResourceId : Nat := 1
  textures : Table D3D12TextureRecord := ∅
  meshes : Table D3D12MeshRecord := ∅
  /-- What was executed, by the numbers of the queue. -/
  works : Table RecordedWork := ∅
  /-- What the call under way holds. -/
  doing : Option RecordedWork := none
  /-- How many objects the device has created. -/
  objects : Nat := 0
  log : List ResourceEvent := []

/-! ## Creating -/

/-- `D3D12_REQ_TEXTURE2D_U_OR_V_DIMENSION`. -/
def maximumTextureExtent : Nat := 16384

def checkTextureDescription (d : TextureDescription) : RendererStatus := do
  if d.mipLevels ≠ 1 then throw (unsupportedError .unsupportedOperation
    "The current Direct3D 12 adapter supports one mip level.")
  if d.extent.width > maximumTextureExtent ∨ d.extent.height > maximumTextureExtent then
    throw (makeError .resource .resourceExhausted "Texture extent exceeds the backend limit." 0)
  if d.initialState = .present then throw (unsupportedError .unsupportedOperation
    "Present state is reserved for textures owned by a window surface.")
  if d.format = .rgba16Float ∨ d.format = .unknown then throw (unsupportedError .unsupportedFormat
    "The current Direct3D 12 adapter supports R8, RGBA8, BGRA8 and RGBA16 UNORM textures.")
  if (d.format = .r8Unorm ∨ d.format = .rgba16Unorm) ∧ d.usage.renderTarget = true then
    throw (unsupportedError .unsupportedFormat
      "R8 and RGBA16 UNORM textures are supported as non-render-target resources.")

def portableInitialState (d : TextureDescription) : TextureState :=
  if d.initialState = .undefined then .common else d.initialState

def D3D12Device.createHeap (wanted : Bool) (message : String) : DeviceM (Option Nat) :=
  if wanted then do
    let heap ← D3D12Device.create message
    pure (some heap)
  else pure none

def D3D12Device.createTextureRecord (d : TextureDescription) : DeviceM D3D12TextureRecord := do
  let resource ← D3D12Device.create "Failed to create a portable texture."
  let renderTargetHeap ← createHeap d.usage.renderTarget
    "Failed to create a render-target descriptor heap."
  let shaderResourceHeap ← createHeap d.usage.sampled
    "Failed to create a shader-resource descriptor heap."
  pure ⟨resource, renderTargetHeap, shaderResourceHeap, d, portableInitialState d, 0⟩

/-- A vertex takes 16 bytes, an index 4. -/
def D3D12Device.createMeshRecord (d : MeshDescription) : DeviceM D3D12MeshRecord := do
  if d.vertices > (2 ^ 32 - 1) / 16 ∨ d.indices.length > (2 ^ 32 - 1) / 4 ∨
      d.indices.length > 2 ^ 32 - 1 then
    throw (makeError .resource .resourceExhausted "Mesh data exceeds Direct3D 12 view limits." 0)
  let vertexBuffer ← D3D12Device.create "Failed to create the mesh vertex buffer."
  let indexBuffer ← D3D12Device.create "Failed to create the mesh index buffer."
  D3D12Device.answer "Failed to map the mesh vertex buffer."
  D3D12Device.answer "Failed to map the mesh index buffer."
  pure ⟨vertexBuffer, indexBuffer, d.topology, d.indices.length⟩

/-! ## Recording -/

/-- A texture with its number. -/
abbrev D3D12Texture := Nat × D3D12TextureRecord

def D3D12Device.recordUpload (t : D3D12Texture) : DeviceM RecordedWork := do
  let upload ← D3D12Device.create "Failed to create the texture upload buffer."
  D3D12Device.answer "Failed to map the texture upload buffer."
  let (allocator, commandList) ← D3D12Device.createCommandList
  pure
    { allocator := allocator
      commandList := commandList
      retainedResources := [t.2.resource, upload]
      commands :=
        (if t.2.state ≠ .copyDestination then
          [.resourceBarrier ⟨t.2.resource, toNativeState t.2.state, .copyDest⟩] else []) ++
        [.copyTextureRegion t.2.resource upload,
          .resourceBarrier ⟨t.2.resource, .copyDest, .pixelShaderResource⟩]
      settles := [(t.1, .shaderResource)] }

def D3D12Device.recordReadBack (t : D3D12Texture) : DeviceM RecordedWork := do
  let readback ← D3D12Device.create "Failed to create the readback buffer."
  let (allocator, commandList) ← D3D12Device.createCommandList
  pure
    { allocator := allocator
      commandList := commandList
      retainedResources := [t.2.resource, readback]
      commands :=
        (if t.2.state ≠ .copySource then
          [.resourceBarrier ⟨t.2.resource, toNativeState t.2.state, .copySource⟩] else []) ++
        [.copyTextureRegion readback t.2.resource]
      settles := [(t.1, .copySource)] }

structure D3D12Draw where
  mesh : D3D12MeshRecord
  source : D3D12Texture
  alpha : Option D3D12Texture
  description : MeshDrawCommand

def D3D12Draw.sampled (d : D3D12Draw) : List D3D12Texture := d.source :: d.alpha.toList

/-- The draws recorded so far. -/
structure DrawRecording where
  commands : List D3D12Command := []
  transitionedSources : List D3D12Texture := []
  retainedResources : List Nat := []

namespace DrawRecording

/-- The texture is brought to the state it is sampled in, unless it is there. -/
def transition (r : DrawRecording) (t : D3D12Texture) : DrawRecording :=
  if t.2.state ≠ .shaderResource ∧ t.1 ∉ r.transitionedSources.map (·.1) then
    { r with
      commands := r.commands ++
        [.resourceBarrier ⟨t.2.resource, toNativeState t.2.state, .pixelShaderResource⟩]
      transitionedSources := r.transitionedSources ++ [t] }
  else r

def draw (r : DrawRecording) (d : D3D12Draw) : DrawRecording :=
  let r := d.sampled.foldl transition r
  { r with
    commands := r.commands ++ [.drawIndexedInstanced d.mesh.vertexBuffer d.mesh.indexBuffer
      (d.sampled.map (·.2.resource))]
    retainedResources :=
      r.retainedResources ++ d.sampled.map (·.2.resource) ++ [d.mesh.vertexBuffer, d.mesh.indexBuffer] }

end DrawRecording

/-- The descriptors of the draws, if there are any. -/
def D3D12Device.createDescriptors (draws : List D3D12Draw) : DeviceM (Option Nat) := do
  if draws = [] then pure none
  else
    if draws.length > (2 ^ 32 - 1) / 2 then
      throw (invalidDescription "Mesh draw descriptor count exceeds D3D12 limits.")
    let heap ← D3D12Device.create "Failed to create the draw descriptor heap."
    pure (some heap)

def passCommands (d : RenderPassDescription) (target : D3D12TextureRecord) (heap : Option Nat)
    (draws : List D3D12Command) : List D3D12Command :=
  (if toNativeState target.state ≠ .renderTarget then
    [.resourceBarrier ⟨target.resource, toNativeState target.state, .renderTarget⟩] else []) ++
  (if d.loadOperation = .clear then [.clearRenderTargetView target.resource] else []) ++
  (match heap with
    | some heap => .setRenderTargets target.resource :: .setDescriptorHeaps heap :: draws
    | none => []) ++
  (if toNativeState d.finalState ≠ .renderTarget then
    [.resourceBarrier ⟨target.resource, .renderTarget, toNativeState d.finalState⟩] else [])

def D3D12Device.recordPass (d : RenderPassDescription) (target : D3D12Texture)
    (draws : List D3D12Draw) : DeviceM RecordedWork := do
  let (allocator, commandList) ← D3D12Device.createCommandList
  let heap ← createDescriptors draws
  let r := draws.foldl DrawRecording.draw {}
  pure
    { allocator := allocator
      commandList := commandList
      retainedResources := target.2.resource :: r.retainedResources
      retainedDescriptorHeaps := heap.toList
      commands := passCommands d target.2 heap r.commands
      settles := (target.1, d.finalState) ::
        r.transitionedSources.map fun t => (t.1, .shaderResource) }

/-! ## The calls -/

namespace D3D12Renderer

def record (s : D3D12Renderer) (e : ResourceEvent) : D3D12Renderer := { s with log := s.log ++ [e] }

def findTexture (s : D3D12Renderer) (h : TextureHandle) : Option D3D12TextureRecord :=
  if h.generation ≠ s.fence.handleGeneration then none else s.textures h.value

def findMesh (s : D3D12Renderer) (h : MeshHandle) : Option D3D12MeshRecord :=
  if h.generation ≠ s.fence.handleGeneration then none else s.meshes h.value

def requireInitialized (s : D3D12Renderer) : RendererStatus :=
  if s.fence.initialized = true then pure () else throw notInitializedError

def requireTexture (s : D3D12Renderer) (h : TextureHandle) (name : String) :
    RendererResult D3D12TextureRecord :=
  match s.findTexture h with
  | some t => pure t
  | none => throw (resourceNotFoundError name)

def requireMesh (s : D3D12Renderer) (h : MeshHandle) : RendererResult D3D12MeshRecord :=
  match s.findMesh h with
  | some m => pure m
  | none => throw (resourceNotFoundError "Mesh")

/-- What the device does for a call, given what it answers. -/
def device {α : Type} (s : D3D12Renderer) (answers : List Int) (x : DeviceM α) :
    RendererResult α × D3D12Renderer :=
  match x ⟨answers, s.objects⟩ with
  | .ok a d => (.ok a, { s with objects := d.objects })
  | .error e d => (.error e, { s with objects := d.objects })

def emplaceTexture (s : D3D12Renderer) (t : D3D12TextureRecord) : D3D12Renderer :=
  { s.record (.created t.resource (toNativeState t.state)) with
    textures := s.textures.set s.nextResourceId (some t), nextResourceId := s.nextResourceId + 1 }

def emplaceMesh (s : D3D12Renderer) (m : D3D12MeshRecord) : D3D12Renderer :=
  { s with meshes := s.meshes.set s.nextResourceId (some m), nextResourceId := s.nextResourceId + 1 }

def createTexture (s : D3D12Renderer) (d : TextureDescription) (answers : List Int) :
    D3D12Renderer :=
  match (do validateTextureDescription d; s.requireInitialized; checkTextureDescription d) with
  | .error e => s.record (.texture (.error e))
  | .ok () =>
    match s.device answers (D3D12Device.createTextureRecord d) with
    | (.error e, s) => s.record (.texture (.error e))
    | (.ok t, s) =>
      (s.emplaceTexture t).record (.texture (.ok ⟨s.nextResourceId, s.fence.handleGeneration⟩))

def checkDestroyTexture (s : D3D12Renderer) (h : TextureHandle) : RendererStatus := do
  if !h.valid then throw (invalidHandleError "Texture")
  s.requireInitialized
  let t ← s.requireTexture h "Texture"
  if t.surfaceOwner ≠ 0 then throw (makeError .lifecycle .resourceInUse
    "Texture is owned by a surface and must be released through that surface." 0)

def destroyTexture (s : D3D12Renderer) (h : TextureHandle) : D3D12Renderer :=
  match s.checkDestroyTexture h with
  | .error e => s.record (.status (.error e))
  | .ok () => { s with textures := s.textures.set h.value none }.record (.status (.ok ()))

def createMesh (s : D3D12Renderer) (d : MeshDescription) (answers : List Int) : D3D12Renderer :=
  match (do validateMeshDescription d; s.requireInitialized) with
  | .error e => s.record (.mesh (.error e))
  | .ok () =>
    match s.device answers (D3D12Device.createMeshRecord d) with
    | (.error e, s) => s.record (.mesh (.error e))
    | (.ok m, s) =>
      (s.emplaceMesh m).record (.mesh (.ok ⟨s.nextResourceId, s.fence.handleGeneration⟩))

def checkUpdateMesh (s : D3D12Renderer) (h : MeshHandle) (d : MeshDescription) : RendererStatus := do
  if !h.valid then throw (invalidHandleError "Mesh")
  validateMeshDescription d
  s.requireInitialized
  let _ ← s.requireMesh h

/-- The replacement is complete before it takes the place of the mesh. -/
def updateMesh (s : D3D12Renderer) (h : MeshHandle) (d : MeshDescription) (answers : List Int) :
    D3D12Renderer :=
  match s.checkUpdateMesh h d with
  | .error e => s.record (.status (.error e))
  | .ok () =>
    match s.device answers (D3D12Device.createMeshRecord d) with
    | (.error e, s) => s.record (.status (.error e))
    | (.ok m, s) => { s with meshes := s.meshes.set h.value (some m) }.record (.status (.ok ()))

def checkDestroyMesh (s : D3D12Renderer) (h : MeshHandle) : RendererStatus := do
  if !h.valid then throw (invalidHandleError "Mesh")
  s.requireInitialized
  let _ ← s.requireMesh h

def destroyMesh (s : D3D12Renderer) (h : MeshHandle) : D3D12Renderer :=
  match s.checkDestroyMesh h with
  | .error e => s.record (.status (.error e))
  | .ok () => { s with meshes := s.meshes.set h.value none }.record (.status (.ok ()))

/-! ## The calls that submit -/

def fails (s : D3D12Renderer) (caller : Submitter) (e : RendererError) : D3D12Renderer :=
  match caller with
  | .command => s.record (.fence (.error e))
  | .readTexture _ => s.record (.frame (.error e))

/-- A command list is recorded, and about to be closed. -/
def closing (s : D3D12Renderer) (caller : Submitter) (w : RecordedWork) : D3D12Renderer :=
  { s.record (.recorded w.commands) with
    doing := some w, fence := s.fence.goes (.recording caller) }

/-- What is recorded, when the checks allow it. -/
def records (s : D3D12Renderer) (caller : Submitter) (answers : List Int)
    (checked : RendererResult (DeviceM RecordedWork)) : D3D12Renderer :=
  match checked with
  | .error e => s.fails caller e
  | .ok x =>
    match s.device answers x with
    | (.error e, s) => s.fails caller e
    | (.ok w, s) => s.closing caller w

def uploadTexture (s : D3D12Renderer) (h : TextureHandle) (f : RendererFrame) :
    RendererResult (DeviceM RecordedWork) := do
  if !h.valid then throw (invalidHandleError "Texture")
  validateRendererFrame f
  s.requireInitialized
  let t ← s.requireTexture h "Texture"
  if t.description.usage.transferDestination = false ∨ t.description.usage.sampled = false then
    throw (invalidDescription "Texture upload requires TransferDestination and Sampled usage.")
  if f.description.extent ≠ t.description.extent ∨ f.description.format ≠ t.description.format then
    throw (invalidDescription "Upload frame extent and format must match the destination texture.")
  pure (D3D12Device.recordUpload (h.value, t))

def readTexture (s : D3D12Renderer) (h : TextureHandle) (timeoutMs : UInt32) :
    RendererResult (DeviceM RecordedWork) := do
  if !h.valid then throw (invalidHandleError "Texture")
  if timeoutMs = infiniteTimeout then
    throw (makeError .validation .invalidArgument "Readback timeout must be finite." 0)
  s.requireInitialized
  let t ← s.requireTexture h "Texture"
  if t.description.usage.transferSource = false then
    throw (invalidDescription "Texture readback requires TransferSource usage.")
  pure (D3D12Device.recordReadBack (h.value, t))

/-- The texture of an optional handle. -/
def resolveAlpha (s : D3D12Renderer) (h : TextureHandle) : RendererResult (Option D3D12Texture) := do
  if h.valid then
    let t ← s.requireTexture h "Alpha texture"
    pure (some (h.value, t))
  else pure none

def canSample (t : D3D12TextureRecord) : Bool :=
  t.description.usage.sampled && t.shaderResourceHeap.isSome

def resolveDraw (s : D3D12Renderer) (d : MeshDrawCommand) : RendererResult D3D12Draw := do
  let mesh ← s.requireMesh d.mesh
  let source ← s.requireTexture d.sourceTexture "Source texture"
  let alpha ← s.resolveAlpha d.alphaTexture
  if !canSample source then
    throw (invalidDescription "Mesh draw source texture lacks Sampled usage.")
  if alpha.any (fun a => !canSample a.2) then
    throw (invalidDescription "Mesh draw alpha texture lacks Sampled usage.")
  pure ⟨mesh, (d.sourceTexture.value, source), alpha, d⟩

/-- What the draws refer to, if all of it is there. -/
def resolveDraws (s : D3D12Renderer) : List MeshDrawCommand → RendererResult (List D3D12Draw)
  | [] => pure []
  | d :: rest => do
    let draw ← s.resolveDraw d
    let draws ← s.resolveDraws rest
    pure (draw :: draws)

/-- The checks of the attachment before the draws are looked at. -/
def checkAttachment (d : RenderPassDescription) (t : D3D12TextureRecord) : RendererStatus := do
  if t.description.usage.renderTarget = false then
    throw (invalidDescription "Render pass attachment lacks RenderTarget usage.")
  if d.loadOperation = .discard ∨ d.storeOperation = .discard then
    throw (unsupportedError .unsupportedOperation
      "Discard attachment operations are not implemented.")
  if d.finalState = .copySource ∧ t.description.usage.transferSource = false then
    throw (invalidDescription "CopySource final state requires TransferSource usage.")
  -- no surface has a swap chain
  if d.finalState = .present then throw (unsupportedError .unsupportedOperation
    "Present state requires a window or direct-display swap-chain attachment.")

/-- The area that is drawn, which an empty one leaves to the attachment. -/
def passArea (d : RenderPassDescription) (t : D3D12TextureRecord) : RendererExtent2D :=
  if d.renderArea.extent.empty then t.description.extent else d.renderArea.extent

def checkArea (d : RenderPassDescription) (t : D3D12TextureRecord) : RendererStatus := do
  let area := passArea d t
  let extent := t.description.extent
  if area.width > extent.width ∨ area.height > extent.height ∨
      d.renderArea.x > extent.width - area.width ∨ d.renderArea.y > extent.height - area.height then
    throw (invalidDescription "Render area is outside the attachment extent.")

def executeRenderPass (s : D3D12Renderer) (d : RenderPassDescription) :
    RendererResult (DeviceM RecordedWork) := do
  validateRenderPassDescription d
  s.requireInitialized
  let t ← s.requireTexture d.colorAttachment "Texture"
  checkAttachment d t
  let draws ← s.resolveDraws d.drawCommands
  -- `findPipelineState`
  if draws ≠ [] ∧ t.description.format ≠ .rgba8Unorm ∧ t.description.format ≠ .bgra8Unorm then
    throw (unsupportedError .unsupportedFormat
      "Mesh drawing does not support the attachment format.")
  checkArea d t
  pure (D3D12Device.recordPass d (d.colorAttachment.value, t) draws)

/-! ## From the closing of the list on -/

def checkWaitFence (s : D3D12Renderer) (h : FenceHandle) (timeoutMs : UInt32) : RendererStatus := do
  if h.value = 0 ∨ h.generation = 0 then throw (invalidHandleError "Fence")
  if timeoutMs = infiniteTimeout then
    throw (makeError .validation .invalidArgument "Fence timeout must be finite." 0)
  s.requireInitialized

/-- A call that is the fence's. -/
def enters (s : D3D12Renderer) (c : D3D12Call) : Option D3D12Renderer :=
  (s.fence.call c).map fun fence => { s with fence := fence }

/-- `ExecuteCommandLists`. -/
def executes (s : D3D12Renderer) (w : RecordedWork) : D3D12Renderer :=
  { s.record (.executed w.commands) with works := s.works.set s.fence.works (some w) }

def setState (textures : Table D3D12TextureRecord) (p : Nat × TextureState) :
    Table D3D12TextureRecord :=
  textures.set p.1 ((textures p.1).map fun t => { t with state := p.2 })

/-- `submit` has succeeded. -/
def settles (s : D3D12Renderer) (w : RecordedWork) : D3D12Renderer :=
  { s with textures := w.settles.foldl setState s.textures, doing := none }

def clears (s : D3D12Renderer) : D3D12Renderer :=
  { s with meshes := ∅, textures := ∅, nextResourceId := 1 }

/-- What becomes of the records in a step of the fence. -/
def follows (s : D3D12Renderer) (a : D3D12Action) : D3D12Renderer :=
  match s.fence.phase, s.doing, a with
  | .recording _, some w, .answer hr =>
    if hresultFailed hr then { s with doing := none } else s.executes w
  -- the caller's objects go with the call
  | .signalling (.submit _ _), some _, .answer hr =>
    if hresultFailed hr then { s with doing := none } else s
  | .retaining (.submit _ _) _, some w, .proceed => s.settles w
  | .closing _, _, .proceed => s.clears
  | _, _, _ => s

end D3D12Renderer

inductive ResourceCall
  | initializeWith (generation : Nat)
  | createTexture (d : TextureDescription)
  | destroyTexture (h : TextureHandle)
  | uploadTexture (h : TextureHandle) (f : RendererFrame)
  | createMesh (d : MeshDescription)
  | updateMesh (h : MeshHandle) (d : MeshDescription)
  | destroyMesh (h : MeshHandle)
  | executeRenderPass (d : RenderPassDescription)
  | readTexture (h : TextureHandle) (timeoutMs : UInt32)
  | waitFence (h : FenceHandle) (timeoutMs : UInt32)
  | shutdown

inductive ResourceAction
  /-- With what the device answers until a command list is closed. -/
  | call (c : ResourceCall) (answers : List Int)
  /-- The call under way goes on, or the GPU does. -/
  | fence (a : D3D12Action)

namespace D3D12Renderer

def call (s : D3D12Renderer) (answers : List Int) : ResourceCall → Option D3D12Renderer
  | .initializeWith generation => s.enters (.initializeWith generation)
  | .createTexture d => some (s.createTexture d answers)
  | .destroyTexture h => some (s.destroyTexture h)
  | .uploadTexture h f => some (s.records .command answers (s.uploadTexture h f))
  | .createMesh d => some (s.createMesh d answers)
  | .updateMesh h d => some (s.updateMesh h d answers)
  | .destroyMesh h => some (s.destroyMesh h)
  | .executeRenderPass d => some (s.records .command answers (s.executeRenderPass d))
  | .readTexture h timeoutMs =>
    some (s.records (.readTexture timeoutMs) answers (s.readTexture h timeoutMs))
  | .waitFence h timeoutMs =>
    match s.checkWaitFence h timeoutMs with
    | .error e => some (s.record (.status (.error e)))
    | .ok () => s.enters (.waitFence h timeoutMs)
  | .shutdown => s.enters .shutdown

/-- What goes on in a call, or outside the backend. A list that is recorded is closed, and there is
no surface. -/
def resumes (p : D3D12Phase) : D3D12Action → Bool
  | .call _ | .leaves => false
  | .refuse _ => p = .initializing
  | _ => true

end D3D12Renderer

def d3d12RendererStep (s : D3D12Renderer) : ResourceAction → Option D3D12Renderer
  | .call c answers => if s.fence.phase = .idle then s.call answers c else none
  | .fence a =>
    if D3D12Renderer.resumes s.fence.phase a then
      (d3d12Step s.fence a).map fun fence => { s.follows a with fence := fence }
    else none

end WSE.Impl.Oui
