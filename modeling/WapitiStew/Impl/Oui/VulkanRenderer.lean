import WapitiStew.Impl.Oui.VulkanSurface

/-!
# Rendering, reading and presenting with the Vulkan backend

`presentSurface`, `executeRenderPass` and `readTexture` of `VulkanRendererBackend.cpp`, its
`initialize` and `shutdown`, and the checks that `core/oui/renderer/Renderer.cpp` makes before it
calls the backend. A step of the backend is one call with all that is answered during it.
-/

namespace WSE.Impl.Oui

/-! ## Presenting -/

namespace Vulkan

def consumeAcquire (s : Vulkan) (id : Nat) : Vulkan := s.modifySurface id SurfaceRecord.consumed

/-- The next image of the surface. -/
def acquireNext (s : Vulkan) (id : Nat) (sc : VulkanSwapchain) (index : Nat) : Vulkan :=
  (s.record (.acquired sc.swapChain index sc.acquireSemaphore)).modifySurface id (·.acquired index)

end Vulkan

/-- The submission that waits for the image when no render pass did. -/
def consumePending (id : Nat) (texture : TextureHandle) (t : TextureRecord) (sc : VulkanSwapchain) :
    RendererM Unit :=
  withWork do
    beginCommands
    transitionImage t.image t.layout .presentSource
    let result ← submit (some sc.acquireSemaphore) fun s =>
      (s.consumeAcquire id).setTextureState texture.value .presentSource .present
    failIf (result ≠ .success) (submissionError result)

/-- What follows a presentation that was queued. -/
def acquireAgain (id : Nat) (sc : VulkanSwapchain) (images : Nat) : RendererM FenceHandle := do
  callNative "Failed to acquire the next Vulkan surface image."
  let answer ← ask
  failIf (answer.result ≠ .success ∧ answer.result ≠ .suboptimal)
    (Vulkan.backendError "Failed to acquire the next Vulkan surface image." answer.result)
  -- the driver gives an index of an image
  modify (·.acquireNext id sc (answer.index % images))
  completedFence

def queuePresent (id : Nat) (sf : SurfaceRecord) (sc : VulkanSwapchain) : RendererM FenceHandle := do
  let answer ← ask
  modify (·.record (.presented sc.swapChain sc.currentImage answer.result))
  if answer.result = .outOfDate ∧ sf.description.type = .window then
    let w ← windowOf id
    recreateSwapchain id w.extent
    completedFence
  else
    failIf (answer.result ≠ .success ∧ answer.result ≠ .suboptimal)
      (Vulkan.backendError "Vulkan surface presentation failed." answer.result)
    acquireAgain id sc sf.textures.length

def presentSwapchain (id : Nat) (sf : SurfaceRecord) (sc : VulkanSwapchain) (texture : TextureHandle)
    (t : TextureRecord) : RendererM FenceHandle := do
  if sc.acquirePending = true then consumePending id texture t sc else pure ()
  let s ← get
  failIf ((s.textures texture.value).map (·.layout) ≠ some .presentSource)
    (invalidDescription "Surface texture must finish rendering in Present state.")
  queuePresent id sf sc

def presentSurface (h : SurfaceHandle) : RendererM FenceHandle := do
  pollPendingSubmission
  let sf ← requireSurface h
  failIf (sf.description.type = .offscreen) (unsupportedError .unsupportedOperation
    "Offscreen surfaces cannot be presented.")
  match sf.swapchain, sf.textures[sf.currentImage]? with
  | some sc, some texture =>
    let t ← requireTexture texture "Surface texture"
    presentSwapchain h.value sf sc texture t
  | _, _ => throw (makeError .resource .resourceNotFound
      "Vulkan swapchain image index is invalid." 0)

/-! ## Render passes -/

/-- A texture that is sampled, with its number. -/
abbrev SampledTexture := Nat × TextureRecord

structure ResolvedDraw where
  mesh : MeshRecord
  source : SampledTexture
  alpha : Option SampledTexture
  description : MeshDrawCommand

def ResolvedDraw.sampled (d : ResolvedDraw) : List SampledTexture := d.source :: d.alpha.toList

def resolveAlpha (h : TextureHandle) : RendererM (Option SampledTexture) :=
  if h.valid then do
    let t ← requireTexture h "Alpha texture"
    pure (some (h.value, t))
  else pure none

def resolveDraw (d : MeshDrawCommand) : RendererM ResolvedDraw := do
  let mesh ← requireMesh d.mesh
  let source ← requireTexture d.sourceTexture "Source texture"
  let alpha ← resolveAlpha d.alphaTexture
  failIf (source.description.usage.sampled = false ∨
      alpha.any (fun a => a.2.description.usage.sampled = false) = true)
    (invalidDescription "Vulkan draw textures require Sampled usage.")
  pure ⟨mesh, (d.sourceTexture.value, source), alpha, d⟩

/-- Whether there is one for the format. -/
def findOrCreateRenderPass (format : RendererPixelFormat) (clear : Bool) : RendererM Bool := do
  let s ← get
  if (format, clear) ∈ s.renderPasses then pure true
  else
    let answer ← ask
    if answer.result ≠ .success then pure false
    else
      modify fun s => { s with renderPasses := (format, clear) :: s.renderPasses }
      pure true

def findOrCreatePipeline (format : RendererPixelFormat) (blend : ColorBlendMode)
    (topology : PrimitiveTopology) : RendererM Bool := do
  let s ← get
  if (format, blend, topology) ∈ s.pipelines then pure true
  else
    let hasRenderPass ← findOrCreateRenderPass format false
    if hasRenderPass = false then pure false
    else
      let answer ← ask
      if answer.result ≠ .success then pure false
      else
        modify fun s => { s with pipelines := (format, blend, topology) :: s.pipelines }
        pure true

/-- The sources that are not yet in the layout they are sampled in, each once. -/
def sourcesToTransition : List SampledTexture → List SampledTexture → List SampledTexture
  | [], transitioned => transitioned
  | t :: rest, transitioned =>
    if t.2.layout ≠ .shaderReadOnly ∧ t.1 ∉ transitioned.map (·.1) then
      sourcesToTransition rest (transitioned ++ [t])
    else sourcesToTransition rest transitioned

def transitionSource (t : SampledTexture) : RendererM Unit :=
  transitionImage t.2.image t.2.layout .shaderReadOnly

def recordDraw (format : RendererPixelFormat) (d : ResolvedDraw) : RendererM Unit := do
  let hasPipeline ← findOrCreatePipeline format d.description.blendMode d.mesh.topology
  if hasPipeline = false then
    modify (·.recordCommand .endRenderPass)
    endCommands
    throw (makeError .resource .backendFailure "Failed to create the Vulkan graphics pipeline." 0)
  else
    modify (·.recordCommand (.drawIndexed d.mesh d.source.2 (d.alpha.getD d.source).2))

/-- The command buffer of a render pass. -/
def recordRenderPass (d : RenderPassDescription) (target : TextureRecord) (framebuffer : Native)
    (draws : List ResolvedDraw) : RendererM Unit := do
  transitionImage target.image target.layout .colorAttachment
  (sourcesToTransition (draws.flatMap ResolvedDraw.sampled) []).forM transitionSource
  modify (·.recordCommand (.beginRenderPass framebuffer target))
  draws.forM (recordDraw target.description.format)
  modify (·.recordCommand .endRenderPass)
  transitionImage target.image .colorAttachment (toNativeLayout d.finalState)

/-- The surface whose acquired image the pass is the first to use, and the semaphore. -/
def Vulkan.acquireSemaphore (s : Vulkan) (h : TextureHandle) (target : TextureRecord) :
    Option (Nat × Native) :=
  if target.surfaceOwner = 0 then none
  else
    match s.surfaces target.surfaceOwner with
    | none => none
    | some owner =>
      match owner.swapchain, owner.textures[owner.currentImage]? with
      | some sc, some texture =>
        if sc.acquirePending = true ∧ texture.value = h.value then
          some (target.surfaceOwner, sc.acquireSemaphore)
        else none
      | _, _ => none

/-- What the records say once a render pass is submitted. -/
def Vulkan.settlePass (s : Vulkan) (d : RenderPassDescription) (sources : List SampledTexture)
    (consumed : Option Nat) : Vulkan :=
  let s := s.setTextureState d.colorAttachment.value (toNativeLayout d.finalState) d.finalState
  let s := sources.foldl (fun s t => s.setTextureState t.1 .shaderReadOnly .shaderResource) s
  match consumed with
  | some id => s.consumeAcquire id
  | none => s

def createFramebuffer : RendererM Native :=
  createInWork "Failed to create the Vulkan framebuffer." .framebuffer
    fun n w => { w with framebuffer := some n }

/-- The descriptors of the draws, if there are any. -/
def createDescriptors (draws : List ResolvedDraw) : RendererM Unit :=
  if draws.isEmpty then pure ()
  else do
    let _ ← createInWork "Failed to allocate Vulkan draw descriptors." .descriptorPool
      fun n w => { w with descriptorPool := some n }
    callNative "Failed to allocate Vulkan draw descriptors."

def submitRenderPass (d : RenderPassDescription) (target : TextureRecord)
    (draws : List ResolvedDraw) : RendererM FenceHandle :=
  withWork do
    let framebuffer ← createFramebuffer
    createDescriptors draws
    beginCommands
    recordRenderPass d target framebuffer draws
    let s ← get
    let consumed := s.acquireSemaphore d.colorAttachment target
    let result ← submit (consumed.map (·.2)) (·.settlePass d
      (sourcesToTransition (draws.flatMap ResolvedDraw.sampled) []) (consumed.map (·.1)))
    submissionResult result

/-- The area that is drawn, which an empty one leaves to the target. -/
def areaExtent (d : RenderPassDescription) (target : TextureRecord) : RendererExtent2D :=
  if d.renderArea.extent.empty then target.description.extent else d.renderArea.extent

/-- The checks of the target. -/
def checkTarget (d : RenderPassDescription) (target : TextureRecord) : RendererM Unit := do
  let extent := target.description.extent
  let area := areaExtent d target
  failIf (target.description.usage.renderTarget = false)
    (invalidDescription "Render pass attachment lacks RenderTarget usage.")
  failIf (d.loadOperation = .discard ∨ d.storeOperation = .discard)
    (unsupportedError .unsupportedOperation
      "Vulkan attachment discard operations are not implemented.")
  failIf (d.finalState = .copySource ∧ target.description.usage.transferSource = false)
    (invalidDescription "CopySource final state requires TransferSource usage.")
  failIf (d.finalState = .present ∧ target.surfaceOwner = 0) (unsupportedError .unsupportedOperation
    "Present final state requires a presentation-surface texture.")
  failIf (area.width > extent.width ∨ area.height > extent.height ∨
      d.renderArea.x > extent.width - area.width ∨ d.renderArea.y > extent.height - area.height)
    (invalidDescription "Render area is outside the Vulkan attachment extent.")

/-- What the draws refer to, if all of it is there. -/
def resolveDraws : List MeshDrawCommand → RendererM (List ResolvedDraw)
  | [] => pure []
  | d :: rest => do
    let draw ← resolveDraw d
    let draws ← resolveDraws rest
    pure (draw :: draws)

def executeRenderPass (d : RenderPassDescription) : RendererM FenceHandle := do
  pollPendingSubmission
  let target ← requireTexture d.colorAttachment "Texture"
  checkTarget d target
  let draws ← resolveDraws d.drawCommands
  let format := target.description.format
  failIf (format ≠ .rgba8Unorm ∧ format ≠ .bgra8Unorm) (unsupportedError .unsupportedFormat
    "Vulkan mesh drawing supports RGBA8 and BGRA8 attachments.")
  let hasRenderPass ← findOrCreateRenderPass format (d.loadOperation = .clear)
  failIf (hasRenderPass = false)
    (makeError .resource .backendFailure "Failed to create the Vulkan render pass." 0)
  submitRenderPass d target draws

/-! ## Reading -/

/-- The barriers and the copy of a read-back. -/
def recordRead (buffer memory : Native) (t : TextureRecord) : RendererM Unit := do
  transitionImage t.image t.layout .transferSource
  modify (·.recordCommand (.copyImageToBuffer t.image buffer memory))
  transitionImage t.image .transferSource t.layout

def readTexture (h : TextureHandle) : RendererM RendererFrame := do
  pollPendingSubmission
  let t ← requireTexture h "Texture"
  failIf (t.description.usage.transferSource = false)
    (invalidDescription "Texture readback requires TransferSource usage.")
  let description : RendererFrameDescription :=
    { extent := t.description.extent, format := t.description.format }
  failIf (description.memorySize = 0) (unsupportedError .unsupportedFormat
    "Vulkan texture format cannot be read back.")
  withWork do
    let (buffer, memory) ← createWorkBuffer
    beginCommands
    recordRead buffer memory t
    let result ← submit none id
    let _ ← submissionResult result
    callNative "Failed to map the Vulkan readback buffer."
    pure { description := description, size := description.memorySize }

/-! ## The life of the backend -/

/-- What a device offers. -/
structure VulkanDevice where
  maximumTextureExtent : Nat := 16384
  /-- There is a Wayland connection. -/
  wayland : Bool := true
  hasSwapchain : Bool := true
  supportsDirectDisplay : Bool := true

/-- `generation` is what `reserveRendererGeneration` gives, and `device` what is found. -/
def initializeWith (generation : Nat) (device : RendererResult VulkanDevice) : RendererM Unit := do
  let s ← get
  if s.initialized = true then pure ()
  else
    failIf (generation = 0) exhaustedError
    match device with
    | .error e => throw e
    | .ok device =>
      modify fun s => { s with
        initialized := true
        handleGeneration := generation
        maximumTextureExtent := device.maximumTextureExtent
        wayland := if device.wayland = true then some 0 else none
        hasSwapchain := device.hasSwapchain
        supportsDirectDisplay := device.supportsDirectDisplay }

def shutdownSurface (id : Nat) : RendererM Unit := do
  let s ← get
  match s.surfaces id with
  | none => pure ()
  | some sf =>
    destroySwapchainResources id
    let _ ← releaseSurface id sf
    pure ()

def shutdownMesh (id : Nat) : RendererM Unit := do
  let s ← get
  modify (·.takeMesh id)
  destroyAll ((s.meshes id).elim [] MeshRecord.natives)

namespace Vulkan

/-- What is left of the backend. -/
def closed (s : Vulkan) : Vulkan :=
  { s.record .shutDown with
    initialized := false, handleGeneration := 0, nextResourceId := 1, lastFenceId := 0
    completedFences := [], maximumTextureExtent := 0, wayland := none, hasSwapchain := false
    supportsDirectDisplay := false, renderPasses := [], pipelines := [] }

end Vulkan

/-- The pending submission ends with the device's. -/
def dropPending : RendererM Unit := do
  let s ← get
  modify fun s => { s.closePending with terminalSubmissionError := .success }
  destroyAll (s.pendingSubmission.elim [] VulkanSubmission.natives)

def shutdown : RendererM Unit := do
  waitDeviceIdleForRelease
  dropPending
  let s ← get
  let ids := List.range s.nextResourceId
  ids.forM shutdownSurface
  ids.forM destroyTextureRecord
  ids.forM shutdownMesh
  modify (·.closed)

/-! ## The renderer -/

inductive VulkanCall
  | initializeWith (generation : Nat) (device : RendererResult VulkanDevice)
  | createTexture (d : TextureDescription)
  | destroyTexture (h : TextureHandle)
  | uploadTexture (h : TextureHandle) (frame : RendererFrame)
  | createMesh (d : MeshDescription)
  | updateMesh (h : MeshHandle) (d : MeshDescription)
  | destroyMesh (h : MeshHandle)
  | createSurface (d : SurfaceDescription)
  | resizeSurface (h : SurfaceHandle) (extent : RendererExtent2D)
  | setSurfaceWindowMode (h : SurfaceHandle) (r : SurfaceWindowModeRequest)
  | pollSurfaceEvents (h : SurfaceHandle)
  | processSurfaceEvents (h : SurfaceHandle)
  | destroySurface (h : SurfaceHandle)
  | presentSurface (h : SurfaceHandle)
  | executeRenderPass (d : RenderPassDescription)
  | readTexture (h : TextureHandle) (timeoutMs : Nat)
  | shutdown

/-- A call with all that is answered during it. -/
structure VulkanAction where
  call : VulkanCall
  answers : List VulkanAnswer := []

/-- The check of an argument. -/
def check (r : RendererStatus) : RendererM Unit :=
  match r with
  | .ok () => pure ()
  | .error e => throw e

def requireInitialized : RendererM Unit := do
  let s ← get
  failIf (s.initialized = false) notInitializedError

/-- The checks of `Renderer`, and the call of the backend. -/
def perform : VulkanCall → RendererM Unit
  | .initializeWith generation device => initializeWith generation device
  | .createTexture d => do
    check (validateTextureDescription d)
    requireInitialized
    discard (createTexture d)
  | .destroyTexture h => do
    failIf (h.valid = false) (invalidHandleError "Texture")
    requireInitialized
    destroyTexture h
  | .uploadTexture h frame => do
    failIf (h.valid = false) (invalidHandleError "Texture")
    check (validateRendererFrame frame)
    requireInitialized
    discard (uploadTexture h frame)
  | .createMesh d => do
    check (validateMeshDescription d)
    requireInitialized
    discard (createMesh d)
  | .updateMesh h d => do
    failIf (h.valid = false) (invalidHandleError "Mesh")
    check (validateMeshDescription d)
    requireInitialized
    updateMesh h d
  | .destroyMesh h => do
    failIf (h.valid = false) (invalidHandleError "Mesh")
    requireInitialized
    destroyMesh h
  | .createSurface d => do
    check (validateSurfaceDescription d)
    requireInitialized
    discard (createSurface d)
  | .resizeSurface h extent => do
    failIf (h.valid = false) (invalidHandleError "Surface")
    failIf (extent.empty = true) invalidExtentError
    requireInitialized
    resizeSurface h extent
  | .setSurfaceWindowMode h r => do
    failIf (h.valid = false) (invalidHandleError "Surface")
    check (validateSurfaceWindowModeRequest r)
    requireInitialized
    setSurfaceWindowMode h r
  | .pollSurfaceEvents h => do
    failIf (h.valid = false) (invalidHandleError "Surface")
    requireInitialized
    discard (pollSurfaceEvents h)
  | .processSurfaceEvents h => do
    failIf (h.valid = false) (invalidHandleError "Surface")
    requireInitialized
    discard (processSurfaceEvents h)
  | .destroySurface h => do
    failIf (h.valid = false) (invalidHandleError "Surface")
    requireInitialized
    destroySurface h
  | .presentSurface h => do
    failIf (h.valid = false) (invalidHandleError "Surface")
    requireInitialized
    discard (presentSurface h)
  | .executeRenderPass d => do
    check (validateRenderPassDescription d)
    requireInitialized
    discard (executeRenderPass d)
  | .readTexture h timeoutMs => do
    failIf (h.valid = false) (invalidHandleError "Texture")
    failIf (timeoutMs = 2 ^ 32 - 1)
      (makeError .validation .invalidArgument "Readback timeout must be finite." 0)
    requireInitialized
    discard (readTexture h)
  | .shutdown => do
    let s ← get
    if s.initialized = true then shutdown else pure ()

/-- Neither the start nor the end of the backend's life. -/
def VulkanCall.operates : VulkanCall → Bool
  | .initializeWith _ _ | .shutdown => false
  | _ => true

namespace Vulkan

def returns (s : Vulkan) (c : VulkanCall) (ok : Bool) : Vulkan :=
  if c.operates then s.record (.returned ok) else s

/-- The call is made. -/
def calls (s : Vulkan) (a : VulkanAction) : EStateM.Result RendererError Vulkan Unit :=
  perform a.call { s with answers := a.answers }

end Vulkan

def vulkanStep (s : Vulkan) (a : VulkanAction) : Option Vulkan :=
  match s.calls a with
  | .ok _ t => some (t.returns a.call true)
  | .error _ t => some (t.returns a.call false)

end WSE.Impl.Oui
