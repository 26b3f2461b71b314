import WapitiStew.Impl.Oui.VulkanState

/-!
# Submissions, textures and meshes of the Vulkan backend

The operations of `VulkanRendererBackend.cpp` that create, upload and destroy textures and meshes,
and what they share: the native calls, the pending submission, `submitAndWait`. An operation's
`std::unique_ptr<sVulkanSubmission>` is `Vulkan.work` while `withWork` runs.
-/

namespace WSE.Impl.Oui

/-! ## Calls -/

def failIf (c : Prop) [Decidable c] (e : RendererError) : RendererM Unit :=
  if c then throw e else pure ()

/-- What the driver or the compositor answers next. -/
def ask : RendererM VulkanAnswer := do
  let s ← get
  modify fun s => { s with answers := s.answers.tail }
  pure (s.answers.headD {})

/-- A plain answer: all goes well. -/
instance : Inhabited VulkanAnswer := ⟨{}⟩

/-- A native call that only succeeds or fails. -/
def callNative (message : String) : RendererM Unit := do
  let answer ← ask
  failIf (answer.result ≠ .success) (Vulkan.backendError message answer.result)

/-- What a native call of a submission answers. -/
def askChecked : RendererM VkResult := do
  let answer ← ask
  modify (·.record (.checked answer.result))
  pure answer.result

def createNative (message : String) (kind : NativeKind) : RendererM Native := do
  callNative message
  let s ← get
  modify (·.create kind)
  pure ⟨kind, s.nextNative⟩

def destroyAll (ns : List Native) : RendererM Unit := ns.forM fun n => modify (·.destroy n)

/-- If `x` fails, the objects are destroyed. -/
def orDestroy {α : Type} (ns : List Native) (x : RendererM α) : RendererM α :=
  tryCatch x fun e => do
    destroyAll ns
    throw e

/-- What the idle calls find, and the answers that are left. -/
def idleAnswers : List VulkanAnswer → VulkanEvent × List VulkanAnswer
  | [] => (.idle, [])
  | answer :: rest =>
    match answer.result with
    | .success => (.idle, rest)
    | .deviceLost => (.lost, rest)
    | _ => idleAnswers rest

/-- The call is repeated until it succeeds or finds the device lost. -/
def waitDeviceIdleForRelease : RendererM Unit :=
  modify fun s => { s.record (idleAnswers s.answers).1 with answers := (idleAnswers s.answers).2 }

def requireTexture (h : TextureHandle) (name : String) : RendererM TextureRecord := do
  match (← get).findTexture h with
  | some t => pure t
  | none => throw (resourceNotFoundError name)

def requireMesh (h : MeshHandle) : RendererM MeshRecord := do
  match (← get).findMesh h with
  | some m => pure m
  | none => throw (resourceNotFoundError "Mesh")

def requireSurface (h : SurfaceHandle) : RendererM SurfaceRecord := do
  match (← get).findSurface h with
  | some sf => pure sf
  | none => throw (resourceNotFoundError "Surface")

/-! ## Submissions -/

/-- What is left to the owner is destroyed. -/
def releaseWork : RendererM Unit := do
  let s ← get
  modify (·.closeWork)
  destroyAll (s.work.elim [] VulkanSubmission.natives)

/-- The body has an owner, which is destroyed at its end unless it moved. -/
def withWork {α : Type} (body : RendererM α) : RendererM α := do
  modify (·.openWork)
  let a ← tryCatch body fun e => do
    releaseWork
    throw e
  releaseWork
  pure a

/-- A native object that the owner gets. -/
def createInWork (message : String) (kind : NativeKind)
    (place : Native → VulkanSubmission → VulkanSubmission) : RendererM Native := do
  let n ← createNative message kind
  modify (·.give n (place n))
  pure n

def pollPendingSubmission : RendererM Unit := do
  let s ← get
  failIf (s.terminalSubmissionError ≠ .success)
    (Vulkan.backendError "Vulkan submission requires shutdown and reinitialization."
      s.terminalSubmissionError)
  match s.pendingSubmission with
  | none => pure ()
  | some pending =>
    let result ← askChecked
    match result with
    | .success =>
      modify (·.record .signalled)
      modify (·.closePending)
      destroyAll pending.natives
    | .timeout =>
      throw (makeError .lifecycle .resourceInUse
        "A previous Vulkan submission is still pending; retry after completion."
        VkResult.timeout.code)
    | .deviceLost =>
      modify (·.endTerminally .deviceLost)
      throw (Vulkan.backendError "Failed to poll the previous Vulkan submission." .deviceLost)
    | result =>
      throw (Vulkan.backendError "Failed to poll the previous Vulkan submission." result)

def beginCommands : RendererM Unit := do
  let command ← createNative "Failed to allocate a Vulkan command buffer." .commandBuffer
  orDestroy [command] (callNative "Failed to begin a Vulkan command buffer.")
  modify (·.give command fun w => { w with command := some command })

def transitionImage (image : VulkanImage) (before after : ImageLayout) : RendererM Unit :=
  if before = after then pure ()
  else modify (·.recordCommand (.pipelineBarrier image before after))

def endCommands : RendererM Unit :=
  modify fun s => s.record (.ended (s.work.elim [] (·.commands)))

/-- A lost device ends the submissions. -/
def noteLoss (result : VkResult) : RendererM Unit :=
  if result = .deviceLost then modify (·.endTerminally result) else pure ()

/-- The submission, and the wait for it when it is queued. -/
def queueAndWait (work : VulkanSubmission) (wait : Option Native) : RendererM (Bool × VkResult) := do
  let answer ← ask
  modify (·.record (.submitted work.natives work.commands wait answer.result))
  match answer.result with
  | .success =>
    let waited ← askChecked
    if waited = .success then modify (·.record .signalled)
    else
      modify (·.retain)
      noteLoss waited
    pure (true, waited)
  | .outOfHostMemory => pure (false, .outOfHostMemory)
  | .outOfDeviceMemory => pure (false, .outOfDeviceMemory)
  | result =>
    modify (·.endTerminally result)
    modify (·.retain)
    pure (false, result)

/-- Whether the work was queued, and the result. -/
def submitAndWait (wait : Option Native) : RendererM (Bool × VkResult) := do
  endCommands
  let ended ← askChecked
  if ended ≠ .success then
    noteLoss ended
    pure (false, ended)
  else
    let fenced ← askChecked
    if fenced ≠ .success then
      noteLoss fenced
      pure (false, fenced)
    else
      let s ← get
      modify (·.create .fence)
      modify (·.give ⟨.fence, s.nextNative⟩ fun w =>
        { w with fence := some ⟨.fence, s.nextNative⟩ })
      let s ← get
      queueAndWait (s.work.getD {}) wait

/-- `submitAndWait`, and what the records say once the work is queued. -/
def submit (wait : Option Native) (settle : Vulkan → Vulkan) : RendererM VkResult := do
  let (submitted, result) ← submitAndWait wait
  if submitted = true then modify settle else pure ()
  pure result

def submissionError (result : VkResult) : RendererError :=
  if result = .timeout then
    makeError .timeout .timedOut
      "Vulkan submission timed out; resources are retained until completion." result.code
  else Vulkan.backendError "Vulkan command submission failed." result

def completedFence : RendererM FenceHandle := do
  modify (·.completeFence)
  let s ← get
  pure ⟨s.lastFenceId, s.handleGeneration⟩

def submissionResult (result : VkResult) : RendererM FenceHandle := do
  failIf (result ≠ .success) (submissionError result)
  completedFence

/-! ## Buffers -/

def findMemoryType : RendererM Unit := do
  let answer ← ask
  failIf (answer.found = false)
    (makeError .resource .resourceExhausted "No compatible Vulkan memory type is available." 0)

/-- A buffer with its memory; nothing is left of one that fails. -/
def createBuffer : RendererM (Native × Native) := do
  let buffer ← createNative "Failed to create a Vulkan buffer." .buffer
  orDestroy [buffer] findMemoryType
  let memory ← orDestroy [buffer] (createNative "Failed to allocate a Vulkan buffer." .memory)
  orDestroy [memory, buffer] (callNative "Failed to allocate a Vulkan buffer.")
  pure (buffer, memory)

/-- The contents are left out. -/
def writeMemory : RendererM Unit := callNative "Failed to map Vulkan host memory."

/-- `createBuffer` into the owner. -/
def createWorkBuffer : RendererM (Native × Native) := do
  let (buffer, memory) ← createBuffer
  modify (·.give buffer fun w => { w with buffer := some buffer })
  modify (·.give memory fun w => { w with bufferMemory := some memory })
  pure (buffer, memory)

/-! ## Textures -/

def destroyTextureRecord (id : Nat) : RendererM Unit := do
  let s ← get
  modify (·.takeTexture id)
  destroyAll ((s.textures id).elim [] TextureRecord.natives)

def textureFormat (f : RendererPixelFormat) : Bool :=
  f = .r8Unorm || f = .rgba8Unorm || f = .bgra8Unorm

/-- The image, its memory and its view, which the owner gets. -/
def createImage : RendererM (Native × Native × Native) := do
  let image ← createInWork "Failed to create a Vulkan texture." .image
    fun n w => { w with image := some n }
  findMemoryType
  let memory ← createInWork "Failed to allocate Vulkan texture memory." .memory
    fun n w => { w with imageMemory := some n }
  callNative "Failed to allocate Vulkan texture memory."
  let view ← createInWork "Failed to create a Vulkan texture view." .imageView
    fun n w => { w with imageView := some n }
  pure (image, memory, view)

/-- The image is brought into its first layout. -/
def initializeLayout (image : VulkanImage) (layout : ImageLayout) : RendererM Unit := do
  beginCommands
  transitionImage image .undefined layout
  let result ← submit none id
  failIf (result ≠ .success) (submissionError result)

def createTexture (d : TextureDescription) : RendererM TextureHandle := do
  pollPendingSubmission
  let s ← get
  failIf (d.mipLevels ≠ 1) (unsupportedError .unsupportedOperation
    "The Vulkan 1.2 OUI backend currently supports one mip level.")
  failIf (d.extent.width > s.maximumTextureExtent ∨ d.extent.height > s.maximumTextureExtent)
    (makeError .resource .resourceExhausted "Texture extent exceeds the Vulkan device limit." 0)
  failIf (d.initialState = .present) (unsupportedError .unsupportedOperation
    "Present state is reserved for textures owned by a presentation surface.")
  failIf (textureFormat d.format = false) (unsupportedError .unsupportedFormat
    "The Vulkan 1.2 OUI backend supports R8, RGBA8 and BGRA8 textures.")
  failIf (d.format = .r8Unorm ∧ d.usage.renderTarget = true) (unsupportedError .unsupportedFormat
    "R8 Vulkan textures cannot be OUI color attachments.")
  withWork do
    let (image, memory, view) ← createImage
    let layout := toNativeLayout d.initialState
    if layout ≠ .undefined then initializeLayout (.owned image memory) layout else pure ()
    let s ← get
    modify (·.keepTexture
      { image := .owned image memory, view := view, description := d, state := d.initialState,
        layout := layout })
    pure ⟨s.nextResourceId, s.handleGeneration⟩

def destroyTexture (h : TextureHandle) : RendererM Unit := do
  pollPendingSubmission
  let t ← requireTexture h "Texture"
  failIf (t.surfaceOwner ≠ 0) (makeError .lifecycle .resourceInUse
    "Texture is owned by a surface and must be released through that surface." 0)
  destroyTextureRecord h.value

/-- The barriers and the copy of an upload. -/
def recordUpload (buffer memory : Native) (t : TextureRecord) : RendererM Unit := do
  transitionImage t.image t.layout .transferDestination
  modify (·.recordCommand (.copyBufferToImage buffer memory t.image))
  transitionImage t.image .transferDestination .shaderReadOnly

def uploadTexture (h : TextureHandle) (frame : RendererFrame) : RendererM FenceHandle := do
  pollPendingSubmission
  let t ← requireTexture h "Texture"
  failIf (t.description.usage.sampled = false ∨ t.description.usage.transferDestination = false)
    (invalidDescription "Texture upload requires Sampled and TransferDestination usage.")
  failIf (frame.description.extent ≠ t.description.extent ∨
      frame.description.format ≠ t.description.format)
    (invalidDescription "Upload frame extent and format must match the Vulkan texture.")
  withWork do
    let (buffer, memory) ← createWorkBuffer
    writeMemory
    beginCommands
    recordUpload buffer memory t
    let result ← submit none (·.setTextureState h.value .shaderReadOnly .shaderResource)
    submissionResult result

/-! ## Meshes -/

def createMesh (d : MeshDescription) : RendererM MeshHandle := do
  pollPendingSubmission
  let (vertexBuffer, vertexMemory) ← createBuffer
  let vertex := [vertexBuffer, vertexMemory]
  orDestroy vertex writeMemory
  let (indexBuffer, indexMemory) ← orDestroy vertex createBuffer
  orDestroy (vertex ++ [indexBuffer, indexMemory]) writeMemory
  let s ← get
  modify (·.keepMesh
    { vertexBuffer, vertexMemory, indexBuffer, indexMemory, topology := d.topology,
      indexCount := d.indices.length })
  pure ⟨s.nextResourceId, s.handleGeneration⟩

def updateMesh (h : MeshHandle) (d : MeshDescription) : RendererM Unit := do
  pollPendingSubmission
  let old ← requireMesh h
  let replacement ← createMesh d
  modify (·.replaceMesh h.value replacement.value)
  destroyAll old.natives

def destroyMesh (h : MeshHandle) : RendererM Unit := do
  pollPendingSubmission
  let m ← requireMesh h
  modify (·.takeMesh h.value)
  destroyAll m.natives

end WSE.Impl.Oui
