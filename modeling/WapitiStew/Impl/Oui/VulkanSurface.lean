import WapitiStew.Impl.Oui.VulkanSubmission

/-!
# Surfaces of the Vulkan backend

The operations of `VulkanRendererBackend.cpp` that create, change and destroy surfaces, with the
requests of `WaylandWindow.cpp` that they make. A swapchain that is being created is kept apart
until nothing can fail any more; the source writes it to the surface's record as it goes, and
clears it there when it fails. The DRM calls of a direct display are left out: one of them may
fail.
-/

namespace WSE.Impl.Oui

namespace Vulkan

/-- A listener is called. -/
def deliver (s : Vulkan) : CompositorEvent → Vulkan
  | .topology => { s with wayland := s.wayland.map (· + 1) }
  | .window none _ => s
  | .window (some id) e =>
    match (s.surfaces id).bind (·.window) with
    | none => s
    | some _ =>
      let s := s.modifyWindow id (·.receive e)
      match e.extent with
      | some extent => s.record (.sized id extent)
      | none => s

/-- The swapchain and the textures of a surface leave its record and the table. -/
def dropSwapchain (s : Vulkan) (id : Nat) : Vulkan :=
  match s.surfaces id with
  | none => s
  | some sf =>
    let s := (sf.textures.map (·.value)).foldl takeTexture s
    { s.modifySurface id SurfaceRecord.bared with
      held := s.held + (sf.swapchain.elim [] VulkanSwapchain.natives : List Native) }

end Vulkan

/-! ## Wayland -/

/-- `wl_display_roundtrip`: events are dispatched, and the connection may fail. -/
def roundtrip : RendererM VulkanAnswer := do
  let answer ← ask
  modify fun s => answer.events.foldl Vulkan.deliver s
  pure answer

def waylandError (request message : String) : RendererError :=
  makeError .backend .backendFailure (request ++ message) 0

/-- A listener of the window that is being created. -/
def WaylandWindow.receiveNew (w : WaylandWindow) : CompositorEvent → WaylandWindow
  | .window none e => w.receive e
  | _ => w

/-- The round trips of `createWindow`. -/
def configureWindow : Nat → WaylandWindow → RendererM WaylandWindow
  | 0, w => pure w
  | attempts + 1, w =>
    if w.configured then pure w
    else do
      let answer ← roundtrip
      failIf (answer.connected = false) (waylandError "Failed to create the Wayland window: "
        "Wayland connection failed during initial configure.")
      configureWindow attempts (answer.events.foldl WaylandWindow.receiveNew w)

def createWindow (extent : RendererExtent2D) : RendererM WaylandWindow := do
  let answer ← ask
  failIf (answer.found = false) (waylandError "Failed to create the Wayland window: "
    "Failed to create an xdg-shell top-level window.")
  let s ← get
  let w ← configureWindow 4 { extent := extent, topologyGeneration := s.wayland.getD 0 }
  failIf (w.configured = false) (waylandError "Failed to create the Wayland window: "
    "Wayland compositor did not configure the window.")
  pure { w with extentChanged := false }

/-- Whether the output that a fullscreen window is for is there. -/
def findOutput (fullscreen : Bool) : RendererM Bool :=
  if fullscreen then do
    let answer ← ask
    pure answer.found
  else pure true

/-- The error, if there is one. -/
def setFullscreen (id : Nat) (fullscreen : Bool) : RendererM (Option String) := do
  let found ← findOutput fullscreen
  if found = false then pure (some "Requested Wayland output no longer exists.")
  else
    modify (·.modifyWindow id fun w => { w with configured := false })
    let answer ← roundtrip
    if answer.connected = false then pure (some "Wayland fullscreen transition failed.")
    else
      modify (·.modifyWindow id fun w => { w with fullscreen := fullscreen })
      pure none

def requestExtent (id : Nat) (w : WaylandWindow) (extent : RendererExtent2D) : RendererM Unit := do
  failIf (w.fullscreen = true) (waylandError "Wayland resize failed: "
    "Only a valid windowed Wayland surface can be resized.")
  modify fun s => (s.modifyWindow id (·.takeExtent extent)).record (.sized id extent)
  let answer ← roundtrip
  failIf (answer.connected = false) (waylandError "Wayland resize failed: "
    "Wayland resize synchronization failed.")

/-- The window of a surface, as it is now. -/
def windowOf (id : Nat) : RendererM WaylandWindow := do
  let s ← get
  pure (((s.surfaces id).bind (·.window)).getD {})

def pollWindow (id : Nat) : RendererM SurfaceEvents := do
  let answer ← roundtrip
  failIf (answer.connected = false) (waylandError "Wayland event processing failed: "
    "Wayland connection failed while polling events.")
  let w ← windowOf id
  let s ← get
  modify fun s =>
    (s.modifyWindow id (·.polled (s.wayland.getD 0))).record (.polled id w.extentChanged w.extent)
  pure (w.events (s.wayland.getD 0))

/-! ## Swapchains -/

/-- A swapchain that is created and not yet in the record of its surface. -/
structure NewSwapchain where
  swapChain : Native
  acquireSemaphore : Native
  currentImage : Nat
  /-- With the numbers under which they enter the table. -/
  textures : List (Nat × TextureRecord)
  requested : RendererExtent2D
  extent : RendererExtent2D

namespace NewSwapchain

def record (n : NewSwapchain) : VulkanSwapchain where
  swapChain := n.swapChain
  acquireSemaphore := n.acquireSemaphore
  currentImage := n.currentImage
  acquirePending := true

def handles (n : NewSwapchain) (generation : Nat) : List TextureHandle :=
  n.textures.map fun t => ⟨t.1, generation⟩

/-- What the record of the surface becomes. -/
def into (n : NewSwapchain) (generation : Nat) (sf : SurfaceRecord) : SurfaceRecord :=
  { sf with
    description := { sf.description with extent := n.extent }
    textures := n.handles generation
    swapchain := some n.record }

def natives (n : NewSwapchain) : List Native :=
  n.textures.flatMap (·.2.natives) ++ n.record.natives

end NewSwapchain

/-- `std::clamp`. -/
def clamp (value low high : Nat) : Nat :=
  if value < low then low else if high < value then high else value

def swapchainExtent (c : SurfaceCapabilities) (requested : RendererExtent2D) : RendererExtent2D :=
  match c.currentExtent with
  | some extent => extent
  | none =>
    ⟨clamp requested.width c.minImageExtent.width c.maxImageExtent.width,
      clamp requested.height c.minImageExtent.height c.maxImageExtent.height⟩

/-- `destroySwapchainResources` on what was created so far. -/
def abandonSwapchain (views : List Native) (semaphore : Option Native) (swapChain : Native) :
    RendererM Unit := do
  waitDeviceIdleForRelease
  destroyAll (views ++ semaphore.toList ++ [swapChain])

def reserveId : RendererM Nat := do
  let s ← get
  modify fun s => { s with nextResourceId := s.nextResourceId + 1 }
  pure s.nextResourceId

/-- The textures of the images, each with its view. -/
def createSwapchainTextures (surfaceId : Nat) (d : TextureDescription) (swapChain : Native) :
    List VkResult → List (Nat × TextureRecord) → RendererM (List (Nat × TextureRecord))
  | [], made => pure made
  | result :: rest, made =>
    if result ≠ .success then do
      abandonSwapchain (made.map (·.2.view)) none swapChain
      throw (Vulkan.backendError "Failed to create a Vulkan swapchain image view." result)
    else do
      let s ← get
      modify (·.create .imageView)
      let id ← reserveId
      createSwapchainTextures surfaceId d swapChain rest (made ++ [(id,
        { image := .presentable swapChain made.length, view := ⟨.imageView, s.nextNative⟩,
          description := d, state := .present, layout := .undefined, surfaceOwner := surfaceId })])

def swapchainTexture (description : SurfaceDescription) (extent : RendererExtent2D)
    (c : SurfaceCapabilities) : TextureDescription where
  extent := extent
  format := description.format
  usage := { renderTarget := true, transferSource := c.supportsTransferSource }
  initialState := .present

/-- The semaphore, and the first image. -/
def acquireFirst (a : SwapchainAnswer) (views : List Native) (swapChain : Native) (images : Nat) :
    RendererM (Native × Nat) :=
  if a.semaphoreResult ≠ .success then do
    abandonSwapchain views none swapChain
    throw (Vulkan.backendError "Failed to acquire the first Vulkan swapchain image."
      a.semaphoreResult)
  else do
    let s ← get
    modify (·.create .semaphore)
    let semaphore : Native := ⟨.semaphore, s.nextNative⟩
    if a.acquireResult ≠ .success ∧ a.acquireResult ≠ .suboptimal then
      abandonSwapchain views (some semaphore) swapChain
      throw (Vulkan.backendError "Failed to acquire the first Vulkan swapchain image."
        a.acquireResult)
    else
      -- the driver gives an index of an image
      modify (·.record (.acquired swapChain (a.index % images) semaphore))
      pure (semaphore, a.index % images)

def createSwapchain (surfaceId : Nat) (description : SurfaceDescription)
    (nativeSurface : Option Native) (requested : RendererExtent2D) : RendererM NewSwapchain := do
  failIf (nativeSurface = none)
    (makeError .validation .invalidArgument "Vulkan swapchain surface is invalid." 0)
  let answer ← ask
  let a := answer.swapchain
  failIf (a.presents = false) (unsupportedError .unsupportedSurface
    "No Vulkan queue can present to the requested surface.")
  failIf (a.capabilitiesResult ≠ .success)
    (Vulkan.backendError "Failed to query Vulkan surface capabilities." a.capabilitiesResult)
  failIf (a.hasFormat = false) (unsupportedError .unsupportedFormat
    "Requested pixel format is unavailable on the Vulkan presentation surface.")
  failIf (a.createResult ≠ .success)
    (Vulkan.backendError "Failed to create the Vulkan swapchain." a.createResult)
  let s ← get
  modify (·.create .swapchain)
  let swapChain : Native := ⟨.swapchain, s.nextNative⟩
  if a.imagesResult ≠ .success ∨ a.images = 0 then
    abandonSwapchain [] none swapChain
    throw (Vulkan.backendError "Failed to enumerate Vulkan swapchain images." a.imagesResult)
  else
    let extent := swapchainExtent a.capabilities requested
    let results := (List.range a.images).map fun i => a.viewResults.getD i .success
    let textures ← createSwapchainTextures surfaceId
      (swapchainTexture description extent a.capabilities) swapChain results []
    let (semaphore, index) ← acquireFirst a (textures.map (·.2.view)) swapChain textures.length
    pure ⟨swapChain, semaphore, index, textures, requested, extent⟩

namespace Vulkan

/-- The new textures enter the table. -/
def insertTextures (s : Vulkan) (ts : List (Nat × TextureRecord)) : Vulkan :=
  { s with textures := ts.foldl (fun table t => table.set t.1 (some t.2)) s.textures }

/-- The surface's record takes the swapchain. -/
def installSwapchain (s : Vulkan) (id : Nat) (n : NewSwapchain) : Vulkan :=
  ({ s.insertTextures n.textures with held := s.held - (n.natives : List Native) }.modifySurface id
    (n.into s.handleGeneration)).record (.swapchainMade id n.requested n.extent)

/-- A new surface, which takes its native surface and has no swapchain yet. -/
def addSurface (s : Vulkan) (id : Nat) (sf : SurfaceRecord) : Vulkan :=
  let s := { s with
    held := s.held - (sf.natives : List Native), surfaces := s.surfaces.set id (some sf) }
  match sf.window with
  | some w => s.record (.windowed id w.extent)
  | none => s

end Vulkan

/-- The textures of a surface and its swapchain are destroyed. -/
def releaseSwapchain (id : Nat) : RendererM Unit := do
  let s ← get
  match s.surfaces id with
  | none => pure ()
  | some sf =>
    modify fun s => (s.dropSwapchain id).record (.swapchainLost id (sf.swapchain.map (·.swapChain)))
    destroyAll ((sf.textures.flatMap fun h => (s.textures h.value).elim [] TextureRecord.natives) ++
      sf.swapchain.elim [] VulkanSwapchain.natives)

def destroySwapchainResources (id : Nat) : RendererM Unit := do
  waitDeviceIdleForRelease
  releaseSwapchain id

def recreateSwapchain (id : Nat) (requested : RendererExtent2D) : RendererM Unit := do
  destroySwapchainResources id
  let s ← get
  match s.surfaces id with
  | none => pure ()
  | some sf =>
    let n ← createSwapchain id sf.description sf.nativeSurface requested
    modify (·.installSwapchain id n)

/-! ## Surfaces -/

/-- `restoreDrmDisplay`, which may fail if there is something to restore. -/
def restoreDrmDisplay (drm : Bool) : RendererM (Option RendererError) :=
  if drm then do
    let answer ← ask
    pure answer.refusal
  else pure none

def offscreenTexture (description : SurfaceDescription) (extent : RendererExtent2D) :
    TextureDescription where
  extent := extent
  format := description.format
  usage := { renderTarget := true, transferSource := true }
  initialState := .renderTarget

namespace Vulkan

def setTextureOwner (s : Vulkan) (id owner : Nat) : Vulkan :=
  match s.textures id with
  | some t => { s with textures := s.textures.set id (some { t with surfaceOwner := owner }) }
  | none => s

/-- The texture becomes the one of a new offscreen surface. -/
def installOffscreen (s : Vulkan) (id : Nat) (sf : SurfaceRecord) (texture : TextureHandle) : Vulkan :=
  { s.setTextureOwner texture.value id with
    surfaces := s.surfaces.set id (some { sf with textures := [texture] }) }

/-- The texture takes the place of the surface's. -/
def replaceOffscreen (s : Vulkan) (id : Nat) (texture : TextureHandle) (extent : RendererExtent2D) :
    Vulkan :=
  (s.setTextureOwner texture.value id).modifySurface id (·.replaced texture extent)

end Vulkan

def createOffscreenSurface (d : SurfaceDescription) : RendererM SurfaceHandle := do
  let texture ← createTexture (offscreenTexture d d.extent)
  let id ← reserveId
  modify (·.installOffscreen id { description := d } texture)
  let s ← get
  pure ⟨id, s.handleGeneration⟩

/-- `createSwapchain` for a new surface, whose native surface is destroyed if it fails. -/
def createFirstSwapchain (id : Nat) (d : SurfaceDescription) (nativeSurface : Native)
    (requested : RendererExtent2D) : RendererM NewSwapchain :=
  tryCatch (createSwapchain id d nativeSurface requested) fun e => do
    waitDeviceIdleForRelease
    destroyAll [nativeSurface]
    throw e

def createWindowSurface (d : SurfaceDescription) : RendererM SurfaceHandle := do
  let s ← get
  failIf (s.wayland = none ∨ s.hasSwapchain = false) (unsupportedError .unsupportedSurface
    "Wayland presentation is unavailable in this Linux session.")
  let window ← createWindow d.extent
  let nativeSurface ← createNative "Failed to create the Vulkan Wayland surface." .surface
  let id ← reserveId
  let n ← createFirstSwapchain id d nativeSurface window.extent
  modify (·.addSurface id
    { description := d, nativeSurface := nativeSurface, window := window, windowMode := .windowed })
  modify (·.installSwapchain id n)
  let s ← get
  pure ⟨id, s.handleGeneration⟩

/-- If `x` fails, the display is restored, as far as it can be. -/
def orRestoreDrm {α : Type} (x : RendererM α) : RendererM α :=
  tryCatch x fun e => do
    let _ ← restoreDrmDisplay true
    throw e

/-- The DRM calls. -/
def acquireDrmDisplay : RendererM Unit := do
  let answer ← ask
  match answer.refusal with
  | some e => throw e
  | none => pure ()

def createDirectDisplaySurface (d : SurfaceDescription) : RendererM SurfaceHandle := do
  let s ← get
  failIf (s.supportsDirectDisplay = false) (unsupportedError .unsupportedSurface
    "Vulkan DRM/KMS direct display extensions are unavailable.")
  acquireDrmDisplay
  let nativeSurface ← orRestoreDrm
    (createNative "Failed to create the Vulkan DRM display surface." .surface)
  let id ← reserveId
  let n ← orRestoreDrm (createFirstSwapchain id d nativeSurface d.extent)
  modify (·.addSurface id
    { description := d, nativeSurface := nativeSurface, windowMode := .displayModeFullscreen,
      displayId := d.displayId, displayMode := d.displayMode, drm := true })
  modify (·.installSwapchain id n)
  let s ← get
  pure ⟨id, s.handleGeneration⟩

def createSurface (d : SurfaceDescription) : RendererM SurfaceHandle := do
  pollPendingSubmission
  match d.type with
  | .offscreen => createOffscreenSurface d
  | .window => createWindowSurface d
  | .directDisplay => createDirectDisplaySurface d

namespace Vulkan

def getSurfaceTexture (s : Vulkan) (h : SurfaceHandle) : RendererResult TextureHandle :=
  match s.findSurface h with
  | none => .error (resourceNotFoundError "Surface")
  | some sf =>
    match sf.textures[sf.currentImage]? with
    | some texture => .ok texture
    | none => .error
      (makeError .resource .resourceNotFound "Surface has no current Vulkan texture." 0)

def getSurfaceState (s : Vulkan) (h : SurfaceHandle) : RendererResult SurfaceState :=
  match s.findSurface h with
  | none => .error (resourceNotFoundError "Surface")
  | some sf => .ok
    { type := sf.description.type, extent := sf.description.extent, windowMode := sf.windowMode,
      displayId := sf.displayId, displayMode := sf.displayMode }

end Vulkan

def resizeOffscreen (id : Nat) (sf : SurfaceRecord) (extent : RendererExtent2D) : RendererM Unit := do
  let replacement ← createTexture (offscreenTexture sf.description extent)
  modify (·.replaceOffscreen id replacement extent)
  match sf.textures with
  | old :: _ => destroyTextureRecord old.value
  | [] => pure ()

def resizeSurface (h : SurfaceHandle) (extent : RendererExtent2D) : RendererM Unit := do
  pollPendingSubmission
  let sf ← requireSurface h
  match sf.description.type with
  | .directDisplay => throw (unsupportedError .unsupportedOperation
      "A DRM/KMS DirectDisplay surface has a fixed display-mode extent.")
  | .offscreen => resizeOffscreen h.value sf extent
  | .window =>
    failIf (sf.windowMode ≠ .windowed) (unsupportedError .unsupportedOperation
      "A fullscreen Wayland surface follows the compositor extent.")
    requestExtent h.value (sf.window.getD {}) extent
    let w ← windowOf h.value
    recreateSwapchain h.value w.extent

/-- The transition of the window, and the swapchain for its new extent. -/
def enterWindowMode (id : Nat) (sf : SurfaceRecord) (r : SurfaceWindowModeRequest) :
    RendererM Unit := do
  let fullscreen : Bool := r.mode = .borderlessFullscreen
  match ← setFullscreen id fullscreen with
  | some message => throw (waylandError "Wayland fullscreen transition failed: " message)
  | none =>
    let w ← windowOf id
    tryCatch (recreateSwapchain id w.extent) fun e => do
      let _ ← setFullscreen id (sf.windowMode = .borderlessFullscreen)
      throw e
    modify (·.modifySurface id (·.inMode r.mode (if fullscreen then r.displayId else "")))

def changeWindowMode (id : Nat) (sf : SurfaceRecord) (r : SurfaceWindowModeRequest) :
    RendererM Unit := do
  failIf (r.mode = .displayModeFullscreen) (unsupportedError .unsupportedOperation
    "Wayland windows use borderless compositor fullscreen; use DirectDisplay for DRM/KMS modes.")
  if r.mode = sf.windowMode ∧ r.displayId = sf.displayId then pure ()
  else enterWindowMode id sf r

def setSurfaceWindowMode (h : SurfaceHandle) (r : SurfaceWindowModeRequest) : RendererM Unit := do
  pollPendingSubmission
  let sf ← requireSurface h
  match sf.description.type with
  | .offscreen => throw (unsupportedError .unsupportedOperation
      "Offscreen surfaces do not have a Wayland window mode.")
  | .directDisplay =>
    failIf (¬(r.mode = .displayModeFullscreen ∧ r.displayId = sf.displayId ∧
        r.displayMode = sf.displayMode))
      (unsupportedError .unsupportedOperation
        "A DRM/KMS DirectDisplay mode is fixed for the surface lifetime.")
  | .window => changeWindowMode h.value sf r

/-- The swapchain is created again when the extent of the window has changed. -/
def followExtent (id : Nat) (sf : SurfaceRecord) (events : SurfaceEvents) : RendererM SurfaceEvents :=
  if events.extentChanged = true ∧ events.extent.empty = false ∧
      events.extent ≠ sf.description.extent then do
    recreateSwapchain id events.extent
    let s ← get
    pure { events with
      extent := ((s.surfaces id).map (·.description.extent)).getD events.extent }
  else pure events

def pollSurfaceEvents (h : SurfaceHandle) : RendererM SurfaceEvents := do
  pollPendingSubmission
  let sf ← requireSurface h
  if sf.description.type ≠ .window then pure { extent := sf.description.extent }
  else
    let polled ← pollWindow h.value
    let events ← followExtent h.value sf polled
    modify (·.record (.surfacePolled h.value))
    pure events

def processSurfaceEvents (h : SurfaceHandle) : RendererM Bool := do
  let events ← pollSurfaceEvents h
  pure events.alive

namespace Vulkan

/-- The record of a surface without a swapchain leaves the table. -/
def takeSurface (s : Vulkan) (id : Nat) : Vulkan :=
  { s with
    held := s.held + ((s.surfaces id).elim [] SurfaceRecord.natives : List Native)
    surfaces := s.surfaces.set id none }

end Vulkan

/-- What is left of a surface once its swapchain or its textures are destroyed. -/
def releaseSurface (id : Nat) (sf : SurfaceRecord) : RendererM (Option RendererError) := do
  modify (·.takeSurface id)
  destroyAll sf.nativeSurface.toList
  restoreDrmDisplay sf.drm

def destroySurface (h : SurfaceHandle) : RendererM Unit := do
  pollPendingSubmission
  let sf ← requireSurface h
  waitDeviceIdleForRelease
  if sf.description.type = .offscreen then releaseSwapchain h.value
  else destroySwapchainResources h.value
  match ← releaseSurface h.value sf with
  | some e => throw e
  | none => pure ()

end WSE.Impl.Oui
