import Mathlib.Data.Multiset.AddSub
import WapitiStew.Framework.Table
import WapitiStew.Impl.Oui.RendererTypes

/-!
# The state of the Vulkan backend

The records of `platform/oui/linux/renderer/VulkanRendererBackend.cpp` and
`VulkanSubmission.h`, and the small changes of the state that the operations are made of. What
the driver and the compositor answer is given with each call; the native objects are numbered as
they are created, and what is done to them is recorded. The instance, the device and the
pipelines, which live from `initialize` to `shutdown`, are left out.
-/

namespace WSE.Impl.Oui

/-! ## Windows -/

structure WaylandWindow where
  extent : RendererExtent2D := {}
  configured : Bool := false
  alive : Bool := true
  extentChanged : Bool := false
  fullscreen : Bool := false
  topologyGeneration : Nat := 0
  deriving DecidableEq

/-- What the compositor tells a window. -/
inductive WindowEvent
  | shellSurfaceConfigure
  | topLevelConfigure (width height : Int)
  | topLevelClose
  deriving DecidableEq

/-- The extent that an event asks for; a size that is not positive leaves it to the window. -/
def WindowEvent.extent : WindowEvent → Option RendererExtent2D
  | .topLevelConfigure width height =>
    if width ≤ 0 ∨ height ≤ 0 then none else some ⟨width.toNat, height.toNat⟩
  | _ => none

namespace WaylandWindow

/-- What a configure event and an extent request do. -/
def takeExtent (w : WaylandWindow) (next : RendererExtent2D) : WaylandWindow :=
  { w with
    extentChanged := w.extent.width ≠ next.width || w.extent.height ≠ next.height
    extent := next }

def topLevelConfigure (w : WaylandWindow) (width height : Int) : WaylandWindow :=
  if width ≤ 0 ∨ height ≤ 0 then w else w.takeExtent ⟨width.toNat, height.toNat⟩

def receive (w : WaylandWindow) : WindowEvent → WaylandWindow
  | .shellSurfaceConfigure => { w with configured := true }
  | .topLevelConfigure width height => w.topLevelConfigure width height
  | .topLevelClose => { w with alive := false }

/-- What a poll reports, once the events are dispatched. -/
def events (w : WaylandWindow) (topologyGeneration : Nat) : SurfaceEvents where
  alive := w.alive
  extentChanged := w.extentChanged
  extent := w.extent
  displayTopologyChanged := w.topologyGeneration ≠ topologyGeneration

def polled (w : WaylandWindow) (topologyGeneration : Nat) : WaylandWindow :=
  { w with extentChanged := false, topologyGeneration := topologyGeneration }

end WaylandWindow

/-! ## The state of the backend -/

section

open WSE.Framework

/-! ### Native values -/

inductive VkResult
  | success | timeout | suboptimal | outOfHostMemory | outOfDeviceMemory | deviceLost | outOfDate
  | surfaceLost
  | other (code : Int)
  deriving DecidableEq

def VkResult.code : VkResult → Int
  | .success => 0
  | .timeout => 2
  | .suboptimal => 1000001003
  | .outOfHostMemory => -1
  | .outOfDeviceMemory => -2
  | .deviceLost => -4
  | .outOfDate => -1000001004
  | .surfaceLost => -1000000000
  | .other code => code

def Vulkan.backendError (message : String) (result : VkResult) : RendererError :=
  makeError .backend (if result = .deviceLost then .deviceLost else .backendFailure) message
    result.code

inductive ImageLayout
  | undefined | general | colorAttachment | shaderReadOnly | transferSource | transferDestination
  | presentSource
  deriving DecidableEq

def toNativeLayout : TextureState → ImageLayout
  | .renderTarget => .colorAttachment
  | .shaderResource => .shaderReadOnly
  | .copySource => .transferSource
  | .copyDestination => .transferDestination
  | .present => .presentSource
  | .common => .general
  | .undefined => .undefined

inductive NativeKind
  | commandBuffer | fence | buffer | memory | descriptorPool | framebuffer | image | imageView
  | surface | swapchain | semaphore
  deriving DecidableEq

structure Native where
  kind : NativeKind
  id : Nat
  deriving DecidableEq

inductive VulkanImage
  /-- With the memory it is bound to. -/
  | owned (image memory : Native)
  | presentable (swapchain : Native) (index : Nat)
  deriving DecidableEq

/-- The objects that the image is made of. -/
def VulkanImage.natives : VulkanImage → List Native
  | .owned image memory => [image, memory]
  | .presentable swapchain _ => [swapchain]

/-! ### Records -/

structure TextureRecord where
  image : VulkanImage
  view : Native
  description : TextureDescription
  state : TextureState
  layout : ImageLayout
  /-- The number of the surface, or 0. -/
  surfaceOwner : Nat := 0
  deriving DecidableEq

/-- What the record owns; `owns_image` says so of the image. -/
def TextureRecord.natives (t : TextureRecord) : List Native :=
  match t.image with
  | .owned image memory => [t.view, image, memory]
  | .presentable _ _ => [t.view]

structure MeshRecord where
  vertexBuffer : Native
  vertexMemory : Native
  indexBuffer : Native
  indexMemory : Native
  topology : PrimitiveTopology
  indexCount : Nat
  deriving DecidableEq

def MeshRecord.natives (m : MeshRecord) : List Native :=
  [m.vertexBuffer, m.vertexMemory, m.indexBuffer, m.indexMemory]

/-- What the surface's record says of its swapchain. -/
structure VulkanSwapchain where
  swapChain : Native
  acquireSemaphore : Native
  currentImage : Nat
  acquirePending : Bool
  deriving DecidableEq

def VulkanSwapchain.natives (sc : VulkanSwapchain) : List Native :=
  [sc.acquireSemaphore, sc.swapChain]

structure SurfaceRecord where
  description : SurfaceDescription
  textures : List TextureHandle := []
  swapchain : Option VulkanSwapchain := none
  nativeSurface : Option Native := none
  window : Option WaylandWindow := none
  windowMode : SurfaceWindowMode := .notApplicable
  displayId : String := ""
  displayMode : DisplayMode := {}
  /-- A DRM card is open. -/
  drm : Bool := false

/-- 0 when there is no swapchain. -/
def SurfaceRecord.currentImage (sf : SurfaceRecord) : Nat := sf.swapchain.elim 0 (·.currentImage)

/-- Without textures and swapchain. -/
def SurfaceRecord.bared (sf : SurfaceRecord) : SurfaceRecord :=
  { sf with textures := [], swapchain := none }

/-- The first submission since the image was acquired has waited for it. -/
def SurfaceRecord.consumed (sf : SurfaceRecord) : SurfaceRecord :=
  { sf with swapchain := sf.swapchain.map fun sc => { sc with acquirePending := false } }

/-- With the next image of the swapchain. -/
def SurfaceRecord.acquired (sf : SurfaceRecord) (index : Nat) : SurfaceRecord :=
  { sf with swapchain := sf.swapchain.map fun sc =>
      { sc with currentImage := index, acquirePending := true } }

/-- An offscreen surface with another texture. -/
def SurfaceRecord.replaced (sf : SurfaceRecord) (texture : TextureHandle)
    (extent : RendererExtent2D) : SurfaceRecord :=
  { sf with
    description := { sf.description with extent := extent }
    textures := texture :: sf.textures.tail }

/-- In another window mode; the display mode is for direct displays only. -/
def SurfaceRecord.inMode (sf : SurfaceRecord) (mode : SurfaceWindowMode) (displayId : String) :
    SurfaceRecord :=
  { sf with windowMode := mode, displayId := displayId, displayMode := {} }

def SurfaceRecord.natives (sf : SurfaceRecord) : List Native :=
  sf.swapchain.elim [] VulkanSwapchain.natives ++ sf.nativeSurface.toList

/-- A command with the objects it refers to, through descriptors and attachments too. -/
inductive VulkanCommand
  | pipelineBarrier (image : VulkanImage) (before after : ImageLayout)
  | copyBufferToImage (buffer memory : Native) (image : VulkanImage)
  | copyImageToBuffer (image : VulkanImage) (buffer memory : Native)
  | beginRenderPass (framebuffer : Native) (target : TextureRecord)
  | drawIndexed (mesh : MeshRecord) (source alpha : TextureRecord)
  | endRenderPass
  deriving DecidableEq

namespace VulkanCommand

def images : VulkanCommand → List VulkanImage
  | .pipelineBarrier image _ _ => [image]
  | .copyBufferToImage _ _ image => [image]
  | .copyImageToBuffer image _ _ => [image]
  | .beginRenderPass _ target => [target.image]
  | .drawIndexed _ source alpha => [source.image, alpha.image]
  | .endRenderPass => []

def uses : VulkanCommand → List Native
  | .pipelineBarrier image _ _ => image.natives
  | .copyBufferToImage buffer memory image => buffer :: memory :: image.natives
  | .copyImageToBuffer image buffer memory => buffer :: memory :: image.natives
  | .beginRenderPass framebuffer target => framebuffer :: target.view :: target.image.natives
  | .drawIndexed mesh source alpha =>
    mesh.natives ++ source.view :: source.image.natives ++ alpha.view :: alpha.image.natives
  | .endRenderPass => []

end VulkanCommand

/-- The owner of an operation's objects, and what is recorded in its command buffer. -/
structure VulkanSubmission where
  command : Option Native := none
  fence : Option Native := none
  buffer : Option Native := none
  bufferMemory : Option Native := none
  descriptorPool : Option Native := none
  framebuffer : Option Native := none
  image : Option Native := none
  imageView : Option Native := none
  imageMemory : Option Native := none
  commands : List VulkanCommand := []
  deriving DecidableEq

/-- In the order of the destructor. -/
def VulkanSubmission.natives (w : VulkanSubmission) : List Native :=
  w.command.toList ++ w.fence.toList ++ w.descriptorPool.toList ++ w.framebuffer.toList ++
    w.buffer.toList ++ w.bufferMemory.toList ++ w.imageView.toList ++ w.image.toList ++
    w.imageMemory.toList

/-! ### What the driver and the compositor answer -/

/-- The extents are those of a swapchain that can be created, and so not empty. -/
structure SurfaceCapabilities where
  /-- `none` leaves the extent to the swapchain. -/
  currentExtent : Option RendererExtent2D := none
  minImageExtent : RendererExtent2D := ⟨1, 1⟩
  maxImageExtent : RendererExtent2D := ⟨4096, 4096⟩
  supportsTransferSource : Bool := true
  current_nonempty : ∀ e ∈ currentExtent, e.empty = false := by decide
  min_nonempty : minImageExtent.empty = false := by decide
  max_nonempty : maxImageExtent.empty = false := by decide

/-- What is answered while a swapchain is created. -/
structure SwapchainAnswer where
  /-- A queue can present to the surface. -/
  presents : Bool := true
  capabilitiesResult : VkResult := .success
  capabilities : SurfaceCapabilities := {}
  /-- The format is there. -/
  hasFormat : Bool := true
  createResult : VkResult := .success
  imagesResult : VkResult := .success
  images : Nat := 2
  /-- For the views of the first images; the others are created. -/
  viewResults : List VkResult := []
  semaphoreResult : VkResult := .success
  acquireResult : VkResult := .success
  index : Nat := 0

inductive CompositorEvent
  /-- An output comes or goes. -/
  | topology
  /-- For the window of a surface, or for the one that is being created. -/
  | window (surface : Option Nat) (e : WindowEvent)
  deriving DecidableEq

structure VulkanAnswer where
  result : VkResult := .success
  /-- What is looked for is there. -/
  found : Bool := true
  index : Nat := 0
  swapchain : SwapchainAnswer := {}
  events : List CompositorEvent := []
  connected : Bool := true
  refusal : Option RendererError := none

/-! ### What is recorded -/

inductive VulkanEvent
  | created (n : Native)
  | destroyed (n : Native)
  /-- The recording of the commands ends. -/
  | ended (commands : List VulkanCommand)
  | submitted (owned : List Native) (commands : List VulkanCommand) (wait : Option Native)
    (result : VkResult)
  /-- The fence of the submission is found signalled. -/
  | signalled
  /-- The device is found idle. -/
  | idle
  /-- The device is found lost. -/
  | lost
  /-- What a native call of a submission answers: its end, its fence, the wait or the poll. -/
  | checked (result : VkResult)
  | acquired (swapchain : Native) (index : Nat) (semaphore : Native)
  | presented (swapchain : Native) (index : Nat) (result : VkResult)
  /-- A surface has a window of that extent. -/
  | windowed (surface : Nat) (extent : RendererExtent2D)
  /-- A configure event or an extent request changes the extent of the window. -/
  | sized (surface : Nat) (extent : RendererExtent2D)
  | polled (surface : Nat) (changed : Bool) (extent : RendererExtent2D)
  /-- The surface has a swapchain for the requested extent, of the actual one. -/
  | swapchainMade (surface : Nat) (requested actual : RendererExtent2D)
  | swapchainLost (surface : Nat) (swapchain : Option Native)
  /-- `pollSurfaceEvents` succeeds. -/
  | surfacePolled (surface : Nat)
  | returned (ok : Bool)
  | shutDown
  deriving DecidableEq

/-! ### The backend -/

structure Vulkan where
  initialized : Bool := false
  handleGeneration : Nat := 0
  nextResourceId : Nat := 1
  lastFenceId : Nat := 0
  completedFences : List Nat := []
  maximumTextureExtent : Nat := 0
  /-- The topology generation, when there is a Wayland connection. -/
  wayland : Option Nat := none
  hasSwapchain : Bool := false
  supportsDirectDisplay : Bool := false
  renderPasses : List (RendererPixelFormat × Bool) := []
  pipelines : List (RendererPixelFormat × ColorBlendMode × PrimitiveTopology) := []
  textures : Table TextureRecord := ∅
  meshes : Table MeshRecord := ∅
  surfaces : Table SurfaceRecord := ∅
  pendingSubmission : Option VulkanSubmission := none
  terminalSubmissionError : VkResult := .success
  /-- The owner that the operation under way holds. -/
  work : Option VulkanSubmission := none
  /-- The native objects that other local variables of the operation hold. -/
  held : Multiset Native := 0
  nextNative : Nat := 0
  answers : List VulkanAnswer := []
  log : List VulkanEvent := []

abbrev RendererM := EStateM RendererError Vulkan

namespace Vulkan

def record (s : Vulkan) (e : VulkanEvent) : Vulkan := { s with log := s.log ++ [e] }

def findTexture (s : Vulkan) (h : TextureHandle) : Option TextureRecord :=
  if h.generation ≠ s.handleGeneration then none else s.textures h.value

def findMesh (s : Vulkan) (h : MeshHandle) : Option MeshRecord :=
  if h.generation ≠ s.handleGeneration then none else s.meshes h.value

def findSurface (s : Vulkan) (h : SurfaceHandle) : Option SurfaceRecord :=
  if h.generation ≠ s.handleGeneration then none else s.surfaces h.value

/-! #### Native objects -/

def create (s : Vulkan) (kind : NativeKind) : Vulkan :=
  { s.record (.created ⟨kind, s.nextNative⟩) with
    held := ⟨kind, s.nextNative⟩ ::ₘ s.held, nextNative := s.nextNative + 1 }

def destroy (s : Vulkan) (n : Native) : Vulkan :=
  { s.record (.destroyed n) with held := s.held.erase n }

def openWork (s : Vulkan) : Vulkan := { s with work := some {} }

/-- The owner takes an object over. -/
def give (s : Vulkan) (n : Native) (f : VulkanSubmission → VulkanSubmission) : Vulkan :=
  { s with held := s.held.erase n, work := s.work.map f }

def closeWork (s : Vulkan) : Vulkan :=
  { s with held := s.held + (s.work.elim [] VulkanSubmission.natives : List Native), work := none }

def recordCommand (s : Vulkan) (c : VulkanCommand) : Vulkan :=
  { s with work := s.work.map fun w => { w with commands := w.commands ++ [c] } }

/-! #### Submissions -/

/-- The owner moves into the pending slot. -/
def retain (s : Vulkan) : Vulkan := { s with pendingSubmission := s.work, work := none }

def closePending (s : Vulkan) : Vulkan :=
  { s with
    held := s.held + (s.pendingSubmission.elim [] VulkanSubmission.natives : List Native)
    pendingSubmission := none }

def endTerminally (s : Vulkan) (result : VkResult) : Vulkan :=
  { s with terminalSubmissionError := result }

def completeFence (s : Vulkan) : Vulkan :=
  { s with
    lastFenceId := s.lastFenceId + 1
    completedFences := s.completedFences ++ [s.lastFenceId + 1] }

/-! #### Textures and meshes -/

/-- The record takes the image from the owner. -/
def keepTexture (s : Vulkan) (t : TextureRecord) : Vulkan :=
  { s with
    work := s.work.map fun w => { w with image := none, imageView := none, imageMemory := none }
    textures := s.textures.set s.nextResourceId (some t)
    nextResourceId := s.nextResourceId + 1 }

def takeTexture (s : Vulkan) (id : Nat) : Vulkan :=
  { s with
    held := s.held + ((s.textures id).elim [] TextureRecord.natives : List Native)
    textures := s.textures.set id none }

/-- What a submission does to the layout of a texture. -/
def setTextureState (s : Vulkan) (id : Nat) (layout : ImageLayout) (state : TextureState) : Vulkan :=
  match s.textures id with
  | some t => { s with textures := s.textures.set id (some { t with layout := layout, state := state }) }
  | none => s

def keepMesh (s : Vulkan) (m : MeshRecord) : Vulkan :=
  { s with
    held := s.held - (m.natives : List Native)
    meshes := s.meshes.set s.nextResourceId (some m)
    nextResourceId := s.nextResourceId + 1 }

def takeMesh (s : Vulkan) (id : Nat) : Vulkan :=
  { s with
    held := s.held + ((s.meshes id).elim [] MeshRecord.natives : List Native)
    meshes := s.meshes.set id none }

/-- The first mesh becomes the second one, which leaves the table. -/
def replaceMesh (s : Vulkan) (id replacement : Nat) : Vulkan :=
  { s with
    held := s.held + ((s.meshes id).elim [] MeshRecord.natives : List Native)
    meshes := (s.meshes.set id (s.meshes replacement)).set replacement none }

/-! #### Surfaces -/

def modifySurface (s : Vulkan) (id : Nat) (f : SurfaceRecord → SurfaceRecord) : Vulkan :=
  { s with surfaces := s.surfaces.set id ((s.surfaces id).map f) }

def modifyWindow (s : Vulkan) (id : Nat) (f : WaylandWindow → WaylandWindow) : Vulkan :=
  s.modifySurface id fun sf => { sf with window := sf.window.map f }

end Vulkan

end

end WSE.Impl.Oui
