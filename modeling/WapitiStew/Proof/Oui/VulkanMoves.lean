import WapitiStew.Framework.Ensures
import WapitiStew.Spec.Oui.VulkanRenderer

/-!
# What the operations of the Vulkan backend do, move by move

A `Move` is a small change of the state together with what makes it possible. The operations are
sequences of moves (`VulkanTextures`, `VulkanSurfaces`, `VulkanRendering`), and what every move
keeps is kept by every operation; nothing else is known of an operation where an invariant is
proved. What the moves may do depends on the call under way, through its `Scope`.
-/

namespace WSE.Proof.Oui

open WSE.Framework WSE.Impl.Oui WSE.Spec.Oui

/-! ## What there is -/

def submissionNatives (w : VulkanSubmission) : Multiset Native := (w.natives : List Native)

def textureNatives (t : TextureRecord) : Multiset Native := (t.natives : List Native)

def meshNatives (m : MeshRecord) : Multiset Native := (m.natives : List Native)

def surfaceNatives (sf : SurfaceRecord) : Multiset Native := (sf.natives : List Native)

/-- The native objects that the backend owns. -/
def allNatives (s : Vulkan) : Multiset Native :=
  s.held + Table.worth submissionNatives s.work +
    Table.worth submissionNatives s.pendingSubmission +
    Table.sum textureNatives s.textures s.nextResourceId +
    Table.sum meshNatives s.meshes s.nextResourceId +
    Table.sum surfaceNatives s.surfaces s.nextResourceId

/-- No submission is in flight. -/
def Calm (s : Vulkan) : Prop := (ownership.after s.log).inFlight = none

/-- The layouts of the images. -/
def realLayouts (s : Vulkan) : Layouts := layouts.after s.log

def imageBooks (s : Vulkan) : ImageBooks := (imageUse false).after s.log

/-- What the call under way is known to do. -/
structure Scope where
  /-- The images of swapchains that it names are acquired. -/
  names : Prop
  /-- An image may be left undefined. -/
  restores : Prop
  /-- No swapchain is given up before its image was waited for. -/
  waits : Prop
  /-- Every surface has a texture, and no swapchain is created in vain. -/
  whole : Prop

/-! ## Submissions -/

/-- What the records say once the commands are submitted. -/
def settledTextures (commands : List VulkanCommand) (states : Nat → TextureState)
    (textures : Table TextureRecord) : Table TextureRecord :=
  fun id => (textures id).map fun t =>
    { t with layout := layoutAfter commands t.image t.layout, state := states id }

def consumedSurfaces (consumed : Option Nat) (surfaces : Table SurfaceRecord) :
    Table SurfaceRecord :=
  match consumed with
  | none => surfaces
  | some id => surfaces.set id ((surfaces id).map SurfaceRecord.consumed)

def settled (s : Vulkan) (commands : List VulkanCommand) (states : Nat → TextureState)
    (consumed : Option Nat) : Vulkan :=
  { s with
    textures := settledTextures commands states s.textures
    surfaces := consumedSurfaces consumed s.surfaces }

/-- The submission of the work is possible. -/
structure Submittable (c : Scope) (s : Vulkan) (w : VulkanSubmission) (wait : Option Native) :
    Prop where
  work : s.work = some w
  calm : Calm s
  live : ∀ n ∈ submissionUses w.natives w.commands wait, n ∈ allNatives s
  images : c.names → UsesAcquired (imageBooks s) w.commands wait

/-- The wait of a submission is for the acquired image of a surface, which it consumes. -/
def Consumes (s : Vulkan) (wait : Option Native) : Option Nat → Prop
  | none => wait = none
  | some id => ∃ sf sc, s.surfaces id = some sf ∧ sf.swapchain = some sc ∧
      sc.acquirePending = true ∧ wait = some sc.acquireSemaphore

/-- The recorded commands are right. -/
structure RecordedRight (c : Scope) (s : Vulkan) (w : VulkanSubmission) : Prop where
  work : s.work = some w
  old : OldLayoutsRight (realLayouts s) w.commands
  new : ¬c.restores → NewLayoutsDefined w.commands
  once : (broughtToSampling w.commands).Nodup

/-! ## Surfaces -/

/-- What `getSurfaceState` reports. -/
def reportedState (sf : SurfaceRecord) : SurfaceState where
  type := sf.description.type
  extent := sf.description.extent
  windowMode := sf.windowMode
  displayId := sf.displayId
  displayMode := sf.displayMode

/-- The record is one that the backend may have for a surface. -/
structure SoundSurface (generation : Nat) (textures : Table TextureRecord) (id : Nat)
    (sf : SurfaceRecord) : Prop where
  number : id ≠ 0
  listed : ∀ h ∈ sf.textures, h.generation = generation ∧ ∃ t, textures h.value = some t ∧
    t.surfaceOwner = id ∧ t.description.extent = sf.description.extent
  distinct : (sf.textures.map (·.value)).Nodup
  current : ∀ sc, sf.swapchain = some sc → sc.currentImage < sf.textures.length
  bare : sf.swapchain = none → sf.description.type ≠ .offscreen → sf.textures = []
  offscreen : sf.description.type = .offscreen → sf.swapchain = none ∧ sf.textures.length ≤ 1
  window : sf.description.type = .window ↔ sf.window.isSome = true
  windowExtent : ∀ w, sf.window = some w → w.extent.empty = false
  native : sf.description.type ≠ .offscreen → sf.nativeSurface ≠ none
  state : validateSurfaceState (reportedState sf) = .ok ()

/-- The texture of a swapchain is one of its surface's, and is only drawn to and read. -/
def SoundTexture (surfaces : Table SurfaceRecord) (id : Nat) (t : TextureRecord) : Prop :=
  ∀ swapChain index, t.image = .presentable swapChain index →
    t.description.usage.sampled = false ∧ t.description.usage.transferDestination = false ∧
    ∃ sf sc, surfaces t.surfaceOwner = some sf ∧ sf.swapchain = some sc ∧
      sc.swapChain = swapChain ∧ (sf.textures[index]?).map (·.value) = some id

/-- What a new swapchain has to be when the surface takes it. -/
structure SoundSwapchain (s : Vulkan) (id : Nat) (n : NewSwapchain) : Prop where
  natives : (n.natives : Multiset Native) ≤ s.held
  textures : ∀ i (p : Nat × TextureRecord), n.textures[i]? = some p →
    p.2.image = .presentable n.swapChain i ∧ p.2.surfaceOwner = id ∧
    p.2.layout = .undefined ∧ p.2.description.extent = n.extent ∧
    p.2.description.usage.sampled = false ∧ p.2.description.usage.transferDestination = false
  fresh : ∀ p ∈ n.textures, s.textures p.1 = none ∧ p.1 < s.nextResourceId
  distinct : (n.textures.map (·.1)).Nodup
  current : n.currentImage < n.textures.length
  extent : n.extent.empty = false
  layouts : ∀ index, realLayouts s (.presentable n.swapChain index) = .undefined
  acquired : imageBooks s n.swapChain = some ⟨n.currentImage, n.acquireSemaphore, false⟩

/-- Only what the moves do not follow changes. -/
structure Quiet (s s' : Vulkan) : Prop where
  log : s'.log = s.log
  held : s'.held = s.held
  work : s'.work = s.work
  pending : s'.pendingSubmission = s.pendingSubmission
  textures : s'.textures = s.textures
  meshes : s'.meshes = s.meshes
  surfaces : s'.surfaces = s.surfaces
  generation : s'.handleGeneration = s.handleGeneration
  nextNative : s'.nextNative = s.nextNative
  nextResourceId : s'.nextResourceId = s.nextResourceId

/-- Events that only tell what is known of the submission. -/
def IsNotice : VulkanEvent → Prop
  | .signalled | .idle | .lost | .checked _ => True
  | _ => False

/-! ## The moves -/

inductive Move (c : Scope) : Vulkan → Vulkan → Prop
  | quiet {s s' : Vulkan} (h : Quiet s s') : Move c s s'
  | reserve (s : Vulkan) : Move c s { s with nextResourceId := s.nextResourceId + 1 }
  | notice (s : Vulkan) (e : VulkanEvent) (h : IsNotice e) : Move c s (s.record e)
  | create (s : Vulkan) (kind : NativeKind) : Move c s (s.create kind)
  | destroy (s : Vulkan) (n : Native) (h : n ∈ s.held) (hc : Calm s) : Move c s (s.destroy n)
  | openWork (s : Vulkan) (h : s.work = none) : Move c s s.openWork
  | give (s : Vulkan) (n : Native) (f : VulkanSubmission → VulkanSubmission) (w : VulkanSubmission)
      (h : s.work = some w) (hn : n ∈ s.held)
      (hf : submissionNatives (f w) = n ::ₘ submissionNatives w) : Move c s (s.give n f)
  | closeWork (s : Vulkan) : Move c s s.closeWork
  | recordCommand (s : Vulkan) (command : VulkanCommand) : Move c s (s.recordCommand command)
  | ended (s : Vulkan) (w : VulkanSubmission) (h : RecordedRight c s w) :
      Move c s (s.record (.ended w.commands))
  | submitted (s : Vulkan) (w : VulkanSubmission) (wait : Option Native)
      (states : Nat → TextureState) (consumed : Option Nat) (h : Submittable c s w wait)
      (hc : Consumes s wait consumed) :
      Move c s (settled (s.record (.submitted w.natives w.commands wait .success)) w.commands
        states consumed)
  | refused (s : Vulkan) (w : VulkanSubmission) (wait : Option Native) (result : VkResult)
      (consumed : Option Nat) (h : Submittable c s w wait) (hc : Consumes s wait consumed)
      (hr : result ≠ .success) :
      Move c s (s.record (.submitted w.natives w.commands wait result))
  | retain (s : Vulkan) (h : s.pendingSubmission = none) : Move c s s.retain
  | closePending (s : Vulkan) : Move c s s.closePending
  | keepTexture (s : Vulkan) (t : TextureRecord) (w : VulkanSubmission) (image memory : Native)
      (h : s.work = some w) (hi : w.image = some image) (hm : w.imageMemory = some memory)
      (hv : w.imageView = some t.view) (ht : t.image = .owned image memory)
      (hl : realLayouts s t.image = t.layout) : Move c s (s.keepTexture t)
  | takeTexture (s : Vulkan) (id : Nat)
      (h : ∀ surface sf, s.surfaces surface = some sf → id ∉ sf.textures.map (·.value)) :
      Move c s (s.takeTexture id)
  | keepMesh (s : Vulkan) (m : MeshRecord) (h : meshNatives m ≤ s.held) : Move c s (s.keepMesh m)
  | takeMesh (s : Vulkan) (id : Nat) : Move c s (s.takeMesh id)
  | replaceMesh (s : Vulkan) (id replacement : Nat) (h : id ≠ replacement)
      (hid : (s.meshes id).isSome) : Move c s (s.replaceMesh id replacement)
  | addSurface (s : Vulkan) (id : Nat) (sf : SurfaceRecord) (hid : s.surfaces id = none)
      (hn : id < s.nextResourceId) (hh : surfaceNatives sf ≤ s.held) (ht : sf.textures = [])
      (hsc : sf.swapchain = none) (hs : SoundSurface s.handleGeneration s.textures id sf)
      (hw : ∀ w, sf.window = some w → w.extentChanged = false) : Move c s (s.addSurface id sf)
  | installSwapchain (s : Vulkan) (id : Nat) (sf : SurfaceRecord) (n : NewSwapchain)
      (h : s.surfaces id = some sf) (hsc : sf.swapchain = none) (ht : sf.textures = [])
      (ho : sf.description.type ≠ .offscreen) (hn : SoundSwapchain s id n)
      (hw : ∀ w, sf.window = some w → n.requested = w.extent) :
      Move c s (s.installSwapchain id n)
  | dropSwapchain (s : Vulkan) (id : Nat) (sf : SurfaceRecord) (h : s.surfaces id = some sf)
      (hw : c.waits → SurfaceWaited sf) :
      Move c s ((s.dropSwapchain id).record
        (.swapchainLost id (sf.swapchain.map (·.swapChain))))
  | installOffscreen (s : Vulkan) (id : Nat) (sf : SurfaceRecord) (texture : TextureHandle)
      (t : TextureRecord) (hid : s.surfaces id = none) (hn : id < s.nextResourceId)
      (ht : s.textures texture.value = some t) (ho : t.surfaceOwner = 0)
      (he : surfaceNatives sf = 0) (hsc : sf.swapchain = none) (hw : sf.window = none)
      (hs : SoundSurface s.handleGeneration (s.setTextureOwner texture.value id).textures id
        { sf with textures := [texture] }) : Move c s (s.installOffscreen id sf texture)
  | replaceOffscreen (s : Vulkan) (id : Nat) (sf : SurfaceRecord) (texture : TextureHandle)
      (extent : RendererExtent2D) (t : TextureRecord) (h : s.surfaces id = some sf)
      (ht : s.textures texture.value = some t) (ho : t.surfaceOwner = 0)
      (htype : sf.description.type = .offscreen) (hg : texture.generation = s.handleGeneration)
      (he : t.description.extent = extent) (hne : extent.empty = false) :
      Move c s (s.replaceOffscreen id texture extent)
  | takeSurface (s : Vulkan) (id : Nat)
      (h : ∀ sf, s.surfaces id = some sf → sf.textures = [] ∧ sf.swapchain = none) :
      Move c s (s.takeSurface id)
  | setMode (s : Vulkan) (id : Nat) (sf : SurfaceRecord) (mode : SurfaceWindowMode)
      (displayId : String) (h : s.surfaces id = some sf)
      (hs : validateSurfaceState (reportedState (sf.inMode mode displayId)) = .ok ()) :
      Move c s (s.modifySurface id (·.inMode mode displayId))
  | window (s : Vulkan) (id : Nat) (f : WaylandWindow → WaylandWindow)
      (hf : ∀ w, (f w).extent = w.extent ∧ (f w).extentChanged = w.extentChanged) :
      Move c s (s.modifyWindow id f)
  | request (s : Vulkan) (id : Nat) (sf : SurfaceRecord) (w : WaylandWindow)
      (extent : RendererExtent2D) (h : s.surfaces id = some sf) (hw : sf.window = some w)
      (he : extent.empty = false) :
      Move c s ((s.modifyWindow id (·.takeExtent extent)).record (.sized id extent))
  | polled (s : Vulkan) (id : Nat) (sf : SurfaceRecord) (w : WaylandWindow) (topology : Nat)
      (h : s.surfaces id = some sf) (hw : sf.window = some w) :
      Move c s ((s.modifyWindow id (·.polled topology)).record
        (.polled id w.extentChanged w.extent))
  | surfacePolled (s : Vulkan) (id : Nat) (sf : SurfaceRecord) (w : WaylandWindow)
      (h : s.surfaces id = some sf) (hw : sf.window = some w)
      (hf : w.extentChanged = false)
      (hm : windowInputs.Accepts s.log → (windowReports.after s.log id).made ≠ none) :
      Move c s (s.record (.surfacePolled id))
  | acquired (s : Vulkan) (swapChain : Native) (index : Nat) (semaphore : Native)
      (h : swapChain ∈ s.held) (hb : imageBooks s swapChain = none) :
      Move c s (s.record (.acquired swapChain index semaphore))
  | presented (s : Vulkan) (id : Nat) (sf : SurfaceRecord) (sc : VulkanSwapchain)
      (result : VkResult) (h : s.surfaces id = some sf) (hsc : sf.swapchain = some sc)
      (hp : sc.acquirePending = false) (hc : c.names → imageBooks s sc.swapChain ≠ none) :
      Move c s (s.record (.presented sc.swapChain sc.currentImage result))
  | acquireNext (s : Vulkan) (id : Nat) (sf : SurfaceRecord) (sc : VulkanSwapchain) (index : Nat)
      (h : s.surfaces id = some sf) (hsc : sf.swapchain = some sc)
      (hi : index < sf.textures.length) (hb : imageBooks s sc.swapChain = none) :
      Move c s (s.acquireNext id sc index)
  | returned (s : Vulkan) (ok : Bool)
      (h : ok = true → (ownership.after s.log).terminal = false) :
      Move c s (s.record (.returned ok))
  | opened (s : Vulkan) (generation : Nat) (h : ∀ id, s.surfaces id = none) :
      Move c s { s with handleGeneration := generation }
  | closed (s : Vulkan) (h : allNatives s = 0) (ht : ∀ id, s.textures id = none)
      (hm : ∀ id, s.meshes id = none) (hs : ∀ id, s.surfaces id = none) : Move c s s.closed

/-! ## What the compositor tells -/

theorem WindowEvent.nonempty {e : WindowEvent} {extent : RendererExtent2D}
    (h : e.extent = some extent) : extent.empty = false := by
  cases e with
  | topLevelConfigure width height =>
    by_cases hpos : width ≤ 0 ∨ height ≤ 0
    · rw [WindowEvent.extent, if_pos hpos] at h
      exact nomatch h
    · rw [WindowEvent.extent, if_neg hpos] at h
      obtain rfl := Option.some.inj h
      obtain ⟨hw, hh⟩ := not_or.mp hpos
      simp only [RendererExtent2D.empty, Int.toNat_eq_zero, hw, hh, decide_false, Bool.or_self]
  | shellSurfaceConfigure => exact nomatch h
  | topLevelClose => exact nomatch h

theorem receive_none {e : WindowEvent} (h : e.extent = none) (w : WaylandWindow) :
    (w.receive e).extent = w.extent ∧ (w.receive e).extentChanged = w.extentChanged := by
  cases e with
  | topLevelConfigure width height =>
    by_cases hpos : width ≤ 0 ∨ height ≤ 0
    · simp only [WaylandWindow.receive, WaylandWindow.topLevelConfigure, if_pos hpos, and_self]
    · rw [WindowEvent.extent, if_neg hpos] at h
      exact nomatch h
  | shellSurfaceConfigure => exact ⟨rfl, rfl⟩
  | topLevelClose => exact ⟨rfl, rfl⟩

theorem receive_some {e : WindowEvent} {extent : RendererExtent2D} (h : e.extent = some extent)
    (w : WaylandWindow) : w.receive e = w.takeExtent extent := by
  cases e with
  | topLevelConfigure width height =>
    by_cases hpos : width ≤ 0 ∨ height ≤ 0
    · rw [WindowEvent.extent, if_pos hpos] at h
      exact nomatch h
    · rw [WindowEvent.extent, if_neg hpos] at h
      rw [← Option.some.inj h]
      simp only [WaylandWindow.receive, WaylandWindow.topLevelConfigure, if_neg hpos]
  | shellSurfaceConfigure => exact nomatch h
  | topLevelClose => exact nomatch h

/-- A listener that is called changes at most one window. -/
theorem Move.deliver (c : Scope) (s : Vulkan) (e : CompositorEvent) : Move c s (s.deliver e) := by
  unfold Vulkan.deliver
  split
  · exact .quiet ⟨rfl, rfl, rfl, rfl, rfl, rfl, rfl, rfl, rfl, rfl⟩
  · exact .quiet ⟨rfl, rfl, rfl, rfl, rfl, rfl, rfl, rfl, rfl, rfl⟩
  · rename_i id e
    split
    · exact .quiet ⟨rfl, rfl, rfl, rfl, rfl, rfl, rfl, rfl, rfl, rfl⟩
    · rename_i w hw
      obtain ⟨sf, hsf, hw⟩ := Option.bind_eq_some_iff.mp hw
      cases he : e.extent with
      | none => exact .window s id _ (receive_none he)
      | some extent =>
        have hreceive : (fun w : WaylandWindow => w.receive e) = (·.takeExtent extent) :=
          funext (receive_some he)
        dsimp only
        rw [hreceive]
        exact .request s id sf w extent hsf hw (WindowEvent.nonempty he)

end WSE.Proof.Oui
