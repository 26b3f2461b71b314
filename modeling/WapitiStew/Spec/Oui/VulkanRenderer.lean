import WapitiStew.Framework.History
import WapitiStew.Impl.Oui.VulkanRenderer

/-!
# Histories of the Vulkan backend

Four readings of a history of native calls: the objects that submissions use, the images of
swapchains, the layouts of images, and what a failed transition of a surface leaves.
-/

namespace WSE.Spec.Oui

open WSE.Framework WSE.Impl.Oui

/-!
## Who owns the objects of a submission

`ownership` reads off a history which native objects there are, and which of them a submission
uses that was queued and is not known to be complete. An object is destroyed once, and not while
such a submission uses it; a submission is queued when no other is, and uses what there is; after
a terminal error, a lost device or a submission that fails with the device's memory at hand,
nothing succeeds before the shutdown, which leaves nothing behind.
-/

/-- What a submission uses: what it owns, and what its commands and its wait refer to. -/
def submissionUses (owned : List Native) (commands : List VulkanCommand) (wait : Option Native) :
    List Native :=
  owned ++ commands.flatMap VulkanCommand.uses ++ wait.toList

/-- Whether the device may have the commands: it has not when it is out of memory. -/
def mayBeQueued (result : VkResult) : Bool :=
  result ≠ .outOfHostMemory && result ≠ .outOfDeviceMemory

/-- The submission has failed for good. -/
def failsForGood (result : VkResult) : Bool := mayBeQueued result && result ≠ .success

structure OwnershipBooks where
  live : Multiset Native := 0
  /-- What the submission uses that is not known to be complete. -/
  inFlight : Option (List Native) := none
  terminal : Bool := false

def ownership : Monitor VulkanEvent OwnershipBooks where
  init := {}
  next
    | b, .created n => { b with live := n ::ₘ b.live }
    | b, .destroyed n => { b with live := b.live.erase n }
    | b, .submitted owned commands wait result =>
      if mayBeQueued result then
        { b with
          inFlight := some (submissionUses owned commands wait)
          terminal := b.terminal || failsForGood result }
      else b
    | b, .checked result => { b with terminal := b.terminal || result = .deviceLost }
    | b, .signalled => { b with inFlight := none }
    | b, .idle => { b with inFlight := none }
    | b, .lost => { b with inFlight := none }
    | b, .shutDown => { b with terminal := false }
    | b, _ => b
  allowed
    | b, .created n => n ∉ b.live
    | b, .destroyed n => n ∈ b.live ∧ ∀ uses ∈ b.inFlight, n ∉ uses
    | b, .submitted owned commands wait _ =>
      b.inFlight = none ∧ ∀ n ∈ submissionUses owned commands wait, n ∈ b.live
    | b, .returned ok => ok = true → b.terminal = false
    | b, .shutDown => b.live = 0
    | _, _ => True

/-!
## The images of swapchains

`imageUse` reads off a history which image is acquired from each swapchain and whether its
semaphore was waited for. Commands are submitted on an acquired image, and the first of them
waits; the semaphore is waited for once, and before the image is presented; a presentation that
the presentation engine takes ends the acquisition. A strict reading also asks that no
swapchain is given up before the semaphore is waited for.
-/

structure AcquiredImage where
  index : Nat
  semaphore : Native
  waited : Bool := false
  deriving DecidableEq

/-- What is acquired from each swapchain. -/
abbrev ImageBooks := Native → Option AcquiredImage

/-- The wait of a submission. -/
def AcquiredImage.wait (a : AcquiredImage) (semaphore : Option Native) : AcquiredImage :=
  if semaphore = some a.semaphore then { a with waited := true } else a

/-- The presentation engine takes the image, also when the swapchain is out of date. -/
def takesImage : VkResult → Bool
  | .success | .suboptimal | .outOfDate | .surfaceLost => true
  | _ => false

/-- The commands use images only while they are acquired, and once they are waited for. -/
def UsesAcquired (b : ImageBooks) (commands : List VulkanCommand) (wait : Option Native) : Prop :=
  ∀ swapChain index, .presentable swapChain index ∈ commands.flatMap VulkanCommand.images →
    ∃ a, b swapChain = some a ∧ a.index = index ∧
      (a.waited = true ∨ wait = some a.semaphore)

/-- The wait is for an image that is acquired and was not yet waited for. -/
def WaitsOnce (b : ImageBooks) (wait : Option Native) : Prop :=
  ∀ semaphore ∈ wait, ∃ swapChain a, b swapChain = some a ∧ a.semaphore = semaphore ∧
    a.waited = false

def imageUse (strict : Bool) : Monitor VulkanEvent ImageBooks where
  init := fun _ => none
  next
    | b, .acquired swapChain index semaphore => fun sc =>
      if sc = swapChain then some { index, semaphore } else b sc
    | b, .submitted _ _ wait .success => fun sc => (b sc).map (·.wait wait)
    | b, .presented swapChain _ result => fun sc =>
      if sc = swapChain ∧ takesImage result then none else b sc
    | b, _ => b
  allowed
    | b, .acquired swapChain _ _ => b swapChain = none
    | b, .submitted _ commands wait _ => UsesAcquired b commands wait ∧ WaitsOnce b wait
    | b, .presented swapChain index _ =>
      ∃ a, b swapChain = some a ∧ a.index = index ∧ a.waited = true
    | b, .swapchainLost _ swapChain =>
      strict = true → ∀ sc ∈ swapChain, ∀ a, b sc = some a → a.waited = true
    | _, _ => True

/-- The image of the texture, if it is one of a swapchain, is acquired. -/
def ImageAcquired (b : ImageBooks) : VulkanImage → Prop
  | .owned _ _ => True
  | .presentable swapChain index => ∃ a, b swapChain = some a ∧ a.index = index

/-- And its semaphore was waited for. -/
def ImageWaited (b : ImageBooks) : VulkanImage → Prop
  | .owned _ _ => True
  | .presentable swapChain index => ∃ a, b swapChain = some a ∧ a.index = index ∧ a.waited = true

/-- What a call has to find for the images that it is given: an image of a swapchain that is
drawn to is acquired, one that is read back was drawn to, and one is there to be presented. -/
def NamesAcquired (s : Vulkan) (b : ImageBooks) : VulkanCall → Prop
  | .executeRenderPass d =>
    ∀ t, s.findTexture d.colorAttachment = some t → ImageAcquired b t.image
  | .readTexture h _ => ∀ t, s.findTexture h = some t → ImageWaited b t.image
  | .presentSurface h =>
    ∀ sf sc, s.findSurface h = some sf → sf.swapchain = some sc → b sc.swapChain ≠ none
  | _ => True

/-- The image that is acquired for the surface, if it has a swapchain, was waited for. -/
def SurfaceWaited (sf : SurfaceRecord) : Prop :=
  ∀ sc, sf.swapchain = some sc → sc.acquirePending = false

/-- What a call that may give swapchains up has to find on the surfaces that have them. -/
def GivesUpWaited (s : Vulkan) : VulkanCall → Prop
  | .resizeSurface h _ | .setSurfaceWindowMode h _ | .pollSurfaceEvents h | .processSurfaceEvents h
  | .destroySurface h => ∀ sf, s.findSurface h = some sf → SurfaceWaited sf
  | .shutdown => ∀ id sf, s.surfaces id = some sf → SurfaceWaited sf
  | _ => True

/-- No swapchain is given up before its image was waited for. -/
def NoneAbandoned (log : List VulkanEvent) : Prop :=
  ∀ pre surface swapChain post, log = pre ++ .swapchainLost surface (some swapChain) :: post →
    ∀ a, (imageUse false).after pre swapChain = some a → a.waited = true

/-!
## The layouts of images

`layouts` follows the layout of every image through the commands that are submitted. The commands
of a command buffer are checked when their recording ends: the old layout of a barrier is the one
that its image has there, the new one is not undefined, and no image is brought twice into the
layout it is sampled in.
-/

/-- The layout of the image after a command. -/
def layoutAfterCommand (image : VulkanImage) (layout : ImageLayout) : VulkanCommand → ImageLayout
  | .pipelineBarrier i _ after => if i = image then after else layout
  | _ => layout

def layoutAfter (commands : List VulkanCommand) (image : VulkanImage) (layout : ImageLayout) :
    ImageLayout :=
  commands.foldl (layoutAfterCommand image) layout

/-- The old layouts of the barriers are those of the images. -/
def OldLayoutsRight (real : VulkanImage → ImageLayout) (commands : List VulkanCommand) : Prop :=
  ∀ pre image before after post, commands = pre ++ .pipelineBarrier image before after :: post →
    before = layoutAfter pre image (real image)

/-- No barrier leaves an image undefined. -/
def NewLayoutsDefined (commands : List VulkanCommand) : Prop :=
  ∀ image before after, .pipelineBarrier image before after ∈ commands → after ≠ .undefined

/-- The images that the commands bring into the layout they are sampled in. -/
def broughtToSampling (commands : List VulkanCommand) : List VulkanImage :=
  commands.filterMap fun
    | .pipelineBarrier image _ .shaderReadOnly => some image
    | _ => none

/-- The layout of every image. -/
abbrev Layouts := VulkanImage → ImageLayout

def layouts : Monitor VulkanEvent Layouts where
  init := fun _ => .undefined
  next
    | real, .submitted _ commands _ .success => fun image => layoutAfter commands image (real image)
    | real, _ => real
  allowed
    | real, .ended commands =>
      OldLayoutsRight real commands ∧ NewLayoutsDefined commands ∧ (broughtToSampling commands).Nodup
    | _, _ => True

/-- The stored layout of each texture is the one of its image. -/
def LayoutsTracked (s : Vulkan) : Prop :=
  ∀ id t, s.textures id = some t → layouts.after s.log t.image = t.layout

/-- A call reads back a texture whose contents were never defined. -/
def ReadsUndefined (s : Vulkan) : VulkanCall → Prop
  | .readTexture h _ => ∃ t, s.findTexture h = some t ∧ t.layout = .undefined
  | _ => False

instance (s : Vulkan) (c : VulkanCall) : Decidable (ReadsUndefined s c) :=
  match c with
  | .readTexture h _ =>
    match hf : s.findTexture h with
    | none => isFalse fun ⟨_, ht, _⟩ => nomatch hf.symm.trans ht
    | some t => decidable_of_iff (t.layout = .undefined)
        ⟨fun hl => ⟨t, hf, hl⟩, fun ⟨_, ht, hl⟩ => Option.some.inj (hf.symm.trans ht) ▸ hl⟩
  | .initializeWith _ _ | .createTexture _ | .destroyTexture _ | .uploadTexture _ _ | .createMesh _
  | .updateMesh _ _ | .destroyMesh _ | .createSurface _ | .resizeSurface _ _
  | .setSurfaceWindowMode _ _ | .pollSurfaceEvents _ | .processSurfaceEvents _ | .destroySurface _
  | .presentSurface _ | .executeRenderPass _ | .shutdown => isFalse id

/-!
## What a failed surface transition leaves

A transition of a surface is a resize, a change of its window mode or a poll of its events. One
that fails should leave the reported state as it was, and a live texture of that extent.
-/

/-- The surface that the call brings into another state. -/
def transitionedSurface : VulkanCall → Option SurfaceHandle
  | .resizeSurface h _ => some h
  | .setSurfaceWindowMode h _ => some h
  | .pollSurfaceEvents h => some h
  | .processSurfaceEvents h => some h
  | _ => none

/-- The surface has a texture of the extent that it reports. -/
def HasTexture (s : Vulkan) (h : SurfaceHandle) : Prop :=
  ∃ state texture t, s.getSurfaceState h = .ok state ∧ s.getSurfaceTexture h = .ok texture ∧
    s.findTexture texture = some t ∧ t.description.extent = state.extent

/-- Nothing fails while a swapchain is created. -/
def SwapchainSucceeds (a : SwapchainAnswer) : Prop :=
  a.presents = true ∧ a.capabilitiesResult = .success ∧ a.hasFormat = true ∧
    a.createResult = .success ∧ a.imagesResult = .success ∧ a.images ≠ 0 ∧
    (∀ r ∈ a.viewResults, r = .success) ∧ a.semaphoreResult = .success ∧
    (a.acquireResult = .success ∨ a.acquireResult = .suboptimal)

instance (a : SwapchainAnswer) : Decidable (SwapchainSucceeds a) :=
  inferInstanceAs (Decidable (_ ∧ _))

/-- Whether the call may create a swapchain for a surface that has had one. -/
def recreates : VulkanCall → Bool
  | .createSurface _ => false
  | _ => true

/-- No swapchain is created again in vain. -/
def RecreatesWell (a : VulkanAction) : Prop :=
  recreates a.call = true → ∀ answer ∈ a.answers, SwapchainSucceeds answer.swapchain

instance (a : VulkanAction) : Decidable (RecreatesWell a) :=
  inferInstanceAs (Decidable (_ → _))

/-!
## The extents of windows

What a history says of the window of each surface: its extent, the one at the last poll, and the
extents that the swapchain was requested and made with; once a poll has reported a change, a
swapchain of another extent does not count. `windowReports` is the promise: a poll reports a
change whenever the extent is not the one of the last poll, and after a poll of the surface the
swapchain is for the extent of the window. `windowInputs` is what the compositor and the callers
keep to for that.
-/

structure SeenWindow where
  extent : RendererExtent2D := {}
  /-- At the last poll, or when the window was created. -/
  polled : RendererExtent2D := {}
  /-- The requested extent of the swapchain, and its actual one. -/
  made : Option (RendererExtent2D × RendererExtent2D) := none

/-- The swapchain is for that extent, or has it. -/
def SeenWindow.MadeFor (w : SeenWindow) (extent : RendererExtent2D) : Prop :=
  ∃ requested actual, w.made = some (requested, actual) ∧ (requested = extent ∨ actual = extent)

instance (w : SeenWindow) (extent : RendererExtent2D) : Decidable (w.MadeFor extent) :=
  match h : w.made with
  | none => isFalse fun ⟨_, _, hm, _⟩ => nomatch h.symm.trans hm
  | some (requested, actual) => decidable_of_iff (requested = extent ∨ actual = extent)
      ⟨fun hm => ⟨requested, actual, h, hm⟩, fun ⟨_, _, hm, he⟩ => by
        obtain ⟨rfl, rfl⟩ := Prod.mk.inj (Option.some.inj (h.symm.trans hm))
        exact he⟩

/-- A poll reports the extent, and whether it has changed. -/
def SeenWindow.poll (w : SeenWindow) (changed : Bool) (extent : RendererExtent2D) : SeenWindow :=
  { w with polled := extent, made := w.made.filter fun m => !changed || m.2 = extent }

abbrev WindowBooks := Nat → SeenWindow

def seeWindow (b : WindowBooks) (id : Nat) (w : SeenWindow) : WindowBooks :=
  fun i => if i = id then w else b i

def windowHistory (b : WindowBooks) : VulkanEvent → WindowBooks
  | .windowed id extent => seeWindow b id { extent := extent, polled := extent }
  | .sized id extent => seeWindow b id { b id with extent := extent }
  | .polled id changed extent => seeWindow b id ((b id).poll changed extent)
  | .swapchainMade id requested actual =>
    seeWindow b id { b id with made := some (requested, actual) }
  | .swapchainLost id _ => seeWindow b id { b id with made := none }
  | .shutDown => fun _ => {}
  | _ => b

def windowReports : Monitor VulkanEvent WindowBooks where
  init := fun _ => {}
  next := windowHistory
  allowed
    | b, .polled id changed extent =>
      extent = (b id).extent ∧ ((b id).extent ≠ (b id).polled → changed = true)
    | b, .surfacePolled id => (b id).MadeFor (b id).extent
    | _, _ => True

/-- A configure event or an extent request that names the extent that the window already has comes
only when that is the extent of the last poll and of the swapchain, and a surface is polled only
while it has a swapchain. -/
def windowInputs : Monitor VulkanEvent WindowBooks where
  init := fun _ => {}
  next := windowHistory
  allowed
    | b, .sized id extent =>
      extent = (b id).extent → (b id).extent = (b id).polled ∧ (b id).MadeFor extent
    | b, .polled id _ _ => (b id).made ≠ none
    | _, _ => True

instance (b : WindowBooks) (e : VulkanEvent) : Decidable (windowReports.allowed b e) :=
  match e with
  | .polled .. => inferInstanceAs (Decidable (_ ∧ _))
  | .surfacePolled id => inferInstanceAs (Decidable ((b id).MadeFor (b id).extent))
  | .created _ | .destroyed _ | .ended _ | .submitted .. | .signalled | .idle | .lost | .checked _
  | .acquired .. | .presented .. | .windowed .. | .sized .. | .swapchainMade .. | .swapchainLost ..
  | .returned _ | .shutDown => isTrue trivial

instance (b : WindowBooks) (e : VulkanEvent) : Decidable (windowInputs.allowed b e) :=
  match e with
  | .sized id extent => inferInstanceAs (Decidable (extent = (b id).extent → _ ∧ _))
  | .polled id .. => inferInstanceAs (Decidable ((b id).made ≠ none))
  | .created _ | .destroyed _ | .ended _ | .submitted .. | .signalled | .idle | .lost | .checked _
  | .acquired .. | .presented .. | .windowed .. | .swapchainMade .. | .swapchainLost ..
  | .surfacePolled _ | .returned _ | .shutDown => isTrue trivial

end WSE.Spec.Oui
