import WapitiStew.Proof.Oui.VulkanAccounts

/-!
# The records of surfaces and textures

`Linked` says that the records of the surfaces and those of the textures agree: a surface lists
the textures that it owns, and the textures of a swapchain are listed by its surface. Every move
keeps it.
-/

namespace WSE.Proof.Oui

open WSE.Framework WSE.Impl.Oui WSE.Spec.Oui

structure Linked (generation : Nat) (textures : Table TextureRecord)
    (surfaces : Table SurfaceRecord) : Prop where
  surface : ∀ {id sf}, surfaces id = some sf → SoundSurface generation textures id sf
  texture : ∀ {id t}, textures id = some t → SoundTexture surfaces id t

variable {generation : Nat} {textures textures' : Table TextureRecord}
  {surfaces surfaces' : Table SurfaceRecord} {id : Nat} {sf sf' : SurfaceRecord} {t : TextureRecord}

/-! ## One table changes -/

theorem SoundSurface.of_textures (h : SoundSurface generation textures id sf)
    (ht : ∀ x ∈ sf.textures, ∀ t, textures x.value = some t → t.surfaceOwner = id →
      ∃ t', textures' x.value = some t' ∧ t'.surfaceOwner = id ∧ t'.description = t.description) :
    SoundSurface generation textures' id sf := by
  refine { h with listed := fun x hx => ?_ }
  obtain ⟨hg, t, hx', ho, he⟩ := h.listed x hx
  obtain ⟨t', ht', ho', hd⟩ := ht x hx t hx' ho
  exact ⟨hg, t', ht', ho', by rw [hd, he]⟩

/-- The same images with the same textures. -/
def SameImages (sf sf' : SurfaceRecord) : Prop :=
  sf'.textures = sf.textures ∧ sf'.swapchain.map (·.swapChain) = sf.swapchain.map (·.swapChain)

theorem SoundTexture.of_surfaces (h : SoundTexture surfaces id t)
    (hs : ∀ sf sc, surfaces t.surfaceOwner = some sf → sf.swapchain = some sc →
      ∃ sf', surfaces' t.surfaceOwner = some sf' ∧ SameImages sf sf') :
    SoundTexture surfaces' id t := by
  intro swapChain index hi
  obtain ⟨hsampled, htransfer, sf, sc, hsf, hsc, hswap, hindex⟩ := h swapChain index hi
  obtain ⟨sf', hsf', htextures, hswapchain⟩ := hs sf sc hsf hsc
  rw [hsc, Option.map_some, Option.map_eq_some_iff] at hswapchain
  obtain ⟨sc', hsc', he⟩ := hswapchain
  exact ⟨hsampled, htransfer, sf', sc', hsf', hsc', he.trans hswap, by rw [htextures, hindex]⟩

/-- A texture whose owner has no swapchain is no image of one. -/
theorem SoundTexture.owned (h : SoundTexture surfaces id t)
    (hs : ∀ sf, surfaces t.surfaceOwner = some sf → sf.swapchain = none) (swapChain : Native)
    (index : Nat) : t.image ≠ .presentable swapChain index := by
  intro hi
  obtain ⟨-, -, sf, sc, hsf, hsc, -⟩ := h swapChain index hi
  exact nomatch (hs sf hsf).symm.trans hsc

theorem SoundTexture.of_owned
    (h : ∀ swapChain index, t.image ≠ .presentable swapChain index) : SoundTexture surfaces id t :=
  fun swapChain index hi => absurd hi (h swapChain index)

namespace Linked

variable (h : Linked generation textures surfaces)
include h

/-- A texture without an owner is no image of a swapchain. -/
theorem unowned (ht : textures id = some t) (ho : t.surfaceOwner = 0) (swapChain : Native)
    (index : Nat) : t.image ≠ .presentable swapChain index := by
  refine (h.texture ht).owned (fun sf hsf => ?_) swapChain index
  rw [ho] at hsf
  exact absurd rfl (h.surface hsf).number

/-- A texture that a surface owns is not listed by another one. -/
theorem owner_eq {x : TextureHandle} (hs : surfaces id = some sf) (hx : x ∈ sf.textures)
    (ht : textures x.value = some t) : t.surfaceOwner = id := by
  obtain ⟨-, t', ht', ho, -⟩ := (h.surface hs).listed x hx
  rw [ht] at ht'
  exact Option.some.inj ht' ▸ ho

/-- A surface that changes, with the same images. -/
theorem setSurface (hs : surfaces id = some sf) (hsound : SoundSurface generation textures id sf')
    (hsame : SameImages sf sf') : Linked generation textures (surfaces.set id (some sf')) where
  surface {i si} hi := by
    rw [Table.set_apply] at hi
    split at hi
    · rename_i he
      rw [he, ← Option.some.inj hi]
      exact hsound
    · exact h.surface hi
  texture {i t} ht := by
    refine (h.texture ht).of_surfaces fun so sc hso _ => ?_
    rw [Table.set_apply]
    split
    · rename_i he
      rw [he, hs] at hso
      exact ⟨sf', rfl, Option.some.inj hso ▸ hsame⟩
    · exact ⟨so, hso, rfl, rfl⟩

theorem modifySurface {f : SurfaceRecord → SurfaceRecord}
    (hf : ∀ sf, surfaces id = some sf → SoundSurface generation textures id (f sf) ∧
      SameImages sf (f sf)) :
    Linked generation textures (surfaces.set id ((surfaces id).map f)) := by
  cases hs : surfaces id with
  | none =>
    rw [Option.map_none, Table.set_none hs]
    exact h
  | some sf => exact h.setSurface hs (hf sf hs).1 (hf sf hs).2

/-- What a submission does to the textures. -/
theorem settleTextures (commands : List VulkanCommand) (states : Nat → TextureState) :
    Linked generation (settledTextures commands states textures) surfaces where
  surface hi := by
    refine (h.surface hi).of_textures fun x _ t hx ho => ?_
    exact ⟨{ t with layout := layoutAfter commands t.image t.layout, state := states x.value },
      congrArg (Option.map _) hx, ho, rfl⟩
  texture ht swapChain index hi := by
    obtain ⟨t', ht', rfl⟩ := Option.map_eq_some_iff.mp ht
    exact h.texture ht' swapChain index hi

/-- A new texture. -/
theorem insert (hid : textures id = none)
    (ht : ∀ swapChain index, t.image ≠ .presentable swapChain index) :
    Linked generation (textures.set id (some t)) surfaces where
  surface hi := by
    refine (h.surface hi).of_textures fun x _ t hx ho => ⟨t, ?_, ho, rfl⟩
    rw [Table.set_ne, hx]
    intro he
    rw [he, hid] at hx
    cases hx
  texture {i t'} ht' := by
    rw [Table.set_apply] at ht'
    split at ht'
    · rw [← Option.some.inj ht']
      exact .of_owned ht
    · exact h.texture ht'

/-- A texture that no surface lists is taken out. -/
theorem erase (hid : ∀ i si, surfaces i = some si → id ∉ si.textures.map (·.value)) :
    Linked generation (textures.set id none) surfaces where
  surface {i si} hi := by
    refine (h.surface hi).of_textures fun x hx t hxt ho => ⟨t, ?_, ho, rfl⟩
    rw [Table.set_ne, hxt]
    intro he
    exact hid i si hi (he ▸ List.mem_map_of_mem hx)
  texture {i t'} ht' := by
    rw [Table.set_apply] at ht'
    split at ht'
    · cases ht'
    · exact h.texture ht'

/-- A texture without an owner gets one, which does not list it yet. -/
theorem setOwner (ht : textures id = some t) (ho : t.surfaceOwner = 0) (owner : Nat) :
    Linked generation (textures.set id (some { t with surfaceOwner := owner })) surfaces where
  surface {i si} hi := by
    refine (h.surface hi).of_textures fun x _ t' hx ho' => ⟨t', ?_, ho', rfl⟩
    rw [Table.set_ne, hx]
    intro he
    rw [he, ht] at hx
    exact (h.surface hi).number (ho'.symm.trans ((congrArg _ (Option.some.inj hx)).symm.trans ho))
  texture {i t'} ht' := by
    rw [Table.set_apply] at ht'
    split at ht'
    · rw [← Option.some.inj ht']
      exact .of_owned fun swapChain index => h.unowned ht ho swapChain index
    · exact h.texture ht'

/-- A new surface. -/
theorem addSurface (hid : surfaces id = none) (hs : SoundSurface generation textures id sf) :
    Linked generation textures (surfaces.set id (some sf)) where
  surface {i si} hi := by
    rw [Table.set_apply] at hi
    split at hi
    · rename_i he
      rw [he, ← Option.some.inj hi]
      exact hs
    · exact h.surface hi
  texture {i t} ht := by
    refine (h.texture ht).of_surfaces fun so sc hso _ => ⟨so, ?_, rfl, rfl⟩
    rw [Table.set_ne, hso]
    intro he
    rw [he, hid] at hso
    cases hso

/-- The images of a surface without a swapchain do not matter. -/
theorem replaceBare (hs : surfaces id = some sf) (hsc : sf.swapchain = none) {si : Option SurfaceRecord}
    (hsound : ∀ sf' ∈ si, SoundSurface generation textures id sf') :
    Linked generation textures (surfaces.set id si) where
  surface {i so} hi := by
    rw [Table.set_apply] at hi
    split at hi
    · rename_i he
      rw [he]
      exact hsound so hi
    · exact h.surface hi
  texture {i t} ht := by
    refine (h.texture ht).of_surfaces fun so sc hso hsc' => ⟨so, ?_, rfl, rfl⟩
    rw [Table.set_ne, hso]
    intro he
    rw [he, hs] at hso
    obtain rfl := Option.some.inj hso
    cases hsc.symm.trans hsc'

theorem dropSwapchain (hs : surfaces id = some sf)
    (ht : ∀ i, textures' i = if i ∈ sf.textures.map (·.value) then none else textures i) :
    Linked generation textures' (surfaces.set id (some sf.bared)) where
  surface {i si} hi := by
    rw [Table.set_apply] at hi
    split at hi
    · rename_i he
      rw [he, ← Option.some.inj hi]
      have hsound := h.surface hs
      exact { hsound with
        listed := fun x hx => absurd hx List.not_mem_nil
        distinct := List.nodup_nil
        current := fun sc hsc => by cases hsc
        bare := fun _ _ => rfl
        offscreen := fun _ => ⟨rfl, Nat.zero_le 1⟩ }
    · rename_i hne
      refine (h.surface hi).of_textures fun x _ t hx ho => ⟨t, ?_, ho, rfl⟩
      rw [ht, if_neg, hx]
      intro hmem
      obtain ⟨y, hy, he⟩ := List.mem_map.mp hmem
      exact hne (ho.symm.trans (h.owner_eq hs hy (he ▸ hx)))
  texture {i t} hi := by
    rw [ht] at hi
    split at hi
    · cases hi
    · rename_i hmem
      intro swapChain index himage
      obtain ⟨hsampled, htransfer, so, sc, hso, hsc, hswap, hindex⟩ := h.texture hi swapChain index himage
      refine ⟨hsampled, htransfer, so, sc, ?_, hsc, hswap, hindex⟩
      rw [Table.set_ne, hso]
      intro he
      rw [he, hs] at hso
      obtain rfl := Option.some.inj hso
      obtain ⟨x, hx, rfl⟩ := Option.map_eq_some_iff.mp hindex
      exact hmem (List.mem_map_of_mem (List.mem_of_getElem? hx))

end Linked

/-! ## Swapchains -/

theorem extent_of_valid {state : SurfaceState} (h : validateSurfaceState state = .ok ()) :
    state.extent.empty = false := by
  unfold validateSurfaceState at h
  cases he : state.extent.empty with
  | false => rfl
  | true =>
    rw [he] at h
    exact nomatch h

/-- The checks of a state ask of its extent that it is not empty. -/
theorem valid_of_extent {state : SurfaceState} (h : validateSurfaceState state = .ok ())
    {extent : RendererExtent2D} (he : extent.empty = false) :
    validateSurfaceState { state with extent := extent } = .ok () := by
  have hextent := extent_of_valid h
  unfold validateSurfaceState at h ⊢
  rw [hextent] at h
  dsimp only
  rw [he]
  exact h

theorem handles_value (n : NewSwapchain) (generation : Nat) :
    (n.handles generation).map (·.value) = n.textures.map (·.1) := by
  rw [NewSwapchain.handles, List.map_map]
  rfl

/-- The surface that has taken a new swapchain. -/
theorem SoundSwapchain.surface {s : Vulkan} {n : NewSwapchain} (hn : SoundSwapchain s id n)
    (hs : SoundSurface s.handleGeneration textures id sf) (ho : sf.description.type ≠ .offscreen)
    (ht : ∀ p ∈ n.textures, textures' p.1 = some p.2) :
    SoundSurface s.handleGeneration textures' id (n.into s.handleGeneration sf) where
  number := hs.number
  listed x hx := by
    obtain ⟨p, hp, rfl⟩ := List.mem_map.mp hx
    obtain ⟨i, hi⟩ := List.mem_iff_getElem?.mp hp
    obtain ⟨-, howner, -, hextent, -⟩ := hn.textures i p hi
    exact ⟨rfl, p.2, ht p hp, howner, hextent⟩
  distinct := by
    show ((n.handles _).map _).Nodup
    rw [handles_value]
    exact hn.distinct
  current sc hsc := by
    obtain rfl := Option.some.inj hsc
    show n.currentImage < (n.handles _).length
    rw [NewSwapchain.handles, List.length_map]
    exact hn.current
  bare := nofun
  offscreen htype := absurd htype ho
  window := hs.window
  windowExtent := hs.windowExtent
  native := hs.native
  state := valid_of_extent hs.state hn.extent

theorem SoundSwapchain.inserted {s : Vulkan} {n : NewSwapchain} (hn : SoundSwapchain s id n)
    {p : Nat × TextureRecord} (hp : p ∈ n.textures) :
    (s.insertTextures n.textures).textures p.1 = some p.2 :=
  Table.fill_all_mem hn.distinct hp

theorem insertTextures_ne {s : Vulkan} {n : NewSwapchain} (hid : id ∉ n.textures.map (·.1)) :
    (s.insertTextures n.textures).textures id = s.textures id :=
  Table.fill_all_ne hid

theorem Linked.installSwapchain {s : Vulkan} {n : NewSwapchain}
    (h : Linked s.handleGeneration s.textures s.surfaces) (hs : s.surfaces id = some sf)
    (hsc : sf.swapchain = none) (ho : sf.description.type ≠ .offscreen)
    (hn : SoundSwapchain s id n) :
    Linked s.handleGeneration (s.insertTextures n.textures).textures
      (s.surfaces.set id (some (n.into s.handleGeneration sf))) := by
  refine ⟨fun {i si} hi => ?_, fun {i t} hi => ?_⟩
  · rw [Table.set_apply] at hi
    split at hi
    · rename_i he
      rw [he, ← Option.some.inj hi]
      exact hn.surface (h.surface hs) ho fun p => hn.inserted
    · refine (h.surface hi).of_textures fun x _ t hx howner => ⟨t, ?_, howner, rfl⟩
      rw [insertTextures_ne, hx]
      intro hmem
      obtain ⟨p, hp, he⟩ := List.mem_map.mp hmem
      rw [← he, (hn.fresh p hp).1] at hx
      cases hx
  · by_cases hmem : i ∈ n.textures.map (·.1)
    · obtain ⟨p, hp, rfl⟩ := List.mem_map.mp hmem
      rw [hn.inserted hp] at hi
      obtain rfl := Option.some.inj hi
      obtain ⟨j, hj⟩ := List.mem_iff_getElem?.mp hp
      obtain ⟨himage, howner, -, -, hsampled, htransfer⟩ := hn.textures j p hj
      intro swapChain index hi'
      obtain ⟨rfl, rfl⟩ := VulkanImage.presentable.inj (himage.symm.trans hi')
      refine ⟨hsampled, htransfer, n.into s.handleGeneration sf, n.record, ?_, rfl, rfl, ?_⟩
      · rw [howner, Table.set_same]
      · show ((n.handles _)[j]?).map _ = _
        rw [NewSwapchain.handles, List.getElem?_map, hj]
        rfl
    · rw [insertTextures_ne hmem] at hi
      refine (h.texture hi).of_surfaces fun so sc hso hsc' => ⟨so, ?_, rfl, rfl⟩
      rw [Table.set_ne, hso]
      intro he
      rw [he, hs] at hso
      obtain rfl := Option.some.inj hso
      cases hsc.symm.trans hsc'

/-! ## Windows -/

namespace SoundSurface

variable (h : SoundSurface generation textures id sf)
include h

theorem setWindow {f : WaylandWindow → WaylandWindow}
    (hf : ∀ w, w.extent.empty = false → (f w).extent.empty = false) :
    SoundSurface generation textures id { sf with window := sf.window.map f } where
  number := h.number
  listed := h.listed
  distinct := h.distinct
  current := h.current
  bare := h.bare
  offscreen := h.offscreen
  window := by
    rw [Option.isSome_map]
    exact h.window
  windowExtent w hw := by
    obtain ⟨v, hv, rfl⟩ := Option.map_eq_some_iff.mp hw
    exact hf v (h.windowExtent v hv)
  native := h.native
  state := h.state

theorem setSwapchain {f : VulkanSwapchain → VulkanSwapchain}
    (hf : ∀ sc, sf.swapchain = some sc → (f sc).currentImage < sf.textures.length) :
    SoundSurface generation textures id { sf with swapchain := sf.swapchain.map f } where
  number := h.number
  listed := h.listed
  distinct := h.distinct
  current sc hsc := by
    obtain ⟨sc', hsc', rfl⟩ := Option.map_eq_some_iff.mp hsc
    exact hf sc' hsc'
  bare hsc := h.bare (Option.map_eq_none_iff.mp hsc)
  offscreen htype := by
    obtain ⟨hsc, hlength⟩ := h.offscreen htype
    refine ⟨?_, hlength⟩
    show sf.swapchain.map f = none
    rw [hsc, Option.map_none]
  window := h.window
  windowExtent := h.windowExtent
  native := h.native
  state := h.state

theorem inMode {mode : SurfaceWindowMode} {displayId : String}
    (hs : validateSurfaceState (reportedState (sf.inMode mode displayId)) = .ok ()) :
    SoundSurface generation textures id (sf.inMode mode displayId) :=
  { h with state := hs }

/-- An offscreen surface gets another texture of another extent. -/
theorem replaced {texture : TextureHandle} {extent : RendererExtent2D}
    (htype : sf.description.type = .offscreen) (hg : texture.generation = generation)
    (ht : textures' texture.value = some t) (ho : t.surfaceOwner = id)
    (he : t.description.extent = extent) (hne : extent.empty = false) :
    SoundSurface generation textures' id (sf.replaced texture extent) := by
  obtain ⟨hsc, hlength⟩ := h.offscreen htype
  have htail : sf.textures.tail = [] := List.eq_nil_of_length_eq_zero (by
    rw [List.length_tail]
    omega)
  have htextures : (sf.replaced texture extent).textures = [texture] := by
    show texture :: sf.textures.tail = _
    rw [htail]
  refine ⟨h.number, fun x hx => ?_, ?_, fun sc hsc' => absurd (hsc.symm.trans hsc') nofun,
    fun _ hne => absurd htype hne, fun _ => ⟨hsc, ?_⟩, h.window, h.windowExtent, h.native,
    valid_of_extent h.state hne⟩
  · rw [htextures, List.mem_singleton] at hx
    rw [hx]
    exact ⟨hg, t, ht, ho, he⟩
  · rw [htextures]
    exact List.nodup_singleton _
  · rw [htextures]
    exact Nat.le_refl 1

end SoundSurface

theorem SameImages.setSwapchain {f : VulkanSwapchain → VulkanSwapchain}
    (hf : ∀ sc, (f sc).swapChain = sc.swapChain) :
    SameImages sf { sf with swapchain := sf.swapchain.map f } := by
  refine ⟨rfl, ?_⟩
  rw [Option.map_map]
  exact congrArg (Option.map · sf.swapchain) (funext hf)

/-! ## Every move -/

/-- The records of the state agree. -/
def RecordsLinked (s : Vulkan) : Prop := Linked s.handleGeneration s.textures s.surfaces

theorem modifySurface_some {s : Vulkan} {id i : Nat} {f : SurfaceRecord → SurfaceRecord}
    {sf : SurfaceRecord} (h : (s.modifySurface id f).surfaces i = some sf) :
    i = id ∧ (∃ sf', s.surfaces id = some sf' ∧ sf = f sf') ∨ i ≠ id ∧ s.surfaces i = some sf := by
  replace h : s.surfaces.set id ((s.surfaces id).map f) i = some sf := h
  rw [Table.set_apply] at h
  split at h
  · rename_i hi
    obtain ⟨sf', hsf', rfl⟩ := Option.map_eq_some_iff.mp h
    exact .inl ⟨hi, sf', hsf', rfl⟩
  · rename_i hi
    exact .inr ⟨hi, h⟩

theorem RecordsLinked.modifyWindow {s : Vulkan} (h : RecordsLinked s) (id : Nat)
    {f : WaylandWindow → WaylandWindow}
    (hf : ∀ w, w.extent.empty = false → (f w).extent.empty = false) :
    RecordsLinked (s.modifyWindow id f) :=
  h.modifySurface fun _ hs => ⟨(h.surface hs).setWindow hf, rfl, rfl⟩

theorem RecordsLinked.setTextureOwner {s : Vulkan} (h : RecordsLinked s) (id owner : Nat)
    (ho : ∀ t, s.textures id = some t → t.surfaceOwner = 0) :
    RecordsLinked (s.setTextureOwner id owner) := by
  unfold Vulkan.setTextureOwner
  split
  · rename_i ht
    exact h.setOwner ht (ho _ ht) owner
  · exact h

theorem takeTextures_apply (ids : List Nat) (s : Vulkan) (i : Nat) :
    (ids.foldl Vulkan.takeTexture s).textures i = if i ∈ ids then none else s.textures i := by
  induction ids generalizing s with
  | nil => rfl
  | cons id ids ih =>
    rw [List.foldl_cons, ih (s.takeTexture id)]
    show (if i ∈ ids then none else s.textures.set id none i) = _
    rw [Table.set_apply]
    by_cases hi : i = id
    · simp [hi]
    · simp [hi]

theorem RecordsLinked.dropSwapchain {s : Vulkan} (h : RecordsLinked s) {id : Nat}
    {sf : SurfaceRecord} (hs : s.surfaces id = some sf) : RecordsLinked (s.dropSwapchain id) := by
  unfold Vulkan.dropSwapchain
  simp only [hs]
  rw [takeTextures_eq]
  simp only [Vulkan.modifySurface, hs, Option.map_some]
  exact Linked.dropSwapchain h hs (takeTextures_apply _ s)

theorem RecordsLinked.addSurface {s : Vulkan} (h : RecordsLinked s) {id : Nat} {sf : SurfaceRecord}
    (hid : s.surfaces id = none) (hs : SoundSurface s.handleGeneration s.textures id sf) :
    RecordsLinked (s.addSurface id sf) := by
  unfold Vulkan.addSurface
  cases sf.window <;> exact Linked.addSurface h hid hs

theorem RecordsLinked.installSwapchain {s : Vulkan} (h : RecordsLinked s) {id : Nat}
    {sf : SurfaceRecord} {n : NewSwapchain} (hs : s.surfaces id = some sf)
    (hsc : sf.swapchain = none) (ho : sf.description.type ≠ .offscreen)
    (hn : SoundSwapchain s id n) : RecordsLinked (s.installSwapchain id n) := by
  have hlinked := Linked.installSwapchain h hs hsc ho hn
  unfold Vulkan.installSwapchain
  show Linked _ _ (s.surfaces.set id ((s.surfaces id).map _))
  rw [hs, Option.map_some]
  exact hlinked

theorem RecordsLinked.settled {s : Vulkan} (h : RecordsLinked s) (commands : List VulkanCommand)
    (states : Nat → TextureState) (consumed : Option Nat) :
    RecordsLinked (settled s commands states consumed) := by
  have htextures := Linked.settleTextures h commands states
  cases consumed with
  | none => exact htextures
  | some id =>
    refine htextures.modifySurface (f := SurfaceRecord.consumed) fun sf hs => ⟨?_, ?_⟩
    · exact (htextures.surface hs).setSwapchain (htextures.surface hs).current
    · exact .setSwapchain fun _ => rfl

theorem RecordsLinked.installOffscreen {s : Vulkan} (h : RecordsLinked s) {id : Nat}
    {sf : SurfaceRecord} {texture : TextureHandle} {t : TextureRecord} (hid : s.surfaces id = none)
    (ht : s.textures texture.value = some t) (ho : t.surfaceOwner = 0)
    (hs : SoundSurface s.handleGeneration (s.setTextureOwner texture.value id).textures id
      { sf with textures := [texture] }) : RecordsLinked (s.installOffscreen id sf texture) := by
  have howner : RecordsLinked (s.setTextureOwner texture.value id) :=
    h.setTextureOwner _ id fun t' ht' => Option.some.inj (ht.symm.trans ht') ▸ ho
  unfold RecordsLinked Vulkan.installOffscreen
  rw [setTextureOwner_eq] at howner hs ⊢
  exact Linked.addSurface howner hid hs

theorem RecordsLinked.replaceOffscreen {s : Vulkan} (h : RecordsLinked s) {id : Nat}
    {sf : SurfaceRecord} {texture : TextureHandle} {extent : RendererExtent2D} {t : TextureRecord}
    (hs : s.surfaces id = some sf) (ht : s.textures texture.value = some t)
    (ho : t.surfaceOwner = 0) (htype : sf.description.type = .offscreen)
    (hg : texture.generation = s.handleGeneration) (he : t.description.extent = extent)
    (hne : extent.empty = false) : RecordsLinked (s.replaceOffscreen id texture extent) := by
  have howner : RecordsLinked (s.setTextureOwner texture.value id) :=
    h.setTextureOwner _ id fun t' ht' => Option.some.inj (ht.symm.trans ht') ▸ ho
  have hnew : (s.setTextureOwner texture.value id).textures texture.value =
      some { t with surfaceOwner := id } := by
    unfold Vulkan.setTextureOwner
    simp only [ht, Table.set_same]
  unfold RecordsLinked Vulkan.replaceOffscreen
  rw [setTextureOwner_eq] at howner hnew ⊢
  show Linked _ _ (s.surfaces.set id ((s.surfaces id).map _))
  rw [hs, Option.map_some]
  have hsound : SoundSurface s.handleGeneration (s.setTextureOwner texture.value id).textures id
      (sf.replaced texture extent) :=
    SoundSurface.replaced (h.surface hs) htype hg hnew rfl he hne
  refine Linked.replaceBare howner hs ((h.surface hs).offscreen htype).1 fun sf' hsf' => ?_
  rw [← Option.some.inj hsf']
  exact hsound

theorem RecordsLinked.acquireNext {s : Vulkan} (h : RecordsLinked s) {id : Nat} {sf : SurfaceRecord}
    (sc : VulkanSwapchain) {index : Nat} (hs : s.surfaces id = some sf)
    (hi : index < sf.textures.length) : RecordsLinked (s.acquireNext id sc index) := by
  refine Linked.modifySurface h (f := (·.acquired index)) fun si hsi => ⟨?_, ?_⟩
  · obtain rfl := Option.some.inj (hs.symm.trans hsi)
    exact (h.surface hs).setSwapchain fun _ _ => hi
  · exact .setSwapchain fun _ => rfl

theorem RecordsLinked.move {c : Scope} {s t : Vulkan} (m : Move c s t) (ho : Owning s)
    (h : RecordsLinked s) : RecordsLinked t := by
  cases m with
  | quiet hq =>
    unfold RecordsLinked
    rw [hq.generation, hq.textures, hq.surfaces]
    exact h
  | reserve | notice | create | destroy | openWork | give | closeWork | recordCommand | ended
  | refused | retain | closePending | keepMesh | takeMesh | replaceMesh | surfacePolled | acquired
  | presented | returned => exact h
  | submitted w wait states consumed hw hc => exact h.settled w.commands states consumed
  | keepTexture t w image memory hw hi hm hv ht hl =>
    refine Linked.insert h (ho.textures _ le_rfl) fun swapChain index he => ?_
    cases ht.symm.trans he
  | takeTexture id hid => exact Linked.erase h hid
  | addSurface id sf hid hn hh ht hsc hs hw => exact h.addSurface hid hs
  | installSwapchain id sf n hs hsc ht ho hn hw => exact h.installSwapchain hs hsc ho hn
  | dropSwapchain id sf hs => exact h.dropSwapchain hs
  | installOffscreen id sf texture t hid hn ht ho he hsc hw hs => exact h.installOffscreen hid ht ho hs
  | replaceOffscreen id sf texture extent t hs ht ho htype hg he hne =>
    exact h.replaceOffscreen hs ht ho htype hg he hne
  | takeSurface id hid =>
    show Linked s.handleGeneration s.textures (s.surfaces.set id none)
    cases hs : s.surfaces id with
    | none =>
      rw [Table.set_none hs]
      exact h
    | some sf =>
      exact Linked.replaceBare h hs (hid sf hs).2 fun sf' hsf' => absurd hsf' (Option.not_mem_none sf')
  | setMode id sf mode displayId hs hv =>
    refine Linked.modifySurface h (f := (·.inMode mode displayId)) fun si hsi => ⟨?_, rfl, rfl⟩
    obtain rfl := Option.some.inj (hs.symm.trans hsi)
    exact (h.surface hs).inMode hv
  | window id f hf =>
    exact h.modifyWindow id fun w hw => by rwa [(hf w).1]
  | request id sf w extent hs hw he =>
    have hmodify : RecordsLinked (s.modifyWindow id (·.takeExtent extent)) :=
      h.modifyWindow id fun _ _ => he
    exact hmodify
  | polled id sf w topology hs hw =>
    have hmodify : RecordsLinked (s.modifyWindow id (·.polled topology)) :=
      h.modifyWindow id fun _ hw => hw
    exact hmodify
  | acquireNext id sf sc index hs hsc hi hb => exact h.acquireNext sc hs hi
  | opened generation hs =>
    refine ⟨fun {id sf} hsf => ?_, fun ht => h.texture ht⟩
    cases (hs id).symm.trans hsf
  | closed hall ht hm hs =>
    refine ⟨fun {id sf} hsf => ?_, fun {id t} ht' => ?_⟩
    · cases (hs id).symm.trans hsf
    · cases (ht id).symm.trans ht'

end WSE.Proof.Oui
