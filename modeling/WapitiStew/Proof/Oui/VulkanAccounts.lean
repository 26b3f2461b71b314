import Mathlib.Algebra.BigOperators.Group.Multiset.Defs
import WapitiStew.Proof.Oui.VulkanMoves

/-!
# The accounts of the Vulkan backend

What each move does to the native objects that the backend owns: `Owning` says that they are the
live ones of the history, each owned once, and every move keeps it.
-/

namespace WSE.Proof.Oui

open WSE.Framework WSE.Impl.Oui WSE.Spec.Oui

structure Owning (s : Vulkan) : Prop where
  accepted : ownership.Accepts s.log
  live : (ownership.after s.log).live = allNatives s
  once : (allNatives s).Nodup
  issued : ∀ n ∈ allNatives s, n.id < s.nextNative
  textures : s.textures.Below s.nextResourceId
  meshes : s.meshes.Below s.nextResourceId
  surfaces : s.surfaces.Below s.nextResourceId

/-! ## What the backend owns -/

@[simp] theorem allNatives_record (s : Vulkan) (e : VulkanEvent) :
    allNatives (s.record e) = allNatives s := rfl

theorem allNatives_create (s : Vulkan) (kind : NativeKind) :
    allNatives (s.create kind) = ⟨kind, s.nextNative⟩ ::ₘ allNatives s := by
  simp only [allNatives, Vulkan.create, Vulkan.record, Multiset.cons_add]

theorem allNatives_destroy (s : Vulkan) {n : Native} (h : n ∈ s.held) :
    allNatives s = n ::ₘ allNatives (s.destroy n) := by
  simp only [allNatives, Vulkan.destroy, Vulkan.record, ← Multiset.cons_add, Multiset.cons_erase h]

theorem allNatives_openWork {s : Vulkan} (h : s.work = none) :
    allNatives s.openWork = allNatives s := by
  have hempty : submissionNatives {} = 0 := rfl
  simp only [allNatives, Vulkan.openWork, h, Table.worth_none, Table.worth_some, hempty]

theorem allNatives_give {s : Vulkan} {n : Native} {f : VulkanSubmission → VulkanSubmission}
    {w : VulkanSubmission} (h : s.work = some w) (hn : n ∈ s.held)
    (hf : submissionNatives (f w) = n ::ₘ submissionNatives w) :
    allNatives (s.give n f) = allNatives s := by
  simp only [allNatives, Vulkan.give, h, Option.map_some, Table.worth_some, hf]
  congr 4
  rw [Multiset.add_cons, ← Multiset.cons_add, Multiset.cons_erase hn]

theorem worth_elim {α : Type} (f : α → List Native) (w : Option α) :
    ((w.elim [] f : List Native) : Multiset Native) =
      Table.worth (fun a => ((f a : List Native) : Multiset Native)) w := by
  cases w <;> rfl

theorem allNatives_closeWork (s : Vulkan) : allNatives s.closeWork = allNatives s := by
  simp only [allNatives, Vulkan.closeWork, worth_elim, Table.worth_none, add_zero]
  rfl

theorem allNatives_recordCommand (s : Vulkan) (c : VulkanCommand) :
    allNatives (s.recordCommand c) = allNatives s := by
  unfold allNatives Vulkan.recordCommand
  cases s.work <;> rfl

theorem allNatives_retain {s : Vulkan} (h : s.pendingSubmission = none) :
    allNatives s.retain = allNatives s := by
  simp only [allNatives, Vulkan.retain, h, Table.worth_none, add_zero]

theorem allNatives_closePending (s : Vulkan) : allNatives s.closePending = allNatives s := by
  simp only [allNatives, Vulkan.closePending, worth_elim, Table.worth_none, add_zero]
  show _ + _ + _ + _ + _ + _ = _
  rw [add_right_comm s.held]
  rfl

theorem allNatives_reserve {s : Vulkan} (h : Owning s) :
    allNatives { s with nextResourceId := s.nextResourceId + 1 } = allNatives s := by
  simp only [allNatives, Table.sum_succ _ (h.textures _ le_rfl), Table.sum_succ _ (h.meshes _ le_rfl),
    Table.sum_succ _ (h.surfaces _ le_rfl)]

theorem allNatives_keepTexture {s : Vulkan} (h : Owning s) {t : TextureRecord} {w : VulkanSubmission}
    {image memory : Native} (hw : s.work = some w) (hi : w.image = some image)
    (hm : w.imageMemory = some memory) (hv : w.imageView = some t.view)
    (ht : t.image = .owned image memory) : allNatives (s.keepTexture t) = allNatives s := by
  have hsum : submissionNatives w = textureNatives t + submissionNatives
      { w with image := none, imageView := none, imageMemory := none } := by
    simp only [submissionNatives, textureNatives, VulkanSubmission.natives, TextureRecord.natives,
      hi, hm, hv, ht, Option.toList, List.append_nil, List.append_assoc, List.cons_append,
      List.nil_append, Multiset.coe_add]
    simp only [← List.append_assoc]
    exact Multiset.coe_eq_coe.mpr List.perm_append_comm
  simp only [allNatives, Vulkan.keepTexture, hw, Option.map_some, Table.worth_some, hsum,
    Table.sum_insert _ h.textures le_rfl, Table.sum_succ _ (h.meshes _ le_rfl),
    Table.sum_succ _ (h.surfaces _ le_rfl)]
  abel

theorem allNatives_takeTexture {s : Vulkan} (h : s.textures.Below s.nextResourceId) (id : Nat) :
    allNatives (s.takeTexture id) = allNatives s := by
  simp only [allNatives, Vulkan.takeTexture, worth_elim, ← Table.sum_take textureNatives h (i := id)]
  show _ + Table.worth textureNatives _ + _ + _ + _ + _ + _ = _
  abel

theorem allNatives_keepMesh {s : Vulkan} (h : Owning s) {m : MeshRecord}
    (hm : meshNatives m ≤ s.held) : allNatives (s.keepMesh m) = allNatives s := by
  obtain ⟨rest, hrest⟩ := Multiset.le_iff_exists_add.mp hm
  have hheld : s.held - ((m.natives : List Native) : Multiset Native) = rest := by
    rw [hrest]
    exact add_tsub_cancel_left _ _
  simp only [allNatives, Vulkan.keepMesh, hheld, Table.sum_insert _ h.meshes le_rfl,
    Table.sum_succ _ (h.textures _ le_rfl), Table.sum_succ _ (h.surfaces _ le_rfl)]
  rw [hrest]
  abel

theorem allNatives_takeMesh {s : Vulkan} (h : s.meshes.Below s.nextResourceId) (id : Nat) :
    allNatives (s.takeMesh id) = allNatives s := by
  simp only [allNatives, Vulkan.takeMesh, worth_elim, ← Table.sum_take meshNatives h (i := id)]
  show _ + Table.worth meshNatives _ + _ + _ + _ + _ + _ = _
  abel

theorem allNatives_replaceMesh {s : Vulkan} (h : s.meshes.Below s.nextResourceId)
    {id replacement : Nat} (hne : id ≠ replacement) (hid : (s.meshes id).isSome) :
    allNatives (s.replaceMesh id replacement) = allNatives s := by
  have hlt : id < s.nextResourceId := h.lt (Option.some_get hid).symm
  have hbelow : (s.meshes.set id (s.meshes replacement)).Below s.nextResourceId := by
    intro j hj
    rw [Table.set_ne (Nat.ne_of_gt (Nat.lt_of_lt_of_le hlt hj))]
    exact h j hj
  have hset := Table.sum_change meshNatives (t := s.meshes) (a := s.meshes replacement) hlt
  have htake := Table.sum_take meshNatives hbelow (i := replacement)
  rw [Table.set_ne (Ne.symm hne)] at htake
  rw [← htake, add_right_comm, add_right_cancel_iff] at hset
  simp only [allNatives, Vulkan.replaceMesh, worth_elim]
  show _ + Table.worth meshNatives _ + _ + _ + _ + _ + _ = _
  rw [← hset]
  abel

/-! ### Surfaces -/

/-- A surface that owns as much as before. -/
theorem sum_modifySurface {s : Vulkan} {id : Nat} {f : SurfaceRecord → SurfaceRecord}
    (hf : ∀ sf, s.surfaces id = some sf → surfaceNatives (f sf) = surfaceNatives sf) (n : Nat) :
    Table.sum surfaceNatives (s.modifySurface id f).surfaces n =
      Table.sum surfaceNatives s.surfaces n := by
  show Table.sum surfaceNatives (s.surfaces.set id ((s.surfaces id).map f)) n = _
  cases hs : s.surfaces id with
  | none =>
    rw [Option.map_none, Table.set_none hs]
  | some sf => exact Table.sum_update _ hs (hf sf hs)

theorem allNatives_modifySurface {s : Vulkan} {id : Nat} {f : SurfaceRecord → SurfaceRecord}
    (hf : ∀ sf, s.surfaces id = some sf → surfaceNatives (f sf) = surfaceNatives sf) :
    allNatives (s.modifySurface id f) = allNatives s := by
  show _ + Table.sum surfaceNatives (s.modifySurface id f).surfaces s.nextResourceId = _
  rw [sum_modifySurface hf]
  rfl

theorem below_modifySurface {s : Vulkan} (h : s.surfaces.Below s.nextResourceId) (id : Nat)
    (f : SurfaceRecord → SurfaceRecord) :
    (s.modifySurface id f).surfaces.Below s.nextResourceId := by
  intro i hi
  show (s.surfaces.set id ((s.surfaces id).map f)) i = none
  rw [Table.set_apply]
  split
  · rename_i he
    rw [← he, h i hi, Option.map_none]
  · exact h i hi

theorem allNatives_takeSurface {s : Vulkan} (h : s.surfaces.Below s.nextResourceId) (id : Nat) :
    allNatives (s.takeSurface id) = allNatives s := by
  simp only [allNatives, Vulkan.takeSurface, worth_elim, ← Table.sum_take surfaceNatives h (i := id)]
  show _ + Table.worth surfaceNatives _ + _ + _ + _ + _ + _ = _
  abel

theorem allNatives_addSurface {s : Vulkan} {id : Nat} {sf : SurfaceRecord}
    (hid : s.surfaces id = none) (hn : id < s.nextResourceId) (hh : surfaceNatives sf ≤ s.held) :
    allNatives (s.addSurface id sf) = allNatives s := by
  obtain ⟨rest, hrest⟩ := Multiset.le_iff_exists_add.mp hh
  have hheld : s.held - ((sf.natives : List Native) : Multiset Native) = rest := by
    rw [hrest]
    exact add_tsub_cancel_left _ _
  have hadd : allNatives (s.addSurface id sf) = allNatives { s with
      held := s.held - ((sf.natives : List Native) : Multiset Native)
      surfaces := s.surfaces.set id (some sf) } := by
    unfold Vulkan.addSurface
    cases sf.window <;> rfl
  rw [hadd]
  simp only [allNatives, hheld, Table.sum_fill _ hn hid]
  rw [hrest]
  abel

theorem sum_setTextureOwner (s : Vulkan) (id owner n : Nat) :
    Table.sum textureNatives (s.setTextureOwner id owner).textures n =
      Table.sum textureNatives s.textures n := by
  unfold Vulkan.setTextureOwner
  cases ht : s.textures id with
  | none => rfl
  | some t => exact Table.sum_update _ ht rfl

theorem setTextureOwner_eq (s : Vulkan) (id owner : Nat) :
    s.setTextureOwner id owner = { s with textures := (s.setTextureOwner id owner).textures } := by
  unfold Vulkan.setTextureOwner
  cases s.textures id <;> rfl

theorem allNatives_setTextureOwner (s : Vulkan) (id owner : Nat) :
    allNatives (s.setTextureOwner id owner) = allNatives s := by
  rw [setTextureOwner_eq]
  simp only [allNatives, sum_setTextureOwner]

theorem allNatives_installOffscreen {s : Vulkan} {id : Nat} {sf : SurfaceRecord}
    (texture : TextureHandle) (hid : s.surfaces id = none) (hn : id < s.nextResourceId)
    (he : surfaceNatives sf = 0) :
    allNatives (s.installOffscreen id sf texture) = allNatives s := by
  have hnatives : surfaceNatives { sf with textures := [texture] } = 0 := he
  unfold Vulkan.installOffscreen
  rw [setTextureOwner_eq]
  simp only [allNatives, sum_setTextureOwner, Table.sum_fill _ hn hid, hnatives, add_zero]

/-! ### Swapchains -/

theorem takeTextures_eq (ids : List Nat) (s : Vulkan) :
    ids.foldl Vulkan.takeTexture s = { s with
      held := (ids.foldl Vulkan.takeTexture s).held
      textures := (ids.foldl Vulkan.takeTexture s).textures } := by
  induction ids generalizing s with
  | nil => rfl
  | cons id ids ih => exact ih (s.takeTexture id)

theorem below_takeTextures (ids : List Nat) {s : Vulkan} (h : s.textures.Below s.nextResourceId) :
    (ids.foldl Vulkan.takeTexture s).textures.Below s.nextResourceId := by
  induction ids generalizing s with
  | nil => exact h
  | cons id ids ih => exact ih (s := s.takeTexture id) h.erase

theorem allNatives_takeTextures (ids : List Nat) {s : Vulkan}
    (h : s.textures.Below s.nextResourceId) :
    allNatives (ids.foldl Vulkan.takeTexture s) = allNatives s := by
  induction ids generalizing s with
  | nil => rfl
  | cons id ids ih =>
    have hbelow : (s.takeTexture id).textures.Below (s.takeTexture id).nextResourceId := h.erase
    rw [List.foldl_cons, ih hbelow, allNatives_takeTexture h]

theorem allNatives_dropSwapchain {s : Vulkan} (h : Owning s) {id : Nat} {sf : SurfaceRecord}
    (hs : s.surfaces id = some sf) : allNatives (s.dropSwapchain id) = allNatives s := by
  have hlt := h.surfaces.lt hs
  have hsum := Table.sum_change surfaceNatives (t := s.surfaces)
    (a := some sf.bared) hlt
  have hnatives : surfaceNatives sf = ((sf.swapchain.elim [] VulkanSwapchain.natives : List Native) :
      Multiset Native) + surfaceNatives sf.bared := by
    simp only [surfaceNatives, SurfaceRecord.natives, SurfaceRecord.bared, Option.elim_none,
      List.nil_append, Multiset.coe_add]
  rw [hs, Table.worth_some, Table.worth_some, hnatives, ← add_assoc, add_right_cancel_iff] at hsum
  rw [← allNatives_takeTextures (sf.textures.map (·.value)) h.textures]
  unfold Vulkan.dropSwapchain
  simp only [hs]
  rw [takeTextures_eq]
  simp only [allNatives, Vulkan.modifySurface, hs, Option.map_some]
  rw [← hsum]
  abel

theorem allNatives_installSwapchain {s : Vulkan} {id : Nat} {sf : SurfaceRecord} {n : NewSwapchain}
    (h : Owning s) (hs : s.surfaces id = some sf) (hsc : sf.swapchain = none)
    (hn : SoundSwapchain s id n) : allNatives (s.installSwapchain id n) = allNatives s := by
  obtain ⟨rest, hrest⟩ := Multiset.le_iff_exists_add.mp hn.natives
  have hheld : s.held - ((n.natives : List Native) : Multiset Native) = rest := by
    rw [hrest]
    exact add_tsub_cancel_left _ _
  have hsum := Table.sum_change surfaceNatives (t := s.surfaces)
    (a := some (n.into s.handleGeneration sf)) (h.surfaces.lt hs)
  have hsurface : surfaceNatives (n.into s.handleGeneration sf) =
      ((n.record.natives : List Native) : Multiset Native) + surfaceNatives sf := by
    simp only [surfaceNatives, SurfaceRecord.natives, NewSwapchain.into, hsc, Option.elim_none,
      Option.elim_some, List.nil_append, Multiset.coe_add]
  rw [hs, Table.worth_some, Table.worth_some, hsurface, ← add_assoc, add_right_cancel_iff] at hsum
  have htextures := Table.sum_fill_all textureNatives hn.distinct hn.fresh
  have hnatives : ((n.natives : List Native) : Multiset Native) =
      (n.textures.map fun p => textureNatives p.2).sum +
        ((n.record.natives : List Native) : Multiset Native) := by
    have hflat : ∀ ps : List (Nat × TextureRecord),
        ((ps.flatMap (·.2.natives) : List Native) : Multiset Native) =
          (ps.map fun p => textureNatives p.2).sum := by
      intro ps
      induction ps with
      | nil => rfl
      | cons p ps ih =>
        rw [List.flatMap_cons, ← Multiset.coe_add, ih, List.map_cons, List.sum_cons]
        rfl
    rw [NewSwapchain.natives, ← Multiset.coe_add, hflat]
  unfold Vulkan.installSwapchain Vulkan.insertTextures
  rw [allNatives_record]
  simp only [allNatives, Vulkan.modifySurface, hs, Option.map_some, hheld, hsum, htextures]
  rw [hrest, hnatives]
  abel

/-! ### Submissions -/

theorem worth_settled (commands : List VulkanCommand) (states : Nat → TextureState)
    (textures : Table TextureRecord) (id : Nat) :
    Table.worth textureNatives (settledTextures commands states textures id) =
      Table.worth textureNatives (textures id) := by
  unfold settledTextures
  cases textures id <;> rfl

theorem sum_consumed (consumed : Option Nat) (s : Vulkan) (n : Nat) :
    Table.sum surfaceNatives (consumedSurfaces consumed s.surfaces) n =
      Table.sum surfaceNatives s.surfaces n := by
  cases consumed with
  | none => rfl
  | some id =>
    refine sum_modifySurface (f := SurfaceRecord.consumed) (fun sf _ => ?_) n
    simp only [surfaceNatives, SurfaceRecord.natives, SurfaceRecord.consumed]
    cases sf.swapchain <;> rfl

theorem allNatives_settled (s : Vulkan) (commands : List VulkanCommand)
    (states : Nat → TextureState) (consumed : Option Nat) :
    allNatives (settled s commands states consumed) = allNatives s := by
  have htextures : Table.sum textureNatives (settledTextures commands states s.textures)
      s.nextResourceId = Table.sum textureNatives s.textures s.nextResourceId :=
    Finset.sum_congr rfl fun _ _ => worth_settled ..
  simp only [allNatives, settled, htextures, sum_consumed]

/-! ## What every move keeps -/

/-- What neither creates nor destroys, and is not recorded. -/
theorem Owning.keep {s t : Vulkan} (h : Owning s) (hlog : t.log = s.log)
    (hall : allNatives t = allNatives s) (hnext : t.nextNative = s.nextNative)
    (ht : t.textures.Below t.nextResourceId) (hm : t.meshes.Below t.nextResourceId)
    (hs : t.surfaces.Below t.nextResourceId) : Owning t where
  accepted := by
    rw [hlog]
    exact h.accepted
  live := by
    rw [hlog, hall]
    exact h.live
  once := by
    rw [hall]
    exact h.once
  issued := by
    rw [hall, hnext]
    exact h.issued
  textures := ht
  meshes := hm
  surfaces := hs

/-- An event that creates and destroys nothing. -/
theorem Owning.record {s : Vulkan} (h : Owning s) {e : VulkanEvent}
    (he : ownership.allowed (ownership.after s.log) e)
    (hlive : (ownership.next (ownership.after s.log) e).live = (ownership.after s.log).live) :
    Owning (s.record e) where
  accepted := Monitor.accepts_snoc.mpr ⟨h.accepted, he⟩
  live := by
    show (ownership.after (s.log ++ [e])).live = _
    rw [Monitor.after_append]
    exact hlive.trans h.live
  once := h.once
  issued := h.issued
  textures := h.textures
  meshes := h.meshes
  surfaces := h.surfaces

theorem Owning.create {s : Vulkan} (h : Owning s) (kind : NativeKind) : Owning (s.create kind) where
  accepted := by
    refine Monitor.accepts_snoc.mpr ⟨h.accepted, fun hmem => ?_⟩
    rw [h.live] at hmem
    exact Nat.lt_irrefl _ (h.issued _ hmem)
  live := by
    show (ownership.after (s.log ++ [_])).live = _
    rw [Monitor.after_append, allNatives_create, ← h.live]
    rfl
  once := by
    rw [allNatives_create]
    exact Multiset.nodup_cons.mpr ⟨fun hmem => Nat.lt_irrefl _ (h.issued _ hmem), h.once⟩
  issued := by
    rw [allNatives_create]
    intro n hn
    show n.id < s.nextNative + 1
    obtain rfl | hn := Multiset.mem_cons.mp hn
    · exact Nat.lt_succ_self _
    · exact Nat.lt_succ_of_lt (h.issued n hn)
  textures := h.textures
  meshes := h.meshes
  surfaces := h.surfaces

theorem Owning.destroy {s : Vulkan} (h : Owning s) {n : Native} (hn : n ∈ s.held) (hc : Calm s) :
    Owning (s.destroy n) where
  accepted := by
    refine Monitor.accepts_snoc.mpr ⟨h.accepted, ?_, fun uses huses => ?_⟩
    · rw [h.live, allNatives_destroy s hn]
      exact Multiset.mem_cons_self n _
    · rw [hc] at huses
      exact nomatch huses
  live := by
    show (ownership.after (s.log ++ [_])).live = _
    rw [Monitor.after_append]
    show (ownership.after s.log).live.erase n = _
    rw [h.live, allNatives_destroy s hn, Multiset.erase_cons_head]
  once := (Multiset.nodup_cons.mp (allNatives_destroy s hn ▸ h.once)).2
  issued := fun m hm => h.issued m (allNatives_destroy s hn ▸ Multiset.mem_cons_of_mem hm)
  textures := h.textures
  meshes := h.meshes
  surfaces := h.surfaces

theorem below_consumed {s : Vulkan} (h : s.surfaces.Below s.nextResourceId) (consumed : Option Nat) :
    (consumedSurfaces consumed s.surfaces).Below s.nextResourceId := by
  cases consumed with
  | none => exact h
  | some id => exact below_modifySurface h id SurfaceRecord.consumed

theorem Owning.settled {s : Vulkan} (h : Owning s) (commands : List VulkanCommand)
    (states : Nat → TextureState) (consumed : Option Nat) :
    Owning (settled s commands states consumed) := by
  refine h.keep rfl (allNatives_settled ..) rfl (fun id hid => ?_) h.meshes
    (below_consumed h.surfaces consumed)
  show (s.textures id).map _ = none
  rw [h.textures id hid]
  rfl

theorem Owning.modifySurface {s : Vulkan} (h : Owning s) {id : Nat}
    {f : SurfaceRecord → SurfaceRecord}
    (hf : ∀ sf, s.surfaces id = some sf → surfaceNatives (f sf) = surfaceNatives sf) :
    Owning (s.modifySurface id f) :=
  h.keep rfl (allNatives_modifySurface hf) rfl h.textures h.meshes
    (below_modifySurface h.surfaces id f)

theorem Owning.modifyWindow {s : Vulkan} (h : Owning s) (id : Nat)
    (f : WaylandWindow → WaylandWindow) : Owning (s.modifyWindow id f) :=
  h.modifySurface fun _ _ => rfl

theorem Owning.takeTexture {s : Vulkan} (h : Owning s) (id : Nat) : Owning (s.takeTexture id) :=
  h.keep rfl (allNatives_takeTexture h.textures id) rfl h.textures.erase h.meshes h.surfaces

theorem Owning.dropSwapchain {s : Vulkan} (h : Owning s) {id : Nat} {sf : SurfaceRecord}
    (hs : s.surfaces id = some sf) : Owning (s.dropSwapchain id) := by
  have hall := allNatives_dropSwapchain h hs
  have hbelow := below_takeTextures (sf.textures.map (·.value)) h.textures
  have hmodify := below_modifySurface h.surfaces id SurfaceRecord.bared
  unfold Vulkan.dropSwapchain at hall ⊢
  simp only [hs] at hall ⊢
  rw [takeTextures_eq] at hall ⊢
  exact h.keep rfl hall rfl hbelow h.meshes hmodify

theorem below_setTextureOwner {s : Vulkan} (h : s.textures.Below s.nextResourceId) (id owner : Nat) :
    (s.setTextureOwner id owner).textures.Below s.nextResourceId := by
  unfold Vulkan.setTextureOwner
  split
  · rename_i ht
    exact h.set (h.lt ht)
  · exact h

theorem Owning.setTextureOwner {s : Vulkan} (h : Owning s) (id owner : Nat) :
    Owning (s.setTextureOwner id owner) := by
  have hall := allNatives_setTextureOwner s id owner
  have hbelow := below_setTextureOwner h.textures id owner
  rw [setTextureOwner_eq] at hall ⊢
  exact h.keep rfl hall rfl hbelow h.meshes h.surfaces

theorem Owning.installOffscreen {s : Vulkan} (h : Owning s) {id : Nat} {sf : SurfaceRecord}
    {texture : TextureHandle} (hid : s.surfaces id = none) (hn : id < s.nextResourceId)
    (he : surfaceNatives sf = 0) : Owning (s.installOffscreen id sf texture) := by
  have hall := allNatives_installOffscreen texture hid hn he
  have hbelow := below_setTextureOwner h.textures texture.value id
  unfold Vulkan.installOffscreen at hall ⊢
  rw [setTextureOwner_eq] at hall ⊢
  exact h.keep rfl hall rfl hbelow h.meshes (h.surfaces.set hn)

theorem Owning.installSwapchain {s : Vulkan} (h : Owning s) {id : Nat} {sf : SurfaceRecord}
    {n : NewSwapchain} (hs : s.surfaces id = some sf) (hsc : sf.swapchain = none)
    (hn : SoundSwapchain s id n) : Owning (s.installSwapchain id n) := by
  have hall := allNatives_installSwapchain h hs hsc hn
  unfold Vulkan.installSwapchain at hall ⊢
  rw [allNatives_record] at hall
  have hbelow := h.textures.fill_all fun p hp => (hn.fresh p hp).2
  have hmodify := below_modifySurface h.surfaces id (n.into s.handleGeneration)
  refine Owning.record (h.keep ?_ hall ?_ ?_ ?_ ?_) trivial rfl
  · rfl
  · rfl
  · exact hbelow
  · exact h.meshes
  · exact hmodify

theorem Owning.addSurface {s : Vulkan} (h : Owning s) {id : Nat} {sf : SurfaceRecord}
    (hid : s.surfaces id = none) (hn : id < s.nextResourceId) (hh : surfaceNatives sf ≤ s.held) :
    Owning (s.addSurface id sf) := by
  have hall := allNatives_addSurface hid hn hh
  unfold Vulkan.addSurface at hall ⊢
  have hkeep : Owning { s with
      held := s.held - ((sf.natives : List Native) : Multiset Native)
      surfaces := s.surfaces.set id (some sf) } := by
    refine h.keep rfl ?_ rfl h.textures h.meshes (h.surfaces.set hn)
    rw [← hall]
    cases sf.window <;> rfl
  cases sf.window with
  | none => exact hkeep
  | some w => exact hkeep.record trivial rfl

theorem Owning.replaceMesh {s : Vulkan} (h : Owning s) {id replacement : Nat}
    (hne : id ≠ replacement) (hid : (s.meshes id).isSome) : Owning (s.replaceMesh id replacement) := by
  refine h.keep rfl (allNatives_replaceMesh h.meshes hne hid) rfl h.textures ?_ h.surfaces
  intro i hi
  have hlt : id < s.nextResourceId := h.meshes.lt (Option.some_get hid).symm
  show ((s.meshes.set id (s.meshes replacement)).set replacement none) i = none
  rw [Table.set_apply]
  split
  · rfl
  · rw [Table.set_ne (Nat.ne_of_gt (Nat.lt_of_lt_of_le hlt hi))]
    exact h.meshes i hi

theorem Owning.submittable {c : Scope} {s : Vulkan} (h : Owning s) {w : VulkanSubmission}
    {wait : Option Native} (hw : Submittable c s w wait) (result : VkResult) :
    Owning (s.record (.submitted w.natives w.commands wait result)) := by
  refine h.record ⟨hw.calm, fun n hn => ?_⟩ ?_
  · rw [h.live]
    exact hw.live n hn
  · unfold ownership
    dsimp only
    split <;> rfl

/-- What is given back at the end of the backend's life. -/
theorem Owning.closed {s : Vulkan} (h : Owning s) (hall : allNatives s = 0)
    (ht : ∀ id, s.textures id = none) (hm : ∀ id, s.meshes id = none)
    (hs : ∀ id, s.surfaces id = none) : Owning s.closed := by
  have hzero : allNatives s.closed = 0 := by
    have hsum : ∀ {α : Type} (f : α → Multiset Native) (t : Table α), (∀ id, t id = none) →
        ∀ n, Table.sum f t n = 0 := fun f t hn n =>
      Finset.sum_eq_zero fun i _ => by rw [hn i, Table.worth_none]
    simp only [allNatives, hsum _ _ ht, hsum _ _ hm, hsum _ _ hs, add_zero] at hall
    show s.held + Table.worth submissionNatives s.work +
      Table.worth submissionNatives s.pendingSubmission + Table.sum textureNatives s.textures 1 +
      Table.sum meshNatives s.meshes 1 + Table.sum surfaceNatives s.surfaces 1 = 0
    rw [hsum _ _ ht, hsum _ _ hm, hsum _ _ hs, add_zero, add_zero, add_zero]
    exact hall
  have hrecord : Owning (s.record .shutDown) := h.record (h.live.trans hall) rfl
  exact hrecord.keep rfl (hzero.trans hall.symm) rfl (fun id _ => ht id) (fun id _ => hm id)
    (fun id _ => hs id)

/-- Every move keeps the accounts. -/
theorem Owning.move {c : Scope} {s t : Vulkan} (m : Move c s t) (h : Owning s) : Owning t := by
  cases m with
  | quiet hq =>
    refine h.keep hq.log ?_ hq.nextNative ?_ ?_ ?_
    · simp only [allNatives, hq.held, hq.work, hq.pending, hq.textures, hq.meshes, hq.surfaces,
        hq.nextResourceId]
    · rw [hq.textures, hq.nextResourceId]
      exact h.textures
    · rw [hq.meshes, hq.nextResourceId]
      exact h.meshes
    · rw [hq.surfaces, hq.nextResourceId]
      exact h.surfaces
  | reserve =>
    exact h.keep rfl (allNatives_reserve h) rfl (h.textures.mono (Nat.le_succ _))
      (h.meshes.mono (Nat.le_succ _)) (h.surfaces.mono (Nat.le_succ _))
  | notice e he => cases e <;> first | exact he.elim | exact h.record trivial rfl
  | create kind => exact h.create kind
  | destroy n hn hc => exact h.destroy hn hc
  | openWork hw => exact h.keep rfl (allNatives_openWork hw) rfl h.textures h.meshes h.surfaces
  | give n f w hw hn hf =>
    exact h.keep rfl (allNatives_give hw hn hf) rfl h.textures h.meshes h.surfaces
  | closeWork => exact h.keep rfl (allNatives_closeWork s) rfl h.textures h.meshes h.surfaces
  | recordCommand command =>
    exact h.keep rfl (allNatives_recordCommand s command) rfl h.textures h.meshes h.surfaces
  | ended w hw => exact h.record trivial rfl
  | submitted w wait states consumed hw hc =>
    exact (h.submittable hw .success).settled w.commands states consumed
  | refused w wait result consumed hw hc hr => exact h.submittable hw result
  | retain hp => exact h.keep rfl (allNatives_retain hp) rfl h.textures h.meshes h.surfaces
  | closePending => exact h.keep rfl (allNatives_closePending s) rfl h.textures h.meshes h.surfaces
  | keepTexture t w image memory hw hi hm hv ht hl =>
    exact h.keep rfl (allNatives_keepTexture h hw hi hm hv ht) rfl
      ((h.textures.mono (Nat.le_succ _)).set (Nat.lt_succ_self _))
      (h.meshes.mono (Nat.le_succ _)) (h.surfaces.mono (Nat.le_succ _))
  | takeTexture id hid => exact h.takeTexture id
  | keepMesh m hm =>
    exact h.keep rfl (allNatives_keepMesh h hm) rfl (h.textures.mono (Nat.le_succ _))
      ((h.meshes.mono (Nat.le_succ _)).set (Nat.lt_succ_self _)) (h.surfaces.mono (Nat.le_succ _))
  | takeMesh id =>
    exact h.keep rfl (allNatives_takeMesh h.meshes id) rfl h.textures h.meshes.erase h.surfaces
  | replaceMesh id replacement hne hid => exact h.replaceMesh hne hid
  | addSurface id sf hid hn hh => exact h.addSurface hid hn hh
  | installSwapchain id sf n hs hsc ht ho hn hw => exact h.installSwapchain hs hsc hn
  | dropSwapchain id sf hs => exact (h.dropSwapchain hs).record trivial rfl
  | installOffscreen id sf texture t hid hn ht ho he hsc hw hs =>
    exact h.installOffscreen hid hn he
  | replaceOffscreen id sf texture extent t hs ht ho htype hg he hne =>
    exact (h.setTextureOwner texture.value id).modifySurface fun _ _ => rfl
  | takeSurface id hid =>
    exact h.keep rfl (allNatives_takeSurface h.surfaces id) rfl h.textures h.meshes h.surfaces.erase
  | setMode id sf mode displayId hs hv => exact h.modifySurface fun _ _ => rfl
  | window id f hf => exact h.modifyWindow id f
  | request id sf w extent hs hw he => exact (h.modifyWindow id _).record trivial rfl
  | polled id sf w topology hs hw => exact (h.modifyWindow id _).record trivial rfl
  | surfacePolled id sf w hs hw hf hm => exact h.record trivial rfl
  | acquired swapChain index semaphore hn hb => exact h.record trivial rfl
  | presented id sf sc result hs hsc hp hc => exact h.record trivial rfl
  | acquireNext id sf sc index hs hsc hi hb =>
    refine (h.record (e := .acquired sc.swapChain index sc.acquireSemaphore) trivial rfl).modifySurface
      fun sf _ => ?_
    simp only [surfaceNatives, SurfaceRecord.natives, SurfaceRecord.acquired]
    cases sf.swapchain <;> rfl
  | returned ok hok => exact h.record hok rfl
  | opened generation hs => exact h.keep rfl rfl rfl h.textures h.meshes h.surfaces
  | closed hall ht hm hs => exact h.closed hall ht hm hs

/-! ## Each object has one owner -/

theorem swapChain_mem {sf : SurfaceRecord} {sc : VulkanSwapchain} (h : sf.swapchain = some sc) :
    sc.swapChain ∈ sf.natives ∧ sc.acquireSemaphore ∈ sf.natives := by
  simp [SurfaceRecord.natives, VulkanSwapchain.natives, h]

theorem held_mem {s : Vulkan} {n : Native} (hn : n ∈ s.held) : n ∈ allNatives s := by
  simp only [allNatives, Multiset.mem_add]
  exact .inl (.inl (.inl (.inl (.inl hn))))

namespace Owning

variable {s : Vulkan} (h : Owning s) {i j : Nat} {n : Native}
include h

theorem surface_inj {a b : SurfaceRecord} (hi : s.surfaces i = some a) (hj : s.surfaces j = some b)
    (ha : n ∈ a.natives) (hb : n ∈ b.natives) : i = j :=
  Table.eq_of_mem_sum (f := surfaceNatives) h.surfaces
    (Multiset.nodup_of_le (Multiset.le_add_left _ _) h.once) hi hj ha hb

theorem texture_inj {a b : TextureRecord} (hi : s.textures i = some a) (hj : s.textures j = some b)
    (ha : n ∈ a.natives) (hb : n ∈ b.natives) : i = j := by
  refine Table.eq_of_mem_sum (f := textureNatives) h.textures (Multiset.nodup_of_le ?_ h.once) hi hj
    ha hb
  calc Table.sum textureNatives s.textures s.nextResourceId
      ≤ _ + Table.sum textureNatives s.textures s.nextResourceId := Multiset.le_add_left _ _
    _ ≤ _ := Multiset.le_add_right _ _
    _ ≤ allNatives s := Multiset.le_add_right _ _

/-- What an operation holds is no surface's. -/
theorem surface_not_held {sf : SurfaceRecord} (hi : s.surfaces i = some sf) (hn : n ∈ sf.natives) :
    n ∉ s.held := by
  intro hheld
  refine Multiset.disjoint_left.mp (Multiset.nodup_add.mp h.once).2.2 ?_
    (Multiset.mem_of_le (Table.le_sum (f := surfaceNatives) h.surfaces hi) hn)
  simp only [Multiset.mem_add]
  exact .inl (.inl (.inl (.inl hheld)))

theorem mem_surface {sf : SurfaceRecord} (hi : s.surfaces i = some sf) (hn : n ∈ sf.natives) :
    n ∈ allNatives s :=
  Multiset.mem_add.mpr
    (.inr (Multiset.mem_of_le (Table.le_sum (f := surfaceNatives) h.surfaces hi) hn))

end Owning

end WSE.Proof.Oui
