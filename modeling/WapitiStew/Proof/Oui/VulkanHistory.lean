import WapitiStew.Proof.Oui.VulkanRecords

/-!
# What the history says of the records

The stored layout of a texture is the one that its image has after all that was submitted, the
record of a swapchain says which of its images is acquired, and a window has the extent that the
events have given it. Every move keeps that.
-/

namespace WSE.Proof.Oui

open WSE.Framework WSE.Impl.Oui WSE.Spec.Oui

/-! ## Layouts -/

structure Tracked (s : Vulkan) : Prop where
  stored : LayoutsTracked s
  fresh : ∀ image, ∀ n ∈ image.natives, s.nextNative ≤ n.id → realLayouts s image = .undefined

theorem realLayouts_record (s : Vulkan) (e : VulkanEvent) :
    realLayouts (s.record e) = layouts.next (realLayouts s) e :=
  Monitor.after_snoc ..

theorem layoutAfter_eq {commands : List VulkanCommand} {image : VulkanImage}
    (h : ∀ before after, .pipelineBarrier image before after ∉ commands) (layout : ImageLayout) :
    layoutAfter commands image layout = layout := by
  induction commands generalizing layout with
  | nil => rfl
  | cons c commands ih =>
    obtain ⟨hc, hcommands⟩ : (∀ before after, c ≠ .pipelineBarrier image before after) ∧
        ∀ before after, .pipelineBarrier image before after ∉ commands :=
      ⟨fun before after he => h before after (List.mem_cons.mpr (.inl he.symm)),
        fun _ _ hm => h _ _ (List.mem_cons_of_mem _ hm)⟩
    have hstep : layoutAfterCommand image layout c = layout := by
      unfold layoutAfterCommand
      split
      · rename_i i before after
        rw [if_neg]
        exact fun he => hc before after (he ▸ rfl)
      · rfl
    show layoutAfter commands image (layoutAfterCommand image layout c) = layout
    rw [hstep, ih hcommands]

/-- The objects of the images that commands refer to are used. -/
theorem image_used {commands : List VulkanCommand} {image : VulkanImage}
    (h : image ∈ commands.flatMap VulkanCommand.images) {n : Native} (hn : n ∈ image.natives) :
    n ∈ commands.flatMap VulkanCommand.uses := by
  obtain ⟨c, hc, hi⟩ := List.mem_flatMap.mp h
  refine List.mem_flatMap.mpr ⟨c, hc, ?_⟩
  cases c <;> simp only [VulkanCommand.images, List.mem_cons, List.not_mem_nil, or_false] at hi
  · subst hi
    exact hn
  · subst hi
    exact List.mem_cons_of_mem _ (List.mem_cons_of_mem _ hn)
  · subst hi
    exact List.mem_cons_of_mem _ (List.mem_cons_of_mem _ hn)
  · subst hi
    exact List.mem_cons_of_mem _ (List.mem_cons_of_mem _ hn)
  · simp only [VulkanCommand.uses, List.mem_append, List.mem_cons]
    obtain rfl | rfl := hi
    · exact .inl (.inr (.inr hn))
    · exact .inr (.inr hn)

namespace Tracked

variable {s t : Vulkan}

theorem keep (h : Tracked s) (hr : realLayouts t = realLayouts s)
    (ht : ∀ id r, t.textures id = some r → realLayouts s r.image = r.layout)
    (hn : s.nextNative ≤ t.nextNative) : Tracked t where
  stored id r hr' := by
    show realLayouts t r.image = _
    rw [hr]
    exact ht id r hr'
  fresh image n hi hn' := by
    rw [hr]
    exact h.fresh image n hi (hn.trans hn')

/-- An event that submits nothing. -/
theorem record (h : Tracked s) {e : VulkanEvent} (hlog : t.log = s.log ++ [e])
    (ht : t.textures = s.textures) (hn : s.nextNative ≤ t.nextNative)
    (he : layouts.next (realLayouts s) e = realLayouts s) : Tracked t := by
  refine h.keep ?_ ?_ hn
  · rw [realLayouts, hlog, Monitor.after_snoc]
    exact he
  · rw [ht]
    exact h.stored

theorem setTextureOwner (h : Tracked s) (id owner : Nat) : Tracked (s.setTextureOwner id owner) := by
  unfold Vulkan.setTextureOwner
  split
  · rename_i t ht
    refine h.keep rfl (fun i r hr => ?_) le_rfl
    dsimp only at hr
    rw [Table.set_apply] at hr
    split at hr
    · rw [← Option.some.inj hr]
      exact h.stored id t ht
    · exact h.stored i r hr
  · exact h

theorem takeTexture (h : Tracked s) (id : Nat) : Tracked (s.takeTexture id) := by
  refine h.keep rfl (fun i r hr => ?_) le_rfl
  replace hr : s.textures.set id none i = some r := hr
  rw [Table.set_apply] at hr
  split at hr
  · cases hr
  · exact h.stored i r hr

theorem takeTextures (h : Tracked s) (ids : List Nat) : Tracked (ids.foldl Vulkan.takeTexture s) := by
  induction ids generalizing s with
  | nil => exact h
  | cons id ids ih => exact ih (h.takeTexture id)

theorem dropSwapchain (h : Tracked s) (id : Nat) : Tracked (s.dropSwapchain id) := by
  unfold Vulkan.dropSwapchain
  split
  · exact h
  · rename_i sf _
    have htake := h.takeTextures (sf.textures.map (·.value))
    exact ⟨htake.stored, htake.fresh⟩

theorem installSwapchain (h : Tracked s) {id : Nat} {n : NewSwapchain}
    (hn : SoundSwapchain s id n) : Tracked (s.installSwapchain id n) := by
  refine Tracked.record (s := s.insertTextures n.textures) (h.keep rfl (fun i r hr => ?_) le_rfl)
    rfl rfl le_rfl rfl
  by_cases hmem : i ∈ n.textures.map (·.1)
  · obtain ⟨p, hp, rfl⟩ := List.mem_map.mp hmem
    obtain ⟨j, hj⟩ := List.mem_iff_getElem?.mp hp
    obtain ⟨himage, -, hlayout, -⟩ := hn.textures j p hj
    rw [hn.inserted hp] at hr
    rw [← Option.some.inj hr, himage, hlayout]
    exact hn.layouts j
  · rw [insertTextures_ne hmem] at hr
    exact h.stored i r hr

theorem submitted (h : Tracked s) {c : Scope} {w : VulkanSubmission} {wait : Option Native}
    (hw : Submittable c s w wait) (ho : Owning s) (states : Nat → TextureState)
    (consumed : Option Nat) :
    Tracked (settled (s.record (.submitted w.natives w.commands wait .success)) w.commands states
      consumed) where
  stored id r hr := by
    obtain ⟨t, ht, rfl⟩ := Option.map_eq_some_iff.mp hr
    show realLayouts (s.record _) t.image = layoutAfter w.commands t.image t.layout
    rw [realLayouts_record, ← h.stored id t ht]
    rfl
  fresh image n hi hn := by
    show realLayouts (s.record _) image = _
    rw [realLayouts_record]
    show layoutAfter w.commands image (realLayouts s image) = _
    rw [h.fresh image n hi hn, layoutAfter_eq]
    intro before after hmem
    have hused : n ∈ submissionUses w.natives w.commands wait :=
      List.mem_append_left _ (List.mem_append_right _
        (image_used (List.mem_flatMap.mpr ⟨_, hmem, List.mem_singleton_self _⟩) hi))
    exact Nat.not_lt.mpr hn (ho.issued n (hw.live n hused))

end Tracked

theorem Tracked.move {c : Scope} {s t : Vulkan} (m : Move c s t) (ho : Owning s) (h : Tracked s) :
    Tracked t := by
  cases m with
  | quiet hq =>
    refine h.keep ?_ ?_ (le_of_eq hq.nextNative.symm)
    · rw [realLayouts, hq.log]
      rfl
    · rw [hq.textures]
      exact h.stored
  | reserve | openWork | give | closeWork | recordCommand | retain | closePending | keepMesh
  | takeMesh | replaceMesh | takeSurface | setMode | window | opened => exact ⟨h.stored, h.fresh⟩
  | notice e he => cases e <;> first | exact he.elim | exact h.record rfl rfl le_rfl rfl
  | create kind => exact h.record rfl rfl (Nat.le_succ _) rfl
  | destroy | ended | request | polled | surfacePolled | acquired | presented | acquireNext
  | returned | closed => exact h.record rfl rfl le_rfl rfl
  | submitted w wait states consumed hw hc => exact h.submitted hw ho states consumed
  | refused w wait result consumed hw hc hr =>
    refine h.record rfl rfl le_rfl ?_
    cases result <;> first | rfl | exact absurd rfl hr
  | keepTexture t w image memory hw hi hm hv ht hl =>
    refine h.keep rfl (fun i r hr => ?_) le_rfl
    replace hr : s.textures.set s.nextResourceId (some t) i = some r := hr
    rw [Table.set_apply] at hr
    split at hr
    · rw [← Option.some.inj hr]
      exact hl
    · exact h.stored i r hr
  | takeTexture id hid => exact h.takeTexture id
  | addSurface id sf hid hn hh ht hsc hs hw =>
    unfold Vulkan.addSurface
    cases sf.window with
    | none => exact ⟨h.stored, h.fresh⟩
    | some w => exact h.record rfl rfl le_rfl rfl
  | installSwapchain id sf n hs hsc ht ho hn hw => exact h.installSwapchain hn
  | dropSwapchain id sf hs => exact (h.dropSwapchain id).record rfl rfl le_rfl rfl
  | installOffscreen id sf texture t hid hn ht ho he hsc hw hs =>
    have howner := h.setTextureOwner texture.value id
    exact ⟨howner.stored, howner.fresh⟩
  | replaceOffscreen id sf texture extent t hs ht ho htype hg he hne =>
    have howner := h.setTextureOwner texture.value id
    exact ⟨howner.stored, howner.fresh⟩

/-! ## Acquired images -/

/-- What is acquired from the swapchain is what the record says. -/
structure ImageKnown (b : ImageBooks) (sc : VulkanSwapchain) : Prop where
  pending : sc.acquirePending = true →
    b sc.swapChain = some ⟨sc.currentImage, sc.acquireSemaphore, false⟩
  waited : sc.acquirePending = false →
    ∀ a, b sc.swapChain = some a → a = ⟨sc.currentImage, sc.acquireSemaphore, true⟩

structure ImagesLinked (s : Vulkan) : Prop where
  known : ∀ id sf sc, s.surfaces id = some sf → sf.swapchain = some sc →
    ImageKnown (imageBooks s) sc
  fresh : ∀ n : Native, s.nextNative ≤ n.id → imageBooks s n = none

theorem imageBooks_record (s : Vulkan) (e : VulkanEvent) :
    imageBooks (s.record e) = (imageUse false).next (imageBooks s) e :=
  Monitor.after_snoc ..

theorem ImageKnown.congr {b b' : ImageBooks} {sc : VulkanSwapchain} (h : ImageKnown b sc)
    (hb : b' sc.swapChain = b sc.swapChain) : ImageKnown b' sc where
  pending hp := hb.trans (h.pending hp)
  waited hp a ha := h.waited hp a (hb.symm.trans ha)

theorem wait_waited (a : AcquiredImage) (h : a.waited = true) (wait : Option Native) :
    a.wait wait = a := by
  unfold AcquiredImage.wait
  split
  · rw [← h]
  · rfl

theorem wait_ne {a : AcquiredImage} {wait : Option Native} (h : wait ≠ some a.semaphore) :
    a.wait wait = a := if_neg h

/-- A submission that waits for the image of another swapchain. -/
theorem ImageKnown.waits {b : ImageBooks} {sc : VulkanSwapchain} {wait : Option Native}
    (h : ImageKnown b sc) (hw : wait ≠ some sc.acquireSemaphore) :
    ImageKnown (fun n => (b n).map (·.wait wait)) sc where
  pending hp := by
    show (b sc.swapChain).map _ = _
    rw [h.pending hp, Option.map_some, wait_ne hw]
  waited hp a ha := by
    obtain ⟨a', ha', rfl⟩ := Option.map_eq_some_iff.mp ha
    rw [h.waited hp a' ha', wait_waited _ rfl]

/-- A submission that waits for the image. -/
theorem ImageKnown.consumes {b : ImageBooks} {sc : VulkanSwapchain} (h : ImageKnown b sc)
    (hp : sc.acquirePending = true) :
    ImageKnown (fun n => (b n).map (·.wait (some sc.acquireSemaphore)))
      { sc with acquirePending := false } where
  pending := nofun
  waited _ a ha := by
    obtain ⟨a', ha', rfl⟩ := Option.map_eq_some_iff.mp ha
    obtain rfl := Option.some.inj ((h.pending hp).symm.trans ha')
    exact if_pos rfl

namespace ImagesLinked

variable {s t : Vulkan}

theorem keep (h : ImagesLinked s) (hb : imageBooks t = imageBooks s)
    (hs : ∀ id sf sc, t.surfaces id = some sf → sf.swapchain = some sc →
      ImageKnown (imageBooks s) sc)
    (hn : s.nextNative ≤ t.nextNative) : ImagesLinked t where
  known id sf sc hsf hsc := by
    rw [hb]
    exact hs id sf sc hsf hsc
  fresh n hn' := by
    rw [hb]
    exact h.fresh n (hn.trans hn')

/-- An event that acquires, presents and submits nothing. -/
theorem record (h : ImagesLinked s) {e : VulkanEvent} (hlog : t.log = s.log ++ [e])
    (ht : t.surfaces = s.surfaces) (hn : s.nextNative ≤ t.nextNative)
    (he : (imageUse false).next (imageBooks s) e = imageBooks s) : ImagesLinked t := by
  refine h.keep ?_ ?_ hn
  · rw [imageBooks, hlog, Monitor.after_snoc]
    exact he
  · rw [ht]
    exact h.known

theorem modifySurface (h : ImagesLinked s) (id : Nat) {f : SurfaceRecord → SurfaceRecord}
    (hf : ∀ sf, (f sf).swapchain = sf.swapchain) : ImagesLinked (s.modifySurface id f) := by
  refine h.keep rfl (fun i sf sc hsf hsc => ?_) le_rfl
  obtain ⟨-, sf', hsf', rfl⟩ | ⟨-, hsf⟩ := modifySurface_some hsf
  · exact h.known id sf' sc hsf' ((hf sf').symm.trans hsc)
  · exact h.known i sf sc hsf hsc

theorem modifyWindow (h : ImagesLinked s) (id : Nat) (f : WaylandWindow → WaylandWindow) :
    ImagesLinked (s.modifyWindow id f) := h.modifySurface id fun _ => rfl

theorem setSurface (h : ImagesLinked s) {id : Nat} (si : Option SurfaceRecord)
    (ht : t.surfaces = s.surfaces.set id si) (hb : imageBooks t = imageBooks s)
    (hn : s.nextNative ≤ t.nextNative)
    (hsi : ∀ sf ∈ si, ∀ sc, sf.swapchain = some sc → ImageKnown (imageBooks s) sc) :
    ImagesLinked t := by
  refine h.keep hb (fun i sf sc hsf hsc => ?_) hn
  rw [ht, Table.set_apply] at hsf
  split at hsf
  · exact hsi sf hsf sc hsc
  · exact h.known i sf sc hsf hsc

theorem submitted (h : ImagesLinked s) (ho : Owning s) (w : VulkanSubmission)
    {wait : Option Native} {consumed : Option Nat} (hc : Consumes s wait consumed)
    (states : Nat → TextureState) :
    ImagesLinked (settled (s.record (.submitted w.natives w.commands wait .success)) w.commands
      states consumed) := by
  have hb : imageBooks (settled (s.record (.submitted w.natives w.commands wait .success))
      w.commands states consumed) = fun n => (imageBooks s n).map (·.wait wait) :=
    imageBooks_record ..
  refine ⟨fun i sf sc hsf hsc => ?_, fun n hn => ?_⟩
  · rw [hb]
    cases consumed with
    | none =>
      obtain rfl : wait = none := hc
      exact (h.known i sf sc hsf hsc).waits nofun
    | some id =>
      obtain ⟨sf', sc', hsf', hsc', hp, rfl⟩ := hc
      obtain ⟨rfl, si, hsi, rfl⟩ | ⟨hne, hsi⟩ := modifySurface_some (s := s) hsf
      · obtain rfl := Option.some.inj (hsf'.symm.trans hsi)
        obtain ⟨sc'', hsc'', rfl⟩ := Option.map_eq_some_iff.mp hsc
        obtain rfl := Option.some.inj (hsc'.symm.trans hsc'')
        exact (h.known i sf' sc' hsf' hsc').consumes hp
      · refine (h.known i sf sc hsi hsc).waits fun he => hne ?_
        refine ho.surface_inj hsi hsf' (swapChain_mem hsc).2 ?_
        rw [← Option.some.inj he]
        exact (swapChain_mem hsc').2
  · rw [hb]
    show (imageBooks s n).map _ = none
    rw [h.fresh n hn, Option.map_none]

theorem presented (h : ImagesLinked s) (ho : Owning s) {id : Nat} {sf : SurfaceRecord}
    {sc : VulkanSwapchain} (hs : s.surfaces id = some sf) (hsc : sf.swapchain = some sc)
    (hp : sc.acquirePending = false) (result : VkResult) :
    ImagesLinked (s.record (.presented sc.swapChain sc.currentImage result)) := by
  refine ⟨fun i si sc' hsi hsc' => ?_, fun n hn => ?_⟩
  · rw [imageBooks_record]
    by_cases he : sc'.swapChain = sc.swapChain
    · -- it is the swapchain of the same surface
      have hid : i = id := ho.surface_inj hsi hs (swapChain_mem hsc').1 (he ▸ (swapChain_mem hsc).1)
      subst hid
      obtain rfl := Option.some.inj (hs.symm.trans hsi)
      obtain rfl := Option.some.inj (hsc.symm.trans hsc')
      refine ⟨fun hp' => absurd hp' (by rw [hp]; decide), fun _ a ha => ?_⟩
      replace ha : (if sc.swapChain = sc.swapChain ∧ takesImage result then none
        else imageBooks s sc.swapChain) = some a := ha
      split at ha
      · exact nomatch ha
      · exact (h.known i sf sc hs hsc).waited hp a ha
    · refine (h.known i si sc' hsi hsc').congr ?_
      exact if_neg fun hc => he hc.1
  · rw [imageBooks_record]
    show (if _ then none else imageBooks s n) = none
    rw [h.fresh n hn, ite_self]

theorem acquired (h : ImagesLinked s) (ho : Owning s) {swapChain : Native} (index : Nat)
    (semaphore : Native) (hn : swapChain ∈ s.held) :
    ImagesLinked (s.record (.acquired swapChain index semaphore)) := by
  refine ⟨fun i si sc hsi hsc => ?_, fun n hn' => ?_⟩
  · rw [imageBooks_record]
    refine (h.known i si sc hsi hsc).congr (if_neg fun he => ?_)
    exact ho.surface_not_held hsi (swapChain_mem hsc).1 (he ▸ hn)
  · rw [imageBooks_record]
    refine (if_neg fun he => ?_).trans (h.fresh n hn')
    subst he
    exact Nat.not_lt.mpr hn' (ho.issued n (held_mem hn))

theorem acquireNext (h : ImagesLinked s) (ho : Owning s) {id : Nat} {sf : SurfaceRecord}
    {sc : VulkanSwapchain} (index : Nat) (hs : s.surfaces id = some sf)
    (hsc : sf.swapchain = some sc) : ImagesLinked (s.acquireNext id sc index) := by
  have hb : imageBooks (s.acquireNext id sc index) =
      (imageUse false).next (imageBooks s) (.acquired sc.swapChain index sc.acquireSemaphore) :=
    imageBooks_record ..
  refine ⟨fun i si sc' hsi hsc' => ?_, fun n hn => ?_⟩
  · rw [hb]
    obtain ⟨rfl, sf', hsf', rfl⟩ | ⟨hne, hsi⟩ := modifySurface_some
      (s := s.record (.acquired sc.swapChain index sc.acquireSemaphore)) hsi
    · obtain rfl := Option.some.inj (hs.symm.trans hsf')
      obtain ⟨sc'', hsc'', rfl⟩ := Option.map_eq_some_iff.mp hsc'
      obtain rfl := Option.some.inj (hsc.symm.trans hsc'')
      exact ⟨fun _ => if_pos rfl, nofun⟩
    · refine (h.known i si sc' hsi hsc').congr (if_neg fun he => hne ?_)
      exact ho.surface_inj hsi hs (swapChain_mem hsc').1 (he ▸ (swapChain_mem hsc).1)
  · rw [hb]
    refine (if_neg fun he => ?_).trans (h.fresh n hn)
    subst he
    exact Nat.not_lt.mpr hn (ho.issued _ (ho.mem_surface hs (swapChain_mem hsc).1))

theorem dropSwapchain (h : ImagesLinked s) (id : Nat) : ImagesLinked (s.dropSwapchain id) := by
  unfold Vulkan.dropSwapchain
  cases hs : s.surfaces id with
  | none => exact h
  | some sf =>
    dsimp only
    rw [takeTextures_eq]
    refine h.setSurface ((s.surfaces id).map SurfaceRecord.bared) rfl rfl le_rfl ?_
    rw [hs, Option.map_some]
    intro sf' hsf' sc hsc
    rw [← Option.some.inj hsf'] at hsc
    exact nomatch hsc

end ImagesLinked

theorem ImagesLinked.move {c : Scope} {s t : Vulkan} (m : Move c s t) (ho : Owning s)
    (h : ImagesLinked s) : ImagesLinked t := by
  cases m with
  | quiet hq =>
    refine h.keep ?_ ?_ (le_of_eq hq.nextNative.symm)
    · rw [imageBooks, hq.log]
      rfl
    · rw [hq.surfaces]
      exact h.known
  | reserve | openWork | give | closeWork | recordCommand | retain | closePending | keepTexture
  | takeTexture | keepMesh | takeMesh | replaceMesh | opened => exact ⟨h.known, h.fresh⟩
  | notice e he => cases e <;> first | exact he.elim | exact h.record rfl rfl le_rfl rfl
  | create kind => exact h.record rfl rfl (Nat.le_succ _) rfl
  | destroy | ended | surfacePolled | returned | closed => exact h.record rfl rfl le_rfl rfl
  | submitted w wait states consumed hw hc => exact h.submitted ho w hc states
  | refused w wait result consumed hw hc hr =>
    refine h.record rfl rfl le_rfl ?_
    cases result <;> first | rfl | exact absurd rfl hr
  | addSurface id sf hid hn hh ht hsc hs hw =>
    have hadd : ImagesLinked { s with
        held := s.held - ((sf.natives : List Native) : Multiset Native)
        surfaces := s.surfaces.set id (some sf) } := by
      refine h.setSurface (some sf) rfl rfl le_rfl fun sf' hsf' sc hsc' => ?_
      rw [← Option.some.inj hsf', hsc] at hsc'
      exact nomatch hsc'
    unfold Vulkan.addSurface
    cases sf.window with
    | none => exact hadd
    | some w => exact hadd.record rfl rfl le_rfl rfl
  | installSwapchain id sf n hs hsc ht ho hn hw =>
    have hinstall : ImagesLinked (s.modifySurface id (n.into s.handleGeneration)) := by
      refine h.setSurface ((s.surfaces id).map (n.into s.handleGeneration)) rfl rfl le_rfl ?_
      rw [hs, Option.map_some]
      intro sf' hsf' sc hsc'
      rw [← Option.some.inj hsf'] at hsc'
      obtain rfl := Option.some.inj hsc'
      exact ⟨fun _ => hn.acquired, nofun⟩
    exact hinstall.record rfl rfl le_rfl rfl
  | dropSwapchain id sf hs => exact (h.dropSwapchain id).record rfl rfl le_rfl rfl
  | installOffscreen id sf texture t hid hn ht ho he hsc hw hs =>
    unfold Vulkan.installOffscreen
    rw [setTextureOwner_eq]
    refine h.setSurface (some { sf with textures := [texture] }) rfl rfl le_rfl ?_
    intro sf' hsf' sc hsc'
    rw [← Option.some.inj hsf'] at hsc'
    exact nomatch hsc.symm.trans hsc'
  | replaceOffscreen id sf texture extent t hs ht ho htype hg he hne =>
    have hmodify := h.modifySurface id (f := (·.replaced texture extent)) fun _ => rfl
    unfold Vulkan.replaceOffscreen
    rw [setTextureOwner_eq]
    exact ⟨hmodify.known, hmodify.fresh⟩
  | takeSurface id hid =>
    exact h.setSurface none rfl rfl le_rfl fun sf hsf => absurd hsf (Option.not_mem_none sf)
  | setMode id sf mode displayId hs hv => exact h.modifySurface id fun _ => rfl
  | window id f hf => exact h.modifyWindow id f
  | request id sf w extent hs hw he => exact (h.modifyWindow id _).record rfl rfl le_rfl rfl
  | polled id sf w topology hs hw => exact (h.modifyWindow id _).record rfl rfl le_rfl rfl
  | acquired swapChain index semaphore hn hb => exact h.acquired ho index semaphore hn
  | presented id sf sc result hs hsc hp hc => exact h.presented ho hs hsc hp result
  | acquireNext id sf sc index hs hsc hi hb => exact h.acquireNext ho index hs hsc

/-!
## What the history says of the windows

The record of a window has the extent that the events have given it. As long as the events are
such as `windowInputs` allows, a window without the flag has the extent of the last poll, and the
swapchain of its surface, if there is one, is for that extent: what `windowReports` promises
follows at each poll. Every move keeps that.
-/

def windowBooks (s : Vulkan) : WindowBooks := windowReports.after s.log

/-- The compositor and the callers have kept to what is allowed. -/
def Honest (s : Vulkan) : Prop := windowInputs.Accepts s.log

structure WindowKnown (honest : Prop) (b : SeenWindow) (shown : RendererExtent2D)
    (w : WaylandWindow) : Prop where
  extent : b.extent = w.extent
  made : ∀ m, b.made = some m → m.2 = shown
  polled : honest → w.extentChanged = false → b.polled = w.extent
  current : honest → w.extentChanged = false → b.made ≠ none → b.MadeFor w.extent

structure WindowsLinked (s : Vulkan) : Prop where
  known : ∀ id sf w, s.surfaces id = some sf → sf.window = some w →
    WindowKnown (Honest s) (windowBooks s id) sf.description.extent w
  reports : Honest s → windowReports.Accepts s.log

/-- The windows are as they were. -/
def SameWindows (s t : Vulkan) : Prop :=
  ∀ id sf w, t.surfaces id = some sf → sf.window = some w → ∃ sf' w', s.surfaces id = some sf' ∧
    sf'.window = some w' ∧ w'.extent = w.extent ∧ w'.extentChanged = w.extentChanged ∧
    sf'.description.extent = sf.description.extent

theorem SameWindows.of_surfaces {s t : Vulkan} (h : t.surfaces = s.surfaces) : SameWindows s t :=
  fun _ sf w hsf hw => ⟨sf, w, h ▸ hsf, hw, rfl, rfl, rfl⟩

theorem SameWindows.modifySurface (s : Vulkan) (id : Nat) {f : SurfaceRecord → SurfaceRecord}
    (hf : ∀ sf, s.surfaces id = some sf → (f sf).window = sf.window ∧
      ((f sf).window ≠ none → (f sf).description.extent = sf.description.extent)) :
    SameWindows s (s.modifySurface id f) := by
  intro i sf w hsf hw
  obtain ⟨rfl, sf', hsf', rfl⟩ | ⟨-, hsf⟩ := modifySurface_some hsf
  · obtain ⟨hwindow, hextent⟩ := hf sf' hsf'
    exact ⟨sf', w, hsf', hwindow ▸ hw, rfl, rfl, (hextent (by rw [hw]; nofun)).symm⟩
  · exact ⟨sf, w, hsf, hw, rfl, rfl, rfl⟩

theorem SameWindows.set {s t : Vulkan} (id : Nat) (si : Option SurfaceRecord)
    (ht : t.surfaces = s.surfaces.set id si) (hsi : ∀ sf ∈ si, sf.window = none) :
    SameWindows s t := by
  intro i sf w hsf hw
  rw [ht, Table.set_apply] at hsf
  split at hsf
  · exact nomatch (hsi sf hsf).symm.trans hw
  · exact ⟨sf, w, hsf, hw, rfl, rfl, rfl⟩

theorem WindowKnown.of_same {honest honest' : Prop} {b : SeenWindow} {shown : RendererExtent2D}
    {w w' : WaylandWindow} (h : WindowKnown honest b shown w') (hh : honest' → honest)
    (he : w'.extent = w.extent) (hf : w'.extentChanged = w.extentChanged) :
    WindowKnown honest' b shown w where
  extent := h.extent.trans he
  made := h.made
  polled ho hw := (h.polled (hh ho) (hf.trans hw)).trans he
  current ho hw hm := he ▸ h.current (hh ho) (hf.trans hw) hm

namespace WindowsLinked

variable {s t : Vulkan}

theorem keep (h : WindowsLinked s) (hlog : t.log = s.log) (hs : SameWindows s t) :
    WindowsLinked t where
  known id sf w hsf hw := by
    obtain ⟨sf', w', hsf', hw', he, hf, hextent⟩ := hs id sf w hsf hw
    rw [← hextent]
    unfold windowBooks Honest
    rw [hlog]
    exact (h.known id sf' w' hsf' hw').of_same (fun ho => ho) he hf
  reports ho := by
    unfold Honest at ho
    rw [hlog] at ho ⊢
    exact h.reports ho

/-- An event that does not concern windows. -/
theorem record (h : WindowsLinked s) {e : VulkanEvent} (hlog : t.log = s.log ++ [e])
    (hs : SameWindows s t) (he : windowHistory (windowBooks s) e = windowBooks s)
    (ha : windowReports.allowed (windowBooks s) e) : WindowsLinked t where
  known id sf w hsf hw := by
    obtain ⟨sf', w', hsf', hw', he', hf, hextent⟩ := hs id sf w hsf hw
    have hbooks : windowBooks t = windowBooks s := by
      unfold windowBooks
      rw [hlog, Monitor.after_snoc]
      exact he
    rw [hbooks, ← hextent]
    refine (h.known id sf' w' hsf' hw').of_same (fun ho => ?_) he' hf
    unfold Honest at ho
    rw [hlog] at ho
    exact ho.init
  reports ho := by
    unfold Honest at ho
    rw [hlog] at ho ⊢
    exact Monitor.accepts_snoc.mpr ⟨h.reports ho.init, ha⟩

/-- An event for one surface. -/
theorem event (h : WindowsLinked s) {e : VulkanEvent} {id : Nat} (b : SeenWindow)
    (hlog : t.log = s.log ++ [e])
    (he : windowHistory (windowBooks s) e = seeWindow (windowBooks s) id b)
    (hs : ∀ i ≠ id, t.surfaces i = s.surfaces i)
    (ha : Honest t → windowReports.allowed (windowBooks s) e)
    (hb : ∀ sf w, t.surfaces id = some sf → sf.window = some w →
      WindowKnown (Honest t) b sf.description.extent w) : WindowsLinked t where
  known i sf w hsf hw := by
    have hbooks : windowBooks t = seeWindow (windowBooks s) id b := by
      unfold windowBooks
      rw [hlog, Monitor.after_snoc]
      exact he
    rw [hbooks]
    by_cases hi : i = id
    · subst hi
      rw [seeWindow, if_pos rfl]
      exact hb sf w hsf hw
    · rw [seeWindow, if_neg hi]
      refine (h.known i sf w (hs i hi ▸ hsf) hw).of_same (fun ho => ?_) rfl rfl
      unfold Honest at ho
      rw [hlog] at ho
      exact ho.init
  reports ho := by
    have ha' := ha ho
    unfold Honest at ho
    rw [hlog] at ho ⊢
    exact Monitor.accepts_snoc.mpr ⟨h.reports ho.init, ha'⟩

theorem addSurface (h : WindowsLinked s) {id : Nat} {sf : SurfaceRecord} :
    WindowsLinked (s.addSurface id sf) := by
  unfold Vulkan.addSurface
  cases hw : sf.window with
  | none =>
    refine h.keep rfl (.set id (some sf) rfl fun sf' hsf' => ?_)
    rw [← Option.some.inj hsf', hw]
  | some w =>
    refine h.event { extent := w.extent, polled := w.extent } rfl rfl (fun i hi => Table.set_ne hi)
      (fun _ => trivial) fun sf' w' hsf' hw' => ?_
    obtain rfl := Option.some.inj ((Table.set_same (t := s.surfaces)).symm.trans hsf')
    obtain rfl := Option.some.inj (hw.symm.trans hw')
    exact ⟨rfl, nofun, fun _ _ => rfl, fun _ _ hm => absurd rfl hm⟩

theorem takeExtent_same {w : WaylandWindow} {extent : RendererExtent2D}
    (h : (w.takeExtent extent).extentChanged = false) : extent = w.extent := by
  obtain ⟨hw, hh⟩ := Bool.or_eq_false_iff.mp h
  have hwidth := of_not_not (of_decide_eq_false hw)
  have hheight := of_not_not (of_decide_eq_false hh)
  cases extent
  exact RendererExtent2D.mk.injEq .. ▸ ⟨hwidth.symm, hheight.symm⟩

/-- What a monitor allowed last. -/
theorem honest_allowed {e : VulkanEvent} (hlog : t.log = s.log ++ [e]) (h : Honest t) :
    Honest s ∧ windowInputs.allowed (windowBooks s) e := by
  unfold Honest at h
  rw [hlog] at h
  exact Monitor.accepts_snoc.mp h

/-- The only window that `modifyWindow` changes. -/
theorem modifyWindow_some {id : Nat} {f : WaylandWindow → WaylandWindow} {sf sf' : SurfaceRecord}
    {w w' : WaylandWindow} (hs : s.surfaces id = some sf) (hw : sf.window = some w)
    (hs' : (s.modifyWindow id f).surfaces id = some sf') (hw' : sf'.window = some w') :
    w' = f w ∧ sf'.description = sf.description := by
  obtain ⟨-, si, hsi, rfl⟩ | ⟨hne, -⟩ := modifySurface_some hs'
  · obtain rfl := Option.some.inj (hs.symm.trans hsi)
    obtain ⟨v, hv, rfl⟩ := Option.map_eq_some_iff.mp hw'
    obtain rfl := Option.some.inj (hw.symm.trans hv)
    exact ⟨rfl, rfl⟩
  · exact absurd rfl hne

theorem request (h : WindowsLinked s) {id : Nat} {sf : SurfaceRecord} {w : WaylandWindow}
    (extent : RendererExtent2D) (hs : s.surfaces id = some sf) (hw : sf.window = some w) :
    WindowsLinked ((s.modifyWindow id (·.takeExtent extent)).record (.sized id extent)) := by
  have hknown := h.known id sf w hs hw
  refine h.event { windowBooks s id with extent := extent } rfl rfl (fun i hi => Table.set_ne hi)
    (fun _ => trivial) fun sf' w' hsf' hw' => ?_
  obtain ⟨rfl, hd⟩ := modifyWindow_some hs hw hsf' hw'
  rw [hd]
  refine ⟨rfl, hknown.made, fun ho hf => ?_, fun ho hf _ => ?_⟩
  · obtain ⟨-, ha⟩ := honest_allowed (s := s) rfl ho
    have he := takeExtent_same hf
    exact (ha (he.trans hknown.extent.symm)).1.symm.trans (hknown.extent.trans he.symm)
  · obtain ⟨-, ha⟩ := honest_allowed (s := s) rfl ho
    exact (ha ((takeExtent_same hf).trans hknown.extent.symm)).2

theorem polled (h : WindowsLinked s) {id : Nat} {sf : SurfaceRecord} {w : WaylandWindow}
    (topology : Nat) (hs : s.surfaces id = some sf) (hw : sf.window = some w) :
    WindowsLinked ((s.modifyWindow id (·.polled topology)).record
      (.polled id w.extentChanged w.extent)) := by
  have hknown := h.known id sf w hs hw
  refine h.event ((windowBooks s id).poll w.extentChanged w.extent) rfl rfl
    (fun i hi => Table.set_ne hi) (fun ho => ⟨hknown.extent.symm, fun hne => ?_⟩)
    fun sf' w' hsf' hw' => ?_
  · obtain ⟨ho, -⟩ := honest_allowed (s := s) rfl ho
    cases hf : w.extentChanged with
    | true => rfl
    | false => exact absurd ((hknown.polled ho hf).trans hknown.extent.symm).symm hne
  · obtain ⟨rfl, hd⟩ := modifyWindow_some hs hw hsf' hw'
    rw [hd]
    refine ⟨hknown.extent, fun m hm => ?_, fun _ _ => rfl, fun ho _ hm => ?_⟩
    · exact hknown.made m (Option.filter_eq_some_iff.mp hm).1
    · obtain ⟨ho, -⟩ := honest_allowed (s := s) rfl ho
      obtain ⟨m, hm⟩ := Option.ne_none_iff_exists'.mp hm
      obtain ⟨hmade, hfilter⟩ := Option.filter_eq_some_iff.mp hm
      refine ⟨m.1, m.2, hm, ?_⟩
      cases hf : w.extentChanged with
      | false =>
        obtain ⟨requested, actual, he, hor⟩ := hknown.current ho hf (by rw [hmade]; nofun)
        obtain rfl := Option.some.inj (hmade.symm.trans he)
        exact hor
      | true =>
        rw [hf, Bool.not_true, Bool.false_or, decide_eq_true_eq] at hfilter
        exact .inr hfilter

theorem surfacePolled (h : WindowsLinked s) {id : Nat} {sf : SurfaceRecord} {w : WaylandWindow}
    (hs : s.surfaces id = some sf) (hw : sf.window = some w) (hf : w.extentChanged = false)
    (hm : Honest s → (windowBooks s id).made ≠ none) :
    WindowsLinked (s.record (.surfacePolled id)) where
  known i si wi hsi hwi := by
    have hbooks : windowBooks (s.record (.surfacePolled id)) = windowBooks s := Monitor.after_snoc ..
    rw [hbooks]
    exact (h.known i si wi hsi hwi).of_same Monitor.Accepts.init rfl rfl
  reports ho := by
    have ho' : Honest s := ho.init
    refine Monitor.accepts_snoc.mpr ⟨h.reports ho', ?_⟩
    have hknown := h.known id sf w hs hw
    show (windowBooks s id).MadeFor (windowBooks s id).extent
    rw [hknown.extent]
    exact hknown.current ho' hf (hm ho')

theorem dropSwapchain (h : WindowsLinked s) (id : Nat) (swapChain : Option Native) :
    WindowsLinked ((s.dropSwapchain id).record (.swapchainLost id swapChain)) := by
  have hlog : (s.dropSwapchain id).log = s.log := by
    unfold Vulkan.dropSwapchain
    split
    · rfl
    · rw [takeTextures_eq]
      rfl
  have hsurfaces : (s.dropSwapchain id).surfaces =
      (s.modifySurface id SurfaceRecord.bared).surfaces := by
    unfold Vulkan.dropSwapchain
    cases hs : s.surfaces id with
    | none =>
      show s.surfaces = s.surfaces.set id ((s.surfaces id).map _)
      rw [hs, Option.map_none, Table.set_none hs]
    | some sf =>
      dsimp only
      rw [takeTextures_eq]
      rfl
  have hrecord : ((s.dropSwapchain id).record (.swapchainLost id swapChain)).surfaces =
      (s.modifySurface id SurfaceRecord.bared).surfaces := hsurfaces
  have hevent : ((s.dropSwapchain id).record (.swapchainLost id swapChain)).log =
      s.log ++ [.swapchainLost id swapChain] := congrArg (· ++ _) hlog
  refine h.event { windowBooks s id with made := none } hevent rfl (fun i hi => ?_)
    (fun _ => trivial) fun sf' w' hsf' hw' => ?_
  · rw [hrecord]
    exact Table.set_ne hi
  · rw [hrecord] at hsf'
    obtain ⟨-, si, hsi, rfl⟩ | ⟨hne, -⟩ := modifySurface_some hsf'
    · have hknown := h.known id si w' hsi hw'
      refine ⟨hknown.extent, nofun, fun ho hf => ?_, fun _ _ hm => absurd rfl hm⟩
      exact hknown.polled (honest_allowed hevent ho).1 hf
    · exact absurd rfl hne

theorem installSwapchain (h : WindowsLinked s) {id : Nat} {sf : SurfaceRecord} {n : NewSwapchain}
    (hs : s.surfaces id = some sf) (hw : ∀ w, sf.window = some w → n.requested = w.extent) :
    WindowsLinked (s.installSwapchain id n) := by
  refine h.event { windowBooks s id with made := some (n.requested, n.extent) } rfl rfl
    (fun i hi => Table.set_ne hi) (fun _ => trivial) fun sf' w' hsf' hw' => ?_
  obtain ⟨-, si, hsi, rfl⟩ | ⟨hne, -⟩ := modifySurface_some (s := s) hsf'
  · obtain rfl := Option.some.inj (hs.symm.trans hsi)
    have hknown := h.known id sf w' hs hw'
    refine ⟨hknown.extent, fun m hm => ?_, fun ho hf => ?_, fun _ _ _ => ?_⟩
    · rw [← Option.some.inj hm]
      rfl
    · exact hknown.polled (honest_allowed (s := s) rfl ho).1 hf
    · exact ⟨n.requested, n.extent, rfl, .inl (hw w' hw')⟩
  · exact absurd rfl hne

end WindowsLinked

theorem WindowsLinked.move {c : Scope} {s t : Vulkan} (m : Move c s t) (hr : RecordsLinked s)
    (h : WindowsLinked s) : WindowsLinked t := by
  have hrecord : ∀ {t : Vulkan} {e : VulkanEvent}, t.log = s.log ++ [e] → SameWindows s t →
      windowHistory (windowBooks s) e = windowBooks s →
      windowReports.allowed (windowBooks s) e → WindowsLinked t := h.record
  cases m with
  | quiet hq => exact h.keep hq.log (.of_surfaces hq.surfaces)
  | reserve | openWork | give | closeWork | recordCommand | retain | closePending | keepTexture
  | takeTexture | keepMesh | takeMesh | replaceMesh | opened => exact h.keep rfl (.of_surfaces rfl)
  | notice e he =>
    cases e <;> first | exact he.elim | exact hrecord rfl (.of_surfaces rfl) rfl trivial
  | create | destroy | ended | refused | acquired | presented | returned =>
    exact hrecord rfl (.of_surfaces rfl) rfl trivial
  | submitted w wait states consumed hw hc =>
    refine hrecord rfl ?_ rfl trivial
    cases consumed with
    | none => exact .of_surfaces rfl
    | some id => exact .modifySurface s id fun _ _ => ⟨rfl, fun _ => rfl⟩
  | addSurface => exact h.addSurface
  | installSwapchain id sf n hs hsc ht ho hn hw => exact h.installSwapchain hs hw
  | dropSwapchain id sf hs => exact h.dropSwapchain id _
  | installOffscreen id sf texture t hid hn ht ho he hsc hw hs =>
    unfold Vulkan.installOffscreen
    rw [setTextureOwner_eq]
    refine h.keep rfl (.set id (some { sf with textures := [texture] }) rfl ?_)
    intro sf' hsf'
    rw [← Option.some.inj hsf']
    exact hw
  | replaceOffscreen id sf texture extent t hs ht ho htype hg he hne =>
    unfold Vulkan.replaceOffscreen
    rw [setTextureOwner_eq]
    refine h.keep rfl (.modifySurface s id fun si hsi => ⟨rfl, fun hwindow => ?_⟩)
    obtain rfl := Option.some.inj (hs.symm.trans hsi)
    have hsome := ((hr.surface hs).window).mpr (Option.isSome_iff_ne_none.mpr hwindow)
    exact nomatch htype.symm.trans hsome
  | takeSurface id hid =>
    exact h.keep rfl
      (.set id none rfl fun sf hsf => absurd hsf (Option.not_mem_none sf))
  | setMode id sf mode displayId hs hv =>
    exact h.keep rfl (.modifySurface s id fun _ _ => ⟨rfl, fun _ => rfl⟩)
  | window id f hf =>
    refine h.keep rfl fun i sf w hsf hw => ?_
    obtain ⟨rfl, si, hsi, rfl⟩ | ⟨-, hsi⟩ := modifySurface_some hsf
    · obtain ⟨v, hv, rfl⟩ := Option.map_eq_some_iff.mp hw
      exact ⟨si, v, hsi, hv, (hf v).1.symm, (hf v).2.symm, rfl⟩
    · exact ⟨sf, w, hsi, hw, rfl, rfl, rfl⟩
  | request id sf w extent hs hw he => exact h.request extent hs hw
  | polled id sf w topology hs hw => exact h.polled topology hs hw
  | surfacePolled id sf w hs hw hf hm => exact h.surfacePolled hs hw hf hm
  | acquireNext id sf sc index hs hsc hi hb =>
    exact hrecord rfl (.modifySurface s id fun _ _ => ⟨rfl, fun _ => rfl⟩) rfl trivial
  | closed hall ht hm hs =>
    refine ⟨fun id sf w hsf => absurd ((hs id).symm.trans hsf) nofun, fun ho => ?_⟩
    exact Monitor.accepts_snoc.mpr ⟨h.reports ho.init, trivial⟩

end WSE.Proof.Oui
