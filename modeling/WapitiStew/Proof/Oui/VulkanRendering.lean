import WapitiStew.Proof.Oui.VulkanTransitions

/-!
# Presenting, rendering and reading with the Vulkan backend

`presentSurface`, `executeRenderPass` and `readTexture` as sequences of moves. The commands of a
render pass bring the target and each source into their layouts one after the other; the images
are different ones, as a target is no source and each source is brought there once.
-/

namespace WSE.Proof.Oui

open WSE.Framework WSE.Impl.Oui WSE.Spec.Oui Relation

variable {c : Scope} {steady kept : Prop} {r r' : Records} {held : Multiset Native}
  {work : Option VulkanSubmission} {w : VulkanSubmission} {E : RendererError → Vulkan → Prop}
  {id : Nat} {sf : SurfaceRecord} {sc : VulkanSwapchain}

/-! ## Presenting -/

/-- The current texture of a surface shows the current image, if it shows one of a swapchain. -/
theorem Facts.current_image (hf : Facts r) (hsf : r.surfaces id = some sf) (hsc : sf.swapchain = some sc)
    {texture : TextureHandle} {t : TextureRecord} (hc : sf.textures[sc.currentImage]? = some texture)
    (ht : r.textures texture.value = some t) {swapChain : Native} {index : Nat}
    (hi : t.image = .presentable swapChain index) :
    sc.swapChain = swapChain ∧ sc.currentImage = index := by
  obtain ⟨-, -, sf', sc', hsf', hsc', hswap, hindex⟩ := hf.linked.texture ht swapChain index hi
  rw [hf.linked.owner_eq hsf (List.mem_of_getElem? hc) ht, hsf] at hsf'
  obtain rfl := Option.some.inj hsf'
  obtain rfl := Option.some.inj (hsc.symm.trans hsc')
  refine ⟨hswap, (List.getElem?_inj ?_ (hf.linked.surface hsf).distinct).mp ?_⟩
  · rw [List.length_map]
    exact (List.getElem?_eq_some_iff.mp hc).1
  · rw [List.getElem?_map, List.getElem?_map, hc, hindex]
    rfl

/-- The barrier that only waits for the image of a surface. -/
theorem consume_ready (hf : Facts r) (hsf : r.surfaces id = some sf) (hsc : sf.swapchain = some sc)
    (hp : sc.acquirePending = true) {texture : TextureHandle} {t : TextureRecord}
    (hc : sf.textures[sc.currentImage]? = some texture) (ht : r.textures texture.value = some t)
    (hw : w.commands = barrier t.image t.layout .presentSource) :
    Ready c r w (some sc.acquireSemaphore) (some id) where
  live n hn := by
    rw [hw] at hn
    obtain hn | hn := List.mem_append.mp hn
    · obtain ⟨x, hx, hn⟩ := List.mem_flatMap.mp hn
      obtain ⟨b, a, rfl⟩ := mem_barrier hx
      exact .inr (hf.image_known ht hn)
    · rw [List.mem_singleton.mp hn]
      exact .inr (.inr (.inr ⟨id, sf, hsf, (swapChain_mem hsc).2⟩))
  images _ swapChain index hm := by
    rw [hw] at hm
    obtain ⟨x, hx, hm⟩ := List.mem_flatMap.mp hm
    obtain ⟨b, a, rfl⟩ := mem_barrier hx
    obtain ⟨rfl, rfl⟩ := hf.current_image hsf hsc hc ht (List.mem_singleton.mp hm).symm
    exact ⟨_, (hf.acquired hsf hsc).pending hp, rfl, .inr rfl⟩
  old := by
    rw [hw]
    exact oldLayoutsRight_barrier (hf.stored ht)
  new _ := by
    rw [hw]
    exact newLayoutsDefined_barrier (by decide)
  once := by
    rw [hw, brought_barrier (by decide)]
    exact List.nodup_nil
  consumes := ⟨sf, sc, hsf, hsc, hp, rfl⟩

/-- An image is there to be presented, and was waited for. -/
structure Presentable (c : Scope) (r r' : Records) (id : Nat) (sf : SurfaceRecord)
    (sc : VulkanSwapchain) : Prop where
  alike : Alike r r'
  surface : r'.surfaces id = some sf.consumed
  taken : c.names → r'.images sc.swapChain ≠ none

theorem consumePending_ensures (hsf : r.surfaces id = some sf) (hsc : sf.swapchain = some sc)
    (hp : sc.acquirePending = true) {texture : TextureHandle} {t : TextureRecord}
    (hc : sf.textures[sc.currentImage]? = some texture) (ht : r.textures texture.value = some t) :
    Ensures (moves c) (Amid c True r 0 none) (consumePending id texture t sc)
      (fun _ s => ∃ r', Presentable c r r' id sf sc ∧ Amid c True r' 0 none s)
      (fun _ => Failed kept r 0) := by
  refine Ensures.assume (fun s hs h => h.facts hs) fun hf => withWork_ensures ?_
  refine Ensures.bind ((beginCommands_ensures rfl).error fun _ _ _ hs => hs.halted) fun _ =>
    Ensures.exists_pre fun n => ?_
  refine Ensures.bind transitionImage_ensures fun _ => ?_
  simp only [List.nil_append]
  have hset := settledTextures_set hf ht .present
    (layoutAfter_barrier t.image t.layout .presentSource)
    fun other hne layout => layoutAfter_barrier_ne (Ne.symm hne) layout
  refine Ensures.bind (submit_ensures kept (some id)
    (statesOf (setState r.textures texture.value .presentSource .present))
    (consume_ready hf hsf hsc hp hc ht rfl) rfl fun s hs hs' => ?_) fun result =>
      failIf_submission.after fun _ s _ hs => ?_
  · have htextures : (s.consumeAcquire id).textures = r.textures := hs
    rw [setTextureState_eq, settled, htextures, hs]
    exact congrArg (fun textures => { s.consumeAcquire id with textures := textures }) hset
  · obtain ⟨f, hs⟩ := hs
    refine ⟨_, _, ⟨⟨?_, ?_⟩, ?_, fun _ => ?_⟩, hs⟩
    · exact rfl
    · exact sameViews_consumed (some id) r.surfaces
    · show (r.surfaces.set id ((r.surfaces id).map SurfaceRecord.consumed)) id = _
      rw [Table.set_same, hsf, Option.map_some]
    · show (r.images sc.swapChain).map _ ≠ none
      rw [(hf.acquired hsf hsc).pending hp, Option.map_some]
      exact Option.some_ne_none _

theorem consumed_eq (hsc : sf.swapchain = some sc) (hp : sc.acquirePending = false) :
    sf.consumed = sf := by
  have hsame : { sc with acquirePending := false } = sc := by rw [← hp]
  rw [SurfaceRecord.consumed, hsc, Option.map_some, hsame, ← hsc]

theorem acquireNext_ensures {index : Nat} (hsf : r.surfaces id = some sf) (hsc : sf.swapchain = some sc)
    (hi : index < sf.textures.length) (hb : r.images sc.swapChain = none) :
    Ensures (moves c) (Amid c True r 0 none) (modify (·.acquireNext id sc index))
      (fun _ => Done c True r) E := by
  refine moving fun s _ ha =>
    ⟨.acquireNext s id sf sc index (ha.surfaces ▸ hsf) hsc hi (ha.images ▸ hb), ?_⟩
  have hacquired := ha.recordedImage (e := .acquired sc.swapChain index sc.acquireSemaphore) trivial
  refine ⟨{ r with
    images := (imageUse false).next r.images (.acquired sc.swapChain index sc.acquireSemaphore)
    surfaces := r.surfaces.set id ((r.surfaces id).map (·.acquired index)) }, ⟨rfl, fun _ hw => ?_⟩,
    { hacquired with records := ?_ }⟩
  · refine modifySurface_whole ?_ hw id
    exact fun _ => rfl
  · have hsurfaces : Oui.records (s.acquireNext id sc index) =
        { Oui.records (s.record (.acquired sc.swapChain index sc.acquireSemaphore)) with
          surfaces := s.surfaces.set id ((s.surfaces id).map (·.acquired index)) } := rfl
    rw [hsurfaces, hacquired.records, ha.surfaces]

theorem acquireAgain_ensures {images : Nat} (hsf : r.surfaces id = some sf) (hsc : sf.swapchain = some sc)
    (himages : images = sf.textures.length) (hpos : 0 < images) (hb : r.images sc.swapChain = none) :
    Ensures (moves c) (Amid c True r 0 none) (acquireAgain id sc images)
      (fun _ => Done c True r) (fun _ => Failed kept r 0) := by
  refine Ensures.bind (callNative_ensures.error fun _ _ _ hs => hs.failed) fun _ => ?_
  refine Ensures.bind ask_ensures fun answer => Ensures.and_pre fun _ => ?_
  refine Ensures.bind (failIf_ensures.error fun _ _ _ hs => hs.failed) fun _ => Ensures.and_pre fun _ => ?_
  refine Ensures.bind (acquireNext_ensures hsf hsc (himages ▸ Nat.mod_lt _ hpos) hb) fun _ => ?_
  refine Ensures.exists_pre fun r' => Ensures.and_pre fun hr => ?_
  exact completedFence_ensures.after fun _ _ _ hs => ⟨r', hr, hs⟩

/-- The presentation of the image, and what follows it. -/
theorem queuePresent_ensures (hsc : sf.swapchain = some sc)
    (hr : Presentable c r r' id sf sc) :
    Ensures (moves c) (Amid c True r' 0 none) (queuePresent id sf sc)
      (fun _ => Done c True r) (fun _ => Failed c.whole r 0) := by
  have hsc' : sf.consumed.swapchain = some { sc with acquirePending := false } := by
    rw [SurfaceRecord.consumed, hsc, Option.map_some]
  refine Ensures.assume (fun s hs h => h.facts hs) fun hf => ?_
  refine Ensures.bind ask_ensures fun answer => Ensures.and_pre fun _ => ?_
  let r₁ : Records := { r' with
    images := (imageUse false).next r'.images (.presented sc.swapChain sc.currentImage answer.result) }
  have halike : Alike r r₁ := ⟨hr.alike.initialized, hr.alike.views⟩
  refine Ensures.bind (Q := fun _ => Amid c True r₁ 0 none) (moving fun s _ ha =>
    ⟨.presented s id sf.consumed { sc with acquirePending := false } answer.result
      (ha.surfaces ▸ hr.surface) hsc' rfl (ha.images ▸ hr.taken),
      ha.recordedImage (e := .presented sc.swapChain sc.currentImage answer.result) trivial⟩) fun _ => ?_
  refine Ensures.assume (fun s hs h => h.facts hs) fun hf₁ => ?_
  refine Ensures.ite (fun hout => ?_) fun _ => ?_
  · obtain ⟨w, hw⟩ := Option.isSome_iff_exists.mp ((hf₁.linked.surface hr.surface).window.mp hout.2)
    refine Ensures.bind (windowOf_ensures hr.surface hw) fun a => Ensures.and_pre fun ha => ?_
    subst ha
    have hwaited : SurfaceWaited sf.consumed := fun sc' hsc'' =>
      Option.some.inj (hsc'.symm.trans hsc'') ▸ rfl
    refine Ensures.bind ((recreateForWindow_ensures hf₁ hr.surface hw fun _ =>
      hwaited).imp (fun _ _ hs => hs)
      (fun _ _ _ hs => hs.2) fun _ _ _ hs => hs.failed_of_alike halike) fun _ =>
        Ensures.exists_pre fun r₂ => Ensures.and_pre fun hrecreated => ?_
    obtain ⟨_, _, _, hr₂⟩ := hrecreated
    exact completedFence_ensures.after fun _ _ _ hs => ⟨r₂, halike.next.trans hr₂.next, hs⟩
  · refine Ensures.bind (failIf_ensures.error fun _ _ _ hs => halike.failed hs) fun _ =>
      Ensures.and_pre fun hresult => ?_
    have htakes : takesImage answer.result = true := by
      rw [not_and_or, not_not, not_not] at hresult
      obtain he | he := hresult <;> rw [he] <;> rfl
    refine (acquireAgain_ensures (show r₁.surfaces id = some sf.consumed from hr.surface) hsc' rfl
      ?_ ?_).imp (fun _ _ hs => hs) (fun _ _ _ hs => hs.of_next halike.next) fun _ _ _ hs =>
      Failed.of_alike halike hs
    · exact Nat.zero_lt_of_lt ((hf₁.linked.surface hr.surface).current _ hsc')
    · exact if_pos ⟨rfl, htakes⟩

theorem presentSwapchain_ensures (hsf : r.surfaces id = some sf) (hsc : sf.swapchain = some sc)
    {texture : TextureHandle} {t : TextureRecord} (hc : sf.textures[sc.currentImage]? = some texture)
    (ht : r.textures texture.value = some t) (hn : c.names → r.images sc.swapChain ≠ none) :
    Ensures (moves c) (Amid c True r 0 none) (presentSwapchain id sf sc texture t)
      (fun _ => Done c True r) (fun _ => Failed c.whole r 0) := by
  have hqueue : ∀ r', Presentable c r r' id sf sc → Ensures (moves c) (Amid c True r' 0 none)
      (do
        let s ← get
        failIf ((s.textures texture.value).map (·.layout) ≠ some .presentSource)
          (invalidDescription "Surface texture must finish rendering in Present state.")
        queuePresent id sf sc : RendererM FenceHandle)
      (fun _ => Done c True r) (fun _ => Failed c.whole r 0) := by
    intro r' hr
    refine Ensures.get_bind fun s _ hs => ?_
    refine Ensures.before (P := Amid c True r' 0 none) ?_ (by rintro t - rfl; exact hs)
    exact Ensures.bind (failIf_ensures.error fun _ _ _ hs => hr.alike.failed hs) fun _ =>
      Ensures.and_pre fun _ => queuePresent_ensures hsc hr
  refine Ensures.ite (fun hp => ?_) fun hp => ?_
  · exact Ensures.bind (consumePending_ensures hsf hsc hp hc ht) fun _ =>
      Ensures.exists_pre fun r' => Ensures.and_pre fun hr => hqueue r' hr
  · refine hqueue r ⟨⟨rfl, .refl _⟩, ?_, hn⟩
    rw [hsf, consumed_eq hsc (Bool.eq_false_iff.mpr hp)]

theorem presentSurface_ensures (h : SurfaceHandle)
    (hn : c.names → ∀ sf sc, h.generation = r.generation → r.surfaces h.value = some sf →
      sf.swapchain = some sc → r.images sc.swapChain ≠ none) :
    Ensures (moves c) (Begins c r) (presentSurface h) (fun _ => Done c True r)
      (fun _ => Failed c.whole r 0) := by
  refine Ensures.bind pollPendingSubmission_ensures fun _ => ?_
  refine Ensures.bind (requireSurface_ensures.error fun _ _ _ hs => hs.failed) fun sf =>
    Ensures.and_pre fun ⟨hg, hsf⟩ => ?_
  refine Ensures.bind (failIf_ensures.error fun _ _ _ hs => hs.failed) fun _ => Ensures.and_pre fun _ => ?_
  have hthrow : ∀ e, Ensures (moves c) (Amid c True r 0 none) (throw e : RendererM FenceHandle)
      (fun _ => Done c True r) (fun _ => Failed c.whole r 0) :=
    fun e => Ensures.throw fun _ _ hs => hs.failed
  cases hsc : sf.swapchain with
  | none => exact hthrow _
  | some sc =>
    have hcurrent : sf.currentImage = sc.currentImage := by
      rw [SurfaceRecord.currentImage, hsc, Option.elim_some]
    rw [hcurrent]
    cases hc : sf.textures[sc.currentImage]? with
    | none => exact hthrow _
    | some texture =>
      refine Ensures.bind (requireTexture_ensures.error fun _ _ _ hs => hs.failed) fun t =>
        Ensures.and_pre fun ⟨_, ht⟩ => ?_
      exact presentSwapchain_ensures hsf hsc hc ht fun hc => hn hc sf sc hg hsf hsc

/-! ## The barriers of the sources -/

/-- The barriers that bring the sources into the layout they are sampled in. -/
def sourceBarriers (ts : List SampledTexture) : List VulkanCommand :=
  ts.flatMap fun t => barrier t.2.image t.2.layout .shaderReadOnly

section Sources

variable {ts xs acc : List SampledTexture} {t : SampledTexture}

theorem mem_sourceBarriers {x : VulkanCommand} (hx : x ∈ sourceBarriers ts) :
    ∃ t ∈ ts, ∃ b a, x = .pipelineBarrier t.2.image b a := by
  obtain ⟨t, ht, hx⟩ := List.mem_flatMap.mp hx
  exact ⟨t, ht, mem_barrier hx⟩

theorem layoutAfter_sources_ne {image : VulkanImage} (h : ∀ t ∈ ts, t.2.image ≠ image)
    (layout : ImageLayout) : layoutAfter (sourceBarriers ts) image layout = layout := by
  induction ts with
  | nil => rfl
  | cons t ts ih =>
    obtain ⟨ht, hts⟩ := List.forall_mem_cons.mp h
    rw [sourceBarriers, List.flatMap_cons, layoutAfter_append, layoutAfter_barrier_ne ht]
    exact ih hts

theorem layoutAfter_sources (hd : (ts.map (·.2.image)).Nodup) (ht : t ∈ ts) :
    layoutAfter (sourceBarriers ts) t.2.image t.2.layout = .shaderReadOnly := by
  induction ts with
  | nil => exact absurd ht List.not_mem_nil
  | cons u ts ih =>
    obtain ⟨hu, hd⟩ := List.nodup_cons.mp hd
    rw [sourceBarriers, List.flatMap_cons, layoutAfter_append]
    obtain rfl | ht := List.mem_cons.mp ht
    · rw [layoutAfter_barrier]
      exact layoutAfter_sources_ne (fun v hv he => hu (List.mem_map.mpr ⟨v, hv, he⟩)) _
    · rw [layoutAfter_barrier_ne fun he => hu (List.mem_map.mpr ⟨t, ht, he.symm⟩)]
      exact ih hd ht

theorem oldLayoutsRight_sources {real : Layouts} (hd : (ts.map (·.2.image)).Nodup)
    (h : ∀ t ∈ ts, real t.2.image = t.2.layout) : OldLayoutsRight real (sourceBarriers ts) := by
  induction ts generalizing real with
  | nil => exact fun pre i b a post hp =>
      absurd hp.symm (List.append_ne_nil_of_right_ne_nil pre (List.cons_ne_nil _ post))
  | cons t ts ih =>
    obtain ⟨hnot, hd⟩ := List.nodup_cons.mp hd
    obtain ⟨ht, hts⟩ := List.forall_mem_cons.mp h
    rw [sourceBarriers, List.flatMap_cons]
    refine oldLayoutsRight_append (oldLayoutsRight_barrier ht) (ih hd fun u hu => ?_)
    rw [layoutAfter_barrier_ne fun he => hnot (List.mem_map.mpr ⟨u, hu, he.symm⟩)]
    exact hts u hu

theorem newLayoutsDefined_sources : NewLayoutsDefined (sourceBarriers ts) := by
  intro i b a hm
  obtain ⟨t, -, hm⟩ := List.mem_flatMap.mp hm
  exact newLayoutsDefined_barrier (by decide) i b a hm

theorem brought_sub {image : VulkanImage} {before after : ImageLayout} :
    (broughtToSampling (barrier image before after)).Sublist [image] := by
  unfold barrier
  split
  · exact List.nil_sublist _
  · cases after <;> first | exact List.Sublist.refl _ | exact List.nil_sublist _

theorem brought_sources : (broughtToSampling (sourceBarriers ts)).Sublist (ts.map (·.2.image)) := by
  induction ts with
  | nil => exact List.Sublist.refl _
  | cons t ts ih =>
    rw [sourceBarriers, List.flatMap_cons, brought_append]
    exact brought_sub.append ih

/-! ### The sources of a pass -/

/-- Each source that is not in the layout it is sampled in is there once. -/
structure Sources (xs ts : List SampledTexture) : Prop where
  sub : ∀ t ∈ ts, t ∈ xs ∧ t.2.layout ≠ .shaderReadOnly
  once : (ts.map (·.1)).Nodup
  all : ∀ t ∈ xs, t.2.layout ≠ .shaderReadOnly → t.1 ∈ ts.map (·.1)

theorem sourcesToTransition_sub (h : t ∈ sourcesToTransition xs acc) :
    t ∈ acc ∨ t ∈ xs ∧ t.2.layout ≠ .shaderReadOnly := by
  induction xs generalizing acc with
  | nil => exact .inl h
  | cons u xs ih =>
    unfold sourcesToTransition at h
    split at h
    · rename_i hu
      obtain h | h := ih h
      · obtain h | h := List.mem_append.mp h
        · exact .inl h
        · rw [List.mem_singleton.mp h]
          exact .inr ⟨List.mem_cons_self, hu.1⟩
      · exact .inr ⟨List.mem_cons_of_mem _ h.1, h.2⟩
    · exact (ih h).imp_right fun h => ⟨List.mem_cons_of_mem _ h.1, h.2⟩

theorem sourcesToTransition_once (h : (acc.map (·.1)).Nodup) :
    ((sourcesToTransition xs acc).map (·.1)).Nodup := by
  induction xs generalizing acc with
  | nil => exact h
  | cons u xs ih =>
    unfold sourcesToTransition
    split
    · rename_i hu
      refine ih ?_
      rw [List.map_append, List.map_singleton, ← List.concat_eq_append]
      exact List.Nodup.concat hu.2 h
    · exact ih h

theorem sourcesToTransition_acc {id : Nat} (h : id ∈ acc.map (·.1)) :
    id ∈ (sourcesToTransition xs acc).map (·.1) := by
  induction xs generalizing acc with
  | nil => exact h
  | cons u xs ih =>
    unfold sourcesToTransition
    split
    · refine ih ?_
      rw [List.map_append]
      exact List.mem_append_left _ h
    · exact ih h

theorem sourcesToTransition_all (h : t ∈ xs) (hl : t.2.layout ≠ .shaderReadOnly) :
    t.1 ∈ (sourcesToTransition xs acc).map (·.1) := by
  induction xs generalizing acc with
  | nil => exact absurd h List.not_mem_nil
  | cons u xs ih =>
    unfold sourcesToTransition
    obtain rfl | h := List.mem_cons.mp h
    · split
      · refine sourcesToTransition_acc ?_
        rw [List.map_append]
        exact List.mem_append_right _ (List.mem_singleton.mpr rfl)
      · rename_i hnot
        exact sourcesToTransition_acc (of_not_not fun hm => hnot ⟨hl, hm⟩)
    · split
      · exact ih h
      · exact ih h

theorem sources (xs : List SampledTexture) : Sources xs (sourcesToTransition xs []) where
  sub _ ht := (sourcesToTransition_sub ht).resolve_left List.not_mem_nil
  once := sourcesToTransition_once List.nodup_nil
  all _ := sourcesToTransition_all

end Sources

/-! ## The commands of a pass -/

/-- What is recorded may be ended. -/
structure Recordable (c : Scope) (r : Records) (commands : List VulkanCommand) : Prop where
  old : OldLayoutsRight r.layouts commands
  new : ¬c.restores → NewLayoutsDefined commands
  once : (broughtToSampling commands).Nodup

theorem Recordable.plain {xs ys : List VulkanCommand} (h : Recordable c r xs)
    (hys : ∀ x ∈ ys, IsPlainCommand x) : Recordable c r (xs ++ ys) where
  old := oldLayoutsRight_append h.old (oldLayoutsRight_plain hys)
  new hr := newLayoutsDefined_append (h.new hr) (newLayoutsDefined_plain hys)
  once := by
    rw [brought_append, brought_plain hys, List.append_nil]
    exact h.once

def drawCommand (d : ResolvedDraw) : VulkanCommand :=
  .drawIndexed d.mesh d.source.2 (d.alpha.getD d.source).2

/-- The drawing itself. -/
def drawCommands (target : TextureRecord) (framebuffer : Native) (draws : List ResolvedDraw) :
    List VulkanCommand :=
  .beginRenderPass framebuffer target :: draws.map drawCommand ++ [.endRenderPass]

def recordedPass (target : TextureRecord) (framebuffer : Native) (ts : List SampledTexture)
    (draws : List ResolvedDraw) (final : ImageLayout) : List VulkanCommand :=
  barrier target.image target.layout .colorAttachment ++ sourceBarriers ts ++
    drawCommands target framebuffer draws ++ barrier target.image .colorAttachment final

theorem drawCommands_plain {target : TextureRecord} {framebuffer : Native} {draws : List ResolvedDraw} :
    ∀ x ∈ drawCommands target framebuffer draws, IsPlainCommand x := by
  intro x hx
  obtain rfl | hx := List.mem_cons.mp hx
  · trivial
  · obtain hx | hx := List.mem_append.mp hx
    · obtain ⟨d, -, rfl⟩ := List.mem_map.mp hx
      trivial
    · rw [List.mem_singleton.mp hx]
      trivial

/-- A draw refers to what there is, and samples other textures than the target. -/
structure Resolved (r : Records) (target : Nat) (d : ResolvedDraw) : Prop where
  mesh : ∃ id, r.meshes id = some d.mesh
  sampled : ∀ t ∈ d.sampled, r.textures t.1 = some t.2 ∧ t.2.description.usage.sampled = true ∧
    t.1 ≠ target

/-- What a pass draws, and to what. -/
structure Pass (r : Records) (id : Nat) (target : TextureRecord) (draws : List ResolvedDraw)
    (ts : List SampledTexture) : Prop where
  target : r.textures id = some target
  resolved : ∀ d ∈ draws, Resolved r id d
  sources : Sources (draws.flatMap ResolvedDraw.sampled) ts

section Pass

variable {target : TextureRecord} {draws : List ResolvedDraw} {ts : List SampledTexture}
  {framebuffer : Native} {final : ImageLayout}

theorem Pass.sampled (h : Pass r id target draws ts) {t : SampledTexture}
    (ht : t ∈ draws.flatMap ResolvedDraw.sampled) :
    r.textures t.1 = some t.2 ∧ t.2.description.usage.sampled = true ∧ t.1 ≠ id := by
  obtain ⟨d, hd, ht⟩ := List.mem_flatMap.mp ht
  exact (h.resolved d hd).sampled t ht

theorem Pass.source (h : Pass r id target draws ts) {t : SampledTexture} (ht : t ∈ ts) :
    r.textures t.1 = some t.2 ∧ t.2.description.usage.sampled = true ∧ t.1 ≠ id :=
  h.sampled (h.sources.sub t ht).1

theorem Pass.source_ne (h : Pass r id target draws ts) (hf : Facts r) {t : SampledTexture} (ht : t ∈ ts) :
    t.2.image ≠ target.image := fun he =>
  (h.source ht).2.2 (hf.image_inj (h.source ht).1 h.target he)

/-- The sources have images of their own. -/
theorem Pass.distinct (h : Pass r id target draws ts) (hf : Facts r) : (ts.map (·.2.image)).Nodup := by
  have hsource : ∀ t ∈ ts, r.textures t.1 = some t.2 := fun t ht => (h.source ht).1
  have honce := h.sources.once
  clear h
  induction ts with
  | nil => exact List.nodup_nil
  | cons t ts ih =>
    obtain ⟨hnot, honce⟩ := List.nodup_cons.mp honce
    obtain ⟨ht, hts⟩ := List.forall_mem_cons.mp hsource
    refine List.nodup_cons.mpr ⟨fun hm => ?_, ih hts honce⟩
    obtain ⟨u, hu, he⟩ := List.mem_map.mp hm
    exact hnot (List.mem_map.mpr ⟨u, hu, hf.image_inj (hts u hu) ht he⟩)

/-- A texture that is sampled is no image of a swapchain. -/
theorem Pass.sampled_owned (h : Pass r id target draws ts) (hf : Facts r) {t : SampledTexture}
    (ht : t ∈ draws.flatMap ResolvedDraw.sampled) {swapChain : Native} {index : Nat} :
    t.2.image ≠ .presentable swapChain index := by
  intro hi
  obtain ⟨htexture, hsampled, -⟩ := h.sampled ht
  exact nomatch hsampled.symm.trans (hf.linked.texture htexture swapChain index hi).1

/-! ### Layouts -/

theorem layoutAfter_pass_target (h : Pass r id target draws ts) (hf : Facts r) :
    layoutAfter (recordedPass target framebuffer ts draws final) target.image target.layout = final := by
  unfold recordedPass
  rw [layoutAfter_append, layoutAfter_append, layoutAfter_append, layoutAfter_barrier,
    layoutAfter_sources_ne fun t ht => h.source_ne hf ht, layoutAfter_plain drawCommands_plain,
    layoutAfter_barrier]

theorem layoutAfter_pass_ne {image : VulkanImage} (hne : target.image ≠ image) (layout : ImageLayout) :
    layoutAfter (recordedPass target framebuffer ts draws final) image layout =
      layoutAfter (sourceBarriers ts) image layout := by
  unfold recordedPass
  rw [layoutAfter_append, layoutAfter_append, layoutAfter_append, layoutAfter_barrier_ne hne,
    layoutAfter_plain drawCommands_plain, layoutAfter_barrier_ne hne]

/-- What is recorded before the drawing. -/
theorem Pass.barriers (h : Pass r id target draws ts) (hf : Facts r) :
    Recordable c r (barrier target.image target.layout .colorAttachment ++ sourceBarriers ts) where
  old := by
    refine oldLayoutsRight_append (oldLayoutsRight_barrier (hf.stored h.target))
      (oldLayoutsRight_sources (h.distinct hf) fun t ht => ?_)
    rw [layoutAfter_barrier_ne fun he => h.source_ne hf ht he.symm]
    exact hf.stored (h.source ht).1
  new _ := newLayoutsDefined_append (newLayoutsDefined_barrier (by decide)) newLayoutsDefined_sources
  once := by
    rw [brought_append, brought_barrier (by decide), List.nil_append]
    exact (h.distinct hf).sublist brought_sources

theorem Pass.recordable (h : Pass r id target draws ts) (hf : Facts r) (hfinal : final ≠ .undefined) :
    Recordable c r (recordedPass target framebuffer ts draws final) where
  old := by
    refine oldLayoutsRight_append ((h.barriers (c := c) hf).plain drawCommands_plain).old
      (oldLayoutsRight_barrier ?_)
    rw [layoutAfter_append, layoutAfter_append, hf.stored h.target, layoutAfter_barrier,
      layoutAfter_sources_ne fun t ht => h.source_ne hf ht, layoutAfter_plain drawCommands_plain]
  new hr := newLayoutsDefined_append (((h.barriers hf).plain drawCommands_plain).new hr)
    (newLayoutsDefined_barrier hfinal)
  once := by
    unfold recordedPass
    rw [brought_append, brought_append, brought_append, brought_barrier (by decide),
      brought_plain drawCommands_plain, List.nil_append, List.append_nil]
    refine List.Nodup.sublist (brought_sources.append brought_sub) ?_
    rw [← List.concat_eq_append]
    refine List.Nodup.concat (fun hm => ?_) (h.distinct hf)
    obtain ⟨t, ht, he⟩ := List.mem_map.mp hm
    exact h.source_ne hf ht he

/-! ### What the records say of a pass -/

def sampledTextures (textures : Table TextureRecord) (ts : List SampledTexture) :
    Table TextureRecord :=
  ts.foldl (fun table t => setState table t.1 .shaderReadOnly .shaderResource) textures

/-- The textures of a pass once it is submitted. -/
def passTextures (textures : Table TextureRecord) (id : Nat) (d : RenderPassDescription)
    (ts : List SampledTexture) : Table TextureRecord :=
  sampledTextures (setState textures id (toNativeLayout d.finalState) d.finalState) ts

theorem foldl_setTextureState (ts : List SampledTexture) (s : Vulkan) :
    ts.foldl (fun s t => s.setTextureState t.1 .shaderReadOnly .shaderResource) s =
      { s with textures := sampledTextures s.textures ts } := by
  induction ts generalizing s with
  | nil => rfl
  | cons t ts ih =>
    rw [List.foldl_cons, ih, setTextureState_eq]
    rfl

theorem settlePass_eq (s : Vulkan) (d : RenderPassDescription) (ts : List SampledTexture)
    (consumed : Option Nat) : s.settlePass d ts consumed =
      { s with
        textures := passTextures s.textures d.colorAttachment.value d ts
        surfaces := consumedSurfaces consumed s.surfaces } := by
  unfold Vulkan.settlePass passTextures
  dsimp only
  rw [foldl_setTextureState, setTextureState_eq]
  cases consumed <;> rfl

theorem sampledTextures_apply (ts : List SampledTexture) (table : Table TextureRecord) (i : Nat) :
    sampledTextures table ts i =
      if i ∈ ts.map (·.1) then (table i).map fun t =>
        { t with layout := .shaderReadOnly, state := .shaderResource }
      else table i := by
  induction ts generalizing table with
  | nil => rfl
  | cons t ts ih =>
    have hcons : sampledTextures table (t :: ts) =
        sampledTextures (setState table t.1 .shaderReadOnly .shaderResource) ts := rfl
    rw [hcons, ih, setState, Table.set_apply, List.map_cons]
    by_cases hi : i = t.1
    · subst hi
      rw [if_pos rfl, if_pos List.mem_cons_self]
      split
      · rw [Option.map_map]
        rfl
      · rfl
    · rw [if_neg hi]
      simp only [List.mem_cons, hi, false_or]

theorem passTextures_settled (h : Pass r id target draws ts) (hf : Facts r)
    (d : RenderPassDescription) (hfinal : final = toNativeLayout d.finalState) :
    passTextures r.textures id d ts =
      settledTextures (recordedPass target framebuffer ts draws final)
        (statesOf (passTextures r.textures id d ts)) r.textures := by
  refine settledTextures_eq fun i => ?_
  unfold statesOf passTextures
  rw [sampledTextures_apply, setState, Table.set_apply]
  by_cases hi : i = id
  · subst hi
    have hnot : i ∉ ts.map (·.1) := fun hm => by
      obtain ⟨t, ht, he⟩ := List.mem_map.mp hm
      exact (h.source ht).2.2 he
    rw [if_neg hnot, if_pos rfl, h.target, Option.map_some, Option.map_some,
      layoutAfter_pass_target h hf, hfinal]
    rfl
  · rw [if_neg hi]
    cases hti : r.textures i with
    | none => split <;> rfl
    | some u =>
      have hne : target.image ≠ u.image := fun he => hi (hf.image_inj hti h.target he.symm)
      simp only [Option.map_some, layoutAfter_pass_ne hne]
      split
      · rename_i hm
        obtain ⟨t, ht, rfl⟩ := List.mem_map.mp hm
        obtain rfl := Option.some.inj ((h.source ht).1.symm.trans hti)
        rw [layoutAfter_sources (h.distinct hf) ht]
        rfl
      · rename_i hm
        rw [layoutAfter_sources_ne fun t ht he => hm (List.mem_map.mpr
          ⟨t, ht, hf.image_inj (h.source ht).1 hti he⟩)]
        rfl

/-! ### The submission of a pass -/

theorem acquireSemaphore_consumes {s : Vulkan} {h : TextureHandle} (hs : s.surfaces = r.surfaces) :
    ConsumesOf r.surfaces ((s.acquireSemaphore h target).map (·.2))
      ((s.acquireSemaphore h target).map (·.1)) := by
  rw [← hs]
  unfold Vulkan.acquireSemaphore
  split
  · rfl
  · cases howner : s.surfaces target.surfaceOwner with
    | none => rfl
    | some owner =>
      dsimp only
      split
      · rename_i sc texture hsc _
        split
        · rename_i hp
          exact ⟨owner, sc, howner, hsc, hp.1, rfl⟩
        · rfl
      · rfl

theorem ConsumesOf.known {surfaces : Table SurfaceRecord} (hs : surfaces = r.surfaces)
    {wait : Option Native} {consumed : Option Nat} (h : ConsumesOf surfaces wait consumed) {n : Native}
    (hn : n ∈ wait.toList) : Known r n := by
  subst hs
  cases consumed with
  | none =>
    have hwait : wait = none := h
    rw [hwait] at hn
    exact absurd hn List.not_mem_nil
  | some id =>
    obtain ⟨sf, sc, hsf, hsc, -, rfl⟩ := h
    rw [List.mem_singleton.mp hn]
    exact .inr (.inr ⟨id, sf, hsf, (swapChain_mem hsc).2⟩)

/-- The image that is drawn to was waited for, or the pass waits for it. -/
theorem Pass.acquired {s : Vulkan} {h : TextureHandle} (hp : Pass r h.value target draws ts)
    (hf : Facts r) (hs : s.surfaces = r.surfaces) {swapChain : Native} {index : Nat}
    (hi : target.image = .presentable swapChain index) {a : AcquiredImage}
    (ha : r.images swapChain = some a) (hindex : a.index = index) :
    a.waited = true ∨ (s.acquireSemaphore h target).map (·.2) = some a.semaphore := by
  obtain ⟨-, -, sf, sc, hsf, hsc, rfl, hlisted⟩ := hf.linked.texture hp.target swapChain index hi
  have hknown := hf.acquired hsf hsc
  cases hpending : sc.acquirePending with
  | false =>
    rw [hknown.waited hpending a ha]
    exact .inl rfl
  | true =>
    obtain rfl := Option.some.inj ((hknown.pending hpending).symm.trans ha)
    subst hindex
    obtain ⟨texture, htexture, hvalue⟩ := Option.map_eq_some_iff.mp hlisted
    have hcurrent : sf.currentImage = sc.currentImage := by
      rw [SurfaceRecord.currentImage, hsc, Option.elim_some]
    unfold Vulkan.acquireSemaphore
    rw [hs, hsf, if_neg (hf.linked.surface hsf).number]
    dsimp only
    rw [hsc, hcurrent, htexture]
    dsimp only
    rw [if_pos ⟨hpending, hvalue⟩]
    exact .inr rfl

theorem mem_pass {x : VulkanCommand} (hx : x ∈ recordedPass target framebuffer ts draws final) :
    (∃ b a, x = .pipelineBarrier target.image b a) ∨
      (∃ t ∈ ts, ∃ b a, x = .pipelineBarrier t.2.image b a) ∨
      x ∈ drawCommands target framebuffer draws := by
  obtain hx | hx := List.mem_append.mp hx
  · obtain hx | hx := List.mem_append.mp hx
    · obtain hx | hx := List.mem_append.mp hx
      · exact .inl (mem_barrier hx)
      · exact .inr (.inl (mem_sourceBarriers hx))
    · exact .inr (.inr hx)
  · exact .inl (mem_barrier hx)

theorem mem_drawCommands {x : VulkanCommand} (hx : x ∈ drawCommands target framebuffer draws) :
    x = .beginRenderPass framebuffer target ∨ (∃ d ∈ draws, x = drawCommand d) ∨ x = .endRenderPass := by
  obtain rfl | hx := List.mem_cons.mp hx
  · exact .inl rfl
  · obtain hx | hx := List.mem_append.mp hx
    · obtain ⟨d, hd, rfl⟩ := List.mem_map.mp hx
      exact .inr (.inl ⟨d, hd, rfl⟩)
    · exact .inr (.inr (List.mem_singleton.mp hx))

theorem alpha_sampled (d : ResolvedDraw) : d.alpha.getD d.source ∈ d.sampled := by
  unfold ResolvedDraw.sampled
  cases d.alpha with
  | none => exact List.mem_cons_self
  | some a => exact List.mem_cons_of_mem _ (List.mem_singleton.mpr rfl)

/-- The images of a pass are the target's and those that are sampled. -/
theorem Pass.images (h : Pass r id target draws ts) {x : VulkanCommand} {image : VulkanImage}
    (hx : x ∈ recordedPass target framebuffer ts draws final) (hi : image ∈ x.images) :
    image = target.image ∨ ∃ t ∈ draws.flatMap ResolvedDraw.sampled, image = t.2.image := by
  obtain ⟨b, a, rfl⟩ | ⟨t, ht, b, a, rfl⟩ | hx := mem_pass hx
  · exact .inl (List.mem_singleton.mp hi)
  · exact .inr ⟨t, (h.sources.sub t ht).1, List.mem_singleton.mp hi⟩
  · obtain rfl | ⟨d, hd, rfl⟩ | rfl := mem_drawCommands hx
    · exact .inl (List.mem_singleton.mp hi)
    · obtain rfl | hi := List.mem_cons.mp hi
      · exact .inr ⟨d.source, List.mem_flatMap.mpr ⟨d, hd, List.mem_cons_self⟩, rfl⟩
      · exact .inr ⟨_, List.mem_flatMap.mpr ⟨d, hd, alpha_sampled d⟩, List.mem_singleton.mp hi⟩
    · exact absurd hi List.not_mem_nil

theorem sampled_known (hf : Facts r) {t : SampledTexture} (ht : r.textures t.1 = some t.2) {n : Native}
    (hn : n ∈ t.2.view :: t.2.image.natives) : Known r n := by
  obtain rfl | hn := List.mem_cons.mp hn
  · exact view_known ht
  · exact hf.image_known ht hn

/-- A draw refers to what the records know. -/
theorem Resolved.uses {d : ResolvedDraw} (h : Resolved r id d) (hf : Facts r) {n : Native}
    (hn : n ∈ (drawCommand d).uses) : Known r n := by
  obtain ⟨i, hi⟩ := h.mesh
  replace hn : n ∈ (d.mesh.natives ++ (d.source.2.view :: d.source.2.image.natives)) ++
    ((d.alpha.getD d.source).2.view :: (d.alpha.getD d.source).2.image.natives) := hn
  obtain hn | hn := List.mem_append.mp hn
  · obtain hn | hn := List.mem_append.mp hn
    · exact .inr (.inl ⟨i, _, hi, hn⟩)
    · exact sampled_known hf (h.sampled d.source List.mem_cons_self).1 hn
  · exact sampled_known hf (h.sampled _ (alpha_sampled d)).1 hn

theorem Pass.uses (h : Pass r id target draws ts) (hf : Facts r) {x : VulkanCommand} {n : Native}
    (hx : x ∈ recordedPass target framebuffer ts draws final) (hn : n ∈ x.uses) :
    n = framebuffer ∨ Known r n := by
  obtain ⟨b, a, rfl⟩ | ⟨t, ht, b, a, rfl⟩ | hx := mem_pass hx
  · exact .inr (hf.image_known h.target hn)
  · exact .inr (hf.image_known (h.source ht).1 hn)
  · obtain rfl | ⟨d, hd, rfl⟩ | rfl := mem_drawCommands hx
    · obtain rfl | hn := List.mem_cons.mp hn
      · exact .inl rfl
      · exact .inr (sampled_known (t := (id, target)) hf h.target hn)
    · exact .inr ((h.resolved d hd).uses hf hn)
    · exact absurd hn List.not_mem_nil

theorem pass_ready (h : Pass r id target draws ts) (hf : Facts r)
    {wait : Option Native} {consumed : Option Nat}
    (hw : w.commands = recordedPass target framebuffer ts draws final) (hb : framebuffer ∈ w.natives)
    (hfinal : final ≠ .undefined) (hconsumes : ConsumesOf r.surfaces wait consumed)
    (hacquired : c.names → ∀ swapChain index, target.image = .presentable swapChain index →
      ∃ a, r.images swapChain = some a ∧ a.index = index ∧
        (a.waited = true ∨ wait = some a.semaphore)) :
    Ready c r w wait consumed where
  live n hn := by
    obtain hn | hn := List.mem_append.mp hn
    · rw [hw] at hn
      obtain ⟨x, hx, hn⟩ := List.mem_flatMap.mp hn
      obtain rfl | hn := h.uses hf hx hn
      · exact .inl hb
      · exact .inr hn
    · exact .inr (hconsumes.known rfl hn)
  images hc swapChain index hm := by
    rw [hw] at hm
    obtain ⟨x, hx, hm⟩ := List.mem_flatMap.mp hm
    obtain hi | ⟨t, ht, hi⟩ := h.images hx hm
    · exact hacquired hc swapChain index hi.symm
    · exact absurd hi.symm (h.sampled_owned hf ht)
  old := by
    rw [hw]
    exact (h.recordable (c := c) hf hfinal).old
  new hr := by
    rw [hw]
    exact (h.recordable hf hfinal).new hr
  once := by
    rw [hw]
    exact (h.recordable (c := c) hf hfinal).once
  consumes := hconsumes

end Pass

/-! ## Recording a pass -/

section Recording

variable {target : TextureRecord} {draws : List ResolvedDraw} {ts : List SampledTexture}
  {framebuffer : Native} {d : RenderPassDescription}

theorem endCommands_ensures (h : Recordable c r w.commands) :
    Ensures (moves c) (Amid c True r held (some w)) endCommands
      (fun _ => Amid c True r held (some w)) E := by
  refine moving fun s _ ha => ?_
  rw [ha.work]
  refine ⟨.ended s w ⟨ha.work, ?_, h.new, h.once⟩, ha.recorded trivial⟩
  rw [ha.layouts]
  exact h.old

theorem quiet_ensures {f : Vulkan → Vulkan} (hq : ∀ s, Quiet s (f s))
    (hf : ∀ s, Amid c steady r held work s → Amid c steady r held work (f s)) :
    Ensures (moves c) (Amid c steady r held work) (modify f)
      (fun _ => Amid c steady r held work) E :=
  moving fun s _ hs => ⟨.quiet (hq s), hf s hs⟩

theorem findOrCreateRenderPass_ensures {format : RendererPixelFormat} {clear : Bool} :
    Ensures (moves c) (Amid c steady r held work) (findOrCreateRenderPass format clear)
      (fun _ => Amid c steady r held work) E := by
  refine Ensures.get_bind fun s _ hs => ?_
  refine Ensures.before (P := Amid c steady r held work) ?_ (by rintro t - rfl; exact hs)
  refine Ensures.ite (fun _ => Ensures.pure fun _ _ hs => hs) fun _ => ?_
  refine Ensures.bind ask_ensures fun answer => Ensures.and_pre fun _ => ?_
  refine Ensures.ite (fun _ => Ensures.pure fun _ _ hs => hs) fun _ => ?_
  refine Ensures.bind (quiet_ensures (fun _ => ?_) fun _ hs => { hs with }) fun _ =>
    Ensures.pure fun _ _ hs => hs
  exact ⟨rfl, rfl, rfl, rfl, rfl, rfl, rfl, rfl, rfl, rfl⟩

theorem findOrCreatePipeline_ensures {format : RendererPixelFormat} {blend : ColorBlendMode}
    {topology : PrimitiveTopology} :
    Ensures (moves c) (Amid c steady r held work) (findOrCreatePipeline format blend topology)
      (fun _ => Amid c steady r held work) E := by
  refine Ensures.get_bind fun s _ hs => ?_
  refine Ensures.before (P := Amid c steady r held work) ?_ (by rintro t - rfl; exact hs)
  refine Ensures.ite (fun _ => Ensures.pure fun _ _ hs => hs) fun _ => ?_
  refine Ensures.bind findOrCreateRenderPass_ensures fun _ => ?_
  refine Ensures.ite (fun _ => Ensures.pure fun _ _ hs => hs) fun _ => ?_
  refine Ensures.bind ask_ensures fun answer => Ensures.and_pre fun _ => ?_
  refine Ensures.ite (fun _ => Ensures.pure fun _ _ hs => hs) fun _ => ?_
  refine Ensures.bind (quiet_ensures (fun _ => ?_) fun _ hs => { hs with }) fun _ =>
    Ensures.pure fun _ _ hs => hs
  exact ⟨rfl, rfl, rfl, rfl, rfl, rfl, rfl, rfl, rfl, rfl⟩

/-- A draw is recorded, or the recording ends for want of a pipeline. -/
theorem recordDraw_ensures {format : RendererPixelFormat} (d : ResolvedDraw)
    (h : Recordable c r w.commands) :
    Ensures (moves c) (Amid c True r held (some w)) (recordDraw format d)
      (fun _ => Amid c True r held (some { w with commands := w.commands ++ [drawCommand d] }))
      (fun _ => Halted kept r held) := by
  refine Ensures.bind findOrCreatePipeline_ensures fun _ => Ensures.ite (fun _ => ?_) fun _ =>
    recordCommand_ensures
  refine Ensures.bind recordCommand_ensures fun _ => Ensures.bind (endCommands_ensures ?_) fun _ =>
    Ensures.throw fun _ _ hs => hs.halted
  refine h.plain ?_
  exact List.forall_mem_singleton.mpr trivial

theorem recordDraws_ensures {format : RendererPixelFormat} (draws : List ResolvedDraw)
    (h : Recordable c r w.commands) :
    Ensures (moves c) (Amid c True r held (some w)) (draws.forM (recordDraw format))
      (fun _ => Amid c True r held (some { w with commands := w.commands ++ draws.map drawCommand }))
      (fun _ => Halted kept r held) := by
  induction draws generalizing w with
  | nil =>
    refine Ensures.pure fun s _ hs => ?_
    rw [List.map_nil, List.append_nil]
    exact hs
  | cons d draws ih =>
    refine Ensures.bind (recordDraw_ensures d h) fun _ => (ih ?_).after fun _ s _ hs => ?_
    · exact h.plain (List.forall_mem_singleton.mpr trivial)
    · rw [List.append_assoc, List.singleton_append] at hs
      exact hs

theorem transitionSources_ensures (ts : List SampledTexture) :
    Ensures (moves c) (Amid c True r held (some w)) (ts.forM transitionSource)
      (fun _ => Amid c True r held (some { w with commands := w.commands ++ sourceBarriers ts })) E := by
  induction ts generalizing w with
  | nil =>
    refine Ensures.pure fun s _ hs => ?_
    rw [sourceBarriers, List.flatMap_nil, List.append_nil]
    exact hs
  | cons t ts ih =>
    refine Ensures.bind transitionImage_ensures fun _ => ih.after fun _ s _ hs => ?_
    rw [List.append_assoc] at hs
    exact hs

theorem recordRenderPass_ensures (h : Pass r d.colorAttachment.value target draws
      (sourcesToTransition (draws.flatMap ResolvedDraw.sampled) [])) (hf : Facts r)
    (hw : w.commands = []) :
    Ensures (moves c) (Amid c True r held (some w)) (recordRenderPass d target framebuffer draws)
      (fun _ => Amid c True r held (some { w with
        commands := recordedPass target framebuffer
          (sourcesToTransition (draws.flatMap ResolvedDraw.sampled) []) draws
          (toNativeLayout d.finalState) }))
      (fun _ => Halted kept r held) := by
  refine Ensures.bind transitionImage_ensures fun _ => Ensures.bind (transitionSources_ensures _) fun _ =>
    Ensures.bind recordCommand_ensures fun _ => ?_
  rw [hw, List.nil_append]
  refine Ensures.bind (recordDraws_ensures draws
    ((h.barriers hf).plain (List.forall_mem_singleton.mpr trivial))) fun _ =>
    Ensures.bind recordCommand_ensures fun _ => transitionImage_ensures.after fun _ s _ hs => ?_
  unfold recordedPass drawCommands
  simp only [List.append_assoc, List.cons_append, List.nil_append] at hs ⊢
  exact hs

/-! ## Resolving the draws -/

theorem draw_sources {attachment : TextureHandle} {d : MeshDrawCommand}
    (h : validateDrawCommand attachment d = .ok ()) : d.sourceTexture ≠ attachment ∧
      (d.alphaTexture.valid = true → d.alphaTexture ≠ attachment) := by
  unfold validateDrawCommand at h
  obtain ⟨-, h⟩ := unless_ok h rfl
  obtain ⟨hsource, h⟩ := unless_ok h rfl
  obtain ⟨-, h⟩ := unless_ok h rfl
  refine ⟨hsource, fun hvalid he => ?_⟩
  rw [he] at h hvalid
  simp [hvalid] at h

theorem resolveAlpha_ensures {h : TextureHandle} :
    Ensures (moves c) (Amid c steady r held work) (resolveAlpha h)
      (fun a s => (∀ t ∈ a, t.1 = h.value ∧ h.valid = true ∧ h.generation = r.generation ∧
        r.textures t.1 = some t.2) ∧ Amid c steady r held work s)
      (fun _ => Amid c steady r held work) := by
  refine Ensures.ite (fun hvalid => ?_) fun _ =>
    Ensures.pure fun s _ hs => ⟨fun t ht => absurd ht (Option.not_mem_none t), hs⟩
  refine Ensures.bind requireTexture_ensures fun t => Ensures.and_pre fun ht =>
    Ensures.pure fun s _ hs => ⟨fun u hu => ?_, hs⟩
  rw [← Option.some.inj hu]
  exact ⟨rfl, hvalid, ht.1, ht.2⟩

theorem resolveDraw_ensures {attachment : TextureHandle} {d : MeshDrawCommand}
    (ha : attachment.generation = r.generation) (hd : validateDrawCommand attachment d = .ok ()) :
    Ensures (moves c) (Amid c True r held none) (resolveDraw d)
      (fun x s => Resolved r attachment.value x ∧ Amid c True r held none s)
      (fun _ => Amid c True r held none) := by
  obtain ⟨hsource, halpha⟩ := draw_sources hd
  have hother : ∀ h : TextureHandle, h ≠ attachment → h.generation = r.generation →
      h.value ≠ attachment.value := by
    intro h hne hg he
    refine hne ?_
    cases h
    cases attachment
    exact TextureHandle.mk.injEq .. ▸ ⟨he, hg.trans ha.symm⟩
  refine Ensures.bind requireMesh_ensures fun mesh => Ensures.and_pre fun ⟨_, hmesh⟩ => ?_
  refine Ensures.bind requireTexture_ensures fun source => Ensures.and_pre fun ⟨hg, hsource'⟩ => ?_
  refine Ensures.bind resolveAlpha_ensures fun alpha => Ensures.and_pre fun hresolved => ?_
  refine Ensures.bind failIf_ensures fun _ => Ensures.and_pre fun husage =>
    Ensures.pure fun s _ hs => ⟨⟨⟨_, hmesh⟩, fun t ht => ?_⟩, hs⟩
  obtain ⟨hsampled, hsampled'⟩ := not_or.mp husage
  obtain rfl | ht := List.mem_cons.mp ht
  · exact ⟨hsource', Bool.eq_true_of_not_eq_false hsampled, hother _ hsource hg⟩
  · have ht' : t ∈ alpha := Option.mem_toList.mp ht
    obtain ⟨hid, hvalid, hg', htexture⟩ := hresolved t ht'
    refine ⟨htexture, Bool.eq_true_of_not_eq_false fun hno => hsampled' ?_, ?_⟩
    · rw [Option.mem_def.mp ht', Option.any_some]
      exact decide_eq_true hno
    · rw [hid]
      exact hother _ (halpha hvalid) hg'

theorem resolveDraws_ensures {attachment : TextureHandle} (ha : attachment.generation = r.generation)
    (ds : List MeshDrawCommand) (hd : ∀ d ∈ ds, validateDrawCommand attachment d = .ok ()) :
    Ensures (moves c) (Amid c True r held none) (resolveDraws ds)
      (fun xs s => (∀ x ∈ xs, Resolved r attachment.value x) ∧ Amid c True r held none s)
      (fun _ => Amid c True r held none) := by
  induction ds with
  | nil => exact Ensures.pure fun s _ hs => ⟨fun x hx => absurd hx List.not_mem_nil, hs⟩
  | cons d ds ih =>
    obtain ⟨hd, hds⟩ := List.forall_mem_cons.mp hd
    refine Ensures.bind (resolveDraw_ensures ha hd) fun x => Ensures.and_pre fun hx => ?_
    refine Ensures.bind (ih hds) fun xs => Ensures.and_pre fun hxs => Ensures.pure fun s _ hs => ⟨?_, hs⟩
    exact List.forall_mem_cons.mpr ⟨hx, hxs⟩

end Recording

/-! ## Render passes -/

section Pass

variable {target : TextureRecord} {draws : List ResolvedDraw} {d : RenderPassDescription}

theorem createFramebuffer_ensures (hw : w.framebuffer = none) :
    Ensures (moves c) (Amid c True r held (some w)) createFramebuffer
      (fun n => Amid c True r held (some { w with framebuffer := some n }))
      (fun _ => Halted kept r held) := by
  refine ((createInWork_ensures fun n => ?_).error fun _ _ _ hs => hs.halted).after fun _ _ _ hs => hs.2
  simp only [submissionNatives_eq, hw, some_natives, none_natives, ← Multiset.singleton_add]
  abel

theorem createDescriptors_ensures (hw : w.descriptorPool = none) :
    Ensures (moves c) (Amid c True r held (some w)) (createDescriptors draws)
      (fun _ s => ∃ pool, Amid c True r held (some { w with descriptorPool := pool }) s)
      (fun _ => Halted kept r held) := by
  refine Ensures.ite (fun _ => Ensures.pure fun s _ hs => ⟨none, ?_⟩) fun _ => ?_
  · rw [← hw]
    exact hs
  · refine Ensures.bind ((createInWork_ensures fun n => ?_).error fun _ _ _ hs => hs.halted) fun n =>
      Ensures.and_pre fun _ => ?_
    · simp only [submissionNatives_eq, hw, some_natives, none_natives, ← Multiset.singleton_add]
      abel
    · exact callNative_ensures.imp (fun _ _ hs => hs) (fun _ _ _ hs => ⟨some n, hs⟩)
        fun _ _ _ hs => hs.halted

theorem submitRenderPass_ensures (h : Pass r d.colorAttachment.value target draws
      (sourcesToTransition (draws.flatMap ResolvedDraw.sampled) [])) (hfinal : d.finalState ≠ .undefined)
    (hn : c.names → ImageAcquired r.images target.image) :
    Ensures (moves c) (Amid c True r 0 none) (submitRenderPass d target draws)
      (fun _ => Done c True r) (fun _ => Failed kept r 0) := by
  refine Ensures.assume (fun s hs h => h.facts hs) fun hf => ?_
  refine (withWork_ensures (R := fun _ r' => Alike r r') ?_).after fun _ s _ ⟨r', hr, hs⟩ =>
    ⟨r', hr.next, hs⟩
  refine Ensures.bind (createFramebuffer_ensures rfl) fun framebuffer => ?_
  refine Ensures.bind (createDescriptors_ensures rfl) fun _ => Ensures.exists_pre fun pool => ?_
  refine Ensures.bind ((beginCommands_ensures rfl).error fun _ _ _ hs => hs.halted) fun _ =>
    Ensures.exists_pre fun n => ?_
  refine Ensures.bind (recordRenderPass_ensures h hf rfl) fun _ => Ensures.get_bind fun s _ hs => ?_
  refine Ensures.before (P := Amid c True r 0 _) ?_ (by rintro t - rfl; exact hs)
  have hlayout : toNativeLayout d.finalState ≠ .undefined := by
    cases hstate : d.finalState <;> first | exact absurd hstate hfinal | exact nofun
  refine Ensures.bind (submit_ensures kept _
    (statesOf (passTextures r.textures d.colorAttachment.value d
      (sourcesToTransition (draws.flatMap ResolvedDraw.sampled) [])))
    (pass_ready h hf rfl ?_ hlayout (acquireSemaphore_consumes hs.surfaces)
      fun hc swapChain index hi => ?_) rfl fun t ht ht' => ?_) fun result =>
        submissionResult_ensures.after fun _ t _ ht => ?_
  · simp [VulkanSubmission.natives]
  · have hacquired := hn hc
    rw [hi] at hacquired
    obtain ⟨a, ha, hindex⟩ := hacquired
    exact ⟨a, ha, hindex, h.acquired hf hs.surfaces hi ha hindex⟩
  · rw [settlePass_eq, settled, ht]
    refine congrArg₂ (fun textures surfaces => ({ t with
      textures := textures
      surfaces := surfaces } : Vulkan)) (passTextures_settled h hf d rfl) rfl
  · obtain ⟨f, ht⟩ := ht
    refine ⟨_, _, ⟨?_, ?_⟩, ht⟩
    · exact rfl
    · exact sameViews_consumed _ r.surfaces

theorem checkTarget_ensures :
    Ensures (moves c) (Amid c steady r held work) (checkTarget d target)
      (fun _ => Amid c steady r held work) (fun _ => Amid c steady r held work) := by
  refine Ensures.bind failIf_ensures fun _ => Ensures.and_pre fun _ => ?_
  refine Ensures.bind failIf_ensures fun _ => Ensures.and_pre fun _ => ?_
  refine Ensures.bind failIf_ensures fun _ => Ensures.and_pre fun _ => ?_
  refine Ensures.bind failIf_ensures fun _ => Ensures.and_pre fun _ => ?_
  exact failIf_ensures.after fun _ _ _ hs => hs.2

theorem valid_pass (h : validateRenderPassDescription d = .ok ()) : d.finalState ≠ .undefined ∧
    ∀ x ∈ d.drawCommands, validateDrawCommand d.colorAttachment x = .ok () := by
  unfold validateRenderPassDescription at h
  obtain ⟨-, h⟩ := unless_ok h rfl
  obtain ⟨hfinal, h⟩ := unless_ok h rfl
  obtain ⟨-, h⟩ := unless_ok h rfl
  exact ⟨hfinal, forM_ok.mp h⟩

theorem executeRenderPass_ensures (hd : validateRenderPassDescription d = .ok ())
    (hn : c.names → ∀ t, d.colorAttachment.generation = r.generation →
      r.textures d.colorAttachment.value = some t → ImageAcquired r.images t.image) :
    Ensures (moves c) (Begins c r) (executeRenderPass d) (fun _ => Done c True r)
      (fun _ => Failed kept r 0) := by
  obtain ⟨hfinal, hdraws⟩ := valid_pass hd
  refine Ensures.bind pollPendingSubmission_ensures fun _ => ?_
  refine Ensures.bind (requireTexture_ensures.error fun _ _ _ hs => hs.failed) fun target =>
    Ensures.and_pre fun ⟨hg, ht⟩ => ?_
  refine Ensures.bind (checkTarget_ensures.error fun _ _ _ hs => hs.failed) fun _ => ?_
  refine Ensures.bind ((resolveDraws_ensures hg _ hdraws).error fun _ _ _ hs => hs.failed) fun draws =>
    Ensures.and_pre fun hresolved => ?_
  refine Ensures.bind (failIf_ensures.error fun _ _ _ hs => hs.failed) fun _ => Ensures.and_pre fun _ => ?_
  refine Ensures.bind findOrCreateRenderPass_ensures fun _ => ?_
  refine Ensures.bind (failIf_ensures.error fun _ _ _ hs => hs.failed) fun _ => Ensures.and_pre fun _ => ?_
  exact submitRenderPass_ensures ⟨ht, hresolved, sources _⟩ hfinal fun hc => hn hc target hg ht

end Pass

/-! ## Reading -/

theorem readTexture_ensures (h : TextureHandle)
    (hn : c.names → ∀ t, h.generation = r.generation → r.textures h.value = some t →
      ImageWaited r.images t.image)
    (hl : ¬c.restores → ∀ t, h.generation = r.generation → r.textures h.value = some t →
      t.layout ≠ .undefined) :
    Ensures (moves c) (Begins c r) (readTexture h) (fun _ => Done c True r)
      (fun _ => Failed kept r 0) := by
  refine Ensures.bind pollPendingSubmission_ensures fun _ => ?_
  refine Ensures.bind (requireTexture_ensures.error fun _ _ _ hs => hs.failed) fun t =>
    Ensures.and_pre fun ⟨hg, ht⟩ => ?_
  refine Ensures.bind (failIf_ensures.error fun _ _ _ hs => hs.failed) fun _ => Ensures.and_pre fun _ => ?_
  refine Ensures.bind (failIf_ensures.error fun _ _ _ hs => hs.failed) fun _ => Ensures.and_pre fun _ => ?_
  refine Ensures.assume (fun s hs h => h.facts hs) fun hf => ?_
  refine (withWork_ensures (R := fun _ r' => Alike r r') ?_).after fun _ s _ ⟨r', hr, hs⟩ =>
    ⟨r', hr.next, hs⟩
  refine Ensures.bind ((createWorkBuffer_ensures rfl rfl).error fun _ _ _ hs => hs.halted)
    fun ⟨buffer, memory⟩ => ?_
  refine Ensures.bind ((beginCommands_ensures rfl).error fun _ _ _ hs => hs.halted) fun _ =>
    Ensures.exists_pre fun n => ?_
  refine Ensures.bind (recordThrough_ensures rfl) fun _ => ?_
  have hself : ∀ i u, r.textures i = some u → layoutAfter (throughLayout t.image t.layout
      .transferSource t.layout (.copyImageToBuffer t.image buffer memory)) u.image u.layout =
      u.layout := by
    intro i u hu
    by_cases hi : t.image = u.image
    · obtain rfl := hf.image_inj ht hu hi
      obtain rfl := Option.some.inj (ht.symm.trans hu)
      exact layoutAfter_through _ _ _ _ trivial
    · exact layoutAfter_through_ne (by trivial) hi _
  refine Ensures.bind (submit_ensures kept none (statesOf r.textures)
    (copy_ready hf ht (.copyImageToBuffer t.image buffer memory) trivial rfl ?_ rfl
      (by decide) (by decide) (fun hc => hl hc t hg ht) fun hc => hn hc t hg ht) rfl
    fun s hs _ => settled_self hself s hs) fun result => ?_
  · intro m hm
    obtain rfl | hm := List.mem_cons.mp hm
    · exact .inl (by simp [VulkanSubmission.natives])
    · obtain rfl | hm := List.mem_cons.mp hm
      · exact .inl (by simp [VulkanSubmission.natives])
      · exact .inr hm
  · refine Ensures.bind submissionResult_ensures fun _ => Ensures.exists_pre fun f => ?_
    have halike : Alike r (r.submitted (throughLayout t.image t.layout .transferSource t.layout
        (.copyImageToBuffer t.image buffer memory)) none (statesOf r.textures) none) := by
      refine ⟨?_, ?_⟩
      · exact rfl
      · exact .refl _
    exact Ensures.bind (callNative_ensures.error fun _ _ _ hs => halike.halted hs) fun _ =>
      Ensures.pure fun s _ hs => ⟨_, _, halike, hs⟩

end WSE.Proof.Oui
