import WapitiStew.Proof.Oui.VulkanRuns

/-!
# What the runs of the Vulkan backend keep

The readings of the history along every run: the objects of submissions (`submissions_owned`), the
images of swapchains (`images_acquired`), the layouts of images (`layouts_tracked`), what a failed
transition of a surface leaves (`transitions_recover`) and what a poll reports (`resizes_reported`).
All but the first need a condition on the calls; a run that breaks it follows each.
-/

namespace WSE.Proof.Oui

open WSE.Framework WSE.Impl.Oui WSE.Spec.Oui

variable {s t : Vulkan} {as : List VulkanAction}

/-! ## Runs at hand -/

def smallTexture (usage : TextureUsage) (initial : TextureState) : TextureDescription where
  extent := ⟨1, 1⟩
  format := .rgba8Unorm
  usage := usage
  initialState := initial

def answer (result : VkResult) : VulkanAnswer := { (default : VulkanAnswer) with result := result }

/-- A texture is created, and the wait for its first barrier times out. -/
def retainedActs : List VulkanAction :=
  [⟨.initializeWith 1 (.ok {}), []⟩,
    ⟨.createTexture (smallTexture { sampled := true } .shaderResource),
      List.replicate 10 (answer .success) ++ [answer .timeout]⟩]

def shownSurface : SurfaceDescription := { type := .window, extent := ⟨8, 8⟩, bufferCount := 2 }

/-- A window is shown. -/
def shownActs : List VulkanAction :=
  [⟨.initializeWith 1 (.ok {}), []⟩,
    ⟨.createSurface shownSurface,
      [answer .success, { answer .success with events := [.window none .shellSurfaceConfigure] }]⟩]

/-- What is answered until the next image is acquired. -/
def presentedAnswers : List VulkanAnswer := List.replicate 8 (answer .success)

/-- No image is acquired after the first presentation, and the old one is presented again. -/
def presentedTwice : List VulkanAction :=
  shownActs ++ [⟨.presentSurface ⟨1, 1⟩, presentedAnswers ++ [answer .outOfDate]⟩,
    ⟨.presentSurface ⟨1, 1⟩, []⟩]

/-- A texture is created in this state, and read back. -/
def readActs (initial : TextureState) : List VulkanAction :=
  [⟨.initializeWith 1 (.ok {}), []⟩,
    ⟨.createTexture (smallTexture { transferSource := true } initial), []⟩,
    ⟨.readTexture ⟨1, 1⟩ 0, []⟩]

/-- The window of a shown surface is resized. -/
def resizing (answers : List VulkanAnswer) : VulkanAction := ⟨.resizeSurface ⟨1, 1⟩ ⟨9, 9⟩, answers⟩

/-- The resize fails: the swapchain for the new extent cannot be created. -/
def lostSwapchain : List VulkanAnswer :=
  [answer .success, answer .success,
    { answer .success with
      swapchain := { (answer .success).swapchain with createResult := .outOfDeviceMemory } }]

/-- The compositor configures the window of a shown surface before it is polled. -/
def polledActs (extents : List Int) : List VulkanAction :=
  shownActs ++ [⟨.pollSurfaceEvents ⟨1, 1⟩,
    [{ answer .success with
      events := extents.map fun extent => .window (some 1) (.topLevelConfigure extent extent) }]⟩]

/-- The image of the shown surface is acquired, and its semaphore not yet waited for. -/
def FirstAcquired (s : Vulkan) : Prop :=
  (s.findSurface ⟨1, 1⟩).bind (·.swapchain) = some ⟨⟨.swapchain, 1⟩, ⟨.semaphore, 4⟩, 0, true⟩ ∧
    (imageUse false).after s.log ⟨.swapchain, 1⟩ = some ⟨0, ⟨.semaphore, 4⟩, false⟩

/-- The last presentation names an image that is not acquired. -/
def PresentsOld (s : Vulkan) : Prop :=
  s.log[21]? = some (.presented ⟨.swapchain, 1⟩ 0 .success) ∧
    (imageUse true).after (s.log.take 21) ⟨.swapchain, 1⟩ = none

/-- What the read-back of the first texture records. -/
def readCommands (initial : ImageLayout) : List VulkanCommand :=
  let image : VulkanImage := .owned ⟨.image, 0⟩ ⟨.memory, 1⟩
  [.pipelineBarrier image initial .transferSource, .copyImageToBuffer image ⟨.buffer, 3⟩ ⟨.memory, 4⟩,
    .pipelineBarrier image .transferSource initial]

/-- The resize of the shown surface fails, and leaves it without a texture. -/
def losesTexture (s : Vulkan) : Bool :=
  (s.getSurfaceState ⟨1, 1⟩).isOk &&
    match s.calls (resizing lostSwapchain) with
    | .ok .. => false
    | .error _ t => !(t.getSurfaceTexture ⟨1, 1⟩).isOk

instance : DecidablePred FirstAcquired := fun _ => inferInstanceAs (Decidable (_ ∧ _))

instance : DecidablePred PresentsOld := fun _ => inferInstanceAs (Decidable (_ ∧ _))

/-- The run ends in a state with that property. -/
def RunEnds (as : List VulkanAction) (P : Vulkan → Prop) : Prop :=
  ∃ s, run vulkanStep {} as = some s ∧ P s

instance {P : Vulkan → Prop} [DecidablePred P] : Decidable (RunEnds as P) :=
  match h : run vulkanStep {} as with
  | none => isFalse fun ⟨_, hs, _⟩ => nomatch h.symm.trans hs
  | some s => decidable_of_iff (P s)
      ⟨fun hp => ⟨s, h, hp⟩, fun ⟨_, ht, hp⟩ => Option.some.inj (h.symm.trans ht) ▸ hp⟩

/-- What the runs come to. -/
theorem runs_end :
    RunEnds retainedActs (·.pendingSubmission.isSome) ∧ RunEnds shownActs FirstAcquired ∧
      RunEnds presentedTwice PresentsOld ∧
      RunEnds (readActs .copySource) (fun _ =>
        Along vulkanStep (fun s a => ¬ReadsUndefined s a.call) {} (readActs .copySource)) ∧
      RunEnds (readActs .undefined) (·.log[7]? = some (.ended (readCommands .undefined))) ∧
      RunEnds shownActs (losesTexture ·) ∧
      RunEnds (polledActs [9]) (windowInputs.Accepts ·.log) ∧
      RunEnds (polledActs [9, 9]) (¬windowReports.Accepts ·.log) := by
  decide +kernel

/-- No call is refused by the model. -/
theorem run_ends (as : List VulkanAction) : ∃ s, run vulkanStep {} as = some s := by
  generalize ({} : Vulkan) = s
  induction as generalizing s with
  | nil => exact ⟨s, rfl⟩
  | cons a as ih =>
    obtain ⟨t, ht⟩ : ∃ t, vulkanStep s a = some t := by
      unfold vulkanStep
      split <;> exact ⟨_, rfl⟩
    obtain ⟨u, hu⟩ := ih t
    exact ⟨u, run_cons.mpr ⟨t, ht, hu⟩⟩

/-! ## Submissions -/

/-- No object is destroyed twice or while a submission uses it, one submission at most is pending,
nothing succeeds after a terminal error, and between calls every object has its owner. -/
theorem submissions_owned (hr : run vulkanStep {} as = some s) :
    ownership.Accepts s.log ∧ (ownership.after s.log).live = allNatives s ∧ s.held = 0 ∧
      s.work = none := by
  have h := idle_run hr
  exact ⟨h.sound.owning.accepted, h.sound.owning.live, h.rests.held, h.rests.work⟩

theorem submissions_owned_retained : ∃ s, run vulkanStep {} retainedActs = some s ∧
    s.pendingSubmission.isSome = true ∧ ownership.Accepts s.log ∧
      (ownership.after s.log).live = allNatives s ∧ s.held = 0 ∧ s.work = none := by
  obtain ⟨s, hs, hp⟩ := runs_end.1
  exact ⟨s, hs, hp, submissions_owned hs⟩

/-! ## What a move records -/

/-- What is known of an event when it happens. -/
def Told (c : Scope) (s : Vulkan) : VulkanEvent → Prop
  | .ended commands => OldLayoutsRight (realLayouts s) commands ∧
      (¬c.restores → NewLayoutsDefined commands) ∧ (broughtToSampling commands).Nodup
  | .submitted _ commands wait _ =>
    (c.names → UsesAcquired (imageBooks s) commands wait) ∧ WaitsOnce (imageBooks s) wait
  | .acquired swapChain _ _ => imageBooks s swapChain = none
  | .presented swapChain index _ => c.names →
      ∃ a, imageBooks s swapChain = some a ∧ a.index = index ∧ a.waited = true
  | .swapchainLost _ swapChain => c.waits →
      ∀ sc ∈ swapChain, ∀ a, imageBooks s sc = some a → a.waited = true
  | _ => True

/-- A submission waits for an image that was not yet waited for. -/
theorem Consumes.waitsOnce {wait : Option Native} {consumed : Option Nat} (h : Consumes s wait consumed)
    (hs : Sound s) : WaitsOnce (imageBooks s) wait := by
  intro semaphore hw
  cases consumed with
  | none =>
    obtain rfl : wait = none := h
    exact nomatch hw
  | some id =>
    obtain ⟨sf, sc, hsf, hsc, hp, rfl⟩ := h
    rw [← Option.some.inj hw]
    exact ⟨sc.swapChain, _, (hs.images.known id sf sc hsf hsc).pending hp, rfl, rfl⟩

/-- A move records one event at most. -/
theorem Move.event {c : Scope} (m : Move c s t) (hs : Sound s) :
    t.log = s.log ∨ ∃ e, t.log = s.log ++ [e] ∧ Told c s e := by
  cases m with
  | quiet hq => exact .inl hq.log
  | reserve | openWork | give | closeWork | recordCommand | retain | closePending | keepTexture
  | takeTexture | keepMesh | takeMesh | replaceMesh | opened | takeSurface | setMode
  | window => exact .inl rfl
  | notice e he => exact .inr ⟨e, rfl, by cases e <;> first | exact he.elim | trivial⟩
  | create | destroy | request | polled | surfacePolled | returned | closed
  | installSwapchain => exact .inr ⟨_, rfl, trivial⟩
  | ended w hw => exact .inr ⟨_, rfl, hw.old, hw.new, hw.once⟩
  | submitted w wait states consumed hw hconsumes =>
    exact .inr ⟨_, rfl, hw.images, hconsumes.waitsOnce hs⟩
  | refused w wait result consumed hw hconsumes =>
    exact .inr ⟨_, rfl, hw.images, hconsumes.waitsOnce hs⟩
  | addSurface id sf =>
    unfold Vulkan.addSurface
    cases sf.window with
    | none => exact .inl rfl
    | some w => exact .inr ⟨_, rfl, trivial⟩
  | dropSwapchain id sf hsf hw =>
    refine .inr ⟨.swapchainLost id (sf.swapchain.map (·.swapChain)), ?_,
      fun hc swapChain hm a ha => ?_⟩
    · refine congrArg (· ++ [_]) (?_ : (s.dropSwapchain id).log = s.log)
      unfold Vulkan.dropSwapchain
      rw [hsf]
      dsimp only
      rw [takeTextures_eq]
      rfl
    · obtain ⟨sc, hsc, rfl⟩ := Option.map_eq_some_iff.mp hm
      rw [(hs.images.known id sf sc hsf hsc).waited (hw hc sc hsc) a ha]
  | installOffscreen id sf texture =>
    unfold Vulkan.installOffscreen
    rw [setTextureOwner_eq]
    exact .inl rfl
  | replaceOffscreen id sf texture =>
    unfold Vulkan.replaceOffscreen
    rw [setTextureOwner_eq]
    exact .inl rfl
  | acquired swapChain index semaphore hn hb => exact .inr ⟨_, rfl, hb⟩
  | presented id sf sc result hsf hsc hp hb =>
    refine .inr ⟨_, rfl, fun hc => ?_⟩
    obtain ⟨a, ha⟩ := Option.ne_none_iff_exists'.mp (hb hc)
    refine ⟨a, ha, ?_⟩
    rw [(hs.images.known id sf sc hsf hsc).waited hp a ha]
    exact ⟨rfl, rfl⟩
  | acquireNext id sf sc index hsf hsc hi hb => exact .inr ⟨_, rfl, hb⟩

/-- A monitor accepts the history of a run if it allows what is known of each event. -/
theorem accepts_run {τ : Type} {m : Monitor VulkanEvent τ} {ok : Vulkan → VulkanAction → Prop}
    (hm : ∀ s a, ok s a → ∀ t e, Told (scopeOf s a) t e → m.allowed (m.after t.log) e)
    (hok : Along vulkanStep ok {} as) (hr : run vulkanStep {} as = some s) : m.Accepts s.log := by
  refine moves_run (P := fun s => m.Accepts s.log) (fun s a ha t u hmove ht h => ?_)
    m.accepts_nil hok hr
  obtain hlog | ⟨e, hlog, he⟩ := hmove.event ht
  · rw [hlog]
    exact h
  · rw [hlog]
    exact Monitor.accepts_snoc.mpr ⟨h, hm s a ha t e he⟩

/-! ## Images of swapchains -/

/-- The strict reading asks in addition that no swapchain is given up too early. -/
theorem imageUse_strict {log : List VulkanEvent} :
    (imageUse true).Accepts log ↔ (imageUse false).Accepts log ∧ NoneAbandoned log := by
  constructor
  · intro h
    refine ⟨fun pre e post hlog => ?_, fun pre surface swapChain post hlog a ha => ?_⟩
    · have hallowed := h pre e post hlog
      cases e <;> first | exact hallowed | exact fun hno => nomatch hno
    · exact h pre _ post hlog rfl swapChain rfl a ha
  · rintro ⟨h, hnone⟩ pre e post hlog
    have hallowed := h pre e post hlog
    cases e with
    | swapchainLost surface swapChain =>
      intro _ sc hsc a ha
      obtain rfl : swapChain = some sc := hsc
      exact hnone pre surface sc post hlog a ha
    | _ => exact hallowed

/-- What is known of the events of a call that names acquired images. -/
theorem imageUse_allowed {strict : Bool} {a : VulkanAction} {e : VulkanEvent}
    (ha : NamesAcquired s (imageBooks s) a.call) (hstrict : strict = true → GivesUpWaited s a.call)
    (he : Told (scopeOf s a) t e) :
    (imageUse strict).allowed ((imageUse strict).after t.log) e := by
  cases e with
  | acquired => exact he
  | submitted => exact ⟨he.1 ha, he.2⟩
  | presented => exact he ha
  | swapchainLost => exact fun hs => he (hstrict hs)
  | _ => trivial

/-- Along calls that name acquired images the images are used as they should be exactly if no
swapchain is given up before its image was waited for; and they are if each call finds, on the
surfaces whose swapchains it may give up, no image to wait for. -/
theorem images_acquired
    (hc : Along vulkanStep (fun s a => NamesAcquired s ((imageUse false).after s.log) a.call) {} as)
    (hr : run vulkanStep {} as = some s) :
    ((imageUse true).Accepts s.log ↔ NoneAbandoned s.log) ∧
      (Along vulkanStep (fun s a => GivesUpWaited s a.call) {} as →
        (imageUse true).Accepts s.log) := by
  have h : (imageUse false).Accepts s.log :=
    accepts_run (fun s a ha t e he => imageUse_allowed ha nofun he) hc hr
  refine ⟨imageUse_strict.trans ⟨And.right, fun hn => ⟨h, hn⟩⟩, fun hw => ?_⟩
  exact accepts_run (fun s a ha t e he => imageUse_allowed ha.1 (fun _ => ha.2) he) (hc.and hw) hr

theorem images_acquired_presented : ∃ s,
    run vulkanStep {} (shownActs ++ [⟨.presentSurface ⟨1, 1⟩, presentedAnswers⟩]) = some s ∧
      (imageUse true).Accepts s.log ∧ NoneAbandoned s.log := by
  obtain ⟨s, hs, hsc, hb⟩ := runs_end.2.1
  obtain ⟨t, ht⟩ := run_ends (shownActs ++ [⟨.presentSurface ⟨1, 1⟩, presentedAnswers⟩])
  have h := images_acquired ?_ ht
  · have hused := h.2 ⟨trivial, fun _ _ => ⟨trivial, fun _ _ => ⟨trivial, fun _ _ => trivial⟩⟩⟩
    exact ⟨t, ht, hused, h.1.mp hused⟩
  refine Along.snoc ⟨trivial, fun _ _ => ⟨trivial, fun _ _ => trivial⟩⟩ fun t ht sf sc hsf hsc' => ?_
  obtain rfl := Option.some.inj (hs.symm.trans ht)
  rw [hsf, Option.bind_some, hsc'] at hsc
  obtain rfl := Option.some.inj hsc
  rw [hb]
  exact nofun

theorem images_acquired_broken :
    ∃ as s, run vulkanStep {} as = some s ∧ ¬(imageUse true).Accepts s.log := by
  obtain ⟨s, hs, he, hb⟩ := runs_end.2.2.1
  refine ⟨_, s, hs, fun h => ?_⟩
  obtain ⟨a, ha, -⟩ := h.allowed_at he
  exact nomatch hb.symm.trans ha

/-! ## Layouts -/

/-- The stored layouts are the real ones, and along calls that read no undefined texture back the
barriers are right. -/
theorem layouts_tracked (hr : run vulkanStep {} as = some s) :
    LayoutsTracked s ∧
      (Along vulkanStep (fun s a => ¬ReadsUndefined s a.call) {} as → layouts.Accepts s.log) := by
  refine ⟨(idle_run hr).sound.tracked.stored, fun hc => accepts_run (fun s a ha t e he => ?_) hc hr⟩
  cases e with
  | ended => exact ⟨he.1, he.2.1 ha, he.2.2⟩
  | _ => trivial

theorem layouts_tracked_read : ∃ s, run vulkanStep {} (readActs .copySource) = some s ∧
    LayoutsTracked s ∧ layouts.Accepts s.log := by
  obtain ⟨s, hs, hc⟩ := runs_end.2.2.2.1
  exact ⟨s, hs, (layouts_tracked hs).1, (layouts_tracked hs).2 hc⟩

/-- What is read back was never defined, and is brought back into no layout. -/
theorem layouts_tracked_broken :
    ∃ as s, run vulkanStep {} as = some s ∧ ¬layouts.Accepts s.log := by
  obtain ⟨s, hs, he⟩ := runs_end.2.2.2.2.1
  refine ⟨_, s, hs, fun h => ?_⟩
  obtain ⟨-, hnew, -⟩ := h.allowed_at he
  exact hnew _ .transferSource .undefined (List.mem_of_getElem? (i := 2) rfl) rfl

/-! ## Transitions of surfaces -/

theorem surface_found {h : SurfaceHandle} {sf : SurfaceRecord} (hs : s.findSurface h = some sf) :
    h.generation = s.handleGeneration ∧ s.surfaces h.value = some sf := by
  rw [Vulkan.findSurface] at hs
  split at hs
  · exact absurd hs.symm (Option.some_ne_none _)
  · exact ⟨of_not_not ‹_›, hs⟩

theorem surfaceState_found {h : SurfaceHandle} {state : SurfaceState}
    (hs : s.getSurfaceState h = .ok state) :
    ∃ sf, s.findSurface h = some sf ∧ state = reportedState sf := by
  unfold Vulkan.getSurfaceState at hs
  cases hf : s.findSurface h with
  | none =>
    rw [hf] at hs
    exact nomatch hs
  | some sf =>
    rw [hf] at hs
    exact ⟨sf, rfl, (Except.ok.inj hs).symm⟩

theorem surfaceState_eq {h : SurfaceHandle} {sf : SurfaceRecord} (hs : s.findSurface h = some sf) :
    s.getSurfaceState h = .ok (reportedState sf) := by
  rw [Vulkan.getSurfaceState, hs]
  rfl

/-- The current texture of a surface that has textures is there. -/
theorem current_texture (hs : Sound s) {id : Nat} {sf : SurfaceRecord} (hsf : s.surfaces id = some sf)
    (ht : sf.textures ≠ []) : ∃ texture t, sf.textures[sf.currentImage]? = some texture ∧
      s.findTexture texture = some t ∧ t.description.extent = sf.description.extent := by
  have hsound := hs.records.surface hsf
  have hlt : sf.currentImage < sf.textures.length := by
    unfold SurfaceRecord.currentImage
    cases hsc : sf.swapchain with
    | none => exact List.length_pos_iff.mpr ht
    | some sc => exact hsound.current sc hsc
  obtain ⟨hg, t, htexture, -, hextent⟩ := hsound.listed _ (List.getElem_mem hlt)
  exact ⟨_, t, List.getElem?_eq_getElem hlt, findTexture_live hg htexture, hextent⟩

theorem hasTexture_of_whole (hs : Sound s) (hw : AllWhole s.surfaces) {h : SurfaceHandle}
    {sf : SurfaceRecord} (hsf : s.findSurface h = some sf) : HasTexture s h := by
  have hfound := (surface_found hsf).2
  obtain ⟨texture, t, hcurrent, htexture, hextent⟩ := current_texture hs hfound (hw _ sf hfound)
  refine ⟨reportedState sf, texture, t, surfaceState_eq hsf, ?_, htexture, hextent⟩
  rw [Vulkan.getSurfaceTexture, hsf]
  dsimp only
  rw [hcurrent]

/-- Along calls that create no swapchain in vain every surface has a texture. -/
theorem whole_run (hc : Along vulkanStep (fun _ a => RecreatesWell a) {} as)
    (hr : run vulkanStep {} as = some s) : AllWhole s.surfaces := by
  have hstep : ∀ s a t, Idle s ∧ AllWhole s.surfaces → RecreatesWell a → vulkanStep s a = some t →
      Idle t ∧ AllWhole t.surfaces :=
    fun _ _ _ ⟨hi, hw⟩ ha hs => ⟨hi.step hs, (vulkanStep_moves hi hs).2.whole ha hw⟩
  exact (run_invariant_along hstep ⟨idle_init, fun id sf hsf => nomatch hsf⟩ hc hr).2

/-- The reported state is valid at all times; and along calls that create no swapchain in vain a
transition that fails leaves it, and a live texture of its extent. -/
theorem transitions_recover (hr : run vulkanStep {} as = some s) :
    (∀ h state, s.getSurfaceState h = .ok state → validateSurfaceState state = .ok ()) ∧
      (Along vulkanStep (fun _ a => RecreatesWell a) {} as → ∀ a, RecreatesWell a →
        ∀ h state, transitionedSurface a.call = some h → s.getSurfaceState h = .ok state →
          ∀ e t, s.calls a = .error e t → t.getSurfaceState h = .ok state ∧ HasTexture t h) := by
  have hidle := idle_run hr
  refine ⟨fun h state hs => ?_, fun hc a ha h state hh hs e t ht => ?_⟩
  · obtain ⟨sf, hsf, rfl⟩ := surfaceState_found hs
    exact (hidle.sound.records.surface (surface_found hsf).2).state
  · obtain ⟨sf, hsf, rfl⟩ := surfaceState_found hs
    obtain ⟨hg, hfound⟩ := surface_found hsf
    have hwhole := whole_run hc hr
    obtain ⟨hmoves, hmeets⟩ := calls_moves hidle a
    rw [ht] at hmoves hmeets
    have hfails : Fails a.call (RecreatesWell a) (records s) t := hmeets
    have hsound : Sound t := (moves (scopeOf s a)).inv_of_steps hmoves hidle.sound
    obtain ⟨sf', hsf', hstate, htextures⟩ :=
      (hfails.views (by rw [hh]; exact nofun) ha).some
        (show (records s).surfaces h.value = some sf from hfound)
    -- the textures of the surface carry the generation
    obtain ⟨x, hx⟩ := List.exists_mem_of_ne_nil _ (hwhole _ sf hfound)
    have hgeneration : h.generation = t.handleGeneration := by
      rw [hg, ← ((hidle.sound.records.surface hfound).listed x hx).1]
      exact ((hsound.records.surface hsf').listed x (htextures ▸ hx)).1
    have hfind := findSurface_live hgeneration hsf'
    rw [surfaceState_eq hfind, hstate]
    exact ⟨rfl, hasTexture_of_whole hsound (hfails.whole ha hwhole) hfind⟩

theorem transitions_recover_disconnected : ∃ s, run vulkanStep {} shownActs = some s ∧
    ∃ state e t, s.calls (resizing [{ answer .success with connected := false }]) = .error e t ∧
      t.getSurfaceState ⟨1, 1⟩ = .ok state ∧ HasTexture t ⟨1, 1⟩ := by
  obtain ⟨s, hs, state, hstate, e, t, ht⟩ : ∃ s, run vulkanStep {} shownActs = some s ∧ ∃ state,
      s.getSurfaceState ⟨1, 1⟩ = .ok state ∧ ∃ e t,
        s.calls (resizing [{ answer .success with connected := false }]) = .error e t :=
        ⟨_, rfl, _, rfl, _, _, rfl⟩
  exact ⟨s, hs, state, e, t, ht,
    (transitions_recover hs).2 (by decide) _ (by decide) _ state rfl hstate e t ht⟩

/-- The swapchain for the new extent cannot be created, and the old one is gone. -/
theorem transitions_recover_broken : ∃ as s, run vulkanStep {} as = some s ∧
    ∃ a h state e t, transitionedSurface a.call = some h ∧ s.getSurfaceState h = .ok state ∧
      s.calls a = .error e t ∧ ¬HasTexture t h := by
  obtain ⟨s, hs, hp⟩ := runs_end.2.2.2.2.2.1
  obtain ⟨hstate, hlost⟩ := (Bool.and_eq_true _ _).mp hp
  cases hf : s.getSurfaceState ⟨1, 1⟩ with
  | error e =>
    rw [hf] at hstate
    exact nomatch hstate
  | ok state =>
    cases ht : s.calls (resizing lostSwapchain) with
    | ok x t =>
      rw [ht] at hlost
      exact nomatch hlost
    | error e t =>
      rw [ht] at hlost
      refine ⟨_, s, hs, _, ⟨1, 1⟩, state, e, t, rfl, hf, ht, ?_⟩
      rintro ⟨_, _, _, _, htexture, _⟩
      dsimp only at hlost
      rw [htexture] at hlost
      exact nomatch hlost

/-! ## Windows -/

/-- While the compositor and the callers keep to `windowInputs`, each poll reports that the extent
has changed when it has, and leaves the surface with a swapchain for it. -/
theorem resizes_reported (hr : run vulkanStep {} as = some s) (hin : windowInputs.Accepts s.log) :
    windowReports.Accepts s.log :=
  (idle_run hr).sound.windows.reports hin

theorem resizes_reported_configured : ∃ s, run vulkanStep {} (polledActs [9]) = some s ∧
    windowReports.Accepts s.log := by
  obtain ⟨s, hs, hin⟩ := runs_end.2.2.2.2.2.2.1
  exact ⟨s, hs, resizes_reported hs hin⟩

/-- The second configure event names the extent that the first has given the window. -/
theorem resizes_reported_broken :
    ∃ as s, run vulkanStep {} as = some s ∧ ¬windowReports.Accepts s.log := by
  obtain ⟨s, hs, hlost⟩ := runs_end.2.2.2.2.2.2.2
  exact ⟨_, s, hs, hlost⟩

end WSE.Proof.Oui
