import WapitiStew.Proof.Oui.VulkanSurfaces

/-!
# Transitions of surfaces of the Vulkan backend

A resize, a change of the window mode and a poll of the events of a surface, each as a sequence of
moves, and the end of a surface. A transition that fails leaves what the surfaces tell as it was,
unless a swapchain was to be created again and could not be (`Abandoned`).
-/

namespace WSE.Proof.Oui

open WSE.Framework WSE.Impl.Oui WSE.Spec.Oui Relation

variable {c : Scope} {steady kept : Prop} {r r' : Records} {held : Multiset Native}
  {work : Option VulkanSubmission} {E : RendererError → Vulkan → Prop} {id : Nat}
  {sf : SurfaceRecord}

/-! ## Resizing -/

/-- The old texture of an offscreen surface is in no list once it is replaced. -/
theorem replaced_unlisted (hf : Facts r) (hsf : r.surfaces id = some sf)
    (htype : sf.description.type = .offscreen) {old texture : TextureHandle}
    {rest : List TextureHandle} (ht : sf.textures = old :: rest)
    (hv : r.nextResourceId ≤ texture.value) {extent : RendererExtent2D} {surface : Nat}
    {sf' : SurfaceRecord}
    (h : (r.surfaces.set id (some (sf.replaced texture extent))) surface = some sf') :
    old.value ∉ sf'.textures.map (·.value) := by
  have hsound := hf.linked.surface hsf
  have hold : old ∈ sf.textures := ht ▸ List.mem_cons_self
  obtain ⟨-, t, htold, howner, -⟩ := hsound.listed old hold
  intro hmem
  obtain ⟨x, hx, he⟩ := List.mem_map.mp hmem
  obtain ⟨rfl, hsf'⟩ | ⟨hne, hsf'⟩ := Table.set_cases h
  · obtain rfl := Option.some.inj hsf'
    have hrest : rest = [] := by
      have hlength := (hsound.offscreen htype).2
      rw [ht, List.length_cons] at hlength
      exact List.eq_nil_of_length_eq_zero (Nat.le_zero.mp (Nat.le_of_succ_le_succ hlength))
    replace hx : x ∈ texture :: sf.textures.tail := hx
    rw [ht, hrest, List.tail_cons] at hx
    obtain rfl := List.mem_singleton.mp hx
    exact absurd (hf.textures.lt htold) (Nat.not_lt.mpr (he ▸ hv))
  · exact hne ((hf.linked.owner_eq hsf' hx (he ▸ htold)).symm.trans howner)

theorem resizeOffscreen_ensures {extent : RendererExtent2D} (hsf : r.surfaces id = some sf)
    (htype : sf.description.type = .offscreen) (he : extent.empty = false) :
    Ensures (moves c) (Amid c True r 0 none) (resizeOffscreen id sf extent)
      (fun _ => Done c True r) (fun _ => Failed kept r 0) := by
  refine Ensures.assume (fun s hs h => h.facts hs) fun hf => ?_
  refine Ensures.bind (Ensures.before (createTexture_ensures _) fun _ _ hs => hs.begins)
    fun replacement => Ensures.exists_pre fun r₁ => Ensures.and_pre fun ⟨t, hadded⟩ => ?_
  have hr₁ := hadded.records
  have hsurfaces : r₁.surfaces = r.surfaces := by rw [hr₁]; rfl
  have hinit : r₁.initialized = r.initialized := by rw [hr₁]; rfl
  have htexture : r₁.textures replacement.value = some t := by
    rw [hr₁, hadded.handle]
    exact Table.set_same
  refine Ensures.bind (Q := fun _ s => ∃ textures, Amid c True { r₁ with
    textures := textures
    surfaces := r.surfaces.set id (some (sf.replaced replacement extent)) } 0 none s)
    (moving fun s hs ha => ?_) fun _ => Ensures.exists_pre fun textures => ?_
  · have hid : s.surfaces id = some sf := by
      rw [ha.surfaces, hsurfaces]
      exact hsf
    have hgeneration : replacement.generation = s.handleGeneration := by
      rw [ha.generation]
      show replacement.generation = r₁.generation
      rw [hr₁, hadded.handle]
      rfl
    refine ⟨.replaceOffscreen s id sf replacement extent t hid (ha.textures ▸ htexture) hadded.owner
      htype hgeneration (congrArg TextureDescription.extent hadded.description) he,
      (s.setTextureOwner replacement.value id).textures, ?_⟩
    have hset : s.surfaces.set id ((s.surfaces id).map (·.replaced replacement extent)) =
        r.surfaces.set id (some (sf.replaced replacement extent)) := by
      rw [hid, ha.surfaces, hsurfaces]
      rfl
    unfold Vulkan.replaceOffscreen Vulkan.modifySurface
    rw [setTextureOwner_eq, ← hset]
    exact ha.tables _ _
  · have hwhole : ∀ {r' : Records}, r'.surfaces = r.surfaces.set id
        (some (sf.replaced replacement extent)) → r'.initialized = r.initialized →
        Next True r r' := by
      intro r' hr' hi
      refine ⟨hi, fun _ hw i si hsi => ?_⟩
      rw [hr'] at hsi
      obtain ⟨-, hsi⟩ | ⟨-, hsi⟩ := Table.set_cases hsi
      · rw [← Option.some.inj hsi]
        exact List.cons_ne_nil _ _
      · exact hw i si hsi
    cases ht : sf.textures with
    | nil =>
      refine Ensures.pure fun s _ hs => ⟨_, ?_, hs⟩
      exact hwhole rfl hinit
    | cons old rest =>
      refine (destroyTextureRecord_ensures fun surface sf' hsf' => ?_).after fun _ s _ hs =>
        ⟨_, ?_, hs⟩
      · exact replaced_unlisted hf hsf htype ht (Nat.le_of_eq (by rw [hadded.handle])) hsf'
      · exact hwhole rfl hinit

/-! ## Windows -/

/-- The window of a surface is still there once events are dispatched. -/
theorem Near.window (h : Near r r') (hf : Facts r') (hsf : r.surfaces id = some sf)
    (htype : sf.description.type = .window) : ∃ sf' w, r'.surfaces id = some sf' ∧
      sf'.window = some w ∧ reportedState sf' = reportedState sf ∧
      sf'.swapchain = sf.swapchain := by
  obtain ⟨sf', hsf', hstate, -⟩ := h.views.some hsf
  have hswapchain := h.swapchains id
  rw [hsf, hsf'] at hswapchain
  have htype' : sf'.description.type = .window :=
    (congrArg SurfaceState.type hstate).trans htype
  obtain ⟨w, hw⟩ := Option.isSome_iff_exists.mp ((hf.linked.surface hsf').window.mp htype')
  exact ⟨sf', w, hsf', hw, hstate, Option.some.inj hswapchain⟩

theorem Facts.not_offscreen (hf : Facts r) (hsf : r.surfaces id = some sf) {w : WaylandWindow}
    (hw : sf.window = some w) : sf.description.type ≠ .offscreen := by
  have htype := (hf.linked.surface hsf).window.mpr (by rw [hw]; rfl)
  rw [htype]
  decide

theorem Abandoned.failed_of_alike {s : Vulkan} (hr : Alike r r') (h : Abandoned c r' s) :
    Failed c.whole r 0 s := Failed.of_alike hr h.failed

/-- A surface gets a swapchain for its window as it is now. -/
theorem recreateForWindow_ensures (hf : Facts r) (hsf : r.surfaces id = some sf) {w : WaylandWindow}
    (hw : sf.window = some w) (hp : c.waits → SurfaceWaited sf) :
    Ensures (moves c) (Amid c True r 0 none) (recreateSwapchain id w.extent)
      (fun _ s => (windowReports.after s.log id).made ≠ none ∧ ∃ r', (∃ extent textures swapchain,
        Recreated r r' id sf extent textures swapchain) ∧ Amid c True r' 0 none s)
      (fun _ => Abandoned c r) :=
  recreateSwapchain_ensures hsf (hf.not_offscreen hsf hw)
    (fun w' hw' => by rw [Option.some.inj (hw.symm.trans hw')]) hp

theorem waited_of_swapchain {sf sf' : SurfaceRecord} (h : SurfaceWaited sf)
    (he : sf'.swapchain = sf.swapchain) : SurfaceWaited sf' :=
  fun sc hsc => h sc (he ▸ hsc)

/-- The surface that a call names has no image to wait for. -/
def Waited (c : Scope) (r : Records) (h : SurfaceHandle) : Prop :=
  c.waits → ∀ sf, h.generation = r.generation → r.surfaces h.value = some sf → SurfaceWaited sf

theorem resizeSurface_ensures {h : SurfaceHandle} (hp : Waited c r h) {extent : RendererExtent2D}
    (he : extent.empty = false) :
    Ensures (moves c) (Begins c r) (resizeSurface h extent) (fun _ => Done c True r)
      (fun _ => Failed c.whole r 0) := by
  refine Ensures.bind pollPendingSubmission_ensures fun _ => ?_
  refine Ensures.bind (requireSurface_ensures.error fun _ _ _ hs => hs.failed) fun sf =>
    Ensures.and_pre fun ⟨hg, hsf⟩ => ?_
  cases htype : sf.description.type with
  | directDisplay => exact Ensures.throw fun _ _ hs => hs.failed
  | offscreen => exact resizeOffscreen_ensures hsf htype he
  | window =>
    refine Ensures.assume (fun s hs h => h.facts hs) fun hf => ?_
    obtain ⟨w, hw⟩ := Option.isSome_iff_exists.mp ((hf.linked.surface hsf).window.mp htype)
    refine Ensures.bind (failIf_ensures.error fun _ _ _ hs => hs.failed) fun _ =>
      Ensures.and_pre fun _ => ?_
    refine Ensures.bind ((requestExtent_ensures hsf hw he).error fun _ _ _ hs => hs.failed) fun _ =>
      Ensures.exists_pre fun r₁ => Ensures.and_pre fun hnear => ?_
    refine Ensures.assume (fun s hs h => h.facts hs) fun hf₁ => ?_
    obtain ⟨sf₁, w₁, hsf₁, hw₁, -, hsc₁⟩ := hnear.window hf₁ hsf htype
    refine Ensures.bind (windowOf_ensures hsf₁ hw₁) fun a => Ensures.and_pre fun ha => ?_
    subst ha
    exact (recreateForWindow_ensures hf₁ hsf₁ hw₁
      fun hc => waited_of_swapchain (hp hc sf hg hsf) hsc₁).imp (fun _ _ hs => hs)
      (fun _ _ _ ⟨_, r₂, ⟨_, _, _, hr₂⟩, hs⟩ => ⟨r₂, hnear.alike.next.trans hr₂.next, hs⟩)
      fun _ _ _ hs => hs.failed_of_alike hnear.alike

/-! ## Window modes -/

theorem SoundSurface.nonempty {generation : Nat} {textures : Table TextureRecord}
    (h : SoundSurface generation textures id sf) : sf.description.extent.empty = false := by
  have hstate := h.state
  unfold validateSurfaceState at hstate
  obtain ⟨hextent, -⟩ := unless_ok hstate rfl
  exact Bool.eq_false_iff.mpr hextent

/-- The state of a window in a mode that was asked for. -/
theorem inMode_state {request : SurfaceWindowModeRequest}
    (hr : validateSurfaceWindowModeRequest request = .ok ())
    (hm : request.mode ≠ .displayModeFullscreen) (htype : sf.description.type = .window)
    (he : sf.description.extent.empty = false) :
    validateSurfaceState (reportedState (sf.inMode request.mode
      (if (decide (request.mode = .borderlessFullscreen)) = true then request.displayId else ""))) =
        .ok () := by
  unfold validateSurfaceState reportedState SurfaceRecord.inMode
  dsimp only
  rw [he, htype]
  unfold validateSurfaceWindowModeRequest at hr
  cases hmode : request.mode with
  | windowed => rfl
  | borderlessFullscreen =>
    rw [hmode] at hr
    have hid : request.displayId ≠ "" := by
      intro hid
      simp [hid] at hr
    simp [hid]
    rfl
  | displayModeFullscreen => exact absurd hmode hm
  | notApplicable =>
    rw [hmode] at hr
    exact nomatch hr

theorem modifySurface_whole {f : SurfaceRecord → SurfaceRecord} (hf : ∀ sf, (f sf).textures = sf.textures)
    {surfaces : Table SurfaceRecord} (h : AllWhole surfaces) (id : Nat) :
    AllWhole (surfaces.set id ((surfaces id).map f)) := by
  intro i si hi
  obtain ⟨-, hi⟩ | ⟨-, hi⟩ := Table.set_cases hi
  · obtain ⟨sf, hsf, rfl⟩ := Option.map_eq_some_iff.mp hi
    rw [hf]
    exact h id sf hsf
  · exact h i si hi

theorem setMode_ensures {mode : SurfaceWindowMode} {displayId : String} (hsf : r.surfaces id = some sf)
    (hs : validateSurfaceState (reportedState (sf.inMode mode displayId)) = .ok ()) :
    Ensures (moves c) (Amid c steady r held work) (modify (·.modifySurface id (·.inMode mode displayId)))
      (fun _ => Amid c steady { r with
        surfaces := r.surfaces.set id ((r.surfaces id).map (·.inMode mode displayId)) } held work) E := by
  refine moving fun s _ ha => ⟨.setMode s id sf mode displayId (ha.surfaces ▸ hsf) hs,
    { ha with records := ?_ }⟩
  rw [← ha.records]
  rfl

/-- When the swapchain cannot be created again the window goes back, and the error goes on. -/
theorem backToMode_ensures {fullscreen : Bool} {e : RendererError} :
    Ensures (moves c) (Abandoned c r)
      (do
        let _ ← setFullscreen id fullscreen
        throw e : RendererM Unit)
      Q (fun _ => Failed c.whole r 0) := by
  refine Ensures.and_pre fun hwhole => Ensures.exists_pre fun r' => Ensures.and_pre fun hi => ?_
  refine Ensures.bind (Q := fun _ => Nearby c True r' 0 none)
    (setFullscreen_ensures.before fun _ _ hs => ⟨r', .refl r', hs⟩) fun _ =>
    Ensures.throw fun s _ ⟨r'', hr, hs⟩ => ?_
  exact Abandoned.failed ⟨hwhole, r'', hr.alike.initialized.trans hi, hs⟩

theorem enterWindowMode_ensures {request : SurfaceWindowModeRequest}
    (hr : validateSurfaceWindowModeRequest request = .ok ())
    (hm : request.mode ≠ .displayModeFullscreen) (hsf : r.surfaces id = some sf)
    (htype : sf.description.type = .window) (hp : c.waits → SurfaceWaited sf) :
    Ensures (moves c) (Amid c True r 0 none) (enterWindowMode id sf request)
      (fun _ => Done c True r) (fun _ => Failed c.whole r 0) := by
  refine Ensures.bind (setFullscreen_ensures.before fun _ _ hs => ⟨r, .refl r, hs⟩) fun message =>
    Ensures.exists_pre fun r₁ => Ensures.and_pre fun hnear => ?_
  cases message with
  | some message => exact Ensures.throw fun _ _ hs => hnear.alike.failed hs
  | none =>
    refine Ensures.assume (fun s hs h => h.facts hs) fun hf₁ => ?_
    obtain ⟨sf₁, w₁, hsf₁, hw₁, -, hsc₁⟩ := hnear.window hf₁ hsf htype
    refine Ensures.bind (windowOf_ensures hsf₁ hw₁) fun a => Ensures.and_pre fun ha => ?_
    subst ha
    refine Ensures.bind (Ensures.tryCatch ((recreateForWindow_ensures hf₁ hsf₁ hw₁
      fun hc => waited_of_swapchain (hp hc) hsc₁).after
      fun _ _ _ hs => hs.2) fun e => backToMode_ensures.error fun _ _ _ hs =>
      Failed.of_alike hnear.alike hs)
        fun _ => Ensures.exists_pre fun r₂ => Ensures.and_pre fun ⟨extent, textures, swapchain, hr₂⟩ => ?_
    refine Ensures.assume (fun s hs h => h.facts hs) fun hf₂ => ?_
    have hsf₂ := congrFun hr₂.surfaces id
    rw [Table.set_same] at hsf₂
    have hsound := hf₂.linked.surface hsf₂
    have htype₁ : sf₁.description.type = .window :=
      (hf₁.linked.surface hsf₁).window.mpr (by rw [hw₁]; rfl)
    refine (setMode_ensures hsf₂ (inMode_state hr hm htype₁ hsound.nonempty)).after fun _ s _ hs =>
      ⟨_, ⟨?_, fun _ hw => ?_⟩, hs⟩
    · exact hr₂.initialized.trans hnear.alike.initialized
    · refine modifySurface_whole ?_ (hr₂.next.whole trivial (hnear.alike.next.whole trivial hw)) id
      exact fun _ => rfl

theorem setSurfaceWindowMode_ensures {h : SurfaceHandle} (hp : Waited c r h)
    {request : SurfaceWindowModeRequest}
    (hr : validateSurfaceWindowModeRequest request = .ok ()) :
    Ensures (moves c) (Begins c r) (setSurfaceWindowMode h request) (fun _ => Done c True r)
      (fun _ => Failed c.whole r 0) := by
  refine Ensures.bind pollPendingSubmission_ensures fun _ => ?_
  refine Ensures.bind (requireSurface_ensures.error fun _ _ _ hs => hs.failed) fun sf =>
    Ensures.and_pre fun ⟨hg, hsf⟩ => ?_
  have hdone : ∀ s, Amid c True r 0 none s → Done c True r s := fun s hs => ⟨r, .refl r, hs⟩
  cases htype : sf.description.type with
  | offscreen => exact Ensures.throw fun _ _ hs => hs.failed
  | directDisplay =>
    exact failIf_ensures.imp (fun _ _ => id) (fun _ s _ hs => hdone s hs.2) fun _ _ _ hs => hs.failed
  | window =>
    refine Ensures.bind (failIf_ensures.error fun _ _ _ hs => hs.failed) fun _ =>
      Ensures.and_pre fun hm => ?_
    exact Ensures.ite (fun _ => Ensures.pure fun s _ hs => hdone s hs) fun _ =>
      enterWindowMode_ensures hr hm hsf htype fun hc => hp hc sf hg hsf

/-! ## Polling -/

/-- The window of the surface has been polled. -/
def Polled (r : Records) (id : Nat) (extent : RendererExtent2D) : Prop :=
  ∃ sf w, r.surfaces id = some sf ∧ sf.window = some w ∧ w.extentChanged = false ∧ w.extent = extent

/-- A surface that was polled has a swapchain, if it had one and the poll told nothing new. -/
theorem polled_made {s : Vulkan} (hs : Sound s) {w : WaylandWindow} (hsf : s.surfaces id = some sf)
    (hw : sf.window = some w) (topology : Nat)
    (he : w.extentChanged = true → w.extent = sf.description.extent)
    (ho : Honest ((s.modifyWindow id (·.polled topology)).record (.polled id w.extentChanged w.extent))) :
    (windowBooks ((s.modifyWindow id (·.polled topology)).record
      (.polled id w.extentChanged w.extent)) id).made ≠ none := by
  obtain ⟨-, ha⟩ := WindowsLinked.honest_allowed (s := s) rfl ho
  have hknown := hs.windows.known id sf w hsf hw
  have hbooks : windowBooks ((s.modifyWindow id (·.polled topology)).record
      (.polled id w.extentChanged w.extent)) =
        windowHistory (windowBooks s) (.polled id w.extentChanged w.extent) := Monitor.after_snoc ..
  rw [hbooks]
  show (seeWindow _ id _ id).made ≠ none
  rw [seeWindow, if_pos rfl]
  obtain ⟨m, hm⟩ := Option.ne_none_iff_exists'.mp ha
  show ((windowBooks s id).made.filter _) ≠ none
  rw [hm, Option.filter_some, if_pos]
  · exact Option.some_ne_none _
  · cases hf : w.extentChanged with
    | false => rfl
    | true =>
      show decide (m.2 = w.extent) = true
      rw [hknown.made m hm, he hf]
      exact decide_eq_true rfl

theorem pollWindow_ensures (hsf : r.surfaces id = some sf) (htype : sf.description.type = .window) :
    Ensures (moves c) (Amid c True r 0 none) (pollWindow id)
      (fun events s => ∃ r', (Near r r' ∧ Polled r' id events.extent) ∧
        ((events.extentChanged = true → events.extent = sf.description.extent) →
          Honest s → (windowBooks s id).made ≠ none) ∧ Amid c True r' 0 none s)
      (fun _ => Failed kept r 0) := by
  refine Ensures.bind roundtrip_ensures fun answer => ?_
  refine Ensures.bind (failIf_ensures.error fun _ _ _ hs => Nearby.failed hs) fun _ =>
    Ensures.and_pre fun _ => Ensures.exists_pre fun r₁ => Ensures.and_pre fun hnear => ?_
  refine Ensures.assume (fun s hs h => h.facts hs) fun hf₁ => ?_
  obtain ⟨sf₁, w₁, hsf₁, hw₁, hstate, -⟩ := hnear.window hf₁ hsf htype
  refine Ensures.bind (windowOf_ensures hsf₁ hw₁) fun w => Ensures.and_pre fun hw => ?_
  subst hw
  refine Ensures.get_bind fun s _ hs => ?_
  refine Ensures.bind (Q := fun _ t => ((w.extentChanged = true → w.extent = sf.description.extent) →
      Honest t → (windowBooks t id).made ≠ none) ∧
    Amid c True (r₁.window id (·.polled (s.wayland.getD 0))) 0 none t) (moving ?_) fun _ =>
      Ensures.pure fun t _ ht => ⟨_, ⟨hnear.trans (near_window _ _ _), ?_⟩, ht⟩
  · rintro t ht rfl
    have hsf' : t.surfaces id = some sf₁ := hs.surfaces ▸ hsf₁
    refine ⟨.polled t id sf₁ w _ hsf' hw₁, fun he ho => ?_, (hs.window id _).recorded trivial⟩
    refine polled_made ht hsf' hw₁ _ (fun hchanged => ?_) ho
    rw [he hchanged]
    exact (congrArg SurfaceState.extent hstate).symm
  · refine ⟨withWindow (·.polled (s.wayland.getD 0)) sf₁, w.polled (s.wayland.getD 0), ?_, ?_, rfl, rfl⟩
    · show (r₁.surfaces.set id _) id = _
      rw [Table.set_same, hsf₁]
      rfl
    · show sf₁.window.map _ = _
      rw [hw₁]
      rfl

/-- What a poll of the surface leaves. -/
structure SurfacePolled (c : Scope) (r r' : Records) (id : Nat) (s : Vulkan) : Prop where
  next : Next True r r'
  polled : ∃ extent, Polled r' id extent
  made : Honest s → (windowBooks s id).made ≠ none
  amid : Amid c True r' 0 none s

theorem followExtent_ensures {events : SurfaceEvents} (hnear : Near r r')
    (hp : Polled r' id events.extent) (hsf : r.surfaces id = some sf)
    (hwaited : c.waits → SurfaceWaited sf) :
    Ensures (moves c) (fun s => ((events.extentChanged = true → events.extent = sf.description.extent) →
        Honest s → (windowBooks s id).made ≠ none) ∧ Amid c True r' 0 none s)
      (followExtent id sf events) (fun _ s => ∃ r', SurfacePolled c r r' id s)
      (fun _ => Failed c.whole r 0) := by
  obtain ⟨sf', w, hsf', hw, hchanged, hextent⟩ := hp
  have hsc := hnear.swapchains id
  rw [hsf, hsf'] at hsc
  replace hsc := Option.some.inj hsc
  refine Ensures.assume (fun s hs h => h.2.facts hs) fun hf => ?_
  refine Ensures.ite (fun _ => ?_) fun hno => ?_
  · rw [← hextent]
    refine Ensures.bind (Q := fun _ s => ∃ r', SurfacePolled c r r' id s)
      ((recreateForWindow_ensures hf hsf' hw fun hc =>
      waited_of_swapchain (hwaited hc) hsc).imp (fun _ _ hs => hs.2) (fun _ s _ hs => ?_)
        fun _ _ _ hs => hs.failed_of_alike hnear.alike) fun _ =>
        Ensures.get_bind fun s _ hs => Ensures.pure fun t _ ht => ht ▸ hs
    obtain ⟨hmade, r₂, ⟨extent, textures, swapchain, hr₂⟩, hs⟩ := hs
    have hsf₂ := congrFun hr₂.surfaces id
    rw [Table.set_same] at hsf₂
    exact ⟨r₂, hnear.alike.next.trans hr₂.next, ⟨_, _, w, hsf₂, hw, hchanged, rfl⟩, fun _ => hmade, hs⟩
  · refine Ensures.pure fun s _ hs => ⟨r', hnear.alike.next,
      ⟨_, sf', w, hsf', hw, hchanged, hextent⟩, ?_, hs.2⟩
    refine hs.1 fun hc => ?_
    have hnonempty : events.extent.empty = false := hextent ▸ (hf.linked.surface hsf').windowExtent w hw
    exact of_not_not fun hne => hno ⟨hc, hnonempty, hne⟩

theorem pollSurfaceEvents_ensures {h : SurfaceHandle} (hp : Waited c r h) :
    Ensures (moves c) (Begins c r) (pollSurfaceEvents h) (fun _ => Done c True r)
      (fun _ => Failed c.whole r 0) := by
  refine Ensures.bind pollPendingSubmission_ensures fun _ => ?_
  refine Ensures.bind (requireSurface_ensures.error fun _ _ _ hs => hs.failed) fun sf =>
    Ensures.and_pre fun ⟨hg, hsf⟩ => ?_
  refine Ensures.ite (fun _ => Ensures.pure fun s _ hs => ⟨r, .refl r, hs⟩) fun htype => ?_
  refine Ensures.bind (pollWindow_ensures hsf (of_not_not htype)) fun polled =>
    Ensures.exists_pre fun r₁ => Ensures.and_pre fun ⟨hnear, hpolled⟩ => ?_
  refine Ensures.bind (followExtent_ensures hnear hpolled hsf fun hc => hp hc sf hg hsf)
    fun events => ?_
  refine Ensures.bind (Q := fun _ => Done c True r) (moving fun s _ ⟨r₂, hs⟩ => ?_) fun _ =>
    Ensures.pure fun _ _ hs => hs
  obtain ⟨extent, sf', w, hsf', hw, hchanged, -⟩ := hs.polled
  exact ⟨.surfacePolled s h.value sf' w (hs.amid.surfaces ▸ hsf') hw hchanged hs.made,
    r₂, hs.next, hs.amid.recorded trivial⟩

theorem processSurfaceEvents_ensures {h : SurfaceHandle} (hp : Waited c r h) :
    Ensures (moves c) (Begins c r) (processSurfaceEvents h) (fun _ => Done c True r)
      (fun _ => Failed c.whole r 0) :=
  Ensures.bind (pollSurfaceEvents_ensures hp) fun _ => Ensures.pure fun _ _ hs => hs

/-! ## The end of a surface -/

/-- The records without a surface. -/
def Records.withoutSurface (r : Records) (id : Nat) : Records :=
  { r with surfaces := r.surfaces.set id none }

theorem releaseSurface_ensures {drm : SurfaceRecord} (hsf : r.surfaces id = some sf)
    (ht : sf.textures = []) (hsc : sf.swapchain = none)
    (hdrm : drm.nativeSurface = sf.nativeSurface) :
    Ensures (moves c) (Amid c steady r held work) (releaseSurface id drm)
      (fun _ => Amid c steady (r.withoutSurface id) held work) E := by
  refine Ensures.bind (Q := fun _ => Amid c steady (r.withoutSurface id)
    ((drm.nativeSurface.toList : List Native) + held) work) (moving fun s _ ha => ?_) fun _ =>
      Ensures.bind (destroyAll_amid _) fun _ => restoreDrmDisplay_ensures
  have hid : s.surfaces id = some sf := ha.surfaces ▸ hsf
  refine ⟨.takeSurface s id fun sf' hsf' => ?_, { ha with records := ?_, held := ?_ }⟩
  · obtain rfl := Option.some.inj (hid.symm.trans hsf')
    exact ⟨ht, hsc⟩
  · rw [← ha.records]
    rfl
  · show s.held + ↑((s.surfaces id).elim [] SurfaceRecord.natives) = _
    rw [hid, ha.held, hdrm, add_comm, Option.elim_some, SurfaceRecord.natives, hsc]
    rfl

/-- The records without a surface and its textures. -/
theorem withoutSurface_next (hsurfaces : r'.surfaces = (r.surfaces.set id (some sf)).set id none)
    (hi : r'.initialized = r.initialized) : Next True r r' := by
  refine ⟨hi, fun _ hw i si hsi => ?_⟩
  rw [hsurfaces] at hsi
  obtain ⟨-, hsi⟩ | ⟨hne, hsi⟩ := Table.set_cases hsi
  · exact nomatch hsi
  · rw [Table.set_ne hne] at hsi
    exact hw i si hsi

theorem destroySurface_ensures {h : SurfaceHandle} (hp : Waited c r h) :
    Ensures (moves c) (Begins c r) (destroySurface h) (fun _ => Done c True r)
      (fun _ s => Failed True r 0 s ∨ Done c True r s) := by
  refine Ensures.bind (pollPendingSubmission_ensures.error fun _ _ _ hs => .inl hs) fun _ => ?_
  refine Ensures.bind (requireSurface_ensures.error fun _ _ _ hs => .inl hs.failed) fun sf =>
    Ensures.and_pre fun ⟨hg, hsf⟩ => ?_
  have hwaited : c.waits → SurfaceWaited sf := fun hc => hp hc sf hg hsf
  refine Ensures.bind waitDeviceIdle_ensures fun _ => ?_
  have hbare : (r.dropped h.value sf).surfaces h.value = some sf.bared := Table.set_same
  have hrelease : ∀ {f : Option RendererError → RendererM Unit}, f none = pure () →
      (∀ e, f (some e) = throw e) → Ensures (moves c) (Amid c True (r.dropped h.value sf) 0 none)
        (releaseSurface h.value sf >>= f) (fun _ => Done c True r)
        (fun _ s => Failed True r 0 s ∨ Done c True r s) := by
    intro f hnone hsome
    refine Ensures.bind (releaseSurface_ensures hbare rfl rfl rfl) fun refusal => ?_
    have hdone : ∀ s, Amid c True ((r.dropped h.value sf).withoutSurface h.value) 0 none s →
        Done c True r s := by
      intro s hs
      refine ⟨_, ?_, hs⟩
      exact withoutSurface_next rfl rfl
    cases refusal with
    | some e => exact hsome e ▸ Ensures.throw fun s _ hs => .inr (hdone s hs)
    | none => exact hnone ▸ Ensures.pure fun s _ hs => hdone s hs
  split
  · exact Ensures.bind (releaseSwapchain_ensures hsf hwaited) fun _ => hrelease rfl fun _ => rfl
  · exact Ensures.bind (Ensures.bind waitDeviceIdle_ensures fun _ =>
      releaseSwapchain_ensures hsf hwaited)
      fun _ => hrelease rfl fun _ => rfl

end WSE.Proof.Oui
