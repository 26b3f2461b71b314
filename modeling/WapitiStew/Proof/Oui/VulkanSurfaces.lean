import WapitiStew.Proof.Oui.VulkanTextures

/-!
# Surfaces of the Vulkan backend

The operations on surfaces, each as a sequence of moves. While events are dispatched the windows
change, and the surfaces tell the same as before (`Near`). A swapchain that is being created is held
by the operation until its surface takes it (`NewFor`).
-/

namespace WSE.Proof.Oui

open WSE.Framework WSE.Impl.Oui WSE.Spec.Oui Relation

variable {c : Scope} {steady kept : Prop} {r r' : Records} {held : Multiset Native}
  {work : Option VulkanSubmission} {E : RendererError → Vulkan → Prop} {id : Nat}
  {sf : SurfaceRecord}

/-! ## Windows -/

/-- The surfaces tell the same. -/
structure Alike (r r' : Records) : Prop where
  initialized : r'.initialized = r.initialized
  views : SameViews r.surfaces r'.surfaces

theorem Alike.halted {s : Vulkan} (h : Alike r r') (ha : Amid c True r' held work s) :
    Halted kept r held s :=
  have hhalted : Halted True r' held s := ha.halted
  { hhalted with
    initialized := hhalted.initialized.trans h.initialized
    views := fun _ => h.views.trans (hhalted.views trivial) }

theorem Alike.failed {s : Vulkan} (h : Alike r r') (ha : Amid c True r' held none s) :
    Failed kept r held s :=
  { h.halted ha with work := ha.work }

/-- What fails after the surfaces told the same still has failed so. -/
theorem Failed.of_alike {s : Vulkan} (hr : Alike r r') (h : Failed kept r' held s) :
    Failed kept r held s :=
  { h with
    initialized := h.initialized.trans hr.initialized
    views := fun hk => hr.views.trans (h.views hk) }

/-- Only the windows have changed. -/
structure Near (r r' : Records) : Prop where
  records : r' = { r with surfaces := r'.surfaces }
  views : SameViews r.surfaces r'.surfaces
  swapchains : ∀ id, (r'.surfaces id).map (·.swapchain) = (r.surfaces id).map (·.swapchain)

theorem Near.refl (r : Records) : Near r r := ⟨rfl, .refl _, fun _ => rfl⟩

theorem Near.trans {r'' : Records} (h : Near r r') (h' : Near r' r'') : Near r r'' where
  records := by
    rw [h'.records, h.records]
  views := h.views.trans h'.views
  swapchains id := (h'.swapchains id).trans (h.swapchains id)

theorem Near.alike (h : Near r r') : Alike r r' :=
  ⟨(congrArg Records.initialized h.records :), h.views⟩

/-- The surface is still there, and tells the same. -/
theorem SameViews.some {surfaces surfaces' : Table SurfaceRecord} (h : SameViews surfaces surfaces')
    (hs : surfaces id = some sf) :
    ∃ sf', surfaces' id = some sf' ∧ reportedState sf' = reportedState sf ∧
      sf'.textures = sf.textures := by
  have hview := h id
  rw [hs] at hview
  obtain ⟨sf', hsf', hv⟩ := Option.map_eq_some_iff.mp hview
  exact ⟨sf', hsf', congrArg Prod.fst hv, congrArg Prod.snd hv⟩

def withWindow (f : WaylandWindow → WaylandWindow) (sf : SurfaceRecord) : SurfaceRecord :=
  { sf with window := sf.window.map f }

/-- The records with another window. -/
def Records.window (r : Records) (id : Nat) (f : WaylandWindow → WaylandWindow) : Records :=
  { r with surfaces := r.surfaces.set id ((r.surfaces id).map (withWindow f)) }

theorem near_window (r : Records) (id : Nat) (f : WaylandWindow → WaylandWindow) :
    Near r (r.window id f) := by
  have hmap {α : Type} {g : SurfaceRecord → α} (hg : ∀ sf, g (withWindow f sf) = g sf) (i : Nat) :
      ((r.surfaces.set id ((r.surfaces id).map (withWindow f))) i).map g =
      (r.surfaces i).map g := by
    rw [Table.set_apply]
    split
    · rename_i hi
      rw [hi, Option.map_map]
      exact Option.map_congr fun sf _ => hg sf
    · rfl
  exact ⟨rfl, hmap fun _ => rfl, hmap fun _ => rfl⟩

theorem Amid.window {s : Vulkan} (h : Amid c steady r held work s) (id : Nat)
    (f : WaylandWindow → WaylandWindow) :
    Amid c steady (r.window id f) held work (s.modifyWindow id f) :=
  { h with
    records := by
      rw [← h.records]
      rfl }

theorem Amid.deliver {s : Vulkan} (h : Amid c steady r held work s) (e : CompositorEvent) :
    ∃ r', Near r r' ∧ Amid c steady r' held work (s.deliver e) := by
  unfold Vulkan.deliver
  split
  · exact ⟨r, .refl r, { h with }⟩
  · exact ⟨r, .refl r, h⟩
  · split
    · exact ⟨r, .refl r, h⟩
    · dsimp only
      split
      · exact ⟨_, near_window r _ _, (h.window _ _).recorded trivial⟩
      · exact ⟨_, near_window r _ _, h.window _ _⟩

theorem deliver_all (events : List CompositorEvent) {s : Vulkan} (h : Amid c steady r held work s) :
    ReflTransGen (Move c) s (events.foldl Vulkan.deliver s) ∧
      ∃ r', Near r r' ∧ Amid c steady r' held work (events.foldl Vulkan.deliver s) := by
  induction events generalizing r s with
  | nil => exact ⟨.refl, r, .refl r, h⟩
  | cons e events ih =>
    obtain ⟨r', hr, hs⟩ := h.deliver e
    obtain ⟨hmoves, r'', hr', hs'⟩ := ih hs
    exact ⟨.head (Move.deliver c s e) hmoves, r'', hr.trans hr', hs'⟩

/-- Where a request to the compositor leaves an operation. -/
def Nearby (c : Scope) (steady : Prop) (r : Records) (held : Multiset Native)
    (work : Option VulkanSubmission) (s : Vulkan) : Prop :=
  ∃ r', Near r r' ∧ Amid c steady r' held work s

theorem roundtrip_ensures :
    Ensures (moves c) (Amid c steady r held work) roundtrip
      (fun _ => Nearby c steady r held work) E := by
  refine Ensures.bind ask_ensures fun answer => Ensures.and_pre fun _ => ?_
  refine Ensures.bind (Q := fun _ => Nearby c steady r held work)
    (Ensures.modify fun s _ hs => deliver_all answer.events hs) fun _ => Ensures.pure fun _ _ hs => hs

/-- A computation that starts near is near when it ends. -/
theorem Nearby.bind {α : Type} {x : RendererM α}
    {F : α → Records → Vulkan → Prop} {E : RendererError → Records → Vulkan → Prop}
    (h : ∀ r', Near r r' → Ensures (moves c) (Amid c steady r' held work) x
      (fun a s => ∃ r'', Near r' r'' ∧ F a r'' s) (fun e s => ∃ r'', Near r' r'' ∧ E e r'' s)) :
    Ensures (moves c) (Nearby c steady r held work) x
      (fun a s => ∃ r'', Near r r'' ∧ F a r'' s) (fun e s => ∃ r'', Near r r'' ∧ E e r'' s) := by
  refine Ensures.exists_pre fun r' => Ensures.and_pre fun hr => ?_
  exact (h r' hr).imp (fun _ _ hs => hs) (fun _ _ _ ⟨r'', hr', hf⟩ => ⟨r'', hr.trans hr', hf⟩)
    fun _ _ _ ⟨r'', hr', he⟩ => ⟨r'', hr.trans hr', he⟩

theorem findOutput_ensures {fullscreen : Bool} :
    Ensures (moves c) (Amid c steady r held work) (findOutput fullscreen)
      (fun _ => Amid c steady r held work) E := by
  unfold findOutput
  split
  · exact Ensures.bind ask_ensures fun _ => Ensures.and_pre fun _ => Ensures.pure fun _ _ hs => hs
  · exact Ensures.pure fun _ _ hs => hs

/-- A change of a window that no record of extents follows. -/
theorem modifyWindow_ensures {f : WaylandWindow → WaylandWindow}
    (hf : ∀ w, (f w).extent = w.extent ∧ (f w).extentChanged = w.extentChanged) :
    Ensures (moves c) (Nearby c steady r held work) (modify (·.modifyWindow id f))
      (fun _ => Nearby c steady r held work) E :=
  moving fun s _ ⟨_, hr, hs⟩ => ⟨.window s id f hf, _, hr.trans (near_window _ id f), hs.window id f⟩

theorem setFullscreen_ensures {fullscreen : Bool} :
    Ensures (moves c) (Nearby c steady r held work) (setFullscreen id fullscreen)
      (fun _ => Nearby c steady r held work) E := by
  refine Ensures.bind (Q := fun _ => Nearby c steady r held work)
    (Ensures.exists_pre fun r' => Ensures.and_pre fun hr =>
      findOutput_ensures.after fun _ _ _ hs => ⟨r', hr, hs⟩) fun found => ?_
  refine Ensures.ite (fun _ => Ensures.pure fun _ _ hs => hs) fun _ => ?_
  refine Ensures.bind (modifyWindow_ensures fun _ => ⟨rfl, rfl⟩) fun _ => ?_
  refine Ensures.bind (Q := fun _ => Nearby c steady r held work)
    (Ensures.exists_pre fun r' => Ensures.and_pre fun hr =>
      roundtrip_ensures.after fun _ _ _ ⟨r'', hr', hs⟩ => ⟨r'', hr.trans hr', hs⟩) fun answer => ?_
  refine Ensures.ite (fun _ => Ensures.pure fun _ _ hs => hs) fun _ => ?_
  exact Ensures.bind (modifyWindow_ensures fun _ => ⟨rfl, rfl⟩) fun _ => Ensures.pure fun _ _ hs => hs

theorem requestExtent_ensures {w w' : WaylandWindow} {extent : RendererExtent2D}
    (hsf : r.surfaces id = some sf) (hw : sf.window = some w') (he : extent.empty = false) :
    Ensures (moves c) (Amid c steady r held work) (requestExtent id w extent)
      (fun _ => Nearby c steady r held work) (fun _ => Nearby c steady r held work) := by
  refine Ensures.bind (failIf_ensures.error fun _ _ _ hs => ⟨r, .refl r, hs⟩) fun _ =>
    Ensures.and_pre fun _ => ?_
  refine Ensures.bind (Q := fun _ => Amid c steady (r.window id (·.takeExtent extent)) held work)
    (moving fun s _ hs => ⟨.request s id sf w' extent (hs.surfaces ▸ hsf) hw he,
      (hs.window id _).recorded trivial⟩) fun _ => ?_
  have hnear := near_window r id (·.takeExtent extent)
  refine Ensures.bind (Q := fun _ => Nearby c steady r held work)
    (roundtrip_ensures.after fun _ _ _ ⟨r', hr, hs⟩ => ⟨r', hnear.trans hr, hs⟩) fun answer => ?_
  exact failIf_ensures.after fun _ _ _ hs => hs.2

theorem windowOf_ensures {w : WaylandWindow} (hsf : r.surfaces id = some sf) (hw : sf.window = some w) :
    Ensures (moves c) (Amid c steady r held work) (windowOf id)
      (fun a s => a = w ∧ Amid c steady r held work s) E := by
  refine Ensures.get_bind fun s _ hs => Ensures.pure fun t _ ht => ⟨?_, ht ▸ hs⟩
  rw [hs.surfaces, hsf]
  show sf.window.getD {} = w
  rw [hw]
  rfl

/-! ## Swapchains that are being created -/

/-- `n` objects that a failed creation gives back. -/
theorem abandonSwapchain_ensures {views : List Native} (semaphore : Option Native) {swapChain : Native} :
    Ensures (moves c)
      (Amid c steady r ((views ++ semaphore.toList ++ [swapChain] : List Native) + held) work)
      (abandonSwapchain views semaphore swapChain) (fun _ => Amid c steady r held work) E :=
  Ensures.bind waitDeviceIdle_ensures fun _ => destroyAll_amid _

/-- The records with one number more in use. -/
def Records.reserved (r : Records) (next : Nat) : Records := { r with nextResourceId := next }

theorem reserveId_ensures :
    Ensures (moves c) (Amid c steady r held work) reserveId
      (fun id s => id = r.nextResourceId ∧
        Amid c steady (r.reserved (r.nextResourceId + 1)) held work s) E := by
  refine Ensures.get_bind fun s _ hs => ?_
  refine Ensures.bind (Q := fun _ => Amid c steady (r.reserved (r.nextResourceId + 1)) held work)
    (moving ?_) fun _ => Ensures.pure fun t _ ht => ⟨hs.nextResourceId, ht⟩
  rintro t - rfl
  refine ⟨.reserve t, { hs with records := ?_ }⟩
  rw [← hs.records]
  rfl

/-- The textures of the images, as far as they are made. -/
structure Made (first : Nat) (surfaceId : Nat) (d : TextureDescription) (swapChain : Native)
    (next : Nat) (made : List (Nat × TextureRecord)) : Prop where
  reached : first ≤ next
  textures : ∀ i (p : Nat × TextureRecord), made[i]? = some p →
    p.2.image = .presentable swapChain i ∧ p.2.surfaceOwner = surfaceId ∧
    p.2.layout = .undefined ∧ p.2.description = d
  ids : ∀ p ∈ made, first ≤ p.1 ∧ p.1 < next
  distinct : (made.map (·.1)).Nodup

theorem Made.start (first surfaceId : Nat) (d : TextureDescription) (swapChain : Native) :
    Made first surfaceId d swapChain first [] where
  reached := le_rfl
  textures i p h := by
    rw [List.getElem?_nil] at h
    cases h
  ids p h := absurd h List.not_mem_nil
  distinct := List.nodup_nil

theorem Made.snoc {first surfaceId next : Nat} {d : TextureDescription} {swapChain : Native}
    {made : List (Nat × TextureRecord)} (h : Made first surfaceId d swapChain next made)
    {t : TextureRecord} (hi : t.image = .presentable swapChain made.length)
    (ho : t.surfaceOwner = surfaceId) (hl : t.layout = .undefined) (hd : t.description = d) :
    Made first surfaceId d swapChain (next + 1) (made ++ [(next, t)]) where
  reached := h.reached.trans (Nat.le_succ _)
  textures i p hp := by
    obtain hlt | hge := Nat.lt_or_ge i made.length
    · rw [List.getElem?_append_left hlt] at hp
      exact h.textures i p hp
    · rw [List.getElem?_append_right hge] at hp
      obtain ⟨he, -⟩ := List.getElem?_eq_some_iff.mp hp
      have hzero : i - made.length = 0 := Nat.lt_one_iff.mp he
      have hi' : i = made.length := Nat.le_antisymm (Nat.le_of_sub_eq_zero hzero) hge
      rw [hzero] at hp
      obtain rfl := Option.some.inj hp
      rw [hi']
      exact ⟨hi, ho, hl, hd⟩
  ids p hp := by
    obtain hp | hp := List.mem_append.mp hp
    · exact ⟨(h.ids p hp).1, (h.ids p hp).2.trans (Nat.lt_succ_self _)⟩
    · rw [List.mem_singleton.mp hp]
      exact ⟨h.reached, Nat.lt_succ_self _⟩
  distinct := by
    rw [List.map_append, List.nodup_append]
    refine ⟨h.distinct, List.nodup_singleton _, fun a ha b hb => ?_⟩
    obtain ⟨p, hp, rfl⟩ := List.mem_map.mp ha
    rw [List.mem_singleton.mp hb]
    exact Nat.ne_of_lt (h.ids p hp).2

/-- What the operation holds while the textures are made. -/
def madeNatives (made : List (Nat × TextureRecord)) (swapChain : Native) (held : Multiset Native) :
    Multiset Native :=
  (made.map (·.2.view) : List Native) + swapChain ::ₘ held

theorem madeNatives_eq (made : List (Nat × TextureRecord)) (swapChain : Native)
    (held : Multiset Native) : madeNatives made swapChain held =
      ((made.map (·.2.view) ++ (none : Option Native).toList ++ [swapChain] : List Native) + held) := by
  rw [madeNatives, Option.toList_none, List.append_nil, ← Multiset.coe_add, add_assoc,
    ← Multiset.cons_coe, Multiset.coe_nil, Multiset.cons_add, zero_add]

theorem madeNatives_snoc (made : List (Nat × TextureRecord)) (id : Nat) (t : TextureRecord)
    (swapChain : Native) (held : Multiset Native) :
    madeNatives (made ++ [(id, t)]) swapChain held = t.view ::ₘ madeNatives made swapChain held := by
  rw [madeNatives, madeNatives, List.map_append, ← Multiset.coe_add, List.map_singleton,
    Multiset.coe_singleton, add_comm _ {(id, t).2.view}, add_assoc, Multiset.singleton_add]

variable (held) in
theorem createSwapchainTextures_ensures {first surfaceId next : Nat} {d : TextureDescription}
    {swapChain : Native} (results : List VkResult) (made : List (Nat × TextureRecord))
    (hmade : Made first surfaceId d swapChain next made) :
    Ensures (moves c) (Amid c True (r.reserved next) (madeNatives made swapChain held) none)
      (createSwapchainTextures surfaceId d swapChain results made)
      (fun made' s => ∃ next', (Made first surfaceId d swapChain next' made' ∧
          made'.length = made.length + results.length) ∧
        Amid c True (r.reserved next') (madeNatives made' swapChain held) none s)
      (fun _ s => ∃ next', (∃ result ∈ results, result ≠ .success) ∧
        Amid c True (r.reserved next') held none s) := by
  induction results generalizing next made with
  | nil => exact Ensures.pure fun s _ hs => ⟨next, ⟨hmade, rfl⟩, hs⟩
  | cons result rest ih =>
    unfold createSwapchainTextures
    refine Ensures.ite (fun hfail => ?_) fun _ => ?_
    · refine Ensures.bind (Ensures.before (abandonSwapchain_ensures _) fun s _ hs => ?_) fun _ =>
        Ensures.throw fun s _ hs => ⟨next, ⟨result, List.mem_cons_self, hfail⟩, hs⟩
      rw [← madeNatives_eq]
      exact hs
    · refine Ensures.get_bind fun s _ hs => ?_
      refine Ensures.bind (create_ensures hs) fun _ => ?_
      refine Ensures.bind reserveId_ensures fun id => Ensures.and_pre fun hid => ?_
      subst hid
      refine (Ensures.before (ih _ (hmade.snoc rfl rfl rfl rfl)) fun t _ ht => ?_).imp
        (fun _ _ ht => ht) (fun made' t _ ht => ?_) fun _ t _ ht => ?_
      · rw [madeNatives_snoc]
        exact ht
      · obtain ⟨next', ⟨hmade', hlength⟩, ht⟩ := ht
        refine ⟨next', ⟨hmade', hlength.trans ?_⟩, ht⟩
        rw [List.length_append, List.length_cons]
        exact Nat.add_right_comm ..
      · obtain ⟨next', ⟨result', hmem, hne⟩, ht⟩ := ht
        exact ⟨next', ⟨result', List.mem_cons_of_mem _ hmem, hne⟩, ht⟩

theorem Made.natives {first surfaceId next : Nat} {d : TextureDescription} {swapChain : Native}
    {made : List (Nat × TextureRecord)} (h : Made first surfaceId d swapChain next made) :
    made.flatMap (·.2.natives) = made.map (·.2.view) := by
  have hnatives : ∀ p ∈ made, p.2.natives = [p.2.view] := by
    intro p hp
    obtain ⟨i, hi⟩ := List.mem_iff_getElem?.mp hp
    rw [TextureRecord.natives, (h.textures i p hi).1]
  clear h
  induction made with
  | nil => rfl
  | cons p made ih =>
    obtain ⟨hp, hmade⟩ := List.forall_mem_cons.mp hnatives
    rw [List.flatMap_cons, hp, ih hmade]
    rfl

theorem newNatives_eq {first surfaceId next : Nat} {d : TextureDescription} {n : NewSwapchain}
    (h : Made first surfaceId d n.swapChain next n.textures) (held : Multiset Native) :
    (n.natives : Multiset Native) + held =
      n.acquireSemaphore ::ₘ madeNatives n.textures n.swapChain held := by
  rw [NewSwapchain.natives, h.natives, madeNatives, ← Multiset.coe_add, add_assoc, ← Multiset.add_cons]
  exact congrArg _ (cons_two n.acquireSemaphore n.swapChain held)

/-- The records once an image is acquired. -/
def Records.acquire (r : Records) (swapChain : Native) (index : Nat) (semaphore : Native) : Records :=
  { r with images := fun sc => if sc = swapChain then some { index, semaphore } else r.images sc }

/-- An image is acquired, or the presentation of one is queued. -/
def IsImageEvent : VulkanEvent → Prop
  | .acquired _ _ _ | .presented _ _ _ => True
  | _ => False

theorem Amid.recordedImage {s : Vulkan} (h : Amid c steady r held work s) {e : VulkanEvent}
    (he : IsImageEvent e) :
    Amid c steady { r with images := (imageUse false).next r.images e } held work (s.record e) where
  records := by
    rw [← h.records]
    unfold Oui.records
    rw [realLayouts_record, imageBooks_record]
    cases e <;> first | exact he.elim | rfl
  held := h.held
  work := h.work
  pending := h.pending
  calm := by
    have hcalm := h.calm
    unfold Calm at hcalm ⊢
    show (ownership.after (s.log ++ [e])).inFlight = none
    rw [Monitor.after_snoc]
    cases e <;> first | exact he.elim | exact hcalm
  steady hs := by
    obtain ⟨hsuccess, hterminal⟩ := h.steady hs
    refine ⟨hsuccess, ?_⟩
    show (ownership.after (s.log ++ [e])).terminal = false
    rw [Monitor.after_snoc]
    cases e <;> first | exact he.elim | exact hterminal
  answers := h.answers

variable (held) in
theorem acquireFirst_ensures {a : SwapchainAnswer} {views : List Native} {swapChain : Native}
    {images : Nat} (himages : 0 < images) (hnone : r.images swapChain = none) :
    Ensures (moves c) (Amid c True r ((views : Multiset Native) + swapChain ::ₘ held) none)
      (acquireFirst a views swapChain images)
      (fun p s => p.2 < images ∧ Amid c True (r.acquire swapChain p.2 p.1)
        (p.1 ::ₘ ((views : Multiset Native) + swapChain ::ₘ held)) none s)
      (fun _ s => ¬SwapchainSucceeds a ∧ Amid c True r held none s) := by
  have hviews : (views : Multiset Native) + swapChain ::ₘ held =
      ((views ++ (none : Option Native).toList ++ [swapChain] : List Native) + held) := by
    rw [Option.toList_none, List.append_nil, ← Multiset.coe_add, add_assoc, ← Multiset.cons_coe,
      Multiset.coe_nil, Multiset.cons_add, zero_add]
  unfold acquireFirst
  refine Ensures.ite (fun hfail => ?_) fun _ => ?_
  · refine Ensures.bind (Ensures.before (abandonSwapchain_ensures _) fun s _ hs => ?_) fun _ =>
      Ensures.throw fun s _ hs => ⟨fun h => hfail h.2.2.2.2.2.2.2.1, hs⟩
    rw [← hviews]
    exact hs
  · refine Ensures.get_bind fun s _ hs => ?_
    refine Ensures.bind (create_ensures hs) fun _ => Ensures.ite (fun hfail => ?_) fun _ => ?_
    · refine Ensures.bind (Ensures.before (abandonSwapchain_ensures _) fun t _ ht => ?_) fun _ =>
        Ensures.throw fun t _ ht => ⟨fun h => ?_, ht⟩
      · rw [hviews, Option.toList_none, List.append_nil, ← Multiset.cons_add] at ht
        have hperm : ((views ++ [(⟨.semaphore, s.nextNative⟩ : Native)] ++ [swapChain] : List Native) :
            Multiset Native) =
            (⟨.semaphore, s.nextNative⟩ : Native) ::ₘ (views ++ [swapChain] : List Native) := by
          rw [List.append_assoc, List.singleton_append]
          exact Multiset.coe_eq_coe.mpr List.perm_middle
        rw [Option.toList_some, hperm]
        exact ht
      · obtain hsuccess | hsuboptimal := h.2.2.2.2.2.2.2.2
        · exact hfail.1 hsuccess
        · exact hfail.2 hsuboptimal
    · refine Ensures.bind (Q := fun _ => Amid c True (r.acquire swapChain (a.index % images)
        ⟨.semaphore, s.nextNative⟩) (⟨.semaphore, s.nextNative⟩ ::ₘ
          ((views : Multiset Native) + swapChain ::ₘ held)) none) (moving fun t _ ht =>
            ⟨.acquired t swapChain _ _ ?_ (ht.images ▸ hnone),
            ht.recordedImage (e := .acquired _ _ _) trivial⟩) fun _ =>
        Ensures.pure fun t _ ht => ⟨Nat.mod_lt _ himages, ht⟩
      rw [ht.held]
      exact Multiset.mem_cons_of_mem (Multiset.mem_add.mpr (.inr (Multiset.mem_cons_self _ _)))

/-- What a new swapchain is for the records (`SoundSwapchain`). -/
structure NewFor (r : Records) (id : Nat) (n : NewSwapchain) : Prop where
  textures : ∀ i (p : Nat × TextureRecord), n.textures[i]? = some p →
    p.2.image = .presentable n.swapChain i ∧ p.2.surfaceOwner = id ∧
    p.2.layout = .undefined ∧ p.2.description.extent = n.extent ∧
    p.2.description.usage.sampled = false ∧ p.2.description.usage.transferDestination = false
  fresh : ∀ p ∈ n.textures, r.textures p.1 = none ∧ p.1 < r.nextResourceId
  distinct : (n.textures.map (·.1)).Nodup
  current : n.currentImage < n.textures.length
  extent : n.extent.empty = false
  layouts : ∀ index, r.layouts (.presentable n.swapChain index) = .undefined
  acquired : r.images n.swapChain = some ⟨n.currentImage, n.acquireSemaphore, false⟩

theorem NewFor.sound {n : NewSwapchain} {s : Vulkan} (h : NewFor r id n)
    (ha : Amid c steady r held work s) (hn : (n.natives : Multiset Native) ≤ held) :
    SoundSwapchain s id n where
  natives := ha.held ▸ hn
  textures := h.textures
  fresh p hp := by
    rw [ha.textures, ha.nextResourceId]
    exact h.fresh p hp
  distinct := h.distinct
  current := h.current
  extent := h.extent
  layouts index := by
    rw [ha.layouts]
    exact h.layouts index
  acquired := by
    rw [ha.images]
    exact h.acquired

theorem clamp_pos {value low high : Nat} (hl : 0 < low) (hh : 0 < high) : 0 < clamp value low high := by
  unfold clamp
  split
  · exact hl
  · split
    · exact hh
    · omega

theorem nonempty_iff {e : RendererExtent2D} : e.empty = false ↔ 0 < e.width ∧ 0 < e.height := by
  simp only [RendererExtent2D.empty, Bool.or_eq_false_iff, decide_eq_false_iff_not, Nat.pos_iff_ne_zero]

theorem swapchainExtent_nonempty (a : SurfaceCapabilities) (requested : RendererExtent2D) :
    (swapchainExtent a requested).empty = false := by
  unfold swapchainExtent
  split
  · rename_i extent he
    exact a.current_nonempty extent he
  · obtain ⟨hminw, hminh⟩ := nonempty_iff.mp a.min_nonempty
    obtain ⟨hmaxw, hmaxh⟩ := nonempty_iff.mp a.max_nonempty
    exact nonempty_iff.mpr ⟨clamp_pos hminw hmaxw, clamp_pos hminh hmaxh⟩

/-- The records with a swapchain that no surface has yet. -/
structure Creates (r r' : Records) (id : Nat) (requested : RendererExtent2D) (n : NewSwapchain) :
    Prop where
  records : r' = { r with nextResourceId := r'.nextResourceId, images := r'.images }
  reserved : r.nextResourceId ≤ r'.nextResourceId
  new : NewFor r' id n
  requested : n.requested = requested

theorem made_new {surfaceId next : Nat} {d : TextureDescription} {n : NewSwapchain}
    (hf : Facts r) (hmade : Made r.nextResourceId surfaceId d n.swapChain next n.textures)
    (hcurrent : n.currentImage < n.textures.length) (hextent : n.extent.empty = false)
    (hd : d.extent = n.extent) (hs : d.usage.sampled = false)
    (ht : d.usage.transferDestination = false)
    (hlayouts : ∀ index, r.layouts (.presentable n.swapChain index) = .undefined) :
    NewFor ((r.reserved next).acquire n.swapChain n.currentImage n.acquireSemaphore) surfaceId n where
  textures i p hp := by
    obtain ⟨himage, howner, hlayout, rfl⟩ := hmade.textures i p hp
    exact ⟨himage, howner, hlayout, hd, hs, ht⟩
  fresh p hp := ⟨hf.textures _ (hmade.ids p hp).1, (hmade.ids p hp).2⟩
  distinct := hmade.distinct
  current := hcurrent
  extent := hextent
  layouts := hlayouts
  acquired := if_pos rfl

theorem viewResults_succeed {a : SwapchainAnswer} (h : SwapchainSucceeds a) :
    ∀ result ∈ (List.range a.images).map fun i => a.viewResults.getD i .success, result = .success := by
  intro result hr
  obtain ⟨i, -, rfl⟩ := List.mem_map.mp hr
  rw [List.getD_eq_getElem?_getD]
  cases hi : a.viewResults[i]? with
  | none => rfl
  | some result => exact h.2.2.2.2.2.2.1 _ (List.mem_of_getElem? hi)

theorem createSwapchain_ensures {description : SurfaceDescription} {nativeSurface : Option Native}
    (requested : RendererExtent2D) (hnative : nativeSurface ≠ none) :
    Ensures (moves c) (Amid c True r held none) (createSwapchain id description nativeSurface requested)
      (fun n s => ∃ r', Creates r r' id requested n ∧
        Amid c True r' ((n.natives : Multiset Native) + held) none s)
      (fun _ s => ¬c.whole ∧ ∃ next, Amid c True (r.reserved next) held none s) := by
  refine Ensures.assume (fun s hs h => h.facts hs) fun hf => ?_
  refine Ensures.bind (failIf_cases.error fun _ s _ hs => absurd hs.1 hnative) fun _ =>
    Ensures.and_pre fun _ => ?_
  refine Ensures.bind ask_ensures fun answer => Ensures.and_pre fun hwell => ?_
  have hcheck : ∀ {p : Prop} [Decidable p] {e : RendererError},
      (SwapchainSucceeds answer.swapchain → ¬p) → Ensures (moves c) (Amid c True r held none)
        (failIf p e) (fun _ s => ¬p ∧ Amid c True r held none s)
        (fun _ s => ¬c.whole ∧ ∃ next, Amid c True (r.reserved next) held none s) :=
    fun hp => failIf_cases.error fun _ s _ hs =>
      ⟨fun hw => hp (hwell hw) hs.1, r.nextResourceId, hs.2⟩
  dsimp only
  refine Ensures.bind (hcheck fun h => by simp [h.1]) fun _ => Ensures.and_pre fun _ => ?_
  refine Ensures.bind (hcheck fun h => by simp [h.2.1]) fun _ => Ensures.and_pre fun _ => ?_
  refine Ensures.bind (hcheck fun h => by simp [h.2.2.1]) fun _ => Ensures.and_pre fun _ => ?_
  refine Ensures.bind (hcheck fun h => by simp [h.2.2.2.1]) fun _ => Ensures.and_pre fun _ => ?_
  refine Ensures.get_bind fun s hs ha => ?_
  have hfresh : NewNative r ⟨.swapchain, s.nextNative⟩ := fresh_next ha hs .swapchain
  refine Ensures.bind (create_ensures ha) fun _ => Ensures.ite (fun hfail => ?_) fun hok => ?_
  · refine Ensures.bind (Ensures.before (abandonSwapchain_ensures none) fun t _ ht => ht)
      fun _ => Ensures.throw fun t _ ht => ⟨fun hw => ?_, r.nextResourceId, ht⟩
    obtain hfail | hfail := hfail
    · exact hfail (hwell hw).2.2.2.2.1
    · exact (hwell hw).2.2.2.2.2.1 hfail
  · obtain ⟨-, himages⟩ := not_or.mp hok
    refine Ensures.bind ((Ensures.before (createSwapchainTextures_ensures (r := r) held _ []
      (Made.start r.nextResourceId id _ _)) fun t _ ht => ?_).error fun _ t _ ht => ?_) fun textures =>
      Ensures.exists_pre fun next => Ensures.and_pre fun ⟨hmade, hlength⟩ => ?_
    · rw [madeNatives, List.map_nil, Multiset.coe_nil, zero_add]
      exact ht
    · obtain ⟨next, ⟨result, hr, hne⟩, ht⟩ := ht
      exact ⟨fun hw => hne (viewResults_succeed (hwell hw) result hr), next, ht⟩
    · have hpos : 0 < textures.length := by
        rw [hlength, List.length_nil, zero_add, List.length_map, List.length_range]
        exact Nat.pos_of_ne_zero himages
      refine Ensures.bind ((Ensures.before (acquireFirst_ensures (r := r.reserved next) held
        hpos hfresh.images) fun t _ ht => ht).error fun _ t _ ht =>
          ⟨fun hw => ht.1 (hwell hw), next, ht.2⟩) fun p => Ensures.and_pre fun hindex => ?_
      refine Ensures.pure fun t _ ht => ⟨_, ⟨rfl, hmade.reached, made_new hf hmade hindex
        (swapchainExtent_nonempty _ _) rfl rfl rfl fun index =>
          hfresh.layouts _ List.mem_cons_self, rfl⟩, ?_⟩
      exact { ht with held := ht.held.trans (newNatives_eq (n := ⟨_, p.1, p.2, textures, requested, _⟩)
        hmade held).symm }

/-! ## Swapchains of surfaces -/

/-- The records once a surface has taken a new swapchain. -/
def Records.installed (r : Records) (id : Nat) (n : NewSwapchain) : Records :=
  { r with
    textures := n.textures.foldl (fun table t => table.set t.1 (some t.2)) r.textures
    surfaces := r.surfaces.set id ((r.surfaces id).map (n.into r.generation)) }

variable (steady held work) in
theorem installSwapchain_ensures {n : NewSwapchain} (hn : NewFor r id n)
    (hsf : r.surfaces id = some sf) (hsc : sf.swapchain = none) (ht : sf.textures = [])
    (ho : sf.description.type ≠ .offscreen) (hw : ∀ w, sf.window = some w → n.requested = w.extent) :
    Ensures (moves c) (Amid c steady r ((n.natives : Multiset Native) + held) work)
      (modify (·.installSwapchain id n))
      (fun _ s => (windowReports.after s.log id).made ≠ none ∧
        Amid c steady (r.installed id n) held work s) E := by
  refine moving fun s _ h => ⟨.installSwapchain s id sf n (h.surfaces ▸ hsf) hsc ht ho
    (hn.sound h (Multiset.le_add_right _ _)) hw, ?_, ?_⟩
  · have hbooks : windowReports.after (s.installSwapchain id n).log =
        windowHistory (windowReports.after s.log) (.swapchainMade id n.requested n.extent) :=
      Monitor.after_snoc ..
    rw [hbooks]
    show (seeWindow _ id _ id).made ≠ none
    rw [seeWindow, if_pos rfl]
    exact Option.some_ne_none _
  · refine Amid.recorded (e := .swapchainMade ..) ?_ trivial
    refine { h with records := ?_, held := ?_ }
    · rw [← h.records]
      rfl
    · show s.held - _ = held
      rw [h.held]
      exact add_tsub_cancel_left _ _

/-- The records once a surface has lost its swapchain and its textures. -/
def Records.dropped (r : Records) (id : Nat) (sf : SurfaceRecord) : Records :=
  { r with
    textures := fun i => if i ∈ sf.textures.map (·.value) then none else r.textures i
    surfaces := r.surfaces.set id (some sf.bared) }

theorem takeTextures_held (ids : List Nat) (hd : ids.Nodup) (s : Vulkan) :
    (ids.foldl Vulkan.takeTexture s).held =
      s.held + (ids.flatMap fun i => (s.textures i).elim [] TextureRecord.natives : List Native) := by
  induction ids generalizing s with
  | nil => exact (add_zero _).symm
  | cons id ids ih =>
    obtain ⟨hnot, hd⟩ := List.nodup_cons.mp hd
    have hrest : ids.flatMap (fun i => ((s.takeTexture id).textures i).elim [] TextureRecord.natives) =
        ids.flatMap fun i => (s.textures i).elim [] TextureRecord.natives := by
      refine List.flatMap_congr fun i hi => ?_
      show (s.textures.set id none i).elim _ _ = _
      have hne : i ≠ id := fun he => hnot (he ▸ hi)
      rw [Table.set_ne hne]
    rw [List.foldl_cons, ih hd, hrest, List.flatMap_cons, ← Multiset.coe_add, ← add_assoc]
    rfl

theorem releaseSwapchain_ensures (hsf : r.surfaces id = some sf) (hp : c.waits → SurfaceWaited sf) :
    Ensures (moves c) (Amid c steady r held work) (releaseSwapchain id)
      (fun _ => Amid c steady (r.dropped id sf) held work) E := by
  refine Ensures.get_bind fun s hs ha => ?_
  have hsurface : s.surfaces id = some sf := ha.surfaces ▸ hsf
  simp only [hsurface]
  refine Ensures.bind (Q := fun _ => Amid c steady (r.dropped id sf)
    (((sf.textures.flatMap fun h => (s.textures h.value).elim [] TextureRecord.natives) ++
      sf.swapchain.elim [] VulkanSwapchain.natives : List Native) + held) work) (moving ?_) fun _ =>
    destroyAll_amid _
  rintro t - rfl
  refine ⟨.dropSwapchain t id sf hsurface hp, Amid.recorded (e := .swapchainLost ..) ?_ trivial⟩
  have hdistinct := (hs.records.surface hsurface).distinct
  have hheld := takeTextures_held _ hdistinct t
  have htextures : (((sf.textures.map (·.value)).foldl Vulkan.takeTexture t).textures) =
      (r.dropped id sf).textures := by
    funext i
    rw [takeTextures_apply, ha.textures]
    rfl
  rw [List.flatMap_map] at hheld
  unfold Vulkan.dropSwapchain
  simp only [hsurface]
  rw [takeTextures_eq]
  refine { ha with records := ?_, held := ?_ }
  · show Records.mk _ _ _ ((sf.textures.map (·.value)).foldl Vulkan.takeTexture t).textures _
      (t.surfaces.set id ((t.surfaces id).map SurfaceRecord.bared)) _ _ = _
    rw [htextures, hsurface, Option.map_some, ← ha.records]
    rfl
  · show ((sf.textures.map (·.value)).foldl Vulkan.takeTexture t).held + _ = _
    rw [hheld, ha.held, ← Multiset.coe_add, add_assoc, add_comm]

/-- Every surface has a texture. -/
def AllWhole (surfaces : Table SurfaceRecord) : Prop :=
  ∀ id sf, surfaces id = some sf → sf.textures ≠ []

/-- What an operation leaves; every surface has a texture as before if that is `kept`. -/
structure Next (kept : Prop) (r r' : Records) : Prop where
  initialized : r'.initialized = r.initialized
  whole : kept → AllWhole r.surfaces → AllWhole r'.surfaces

def Done (c : Scope) (kept : Prop) (r : Records) (s : Vulkan) : Prop :=
  ∃ r', Next kept r r' ∧ Amid c True r' 0 none s

theorem SameViews.whole {surfaces surfaces' : Table SurfaceRecord} (h : SameViews surfaces surfaces')
    (hw : AllWhole surfaces) : AllWhole surfaces' := by
  intro id sf' hsf'
  have hview := h id
  rw [hsf', Option.map_some] at hview
  obtain ⟨sf, hsf, hv⟩ := Option.map_eq_some_iff.mp hview.symm
  have htextures : sf.textures = sf'.textures := congrArg Prod.snd hv
  rw [← htextures]
  exact hw id sf hsf

theorem Alike.next (h : Alike r r') : Next kept r r' := ⟨h.initialized, fun _ => h.views.whole⟩

/-- A surface has got a swapchain of its own again. -/
structure Recreated (r r' : Records) (id : Nat) (sf : SurfaceRecord) (extent : RendererExtent2D)
    (textures : List TextureHandle) (swapchain : VulkanSwapchain) : Prop where
  initialized : r'.initialized = r.initialized
  surfaces : r'.surfaces = r.surfaces.set id (some { sf with
    description := { sf.description with extent := extent }
    textures := textures
    swapchain := swapchain })
  textures : textures ≠ []

theorem Recreated.next {extent : RendererExtent2D} {textures : List TextureHandle}
    {swapchain : VulkanSwapchain} (h : Recreated r r' id sf extent textures swapchain) :
    Next kept r r' := by
  refine ⟨h.initialized, fun _ hw i si hi => ?_⟩
  rw [h.surfaces, Table.set_apply] at hi
  split at hi
  · rw [← Option.some.inj hi]
    exact h.textures
  · exact hw i si hi

/-- The creation of a swapchain has failed after the old one was destroyed. -/
def Abandoned (c : Scope) (r : Records) (s : Vulkan) : Prop :=
  ¬c.whole ∧ ∃ r', r'.initialized = r.initialized ∧ Amid c True r' 0 none s

theorem Abandoned.failed {s : Vulkan} (h : Abandoned c r s) : Failed c.whole r 0 s := by
  obtain ⟨hwhole, r', hi, ha⟩ := h
  have hfailed : Failed True r' 0 s := ha.failed
  exact { hfailed with
    initialized := hfailed.initialized.trans hi
    views := fun hw => absurd hw hwhole }

theorem recreateSwapchain_ensures {requested : RendererExtent2D} (hsf : r.surfaces id = some sf)
    (ho : sf.description.type ≠ .offscreen) (hw : ∀ w, sf.window = some w → requested = w.extent)
    (hp : c.waits → SurfaceWaited sf) :
    Ensures (moves c) (Amid c True r 0 none) (recreateSwapchain id requested)
      (fun _ s => (windowReports.after s.log id).made ≠ none ∧ ∃ r', (∃ extent textures swapchain,
        Recreated r r' id sf extent textures swapchain) ∧ Amid c True r' 0 none s)
      (fun _ => Abandoned c r) := by
  refine Ensures.assume (fun s hs h => h.facts hs) fun hf => ?_
  refine Ensures.bind (Ensures.bind waitDeviceIdle_ensures fun _ => releaseSwapchain_ensures hsf hp)
    fun _ => Ensures.get_bind fun s _ hs => ?_
  have hbare : (r.dropped id sf).surfaces id = some sf.bared := Table.set_same
  rw [hs.surfaces, hbare]
  refine Ensures.before (P := Amid c True (r.dropped id sf) 0 none) ?_ (by rintro t - rfl; exact hs)
  refine Ensures.bind ((createSwapchain_ensures requested ((hf.linked.surface hsf).native ho)).error
    fun _ t _ ht => ?_) fun n => Ensures.exists_pre fun r' => Ensures.and_pre fun hn => ?_
  · obtain ⟨hwhole, next, ht⟩ := ht
    exact ⟨hwhole, (r.dropped id sf).reserved next, rfl, ht⟩
  · have hsf' : r'.surfaces id = some sf.bared := by
      rw [hn.records]
      exact hbare
    refine (installSwapchain_ensures _ _ _ hn.new hsf' rfl rfl ho fun w hw' => ?_).after fun _ t _ ht => ?_
    · exact hn.requested.trans (hw w hw')
    · refine ⟨ht.1, _, ⟨n.extent, n.handles r'.generation, n.record, ?_, ?_, ?_⟩, ht.2⟩
      · show r'.initialized = r.initialized
        rw [hn.records]
        rfl
      · show r'.surfaces.set id ((r'.surfaces id).map _) = _
        rw [hsf', Option.map_some, hn.records]
        funext i
        show (((r.surfaces.set id (some sf.bared)).set id _) i) = _
        simp only [Table.set_apply]
        split <;> rfl
      · intro he
        have hcurrent := hn.new.current
        rw [List.map_eq_nil_iff.mp he] at hcurrent
        exact absurd hcurrent (Nat.not_lt_zero _)

/-! ## Creating surfaces -/

theorem Amid.tables {s : Vulkan} (h : Amid c steady r held work s) (textures : Table TextureRecord)
    (surfaces : Table SurfaceRecord) :
    Amid c steady { r with textures := textures, surfaces := surfaces } held work
      { s with textures := textures, surfaces := surfaces } :=
  { h with
    records := by
      rw [← h.records]
      rfl }

/-- What the checks of a description leave. -/
structure ValidSurface (d : SurfaceDescription) : Prop where
  extent : d.extent.empty = false
  direct : d.type = .directDisplay → d.displayId ≠ "" ∧ validateDisplayMode d.displayMode = .ok ()

theorem valid_surface {d : SurfaceDescription} (h : validateSurfaceDescription d = .ok ()) :
    ValidSurface d := by
  unfold validateSurfaceDescription at h
  obtain ⟨hextent, h⟩ := unless_ok h rfl
  obtain ⟨-, h⟩ := unless_ok h rfl
  refine ⟨?_, fun ht => ?_⟩
  · rw [Bool.or_eq_true, not_or] at hextent
    exact Bool.eq_false_iff.mpr hextent.1
  · rw [ht] at h
    obtain ⟨htarget, h⟩ := unless_ok h rfl
    obtain ⟨hmode, -⟩ := unless_ok h rfl
    simp only [Bool.or_eq_true, decide_eq_true_eq, not_or] at htarget hmode
    refine ⟨htarget.1.2, ?_⟩
    cases hv : validateDisplayMode d.displayMode with
    | ok => rfl
    | error e =>
      rw [hv] at hmode
      exact absurd rfl hmode.1.1

theorem offscreen_state {d : SurfaceDescription} (hd : ValidSurface d) (ht : d.type = .offscreen) :
    validateSurfaceState (reportedState { description := d }) = .ok () := by
  unfold validateSurfaceState reportedState
  rw [hd.extent, ht]
  rfl

theorem window_state {d : SurfaceDescription} (hd : ValidSurface d) (ht : d.type = .window)
    (native : Native) (w : WaylandWindow) :
    validateSurfaceState (reportedState
      { description := d, nativeSurface := native, window := w, windowMode := .windowed }) = .ok () := by
  unfold validateSurfaceState reportedState
  dsimp only
  rw [hd.extent, ht]
  rfl

theorem direct_state {d : SurfaceDescription} (hd : ValidSurface d) (ht : d.type = .directDisplay)
    (native : Native) : validateSurfaceState (reportedState
      { description := d, nativeSurface := native, windowMode := .displayModeFullscreen,
        displayId := d.displayId, displayMode := d.displayMode, drm := true }) = .ok () := by
  obtain ⟨hid, hmode⟩ := hd.direct ht
  unfold validateSurfaceState reportedState
  dsimp only
  rw [hd.extent, ht]
  simp only [hid, decide_false, ne_eq, not_true_eq_false, Bool.or_self]
  exact hmode

/-- A new offscreen surface with its texture. -/
theorem offscreen_sound {d : SurfaceDescription} {h : TextureHandle} {t : TextureRecord} {owner : Nat}
    {textures : Table TextureRecord} (hd : ValidSurface d) (htype : d.type = .offscreen)
    (hid : id ≠ 0) (hg : h.generation = owner) (ht : textures h.value = some t)
    (ho : t.surfaceOwner = id) (he : t.description.extent = d.extent) :
    SoundSurface owner textures id { description := d, textures := [h] } where
  number := hid
  listed x hx := by
    rw [List.mem_singleton.mp hx]
    exact ⟨hg, t, ht, ho, he⟩
  distinct := List.nodup_singleton _
  current := nofun
  bare _ hne := absurd htype hne
  offscreen _ := ⟨rfl, Nat.le_refl 1⟩
  window := by
    show d.type = .window ↔ _
    rw [htype]
    exact iff_of_false nofun nofun
  windowExtent := nofun
  native hne := absurd htype hne
  state := offscreen_state hd htype

theorem setTextureOwner_same {s : Vulkan} {t : TextureRecord} (ht : s.textures id = some t) (owner : Nat) :
    (s.setTextureOwner id owner).textures id = some { t with surfaceOwner := owner } := by
  unfold Vulkan.setTextureOwner
  simp only [ht, Table.set_same]

theorem createOffscreenSurface_ensures {d : SurfaceDescription} (hd : ValidSurface d)
    (htype : d.type = .offscreen) :
    Ensures (moves c) (Begins c r) (createOffscreenSurface d) (fun _ => Done c True r)
      (fun _ => Failed kept r 0) := by
  refine Ensures.bind (createTexture_ensures _) fun texture => Ensures.exists_pre fun r₁ =>
    Ensures.and_pre fun ⟨t, hadded⟩ => ?_
  have hr₁ := hadded.records
  have hsurfaces : r₁.surfaces = r.surfaces := by rw [hr₁]; rfl
  have htexture : r₁.textures texture.value = some t := by
    rw [hr₁, hadded.handle]
    exact Table.set_same
  refine Ensures.assume (fun s hs h => h.facts hs) fun hf => ?_
  refine Ensures.bind reserveId_ensures fun id => Ensures.and_pre fun hid => ?_
  subst hid
  refine Ensures.bind (Q := fun _ => Done c True r) (moving fun s hs ha => ?_) fun _ =>
    Ensures.get_bind fun s _ hs => Ensures.pure fun u _ hu => hu ▸ hs
  have ht : s.textures texture.value = some t := ha.textures ▸ htexture
  have hgeneration : texture.generation = s.handleGeneration := by
    rw [ha.generation]
    show texture.generation = r₁.generation
    rw [hr₁, hadded.handle]
    rfl
  refine ⟨.installOffscreen s r₁.nextResourceId { description := d } texture t
    (ha.surfaces ▸ hf.surfaces _ le_rfl) (ha.nextResourceId ▸ Nat.lt_succ_self _) ht hadded.owner rfl rfl
    rfl (offscreen_sound hd htype (Nat.ne_of_gt hf.ids) hgeneration (setTextureOwner_same ht _) rfl ?_),
    { r₁.reserved (r₁.nextResourceId + 1) with
      textures := (s.setTextureOwner texture.value r₁.nextResourceId).textures
      surfaces := s.surfaces.set r₁.nextResourceId
        (some { description := d, textures := [texture] }) }, ⟨?_, fun _ hw i si hi => ?_⟩, ?_⟩
  · show t.description.extent = d.extent
    rw [hadded.description]
    rfl
  · show r₁.initialized = r.initialized
    rw [hr₁]
    rfl
  · replace hi : s.surfaces.set r₁.nextResourceId _ i = some si := hi
    rw [ha.surfaces, Table.set_apply] at hi
    split at hi
    · rw [← Option.some.inj hi]
      exact nofun
    · exact hw i si (hsurfaces ▸ hi)
  · unfold Vulkan.installOffscreen
    rw [setTextureOwner_eq]
    exact ha.tables _ _

/-- The window that is being created has an extent, which has not changed. -/
theorem receiveNew_nonempty {w : WaylandWindow} (hw : w.extent.empty = false) (e : CompositorEvent) :
    (w.receiveNew e).extent.empty = false := by
  unfold WaylandWindow.receiveNew
  split
  · rename_i e
    cases he : e.extent with
    | none =>
      rw [(receive_none he w).1]
      exact hw
    | some extent =>
      rw [receive_some he]
      exact WindowEvent.nonempty he
  · exact hw

theorem receiveAll_nonempty (events : List CompositorEvent) {w : WaylandWindow}
    (hw : w.extent.empty = false) : (events.foldl WaylandWindow.receiveNew w).extent.empty = false := by
  induction events generalizing w with
  | nil => exact hw
  | cons e events ih => exact ih (receiveNew_nonempty hw e)

theorem configureWindow_ensures (attempts : Nat) {w : WaylandWindow} (hw : w.extent.empty = false) :
    Ensures (moves c) (Nearby c steady r held work) (configureWindow attempts w)
      (fun w s => w.extent.empty = false ∧ Nearby c steady r held work s)
      (fun _ => Nearby c steady r held work) := by
  induction attempts generalizing w with
  | zero => exact Ensures.pure fun _ _ hs => ⟨hw, hs⟩
  | succ attempts ih =>
    unfold configureWindow
    refine Ensures.ite (fun _ => Ensures.pure fun _ _ hs => ⟨hw, hs⟩) fun _ => ?_
    refine Ensures.bind (Q := fun _ => Nearby c steady r held work)
      (Ensures.exists_pre fun r' => Ensures.and_pre fun hr =>
        roundtrip_ensures.after fun _ _ _ ⟨r'', hr', hs⟩ => ⟨r'', hr.trans hr', hs⟩) fun answer => ?_
    refine Ensures.bind failIf_ensures fun _ => Ensures.and_pre fun _ => ?_
    exact ih (receiveAll_nonempty answer.events hw)

theorem createWindow_ensures {extent : RendererExtent2D} (he : extent.empty = false) :
    Ensures (moves c) (Amid c steady r held work) (createWindow extent)
      (fun w s => (w.extent.empty = false ∧ w.extentChanged = false) ∧ Nearby c steady r held work s)
      (fun _ => Nearby c steady r held work) := by
  have hstart : ∀ s, Amid c steady r held work s → Nearby c steady r held work s :=
    fun s hs => ⟨r, .refl r, hs⟩
  refine Ensures.bind ask_ensures fun answer => Ensures.and_pre fun _ => ?_
  refine Ensures.bind (failIf_ensures.error fun _ s _ hs => hstart s hs) fun _ =>
    Ensures.and_pre fun _ => ?_
  refine Ensures.get_bind fun s _ hs => ?_
  refine Ensures.bind ((configureWindow_ensures 4 he).before (by rintro t - rfl; exact hstart t hs))
    fun w => Ensures.and_pre fun hw => ?_
  exact Ensures.bind failIf_ensures fun _ => Ensures.and_pre fun _ =>
    Ensures.pure fun _ _ hs => ⟨⟨hw, rfl⟩, hs⟩

theorem Next.refl (r : Records) : Next kept r r := ⟨rfl, fun _ hw => hw⟩

theorem Next.trans {r'' : Records} (h : Next kept r r') (h' : Next kept r' r'') : Next kept r r'' :=
  ⟨h'.initialized.trans h.initialized, fun hk hw => h'.whole hk (h.whole hk hw)⟩

theorem Next.of_surfaces (hs : r'.surfaces = r.surfaces) (hi : r'.initialized = r.initialized) :
    Next kept r r' :=
  ⟨hi, fun _ hw => hs ▸ hw⟩

theorem Next.reserved (r : Records) (id : Nat) : Next kept r (r.reserved id) := .of_surfaces rfl rfl

/-- The operation has failed with the surfaces as they were. -/
theorem Amid.failed_of {s : Vulkan} (ha : Amid c True r' held none s) (hs : r'.surfaces = r.surfaces)
    (hi : r'.initialized = r.initialized) : Failed kept r held s :=
  Alike.failed ⟨hi, hs ▸ .refl _⟩ ha

variable (steady held work) in
theorem addSurface_ensures (hid : r.surfaces id = none) (hn : id < r.nextResourceId)
    (ht : sf.textures = []) (hsc : sf.swapchain = none)
    (hs : SoundSurface r.generation r.textures id sf)
    (hw : ∀ w, sf.window = some w → w.extentChanged = false) :
    Ensures (moves c) (Amid c steady r ((sf.natives : Multiset Native) + held) work)
      (modify (·.addSurface id sf))
      (fun _ => Amid c steady { r with surfaces := r.surfaces.set id (some sf) } held work) E := by
  refine moving fun s _ h => ⟨.addSurface s id sf (h.surfaces ▸ hid) (h.nextResourceId ▸ hn) ?_ ht hsc
    ?_ hw, ?_⟩
  · rw [h.held]
    exact Multiset.le_add_right _ _
  · rw [h.generation, h.textures]
    exact hs
  · have hadd : Amid c steady { r with surfaces := r.surfaces.set id (some sf) } held work
        { s with
          held := s.held - ((sf.natives : List Native) : Multiset Native)
          surfaces := s.surfaces.set id (some sf) } := by
      refine { h with records := ?_, held := ?_ }
      · rw [← h.records]
        rfl
      · show s.held - _ = held
        rw [h.held]
        exact add_tsub_cancel_left _ _
    unfold Vulkan.addSurface
    cases sf.window with
    | none => exact hadd
    | some w => exact hadd.recorded trivial

/-- A surface that has only its native surface, and its window. -/
theorem bare_sound {generation : Nat} {textures : Table TextureRecord} (hid : id ≠ 0)
    (ht : sf.textures = []) (hsc : sf.swapchain = none) (hn : sf.nativeSurface ≠ none)
    (ho : sf.description.type ≠ .offscreen)
    (hwindow : sf.description.type = .window ↔ sf.window.isSome = true)
    (hextent : ∀ w, sf.window = some w → w.extent.empty = false)
    (hs : validateSurfaceState (reportedState sf) = .ok ()) :
    SoundSurface generation textures id sf where
  number := hid
  listed x hx := by
    rw [ht] at hx
    exact absurd hx List.not_mem_nil
  distinct := by
    rw [ht]
    exact List.nodup_nil
  current sc hsc' := nomatch hsc.symm.trans hsc'
  bare _ _ := ht
  offscreen htype := absurd htype ho
  window := hwindow
  windowExtent := hextent
  native _ := hn
  state := hs

theorem createFirstSwapchain_ensures {d : SurfaceDescription} {native : Native}
    (requested : RendererExtent2D) :
    Ensures (moves c) (Amid c True r (native ::ₘ 0) none) (createFirstSwapchain id d native requested)
      (fun n s => ∃ r', Creates r r' id requested n ∧
        Amid c True r' ((n.natives : Multiset Native) + (native ::ₘ 0)) none s)
      (fun _ s => ∃ next, Amid c True (r.reserved next) 0 none s) := by
  refine Ensures.tryCatch (createSwapchain_ensures requested nofun) fun e =>
    Ensures.before (P := fun s => ∃ next, Amid c True (r.reserved next) (native ::ₘ 0) none s) ?_
      fun s _ hs => hs.2
  refine Ensures.exists_pre fun next => ?_
  refine Ensures.bind waitDeviceIdle_ensures fun _ => ?_
  refine Ensures.bind
    (Ensures.before (P := Amid c True (r.reserved next) (([native] : List Native) + 0) none)
      (destroyAll_amid [native]) fun s _ hs => hs) fun _ => Ensures.throw fun s _ hs => ⟨next, hs⟩

/-- The new surface takes its native surface and its swapchain. -/
theorem newSurface_ensures {n : NewSwapchain} {native : Native} {requested : RendererExtent2D}
    (hn : Creates r r' id requested n) (hid : r.surfaces id = none) (hnext : id < r'.nextResourceId)
    (ht : sf.textures = []) (hsc : sf.swapchain = none) (hnative : sf.nativeSurface = some native)
    (ho : sf.description.type ≠ .offscreen) (hs : SoundSurface r'.generation r'.textures id sf)
    (hw : ∀ w, sf.window = some w → w.extentChanged = false ∧ requested = w.extent) :
    Ensures (moves c) (Amid c True r' ((n.natives : Multiset Native) + (native ::ₘ 0)) none)
      (do
        modify (·.addSurface id sf)
        modify (·.installSwapchain id n)
        let s ← get
        pure ⟨id, s.handleGeneration⟩ : RendererM SurfaceHandle)
      (fun _ => Done c True r) E := by
  have hsurfaces : r'.surfaces = r.surfaces := by rw [hn.records]
  have hnatives : ((sf.natives : List Native) : Multiset Native) = native ::ₘ 0 := by
    rw [SurfaceRecord.natives, hsc, hnative]
    rfl
  refine Ensures.bind (Ensures.before (addSurface_ensures True n.natives none (hsurfaces ▸ hid) hnext ht
    hsc hs fun w hw' => (hw w hw').1) fun s _ h => ?_) fun _ => ?_
  · rw [hnatives, add_comm]
    exact h
  have hnew : NewFor { r' with surfaces := r'.surfaces.set id (some sf) } id n := { hn.new with }
  refine Ensures.bind (Q := fun _ => Done c True r)
    ((Ensures.before (installSwapchain_ensures True 0 none hnew Table.set_same hsc ht ho fun w hw' =>
      hn.requested.trans (hw w hw').2) fun s _ h => ?_).after fun _ s _ h => ?_) fun _ =>
      Ensures.get_bind fun s _ h => Ensures.pure fun u _ hu => hu ▸ h
  · rw [add_zero]
    exact h
  · refine ⟨_, ⟨?_, fun _ hwhole i si hi => ?_⟩, h.2⟩
    · show r'.initialized = r.initialized
      rw [hn.records]
    · replace hi : (r'.surfaces.set id (some sf)).set id
        (((r'.surfaces.set id (some sf)) id).map (n.into r'.generation)) i = some si := hi
      rw [Table.set_apply] at hi
      split at hi
      · rw [Table.set_same, Option.map_some] at hi
        rw [← Option.some.inj hi]
        intro he
        have hcurrent := hn.new.current
        rw [List.map_eq_nil_iff.mp he] at hcurrent
        exact absurd hcurrent (Nat.not_lt_zero _)
      · rename_i hne
        rw [Table.set_ne hne, hsurfaces] at hi
        exact hwhole i si hi

theorem Nearby.failed {s : Vulkan} (h : Nearby c True r held none s) : Failed kept r held s := by
  obtain ⟨r', hr, hs⟩ := h
  exact hr.alike.failed hs

theorem Done.of_next {s : Vulkan} (hr : Next kept r r') (h : Done c kept r' s) : Done c kept r s := by
  obtain ⟨r'', hr', hs⟩ := h
  exact ⟨r'', hr.trans hr', hs⟩

theorem createWindowSurface_ensures {d : SurfaceDescription} (hd : ValidSurface d)
    (htype : d.type = .window) :
    Ensures (moves c) (Amid c True r 0 none) (createWindowSurface d) (fun _ => Done c True r)
      (fun _ => Failed kept r 0) := by
  have ho : d.type ≠ .offscreen := by rw [htype]; decide
  refine Ensures.get_bind fun s _ hs => ?_
  refine Ensures.before (P := Amid c True r 0 none) ?_ (by rintro t - rfl; exact hs)
  refine Ensures.bind (failIf_ensures.error fun _ _ _ hs => hs.failed) fun _ => Ensures.and_pre fun _ => ?_
  refine Ensures.bind ((createWindow_ensures hd.extent).error fun _ _ _ hs => hs.failed) fun window =>
    Ensures.and_pre fun ⟨hextent, hchanged⟩ => Ensures.exists_pre fun r₁ => Ensures.and_pre fun hnear => ?_
  refine Ensures.assume (fun s hs h => h.facts hs) fun hf => ?_
  refine Ensures.bind (createNative_ensures.error fun _ _ _ hs => hnear.alike.failed hs) fun native =>
    Ensures.and_pre fun _ => Ensures.and_pre fun _ => ?_
  refine Ensures.bind reserveId_ensures fun id => Ensures.and_pre fun hid => ?_
  subst hid
  refine Ensures.bind ((createFirstSwapchain_ensures window.extent).error fun _ s _ ⟨_, hs⟩ =>
    Failed.of_alike hnear.alike (hs.failed_of rfl rfl)) fun n => Ensures.exists_pre fun r₂ =>
    Ensures.and_pre fun hn => ?_
  refine (newSurface_ensures hn (hf.surfaces _ le_rfl) ?_ rfl rfl rfl ho
    (bare_sound (Nat.ne_of_gt hf.ids) rfl rfl (Option.some_ne_none native) ho
      (iff_of_true htype rfl) ?_ (window_state hd htype native window)) ?_).after fun _ s _ hs =>
        Done.of_next (hnear.alike.next.trans (.reserved r₁ _)) hs
  · exact hn.reserved
  · intro w hw
    rw [← Option.some.inj hw]
    exact hextent
  · intro w hw
    rw [← Option.some.inj hw]
    exact ⟨hchanged, rfl⟩

theorem restoreDrmDisplay_ensures {drm : Bool} :
    Ensures (moves c) (Amid c steady r held work) (restoreDrmDisplay drm)
      (fun _ => Amid c steady r held work) E := by
  unfold restoreDrmDisplay
  split
  · exact Ensures.bind ask_ensures fun _ => Ensures.and_pre fun _ => Ensures.pure fun _ _ hs => hs
  · exact Ensures.pure fun _ _ hs => hs

theorem orRestoreDrm_ensures {α : Type} {x : RendererM α} {P : Vulkan → Prop} {Q : α → Vulkan → Prop}
    (hx : Ensures (moves c) P x Q (fun _ s => ∃ next, Amid c True (r.reserved next) 0 none s)) :
    Ensures (moves c) P (orRestoreDrm x) Q (fun _ => Failed kept r 0) := by
  refine Ensures.tryCatch hx fun e => Ensures.exists_pre fun next => ?_
  exact Ensures.bind restoreDrmDisplay_ensures fun _ => Ensures.throw fun s _ hs => hs.failed_of rfl rfl

theorem acquireDrmDisplay_ensures :
    Ensures (moves c) (Amid c steady r held work) acquireDrmDisplay
      (fun _ => Amid c steady r held work) (fun _ => Amid c steady r held work) := by
  refine Ensures.bind ask_ensures fun answer => Ensures.and_pre fun _ => ?_
  split
  · exact Ensures.throw fun _ _ hs => hs
  · exact Ensures.pure fun _ _ hs => hs

theorem createDirectDisplaySurface_ensures {d : SurfaceDescription} (hd : ValidSurface d)
    (htype : d.type = .directDisplay) :
    Ensures (moves c) (Amid c True r 0 none) (createDirectDisplaySurface d)
      (fun _ => Done c True r) (fun _ => Failed kept r 0) := by
  have ho : d.type ≠ .offscreen := by rw [htype]; decide
  refine Ensures.get_bind fun s _ hs => ?_
  refine Ensures.before (P := Amid c True r 0 none) ?_ (by rintro t - rfl; exact hs)
  refine Ensures.bind (failIf_ensures.error fun _ _ _ hs => hs.failed) fun _ => Ensures.and_pre fun _ => ?_
  refine Ensures.bind (acquireDrmDisplay_ensures.error fun _ _ _ hs => hs.failed) fun _ => ?_
  refine Ensures.assume (fun s hs h => h.facts hs) fun hf => ?_
  refine Ensures.bind (orRestoreDrm_ensures (createNative_ensures.error fun _ s _ hs =>
    ⟨r.nextResourceId, hs⟩)) fun native => Ensures.and_pre fun _ => Ensures.and_pre fun _ => ?_
  refine Ensures.bind reserveId_ensures fun id => Ensures.and_pre fun hid => ?_
  subst hid
  refine Ensures.bind (orRestoreDrm_ensures (r := r) (createFirstSwapchain_ensures d.extent)) fun n =>
    Ensures.exists_pre fun r' => Ensures.and_pre fun hn => ?_
  refine (newSurface_ensures hn (hf.surfaces _ le_rfl) hn.reserved rfl rfl rfl ho
    (bare_sound (Nat.ne_of_gt hf.ids) rfl rfl (Option.some_ne_none native) ho ?_ ?_
      (direct_state hd htype native)) ?_).after fun _ s _ hs =>
        Done.of_next (.reserved r _) hs
  · rw [htype]
    exact iff_of_false nofun nofun
  · intro w hw
    cases hw
  · intro w hw
    cases hw

theorem createSurface_ensures {d : SurfaceDescription} (hd : ValidSurface d) :
    Ensures (moves c) (Begins c r) (createSurface d) (fun _ => Done c True r)
      (fun _ => Failed kept r 0) := by
  refine Ensures.bind pollPendingSubmission_ensures fun _ => ?_
  cases htype : d.type with
  | offscreen =>
    exact (createOffscreenSurface_ensures hd htype).before fun _ _ hs => hs.begins
  | window => exact createWindowSurface_ensures hd htype
  | directDisplay => exact createDirectDisplaySurface_ensures hd htype

end WSE.Proof.Oui
