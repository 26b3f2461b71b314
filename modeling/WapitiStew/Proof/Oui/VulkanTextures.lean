import WapitiStew.Proof.Oui.VulkanSubmission

/-!
# Textures and meshes of the Vulkan backend

The operations that create, upload and destroy textures and meshes, each as a sequence of moves
from one state between operations to the next. What the invariants say of the records (`Facts`)
is what the commands of an operation are checked against.
-/

namespace WSE.Proof.Oui

open WSE.Framework WSE.Impl.Oui WSE.Spec.Oui Relation

variable {c : Scope} {steady kept : Prop} {r r' : Records} {held : Multiset Native}
  {work : Option VulkanSubmission} {w : VulkanSubmission} {E : RendererError → Vulkan → Prop}

/-! ## What the records say -/

structure Facts (r : Records) : Prop where
  linked : Linked r.generation r.textures r.surfaces
  stored : ∀ {id t}, r.textures id = some t → r.layouts t.image = t.layout
  image_inj : ∀ {i j t u}, r.textures i = some t → r.textures j = some u → t.image = u.image → i = j
  acquired : ∀ {id sf sc}, r.surfaces id = some sf → sf.swapchain = some sc → ImageKnown r.images sc
  textures : r.textures.Below r.nextResourceId
  meshes : r.meshes.Below r.nextResourceId
  surfaces : r.surfaces.Below r.nextResourceId
  ids : 0 < r.nextResourceId

theorem Sound.image_inj {s : Vulkan} (hs : Sound s) {i j : Nat} {t u : TextureRecord}
    (hi : s.textures i = some t) (hj : s.textures j = some u) (h : t.image = u.image) : i = j := by
  cases ht : t.image with
  | owned image memory =>
    have hmem : ∀ {t : TextureRecord}, t.image = .owned image memory → image ∈ t.natives := by
      intro t ht
      rw [TextureRecord.natives, ht]
      exact List.mem_cons_of_mem _ List.mem_cons_self
    exact hs.owning.texture_inj hi hj (hmem ht) (hmem (h ▸ ht))
  | presentable swapChain index =>
    obtain ⟨-, -, sf, sc, hsf, hsc, hswap, hindex⟩ := hs.records.texture hi swapChain index ht
    obtain ⟨-, -, sf', sc', hsf', hsc', hswap', hindex'⟩ :=
      hs.records.texture hj swapChain index (h ▸ ht)
    -- the swapchain is one surface's
    have howner := hs.owning.surface_inj hsf hsf' (swapChain_mem hsc).1
      (hswap.trans hswap'.symm ▸ (swapChain_mem hsc').1)
    rw [howner, hsf'] at hsf
    obtain rfl := Option.some.inj hsf
    exact Option.some.inj (hindex.symm.trans hindex')

theorem Amid.facts {s : Vulkan} (hs : Sound s) (h : Amid c steady r held work s) : Facts r := by
  rw [← h.records]
  exact {
    linked := hs.records
    stored := fun ht => hs.tracked.stored _ _ ht
    image_inj := hs.image_inj
    acquired := fun hsf hsc => hs.images.known _ _ _ hsf hsc
    textures := hs.owning.textures
    meshes := hs.owning.meshes
    surfaces := hs.owning.surfaces
    ids := hs.ids }

/-- The objects of an image are known with its texture. -/
theorem Facts.image_known (h : Facts r) {id : Nat} {t : TextureRecord} (ht : r.textures id = some t)
    {n : Native} (hn : n ∈ t.image.natives) : Known r n := by
  cases hi : t.image with
  | owned image memory =>
    refine .inl ⟨id, t, ht, ?_⟩
    rw [hi] at hn
    rw [TextureRecord.natives, hi]
    exact List.mem_cons_of_mem _ hn
  | presentable swapChain index =>
    obtain ⟨-, -, sf, sc, hsf, hsc, rfl, -⟩ := h.linked.texture ht swapChain index hi
    rw [hi] at hn
    obtain rfl := List.mem_singleton.mp hn
    exact .inr (.inr ⟨_, sf, hsf, (swapChain_mem hsc).1⟩)

theorem view_known {id : Nat} {t : TextureRecord} (ht : r.textures id = some t) :
    Known r t.view := by
  refine .inl ⟨id, t, ht, ?_⟩
  unfold TextureRecord.natives
  split <;> exact List.mem_cons_self

/-! ## Recorded layouts -/

section Layouts

variable {real : Layouts} {xs ys : List VulkanCommand} {image : VulkanImage}
  {before after : ImageLayout}

theorem layoutAfter_append (image : VulkanImage) (layout : ImageLayout) :
    layoutAfter (xs ++ ys) image layout = layoutAfter ys image (layoutAfter xs image layout) := by
  unfold layoutAfter
  rw [List.foldl_append]

variable (image before after) in
theorem layoutAfter_barrier : layoutAfter (barrier image before after) image before = after := by
  unfold barrier
  split
  · assumption
  · exact if_pos rfl

theorem layoutAfter_barrier_ne {other : VulkanImage} (h : image ≠ other) (layout : ImageLayout) :
    layoutAfter (barrier image before after) other layout = layout := by
  unfold barrier
  split
  · rfl
  · exact if_neg h

theorem mem_barrier {x : VulkanCommand} (hx : x ∈ barrier image before after) :
    ∃ b a, x = .pipelineBarrier image b a := by
  unfold barrier at hx
  split at hx
  · exact nomatch hx
  · exact ⟨before, after, List.mem_singleton.mp hx⟩

theorem oldLayoutsRight_append (hxs : OldLayoutsRight real xs)
    (hys : OldLayoutsRight (fun i => layoutAfter xs i (real i)) ys) :
    OldLayoutsRight real (xs ++ ys) := by
  intro pre i b a post h
  obtain ⟨mid, rfl, hmid⟩ | ⟨mid, rfl, hmid⟩ := List.append_eq_append_iff.mp h
  · rw [layoutAfter_append]
    exact hys mid i b a post hmid
  · cases mid with
    | nil =>
      rw [List.append_nil] at hys
      exact hys [] i b a post hmid.symm
    | cons x mid =>
      obtain ⟨rfl, rfl⟩ := List.cons.inj hmid
      exact hxs pre i b a mid rfl

theorem oldLayoutsRight_barrier (h : real image = before) :
    OldLayoutsRight real (barrier image before after) := by
  unfold barrier
  split
  · intro pre i b a post h
    exact absurd h.symm (by simp)
  · intro pre i b a post hp
    obtain ⟨-, rfl, he⟩ | ⟨mid, rfl, hmid⟩ := snoc_split (show [] ++ [_] = _ from hp)
    · obtain ⟨rfl, rfl, rfl⟩ := VulkanCommand.pipelineBarrier.inj he
      exact h.symm
    · exact absurd hmid.symm (by simp)

/-- A command that is no barrier. -/
def IsPlainCommand : VulkanCommand → Prop
  | .pipelineBarrier _ _ _ => False
  | _ => True

theorem oldLayoutsRight_plain (h : ∀ x ∈ xs, IsPlainCommand x) : OldLayoutsRight real xs := by
  intro pre i b a post hp
  exact (h (.pipelineBarrier i b a) (hp ▸ by simp)).elim

theorem layoutAfter_plain (h : ∀ x ∈ xs, IsPlainCommand x) (layout : ImageLayout) :
    layoutAfter xs image layout = layout := by
  induction xs with
  | nil => rfl
  | cons x xs ih =>
    obtain ⟨hx, hxs⟩ := List.forall_mem_cons.mp h
    cases x <;> first | exact hx.elim | exact ih hxs

theorem newLayoutsDefined_append (hxs : NewLayoutsDefined xs) (hys : NewLayoutsDefined ys) :
    NewLayoutsDefined (xs ++ ys) := by
  intro i b a hm
  obtain hm | hm := List.mem_append.mp hm
  · exact hxs i b a hm
  · exact hys i b a hm

theorem newLayoutsDefined_barrier (h : after ≠ .undefined) :
    NewLayoutsDefined (barrier image before after) := by
  intro i b a hm
  unfold barrier at hm
  split at hm
  · exact nomatch hm
  · obtain ⟨rfl, rfl, rfl⟩ := VulkanCommand.pipelineBarrier.inj (List.mem_singleton.mp hm)
    exact h

theorem newLayoutsDefined_plain (h : ∀ x ∈ xs, IsPlainCommand x) : NewLayoutsDefined xs :=
  fun i b a hm => (h (.pipelineBarrier i b a) hm).elim

theorem brought_append : broughtToSampling (xs ++ ys) = broughtToSampling xs ++ broughtToSampling ys :=
  List.filterMap_append

theorem brought_barrier (h : after ≠ .shaderReadOnly) :
    broughtToSampling (barrier image before after) = [] := by
  unfold barrier
  split
  · rfl
  · cases after <;> first | rfl | exact absurd rfl h

theorem brought_plain (h : ∀ x ∈ xs, IsPlainCommand x) : broughtToSampling xs = [] := by
  refine List.filterMap_eq_nil_iff.mpr fun x hx => ?_
  have hplain := h x hx
  cases x <;> first | exact hplain.elim | rfl

end Layouts

/-! ## Settled records -/

def statesOf (textures : Table TextureRecord) (id : Nat) : TextureState :=
  (textures id).elim .undefined (·.state)

/-- The layout and the state of a texture are set. -/
def setState (textures : Table TextureRecord) (id : Nat) (layout : ImageLayout)
    (state : TextureState) : Table TextureRecord :=
  textures.set id ((textures id).map fun t => { t with layout := layout, state := state })

theorem setTextureState_eq (s : Vulkan) (id : Nat) (layout : ImageLayout) (state : TextureState) :
    s.setTextureState id layout state =
      { s with textures := setState s.textures id layout state } := by
  unfold Vulkan.setTextureState setState
  cases ht : s.textures id with
  | none =>
    rw [Option.map_none, Table.set_none ht]
  | some t => rfl

/-- The table has the layouts that the commands lead to. -/
theorem settledTextures_eq {commands : List VulkanCommand} {textures textures' : Table TextureRecord}
    (h : ∀ id, textures' id = (textures id).map fun t =>
      { t with layout := layoutAfter commands t.image t.layout, state := statesOf textures' id }) :
    textures' = settledTextures commands (statesOf textures') textures :=
  funext h

/-- The commands touch no image of the table. -/
theorem settledTextures_self {commands : List VulkanCommand} {textures : Table TextureRecord}
    (h : ∀ id t, textures id = some t → layoutAfter commands t.image t.layout = t.layout) :
    settledTextures commands (statesOf textures) textures = textures := by
  refine (settledTextures_eq fun id => ?_).symm
  cases ht : textures id with
  | none => rfl
  | some t =>
    rw [Option.map_some, h id t ht, statesOf, ht]
    rfl

/-- The commands bring the image of one texture into a layout. -/
theorem settledTextures_set (hf : Facts r) {id : Nat} {t : TextureRecord} (ht : r.textures id = some t)
    {commands : List VulkanCommand} {layout : ImageLayout} (state : TextureState)
    (hl : layoutAfter commands t.image t.layout = layout)
    (hne : ∀ image ≠ t.image, ∀ layout, layoutAfter commands image layout = layout) :
    setState r.textures id layout state =
      settledTextures commands (statesOf (setState r.textures id layout state)) r.textures := by
  refine settledTextures_eq fun i => ?_
  unfold statesOf setState
  rw [Table.set_apply]
  by_cases hi : i = id
  · subst hi
    rw [if_pos rfl, ht, Option.map_some, Option.map_some, hl]
    rfl
  · rw [if_neg hi]
    cases hti : r.textures i with
    | none => rfl
    | some u =>
      have himage : u.image ≠ t.image := fun he => hi (hf.image_inj hti ht he)
      rw [Option.map_some, hne _ himage]
      rfl

theorem wait_none (images : ImageBooks) :
    (fun swapChain => (images swapChain).map (·.wait none)) = images := by
  funext swapChain
  cases images swapChain with
  | none => rfl
  | some a => rfl

/-! ## Buffers -/

theorem findMemoryType_ensures :
    Ensures (moves c) (Amid c steady r held work) findMemoryType
      (fun _ => Amid c steady r held work) (fun _ => Amid c steady r held work) :=
  Ensures.bind ask_ensures fun _ =>
    (failIf_ensures (P := Amid c steady r held work)).imp (fun _ _ hs => hs.2) (fun _ _ _ hs => hs.2)
      fun _ _ _ => id

theorem cons_two (a b : Native) (m : Multiset Native) :
    (([a, b] : List Native) : Multiset Native) + m = a ::ₘ b ::ₘ m := by
  rw [← Multiset.cons_coe, ← Multiset.cons_coe, Multiset.coe_nil, Multiset.cons_add,
    Multiset.cons_add, zero_add]

theorem createBuffer_ensures :
    Ensures (moves c) (Amid c steady r held work) createBuffer
      (fun b => Amid c steady r (b.1 ::ₘ b.2 ::ₘ held) work) (fun _ => Amid c steady r held work) := by
  refine Ensures.bind createNative_ensures fun buffer => Ensures.and_pre fun _ =>
    Ensures.and_pre fun _ => ?_
  refine Ensures.bind (orDestroy_ensures held [buffer] findMemoryType_ensures) fun _ => ?_
  refine Ensures.bind (orDestroy_ensures held [buffer] createNative_ensures) fun memory =>
    Ensures.and_pre fun _ => Ensures.and_pre fun _ => ?_
  refine Ensures.bind (Ensures.before (orDestroy_ensures held [memory, buffer]
    callNative_ensures) fun s _ hs => ?_) fun _ => Ensures.pure fun s _ hs => ?_
  · rwa [cons_two]
  · rw [cons_two] at hs
    rwa [Multiset.cons_swap]

theorem writeMemory_ensures :
    Ensures (moves c) (Amid c steady r held work) writeMemory
      (fun _ => Amid c steady r held work) (fun _ => Amid c steady r held work) :=
  callNative_ensures

theorem createWorkBuffer_ensures (hb : w.buffer = none) (hm : w.bufferMemory = none) :
    Ensures (moves c) (Amid c True r held (some w)) createWorkBuffer
      (fun b => Amid c True r held (some { w with buffer := some b.1, bufferMemory := some b.2 }))
      (fun _ => Amid c True r held (some w)) := by
  refine Ensures.bind createBuffer_ensures fun b => ?_
  refine Ensures.bind (give_ensures (w := w) (f := fun w => { w with buffer := some b.1 }) ?_)
    fun _ => ?_
  · simp only [submissionNatives_eq, hb, some_natives, none_natives, ← Multiset.singleton_add]
    abel
  refine Ensures.bind (give_ensures (w := { w with buffer := some b.1 })
    (f := fun w => { w with bufferMemory := some b.2 }) ?_) fun _ => Ensures.pure fun _ _ hs => hs
  simp only [submissionNatives_eq, hm, some_natives, none_natives, ← Multiset.singleton_add]
  abel

/-! ## Textures -/

/-- The records without a texture. -/
def Records.withoutTexture (r : Records) (id : Nat) : Records :=
  { r with textures := r.textures.set id none }

theorem destroyTextureRecord_ensures {id : Nat}
    (h : ∀ surface sf, r.surfaces surface = some sf → id ∉ sf.textures.map (·.value)) :
    Ensures (moves c) (Amid c steady r held work) (destroyTextureRecord id)
      (fun _ => Amid c steady (r.withoutTexture id) held work) E := by
  refine Ensures.get_bind fun s _ hs => ?_
  refine Ensures.bind (Q := fun _ => Amid c steady (r.withoutTexture id)
    (((s.textures id).elim [] TextureRecord.natives : List Native) + held) work) (moving ?_)
    fun _ => destroyAll_amid _
  rintro t - rfl
  refine ⟨.takeTexture t id (hs.surfaces ▸ h), { hs with records := ?_, held := ?_ }⟩
  · rw [← hs.records]
    rfl
  · show t.held + _ = _
    rw [hs.held, add_comm]

theorem createImage_ensures :
    Ensures (moves c) (Amid c True r held (some {})) createImage
      (fun i s => NewNative r i.1 ∧ Amid c True r held
        (some { image := some i.1, imageMemory := some i.2.1, imageView := some i.2.2 }) s)
      (fun _ => Halted kept r held) := by
  refine Ensures.bind ((createInWork_ensures fun n => rfl).error fun _ _ _ hs => hs.halted) fun image =>
    Ensures.and_pre fun hfresh => ?_
  refine Ensures.bind (findMemoryType_ensures.error fun _ _ _ hs => hs.halted) fun _ => ?_
  refine Ensures.bind ((createInWork_ensures fun n => ?_).error fun _ _ _ hs => hs.halted) fun memory =>
    Ensures.and_pre fun _ => ?_
  · simp only [submissionNatives_eq, some_natives, none_natives, ← Multiset.singleton_add]
    abel
  refine Ensures.bind (callNative_ensures.error fun _ _ _ hs => hs.halted) fun _ => ?_
  refine Ensures.bind ((createInWork_ensures fun n => ?_).error fun _ _ _ hs => hs.halted) fun view =>
    Ensures.and_pre fun _ => Ensures.pure fun _ _ hs => ⟨hfresh, hs⟩
  simp only [submissionNatives_eq, some_natives, none_natives, ← Multiset.singleton_add]
  abel

/-- What the operation owns is in no table. -/
theorem Amid.work_not_known {s : Vulkan} (hs : Sound s) (h : Amid c steady r held (some w) s) {n : Native}
    (hn : n ∈ w.natives) {id : Nat} {t : TextureRecord} (ht : r.textures id = some t) :
    n ∉ t.natives := by
  intro hmem
  have honce := hs.owning.once
  unfold allNatives at honce
  have honce' := (Multiset.nodup_add.mp (Multiset.nodup_add.mp honce).1).1
  refine Multiset.disjoint_left.mp (Multiset.nodup_add.mp honce').2.2 ?_
    (sum_mem hs.owning.textures (h.textures ▸ ht) hmem)
  simp only [h.work, Table.worth_some, Multiset.mem_add]
  exact .inl (.inr hn)

/-- The records once commands are submitted that touch no image of a texture. -/
def Records.laidOut (r : Records) (commands : List VulkanCommand) : Records :=
  { r with layouts := fun image => layoutAfter commands image (r.layouts image) }

theorem submitted_laidOut {commands : List VulkanCommand}
    (h : ∀ id t, r.textures id = some t → layoutAfter commands t.image t.layout = t.layout) :
    r.submitted commands none (statesOf r.textures) none = r.laidOut commands := by
  unfold Records.submitted Records.laidOut
  rw [settledTextures_self h, wait_none]
  rfl

theorem settled_self {commands : List VulkanCommand}
    (h : ∀ id t, r.textures id = some t → layoutAfter commands t.image t.layout = t.layout)
    (s : Vulkan) (ht : s.textures = r.textures) :
    s = settled s commands (statesOf r.textures) none := by
  unfold settled
  rw [ht, settledTextures_self h, ← ht]
  rfl

/-- The image is of the operation's own objects. -/
structure OwnImage (w : VulkanSubmission) (image : Native) (memory : Native) : Prop where
  image : image ∈ w.natives
  memory : memory ∈ w.natives

theorem initializeLayout_ensures {image memory : Native} {layout : ImageLayout}
    (hcommand : w.command = none) (hfence : w.fence = none) (hcommands : w.commands = [])
    (hown : OwnImage w image memory) (hfresh : r.layouts (.owned image memory) = .undefined)
    (hl : layout ≠ .undefined) :
    Ensures (moves c) (Amid c True r held (some w)) (initializeLayout (.owned image memory) layout)
      (fun _ s => ∃ n f, Amid c True (r.laidOut (barrier (.owned image memory) .undefined layout)) held
        (some { w with
          command := some n, fence := f
          commands := barrier (.owned image memory) .undefined layout }) s)
      (fun _ => Halted kept r held) := by
  refine Ensures.assume (p := ∀ id t, r.textures id = some t → .owned image memory ≠ t.image)
    (fun s hs h id t ht he => h.work_not_known hs hown.image ht ?_) fun hother => ?_
  · rw [TextureRecord.natives, ← he]
    exact List.mem_cons_of_mem _ List.mem_cons_self
  have hself : ∀ id t, r.textures id = some t →
      layoutAfter (barrier (.owned image memory) .undefined layout) t.image t.layout = t.layout :=
    fun id t ht => layoutAfter_barrier_ne (hother id t ht) _
  refine Ensures.bind ((beginCommands_ensures hcommand).error fun _ _ _ hs => hs.halted) fun _ =>
    Ensures.exists_pre fun n => ?_
  refine Ensures.bind transitionImage_ensures fun _ => ?_
  simp only [hcommands, List.nil_append]
  refine Ensures.bind (submit_ensures kept none (statesOf r.textures)
    (w := { w with command := some n, commands := barrier (.owned image memory) .undefined layout })
    ?_ hfence fun s ht _ => settled_self hself s ht) fun result => ?_
  · exact {
      live := fun m hm => by
        refine .inl ?_
        have hmem : m ∈ [image, memory] := by
          obtain ⟨x, hx, hm⟩ :=
            List.mem_flatMap.mp ((List.mem_append.mp hm).resolve_right List.not_mem_nil)
          unfold barrier at hx
          rw [if_neg (Ne.symm hl)] at hx
          obtain rfl := List.mem_singleton.mp hx
          exact hm
        have hnatives : m ∈ w.natives := by
          obtain rfl | hm := List.mem_cons.mp hmem
          · exact hown.image
          · exact List.mem_singleton.mp hm ▸ hown.memory
        refine Multiset.mem_coe.mp (?_ : m ∈ submissionNatives { w with
          command := some n, commands := barrier (.owned image memory) .undefined layout })
        have hcons : submissionNatives { w with
            command := some n, commands := barrier (.owned image memory) .undefined layout } =
            n ::ₘ submissionNatives w := by
          simp only [submissionNatives_eq, hcommand, some_natives, none_natives,
            ← Multiset.singleton_add]
          abel
        rw [hcons]
        exact Multiset.mem_cons_of_mem (Multiset.mem_coe.mpr hnatives)
      images := fun _ swapChain index hm => by
        obtain ⟨x, hx, hm⟩ := List.mem_flatMap.mp hm
        unfold barrier at hx
        rw [if_neg (Ne.symm hl)] at hx
        obtain rfl := List.mem_singleton.mp hx
        cases List.mem_singleton.mp hm
      old := oldLayoutsRight_barrier hfresh
      new := fun _ => newLayoutsDefined_barrier hl
      once := by
        unfold barrier
        rw [if_neg (Ne.symm hl)]
        cases layout <;> first | exact List.nodup_nil | exact List.nodup_singleton _
      consumes := rfl }
  · refine failIf_submission.after fun _ s _ hs => ?_
    obtain ⟨f, hs⟩ := hs
    rw [submitted_laidOut hself] at hs
    exact ⟨n, f, hs⟩

/-- The records with a new texture. -/
def Records.withTexture (r : Records) (t : TextureRecord) : Records :=
  { r with
    textures := r.textures.set r.nextResourceId (some t)
    nextResourceId := r.nextResourceId + 1 }

theorem keepTexture_ensures {t : TextureRecord} {image memory : Native} (hi : w.image = some image)
    (hm : w.imageMemory = some memory) (hv : w.imageView = some t.view)
    (ht : t.image = .owned image memory) (hl : r.layouts t.image = t.layout) :
    Ensures (moves c) (Amid c True r held (some w))
      (do
        let s ← get
        modify (·.keepTexture t)
        pure ⟨s.nextResourceId, s.handleGeneration⟩ : RendererM TextureHandle)
      (fun h s => h = ⟨r.nextResourceId, r.generation⟩ ∧
        ∃ w', Amid c True (r.withTexture t) held (some w') s) E := by
  refine Ensures.get_bind fun s _ hs => ?_
  refine Ensures.bind (Q := fun _ s => ∃ w', Amid c True (r.withTexture t) held (some w') s)
    (moving ?_) fun _ => Ensures.pure fun _ _ h => ⟨?_, h⟩
  · rintro u - rfl
    refine ⟨.keepTexture u t w image memory hs.work hi hm hv ht (hs.layouts ▸ hl),
      { w with image := none, imageView := none, imageMemory := none },
      { hs with records := ?_, work := ?_ }⟩
    · rw [← hs.records]
      rfl
    · show u.work.map _ = _
      rw [hs.work, Option.map_some]
  · rw [hs.nextResourceId, hs.generation]

/-- The records with a new texture that no surface owns; its layout may be new. -/
structure TextureAdded (r r' : Records) (h : TextureHandle) (d : TextureDescription)
    (t : TextureRecord) : Prop where
  handle : h = ⟨r.nextResourceId, r.generation⟩
  records : r' = { r.withTexture t with layouts := r'.layouts }
  owner : t.surfaceOwner = 0
  description : t.description = d

theorem createTexture_ensures (d : TextureDescription) :
    Ensures (moves c) (Begins c r) (createTexture d)
      (fun h s => ∃ r', (∃ t, TextureAdded r r' h d t) ∧ Amid c True r' 0 none s)
      (fun _ => Failed kept r 0) := by
  have hcheck : ∀ {p : Prop} [Decidable p] {e : RendererError}, Ensures (moves c)
      (Amid c True r 0 none) (failIf p e) (fun _ s => ¬p ∧ Amid c True r 0 none s)
      (fun _ => Failed kept r 0) := failIf_ensures.error fun _ _ _ hs => hs.failed
  refine Ensures.bind pollPendingSubmission_ensures fun _ => Ensures.get_bind fun s _ hs => ?_
  refine Ensures.before (P := Amid c True r 0 none) ?_ (by rintro t - rfl; exact hs)
  refine Ensures.bind hcheck fun _ => Ensures.and_pre fun _ => ?_
  refine Ensures.bind hcheck fun _ => Ensures.and_pre fun _ => ?_
  refine Ensures.bind hcheck fun _ => Ensures.and_pre fun _ => ?_
  refine Ensures.bind hcheck fun _ => Ensures.and_pre fun _ => ?_
  refine Ensures.bind hcheck fun _ => Ensures.and_pre fun _ => ?_
  refine withWork_ensures ?_
  refine Ensures.bind createImage_ensures fun ⟨image, memory, view⟩ => Ensures.and_pre fun hfresh => ?_
  have hmem : image ∈ (VulkanImage.owned image memory).natives := List.mem_cons_self
  dsimp only
  by_cases hl : toNativeLayout d.initialState ≠ .undefined
  · rw [if_pos hl]
    refine Ensures.bind (initializeLayout_ensures rfl rfl rfl ⟨?_, ?_⟩ (hfresh.layouts _ hmem) hl)
      fun _ => Ensures.exists_pre fun n => Ensures.exists_pre fun f => ?_
    · exact List.mem_cons_of_mem _ List.mem_cons_self
    · exact List.mem_cons_of_mem _ (List.mem_cons_of_mem _ List.mem_cons_self)
    · refine (keepTexture_ensures rfl rfl rfl rfl ?_).after fun h s _ hs => ?_
      · show layoutAfter _ _ (r.layouts _) = _
        rw [hfresh.layouts _ hmem]
        exact layoutAfter_barrier _ _ _
      · obtain ⟨hh, w', hs⟩ := hs
        exact ⟨_, w', ⟨_, hh, rfl, rfl, rfl⟩, hs⟩
  · rw [if_neg hl]
    refine (keepTexture_ensures rfl rfl rfl rfl ?_).after fun h s _ hs => ?_
    · rw [hfresh.layouts _ hmem]
      exact (of_not_not hl).symm
    · obtain ⟨hh, w', hs⟩ := hs
      exact ⟨_, w', ⟨_, hh, rfl, rfl, rfl⟩, hs⟩

theorem destroyTexture_ensures (h : TextureHandle) :
    Ensures (moves c) (Begins c r) (destroyTexture h)
      (fun _ => Amid c True (r.withoutTexture h.value) 0 none) (fun _ => Failed kept r 0) := by
  refine Ensures.bind pollPendingSubmission_ensures fun _ => ?_
  refine Ensures.bind (requireTexture_ensures.error fun _ _ _ hs => hs.failed) fun t =>
    Ensures.and_pre fun ⟨_, ht⟩ => ?_
  refine Ensures.bind (failIf_ensures.error fun _ _ _ hs => hs.failed) fun _ =>
    Ensures.and_pre fun howner => ?_
  refine Ensures.assume (fun s hs h => h.facts hs) fun hfacts => destroyTextureRecord_ensures ?_
  intro surface sf hsf hmem
  obtain ⟨x, hx, he⟩ := List.mem_map.mp hmem
  have hne := (hfacts.linked.surface hsf).number
  rw [← hfacts.linked.owner_eq hsf hx (he ▸ ht)] at hne
  exact hne (of_not_not howner)

/-! ### Uploading -/

/-- The commands bring one image into a layout and from it into another, with one more command
between. -/
def throughLayout (image : VulkanImage) (before through after : ImageLayout)
    (command : VulkanCommand) : List VulkanCommand :=
  barrier image before through ++ [command] ++ barrier image through after

section Through

variable {image : VulkanImage} {before through after : ImageLayout} {command : VulkanCommand}

variable (image before through after) in
theorem layoutAfter_through (h : IsPlainCommand command) :
    layoutAfter (throughLayout image before through after command) image before = after := by
  unfold throughLayout
  rw [layoutAfter_append, layoutAfter_append, layoutAfter_barrier,
    layoutAfter_plain (List.forall_mem_singleton.mpr h),
    layoutAfter_barrier]

theorem layoutAfter_through_ne (h : IsPlainCommand command) {other : VulkanImage}
    (hne : image ≠ other) (layout : ImageLayout) :
    layoutAfter (throughLayout image before through after command) other layout = layout := by
  unfold throughLayout
  rw [layoutAfter_append, layoutAfter_append, layoutAfter_barrier_ne hne,
    layoutAfter_plain (List.forall_mem_singleton.mpr h),
    layoutAfter_barrier_ne hne]

theorem oldLayoutsRight_through (h : IsPlainCommand command) {real : Layouts}
    (hreal : real image = before) :
    OldLayoutsRight real (throughLayout image before through after command) := by
  refine oldLayoutsRight_append (oldLayoutsRight_append (oldLayoutsRight_barrier hreal)
    (oldLayoutsRight_plain (List.forall_mem_singleton.mpr h))) (oldLayoutsRight_barrier ?_)
  rw [layoutAfter_append, hreal, layoutAfter_barrier, layoutAfter_plain (List.forall_mem_singleton.mpr h)]

theorem newLayoutsDefined_through (h : IsPlainCommand command) (ht : through ≠ .undefined)
    (ha : after ≠ .undefined) :
    NewLayoutsDefined (throughLayout image before through after command) :=
  newLayoutsDefined_append (newLayoutsDefined_append (newLayoutsDefined_barrier ht)
    (newLayoutsDefined_plain (List.forall_mem_singleton.mpr h))) (newLayoutsDefined_barrier ha)

theorem brought_through (h : IsPlainCommand command) (ht : through ≠ .shaderReadOnly) :
    (broughtToSampling (throughLayout image before through after command)).Nodup := by
  unfold throughLayout
  rw [brought_append, brought_append, brought_barrier ht,
    brought_plain (List.forall_mem_singleton.mpr h), List.nil_append,
    List.nil_append]
  unfold barrier
  split
  · exact List.nodup_nil
  · cases after <;> first | exact List.nodup_nil | exact List.nodup_singleton _

/-- The commands use the image and what their one other command uses. -/
theorem through_commands {x : VulkanCommand}
    (hx : x ∈ throughLayout image before through after command) :
    x = command ∨ ∃ b a, x = .pipelineBarrier image b a := by
  obtain hx | hx := List.mem_append.mp hx
  · obtain hx | hx := List.mem_append.mp hx
    · exact .inr (mem_barrier hx)
    · exact .inl (List.mem_singleton.mp hx)
  · exact .inr (mem_barrier hx)

end Through

theorem recordThrough_ensures {image : VulkanImage} {before through after : ImageLayout}
    {command : VulkanCommand} (hw : w.commands = []) :
    Ensures (moves c) (Amid c True r held (some w))
      (do
        transitionImage image before through
        modify (·.recordCommand command)
        transitionImage image through after : RendererM Unit)
      (fun _ => Amid c True r held
        (some { w with commands := throughLayout image before through after command })) E := by
  refine Ensures.bind transitionImage_ensures fun _ => Ensures.bind recordCommand_ensures fun _ =>
    transitionImage_ensures.after fun _ s _ hs => ?_
  rw [hw, List.nil_append] at hs
  exact hs

/-- The copy into the image of a texture, or from it. -/
theorem copy_ready (hf : Facts r) {id : Nat} {t : TextureRecord} (ht : r.textures id = some t)
    {through after : ImageLayout} (command : VulkanCommand) (hplain : IsPlainCommand command)
    (hw : w.commands = throughLayout t.image t.layout through after command)
    (huses : ∀ n ∈ command.uses, n ∈ w.natives ∨ n ∈ t.image.natives)
    (himages : command.images = [t.image]) (hthrough : through ≠ .undefined)
    (hsampling : through ≠ .shaderReadOnly) (hafter : ¬c.restores → after ≠ .undefined)
    (hacquired : c.names → ImageWaited r.images t.image) : Ready c r w none none where
  live n hn := by
    obtain ⟨x, hx, hn⟩ :=
      List.mem_flatMap.mp ((List.mem_append.mp hn).resolve_right List.not_mem_nil)
    rw [hw] at hx
    obtain rfl | ⟨b, a, rfl⟩ := through_commands hx
    · exact (huses n hn).imp_right (hf.image_known ht)
    · exact .inr (hf.image_known ht hn)
  images hc swapChain index hm := by
    obtain ⟨x, hx, hm⟩ := List.mem_flatMap.mp hm
    rw [hw] at hx
    have hi : t.image = .presentable swapChain index := by
      obtain rfl | ⟨b, a, rfl⟩ := through_commands hx
      · rw [himages] at hm
        exact (List.mem_singleton.mp hm).symm
      · exact (List.mem_singleton.mp hm).symm
    have hwaited := hacquired hc
    rw [hi] at hwaited
    obtain ⟨a, ha, hindex, hwaited⟩ := hwaited
    exact ⟨a, ha, hindex, .inl hwaited⟩
  old := by
    rw [hw]
    exact oldLayoutsRight_through hplain (hf.stored ht)
  new hr := by
    rw [hw]
    exact newLayoutsDefined_through hplain hthrough (hafter hr)
  once := by
    rw [hw]
    exact brought_through hplain hsampling
  consumes := rfl

theorem completedFence_ensures :
    Ensures (moves c) (Amid c steady r held work) completedFence
      (fun _ => Amid c steady r held work) E := by
  refine Ensures.bind (Q := fun _ => Amid c steady r held work) (moving fun s _ hs =>
    ⟨.quiet ⟨rfl, rfl, rfl, rfl, rfl, rfl, rfl, rfl, rfl, rfl⟩, { hs with }⟩) fun _ => ?_
  exact Ensures.get_bind fun s _ hs => Ensures.pure fun t _ ht => ht ▸ hs

theorem submissionResult_ensures {result : VkResult} :
    Ensures (moves c) (Submitted c kept r r' held w result) (submissionResult result)
      (fun _ s => ∃ f, Amid c True r' held (some { w with fence := f }) s)
      (fun _ => Halted kept r held) :=
  Ensures.bind failIf_submission fun _ => Ensures.exists_pre fun f =>
    completedFence_ensures.after fun _ _ _ hs => ⟨f, hs⟩

/-- A texture that can be uploaded to is no image of a swapchain. -/
theorem Facts.upload_owned (hf : Facts r) {id : Nat} {t : TextureRecord} (ht : r.textures id = some t)
    (hu : t.description.usage.transferDestination = true) (images : ImageBooks) :
    ImageWaited images t.image := by
  cases hi : t.image with
  | owned image memory => trivial
  | presentable swapChain index =>
    obtain ⟨-, hn, -⟩ := hf.linked.texture ht swapChain index hi
    exact nomatch hu.symm.trans hn

theorem uploadTexture_ensures (h : TextureHandle) (frame : RendererFrame) :
    Ensures (moves c) (Begins c r) (uploadTexture h frame)
      (fun _ s => ∃ r', (r'.surfaces = r.surfaces ∧ r'.initialized = r.initialized) ∧
        Amid c True r' 0 none s) (fun _ => Failed kept r 0) := by
  refine Ensures.bind pollPendingSubmission_ensures fun _ => ?_
  refine Ensures.bind (requireTexture_ensures.error fun _ _ _ hs => hs.failed) fun t =>
    Ensures.and_pre fun ⟨_, ht⟩ => ?_
  refine Ensures.bind (failIf_ensures.error fun _ _ _ hs => hs.failed) fun _ =>
    Ensures.and_pre fun husage => ?_
  refine Ensures.bind (failIf_ensures.error fun _ _ _ hs => hs.failed) fun _ =>
    Ensures.and_pre fun _ => ?_
  refine Ensures.assume (fun s hs h => h.facts hs) fun hf => withWork_ensures ?_
  have hu : t.description.usage.transferDestination = true :=
    Bool.eq_true_of_not_eq_false (not_or.mp husage).2
  refine Ensures.bind ((createWorkBuffer_ensures rfl rfl).error fun _ _ _ hs => hs.halted)
    fun ⟨buffer, memory⟩ => ?_
  refine Ensures.bind (writeMemory_ensures.error fun _ _ _ hs => hs.halted) fun _ => ?_
  refine Ensures.bind ((beginCommands_ensures rfl).error fun _ _ _ hs => hs.halted) fun _ =>
    Ensures.exists_pre fun n => ?_
  refine Ensures.bind (recordThrough_ensures rfl) fun _ => ?_
  have hset := settledTextures_set hf ht .shaderResource
    (layoutAfter_through t.image t.layout .transferDestination .shaderReadOnly
      (show IsPlainCommand (.copyBufferToImage buffer memory t.image) from trivial))
    fun other hne layout => layoutAfter_through_ne (by trivial) (Ne.symm hne) layout
  refine Ensures.bind (submit_ensures kept none
    (statesOf (setState r.textures h.value .shaderReadOnly .shaderResource))
    (copy_ready hf ht (.copyBufferToImage buffer memory t.image) trivial rfl ?_ rfl
      (by decide) (by decide) (fun _ => by decide) fun _ => hf.upload_owned ht hu _)
    rfl fun s hs _ => ?_) fun result => submissionResult_ensures.after fun _ s _ hs => ?_
  · intro m hm
    obtain rfl | hm := List.mem_cons.mp hm
    · exact .inl (by simp [VulkanSubmission.natives])
    · obtain rfl | hm := List.mem_cons.mp hm
      · exact .inl (by simp [VulkanSubmission.natives])
      · exact .inr hm
  · rw [setTextureState_eq, settled, hs]
    exact congrArg (fun textures => { s with textures := textures }) hset
  · obtain ⟨f, hs⟩ := hs
    refine ⟨_, _, ?_, hs⟩
    exact ⟨rfl, rfl⟩

/-! ## Meshes -/

/-- The records with a new mesh. -/
def Records.withMesh (r : Records) (m : MeshRecord) : Records :=
  { r with
    meshes := r.meshes.set r.nextResourceId (some m)
    nextResourceId := r.nextResourceId + 1 }

theorem keepMesh_ensures {m : MeshRecord} :
    Ensures (moves c) (Amid c True r (m.natives : Multiset Native) none)
      (do
        let s ← get
        modify (·.keepMesh m)
        pure ⟨s.nextResourceId, s.handleGeneration⟩ : RendererM MeshHandle)
      (fun h s => h = ⟨r.nextResourceId, r.generation⟩ ∧ Amid c True (r.withMesh m) 0 none s) E := by
  refine Ensures.get_bind fun s _ hs => ?_
  refine Ensures.bind (Q := fun _ => Amid c True (r.withMesh m) 0 none) (moving ?_) fun _ =>
    Ensures.pure fun _ _ h => ⟨?_, h⟩
  · rintro t - rfl
    refine ⟨.keepMesh t m (hs.held ▸ le_rfl), { hs with records := ?_, held := ?_ }⟩
    · rw [← hs.records]
      rfl
    · show t.held - _ = 0
      rw [hs.held, ← add_zero (m.natives : Multiset Native)]
      exact add_tsub_cancel_left _ 0
  · rw [hs.nextResourceId, hs.generation]

theorem createMesh_ensures (d : MeshDescription) :
    Ensures (moves c) (Begins c r) (createMesh d)
      (fun h s => ∃ m, h = ⟨r.nextResourceId, r.generation⟩ ∧ Amid c True (r.withMesh m) 0 none s)
      (fun _ => Failed kept r 0) := by
  refine Ensures.bind pollPendingSubmission_ensures fun _ => ?_
  refine Ensures.bind (createBuffer_ensures.error fun _ _ _ hs => hs.failed) fun ⟨vb, vm⟩ => ?_
  dsimp only
  refine Ensures.bind (Ensures.before ((orDestroy_ensures 0 [vb, vm]
    writeMemory_ensures).error fun _ _ _ hs => hs.failed) fun s _ hs => ?_) fun _ => ?_
  · rwa [cons_two]
  refine Ensures.bind ((orDestroy_ensures 0 [vb, vm] createBuffer_ensures).error
    fun _ _ _ hs => hs.failed) fun ⟨ib, im⟩ => ?_
  dsimp only
  refine Ensures.bind (Ensures.before ((orDestroy_ensures 0 [vb, vm, ib, im]
    writeMemory_ensures).error fun _ _ _ hs => hs.failed) fun s _ hs => ?_) fun _ => ?_
  · have hperm : (([vb, vm, ib, im] : List Native) : Multiset Native) =
        (([ib, im, vb, vm] : List Native) : Multiset Native) :=
      Multiset.coe_eq_coe.mpr (show List.Perm ([vb, vm] ++ [ib, im]) ([ib, im] ++ [vb, vm])
      from List.perm_append_comm)
    rw [add_zero] at hs ⊢
    rw [hperm]
    exact hs
  refine (Ensures.before keepMesh_ensures fun s _ hs => ?_).after fun h s _ hs => ⟨_, hs⟩
  rw [add_zero] at hs
  exact hs

theorem updateMesh_ensures (h : MeshHandle) (d : MeshDescription) :
    Ensures (moves c) (Begins c r) (updateMesh h d)
      (fun _ s => ∃ r', (r'.surfaces = r.surfaces ∧ r'.initialized = r.initialized) ∧
        Amid c True r' 0 none s) (fun _ => Failed kept r 0) := by
  refine Ensures.bind pollPendingSubmission_ensures fun _ => ?_
  refine Ensures.bind (requireMesh_ensures.error fun _ _ _ hs => hs.failed) fun old =>
    Ensures.and_pre fun ⟨_, hold⟩ => ?_
  refine Ensures.assume (fun s hs h => h.facts hs) fun hf => ?_
  have hlt : h.value < r.nextResourceId := hf.meshes.lt hold
  have hne : h.value ≠ r.nextResourceId := Nat.ne_of_lt hlt
  refine Ensures.bind (Ensures.before (createMesh_ensures d) fun s _ hs => hs.begins) fun replacement =>
    Ensures.exists_pre fun m => Ensures.and_pre fun hr => ?_
  subst hr
  have hid : (r.withMesh m).meshes h.value = some old := (Table.set_ne hne).trans hold
  refine Ensures.bind (Q := fun _ => Amid c True { r.withMesh m with
      meshes := ((r.withMesh m).meshes.set h.value
        ((r.withMesh m).meshes r.nextResourceId)).set r.nextResourceId none } (old.natives + 0) none)
    (moving fun s _ hs => ?_) fun _ => (destroyAll_amid old.natives).after fun _ s _ hs => ?_
  · refine ⟨.replaceMesh s h.value r.nextResourceId hne ?_, { hs with records := ?_, held := ?_ }⟩
    · rw [hs.meshes, hid]
      rfl
    · rw [← hs.records]
      rfl
    · show s.held + ↑((s.meshes h.value).elim [] MeshRecord.natives) = _
      rw [hs.held, hs.meshes, hid, add_comm]
      rfl
  · refine ⟨_, ?_, hs⟩
    exact ⟨rfl, rfl⟩

theorem destroyMesh_ensures (h : MeshHandle) :
    Ensures (moves c) (Begins c r) (destroyMesh h)
      (fun _ => Amid c True { r with meshes := r.meshes.set h.value none } 0 none)
      (fun _ => Failed kept r 0) := by
  refine Ensures.bind pollPendingSubmission_ensures fun _ => ?_
  refine Ensures.bind (requireMesh_ensures.error fun _ _ _ hs => hs.failed) fun m =>
    Ensures.and_pre fun ⟨_, hm⟩ => ?_
  refine Ensures.bind (Q := fun _ => Amid c True { r with meshes := r.meshes.set h.value none }
    (m.natives + 0) none) (moving fun s _ hs => ?_) fun _ => destroyAll_amid m.natives
  refine ⟨.takeMesh s h.value, { hs with records := ?_, held := ?_ }⟩
  · rw [← hs.records]
    rfl
  · show s.held + ↑((s.meshes h.value).elim [] MeshRecord.natives) = _
    rw [hs.held, hs.meshes, hm, add_comm]
    rfl

end WSE.Proof.Oui
