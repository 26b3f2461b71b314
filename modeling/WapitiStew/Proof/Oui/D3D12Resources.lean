import WapitiStew.Framework.Transition
import WapitiStew.Proof.Oui.D3D12Lifetimes
import WapitiStew.Proof.Oui.D3D12Recording

/-!
# Submissions keep what they use, and what a lost signal releases

What holds between the calls (`Resting`), while a list is recorded (`Recording`) and from its
execution to the end of its submission (`Submitting`) is kept by every step in which the signals
are answered, so that in every run of such steps the objects of each outstanding list are held and
the records say what state the textures are in (`submissions_complete`).

When the signal that follows an executed list fails, its objects are released and the states are
not settled (`submissions_complete_broken`).
-/

namespace WSE.Proof.Oui

open WSE.Framework WSE.Impl.Oui WSE.Spec.Oui

/-! ## The invariant -/

def realStates (log : List ResourceEvent) : Nat → NativeState := resourceStates.after log

/-- What is outstanding when the shutdown waits is before the value that it waits for. -/
def Awaited (f : D3D12Fence) (w : FenceWait) : Prop :=
  match w.waiter with
  | .shutdown _ => ∀ id ∈ (workBooks f).outstanding, Signals id w.value f.gpu.queue
  | .waitFence | .readTexture _ => True
  | .idle | .leave _ => False

def Awaiting (f : D3D12Fence) : D3D12Phase → Prop
  | .checking w | .registering w | .waiting w => Awaited f w
  | .collecting w =>
    match w.waiter with
    | .shutdown _ => (workBooks f).outstanding = []
    | .waitFence | .readTexture _ => True
    | .idle | .leave _ => False
  | .closing _ => (workBooks f).outstanding = []
  | .initializing => f.initialized = false
  | .idle | .copying _ | .signalling (.shutdown _) => True
  | _ => False

/-- Between the calls, and while the fence is waited for. -/
structure Resting (s : D3D12Renderer) : Prop where
  life : Lifetimes s.fence s.works fun _ => False
  apart : Apart s.textures s.objects
  accepts : resourceStates.Accepts s.log
  tracked : Stated s.textures (realStates s.log)

/-- A list is recorded, and not yet executed. -/
structure Recording (s : D3D12Renderer) : Prop extends Resting s where
  initialized : s.fence.initialized = true
  recorded : ∃ w, s.doing = some w ∧ Recorded s.textures (realStates s.log) w

/-- A list has been executed, and is not yet settled. -/
structure Submitting (s : D3D12Renderer) (K : Nat → Prop) (work : Nat) : Prop where
  life : Lifetimes s.fence s.works K
  apart : Apart s.textures s.objects
  accepts : resourceStates.Accepts s.log
  doing : ∃ w, s.doing = some w ∧ s.works work = some w ∧
    Settles s.textures (realStates s.log) w

def InPhase (s : D3D12Renderer) : D3D12Phase → Prop
  | .recording _ => Recording s
  | .signalling (.submit _ work) => Submitting s (fun id => id = work) work
  | .retaining (.submit _ work) value =>
    Submitting s (fun id => id = work ∧ Signals id value s.fence.gpu.queue) work
  | p => Resting s ∧ Awaiting s.fence p

def ResourcesInv (s : D3D12Renderer) : Prop := InPhase s s.fence.phase

variable {s s' : D3D12Renderer}

theorem Resting.fence (h : Resting s) {f : D3D12Fence}
    (hf : Lifetimes f s.works fun _ => False) : Resting { s with fence := f } :=
  ⟨hf, h.apart, h.accepts, h.tracked⟩

theorem Resting.record (h : Resting s) {e : ResourceEvent}
    (ha : resourceStates.allowed (realStates s.log) e)
    (he : resourceStates.next (realStates s.log) e = realStates s.log) : Resting (s.record e) := by
  refine ⟨h.life, h.apart, Monitor.accepts_snoc.mpr ⟨h.accepts, ha⟩, ?_⟩
  show Stated s.textures (resourceStates.after (s.log ++ [e]))
  rw [resourceStates.after_snoc]
  exact he ▸ h.tracked

/-! ## The device -/

/-- Objects are created, and none is numbered anew. -/
def Grows {α : Type} (x : DeviceM α) : Prop := ∀ d, d.objects ≤ (lastState (x d)).objects

namespace Grows

variable {α β : Type}

theorem pure (a : α) : Grows (pure a : DeviceM α) := fun _ => Nat.le_refl _

theorem throw (e : RendererError) : Grows (throw e : DeviceM α) := fun _ => Nat.le_refl _

theorem bind {x : DeviceM α} {f : α → DeviceM β} (hx : Grows x) (hf : ∀ a, Grows (f a)) :
    Grows (x >>= f) := by
  intro d
  have hd := hx d
  cases hr : x d with
  | ok a t =>
    rw [hr] at hd
    rw [bind_ok hr]
    exact Nat.le_trans hd (hf a t)
  | error e t =>
    rw [hr] at hd
    rw [bind_error hr]
    exact hd

theorem ite {c : Prop} [Decidable c] {x y : DeviceM α} (hx : Grows x) (hy : Grows y) :
    Grows (if c then x else y) := by
  split <;> assumption

theorem answer (message : String) : Grows (D3D12Device.answer message) := by
  intro d
  rw [answer_run]
  split
  · split <;> exact Nat.le_refl _
  · exact Nat.le_refl _

theorem create (message : String) : Grows (D3D12Device.create message) := by
  intro d
  cases hr : D3D12Device.create message d with
  | ok n d' => exact Nat.le_of_lt (Nat.lt_of_succ_le (Nat.le_of_eq (create_ok hr).2.symm))
  | error e d' =>
    have ha := answer message d
    cases hq : D3D12Device.answer message d with
    | ok a d₁ =>
      rw [D3D12Device.create, bind_ok hq] at hr
      cases hr
    | error e' d₁ =>
      rw [D3D12Device.create, bind_error hq] at hr
      cases hr
      rwa [hq] at ha

theorem createHeap (wanted : Bool) (message : String) : Grows (D3D12Device.createHeap wanted message) :=
  ite ((create message).bind fun _ => pure _) (pure _)

theorem createCommandList : Grows D3D12Device.createCommandList :=
  (create _).bind fun _ => (create _).bind fun _ => pure _

theorem createTextureRecord (d : TextureDescription) : Grows (D3D12Device.createTextureRecord d) :=
  (create _).bind fun _ => (createHeap _ _).bind fun _ => (createHeap _ _).bind fun _ => pure _

theorem createMeshRecord (d : MeshDescription) : Grows (D3D12Device.createMeshRecord d) :=
  ite ((throw _).bind fun _ => (create _).bind fun _ => (create _).bind fun _ =>
    (answer _).bind fun _ => (answer _).bind fun _ => pure _)
  ((create _).bind fun _ => (create _).bind fun _ =>
    (answer _).bind fun _ => (answer _).bind fun _ => pure _)

theorem createDescriptors (draws : List D3D12Draw) : Grows (D3D12Device.createDescriptors draws) :=
  ite (pure _) (ite ((throw _).bind fun _ => (create _).bind fun _ => pure _)
    ((create _).bind fun _ => pure _))

theorem recordUpload (t : D3D12Texture) : Grows (D3D12Device.recordUpload t) :=
  (create _).bind fun _ => (answer _).bind fun _ => createCommandList.bind fun _ => pure _

theorem recordReadBack (t : D3D12Texture) : Grows (D3D12Device.recordReadBack t) :=
  (create _).bind fun _ => createCommandList.bind fun _ => pure _

theorem recordPass (desc : RenderPassDescription) (t : D3D12Texture) (draws : List D3D12Draw) :
    Grows (D3D12Device.recordPass desc t draws) :=
  createCommandList.bind fun _ => (createDescriptors draws).bind fun _ => pure _

end Grows

section Device

variable {α : Type} {x : DeviceM α} {answers : List Int}

theorem device_ok {a : α} (h : s.device answers x = (.ok a, s')) :
    ∃ d, x ⟨answers, s.objects⟩ = .ok a d ∧ s' = { s with objects := d.objects } := by
  rw [D3D12Renderer.device] at h
  split at h
  · rename_i b d hx
    cases h
    exact ⟨d, hx, rfl⟩
  · cases h

theorem device_grows (hx : Grows x) {r : RendererResult α} (h : s.device answers x = (r, s')) :
    ∃ n, s.objects ≤ n ∧ s' = { s with objects := n } := by
  have hg := hx ⟨answers, s.objects⟩
  rw [D3D12Renderer.device] at h
  split at h
  · rename_i hd
    cases h
    rw [hd] at hg
    exact ⟨_, hg, rfl⟩
  · rename_i hd
    cases h
    rw [hd] at hg
    exact ⟨_, hg, rfl⟩

theorem Resting.grows (h : Resting s) {n : Nat} (hn : s.objects ≤ n) :
    Resting { s with objects := n } :=
  ⟨h.life, ⟨fun ht => Nat.lt_of_lt_of_le (h.apart.below ht) hn, h.apart.one⟩, h.accepts, h.tracked⟩

theorem Resting.device (h : Resting s) (hx : Grows x) {r : RendererResult α}
    (hd : s.device answers x = (r, s')) : Resting s' ∧ s'.fence = s.fence := by
  obtain ⟨n, hn, rfl⟩ := device_grows hx hd
  exact ⟨h.grows hn, rfl⟩

end Device

/-! ## The calls -/

/-- A call that leaves the fence alone. -/
def FenceQuiet (s s' : D3D12Renderer) : Prop := Resting s' ∧ s'.fence = s.fence

/-- What is returned does not count. -/
theorem FenceQuiet.texture (h : FenceQuiet s s') (r : RendererResult TextureHandle) :
    FenceQuiet s (s'.record (.texture r)) := ⟨h.1.record trivial rfl, h.2⟩

theorem FenceQuiet.mesh (h : FenceQuiet s s') (r : RendererResult MeshHandle) :
    FenceQuiet s (s'.record (.mesh r)) := ⟨h.1.record trivial rfl, h.2⟩

theorem FenceQuiet.status (h : FenceQuiet s s') (r : RendererStatus) :
    FenceQuiet s (s'.record (.status r)) := ⟨h.1.record trivial rfl, h.2⟩

theorem FenceQuiet.fails (h : FenceQuiet s s') (caller : Submitter) (e : RendererError) :
    FenceQuiet s (s'.fails caller e) := by
  cases caller with
  | command => exact ⟨h.1.record trivial rfl, h.2⟩
  | readTexture timeoutMs => exact ⟨h.1.record trivial rfl, h.2⟩

theorem Resting.quiet (h : Resting s) : FenceQuiet s s := ⟨h, rfl⟩

theorem createTextureRecord_ok {desc : TextureDescription} {t : D3D12TextureRecord}
    {d d' : D3D12Device} (h : D3D12Device.createTextureRecord desc d = .ok t d') :
    d.objects ≤ t.resource ∧ t.resource < d'.objects := by
  obtain ⟨resource, d₁, h₁, h⟩ := bind_eq_ok h
  obtain ⟨hr, hd₁⟩ := create_ok h₁
  have hg := (Grows.createHeap desc.usage.renderTarget
    "Failed to create a render-target descriptor heap.").bind (fun a =>
      (Grows.createHeap desc.usage.sampled "Failed to create a shader-resource descriptor heap.").bind
        fun b => Grows.pure (⟨resource, a, b, desc, portableInitialState desc, 0⟩ :
          D3D12TextureRecord)) d₁
  rw [h] at hg
  obtain ⟨_, _, -, h⟩ := bind_eq_ok h
  obtain ⟨_, _, -, h⟩ := bind_eq_ok h
  cases h
  show d.objects ≤ resource ∧ resource < _
  rw [lastState_ok] at hg
  omega

/-- The new texture is in the state it was created in. -/
theorem Resting.emplaceTexture (h : Resting s) {n : Nat} {t : D3D12TextureRecord}
    (hlow : s.objects ≤ t.resource) (hhigh : t.resource < n) :
    Resting ({ s with objects := n }.emplaceTexture t) := by
  have hfresh : ∀ i u, s.textures i = some u → u.resource ≠ t.resource := fun i u hu =>
    Nat.ne_of_lt (Nat.lt_of_lt_of_le (h.apart.below hu) hlow)
  refine ⟨h.life, ⟨fun {i u} hu => ?_, fun {i j u v} hu hv he => ?_⟩,
    Monitor.accepts_snoc.mpr ⟨h.accepts, trivial⟩, fun i u hu => ?_⟩
  · obtain ⟨-, ⟨⟩⟩ | ⟨-, hu⟩ := Table.set_cases hu
    · exact hhigh
    · exact Nat.lt_trans (Nat.lt_of_lt_of_le (h.apart.below hu) hlow) hhigh
  · obtain ⟨rfl, ⟨⟩⟩ | ⟨-, hu⟩ := Table.set_cases hu
    · obtain ⟨rfl, -⟩ | ⟨-, hv⟩ := Table.set_cases hv
      · rfl
      · exact absurd he.symm (hfresh j v hv)
    · obtain ⟨rfl, ⟨⟩⟩ | ⟨-, hv⟩ := Table.set_cases hv
      · exact absurd he (hfresh i u hu)
      · exact h.apart.one hu hv he
  · show toNativeState u.state = resourceStates.after (s.log ++ [.created t.resource _]) u.resource
    rw [resourceStates.after_snoc]
    show _ = Function.update (realStates s.log) t.resource (toNativeState t.state) u.resource
    obtain ⟨-, ⟨⟩⟩ | ⟨-, hu⟩ := Table.set_cases hu
    · rw [Function.update_self]
    · rw [Function.update_of_ne (hfresh i u hu)]
      exact h.tracked i u hu

theorem createTexture_quiet (h : Resting s) (desc : TextureDescription) (answers : List Int) :
    FenceQuiet s (s.createTexture desc answers) := by
  rw [D3D12Renderer.createTexture]
  split
  · exact h.quiet.texture _
  · split
    · rename_i hd
      exact FenceQuiet.texture (h.device (Grows.createTextureRecord desc) hd) _
    · rename_i t s₁ hd
      obtain ⟨d, hx, rfl⟩ := device_ok hd
      obtain ⟨hlow, hhigh⟩ := createTextureRecord_ok hx
      exact FenceQuiet.texture ⟨h.emplaceTexture hlow hhigh, rfl⟩ _

theorem destroyTexture_quiet (h : Resting s) (handle : TextureHandle) :
    FenceQuiet s (s.destroyTexture handle) := by
  rw [D3D12Renderer.destroyTexture]
  split
  · exact h.quiet.status _
  · have hsub : ∀ {i t}, s.textures.set handle.value none i = some t → s.textures i = some t := by
      intro i t ht
      obtain ⟨-, ⟨⟩⟩ | ⟨-, ht⟩ := Table.set_cases ht
      exact ht
    have hrest : Resting { s with textures := s.textures.set handle.value none } :=
      ⟨h.life, ⟨fun ht => h.apart.below (hsub ht), fun ht hu => h.apart.one (hsub ht) (hsub hu)⟩,
        h.accepts, fun i t ht => h.tracked i t (hsub ht)⟩
    exact FenceQuiet.status ⟨hrest, rfl⟩ _

/-- The meshes do not matter to what is kept. -/
theorem Resting.meshes (h : Resting s) (meshes : Table D3D12MeshRecord) (next : Nat) :
    Resting { s with meshes := meshes, nextResourceId := next } :=
  ⟨h.life, h.apart, h.accepts, h.tracked⟩

theorem createMesh_quiet (h : Resting s) (desc : MeshDescription) (answers : List Int) :
    FenceQuiet s (s.createMesh desc answers) := by
  rw [D3D12Renderer.createMesh]
  split
  · exact h.quiet.mesh _
  · split
    · rename_i hd
      exact FenceQuiet.mesh (h.device (Grows.createMeshRecord desc) hd) _
    · rename_i m s₁ hd
      obtain ⟨hr, hf⟩ := h.device (Grows.createMeshRecord desc) hd
      have hm : Resting (s₁.emplaceMesh m) := hr.meshes _ _
      exact FenceQuiet.mesh ⟨hm, hf⟩ _

theorem updateMesh_quiet (h : Resting s) (handle : MeshHandle) (desc : MeshDescription)
    (answers : List Int) : FenceQuiet s (s.updateMesh handle desc answers) := by
  rw [D3D12Renderer.updateMesh]
  split
  · exact h.quiet.status _
  · split
    · rename_i hd
      exact FenceQuiet.status (h.device (Grows.createMeshRecord desc) hd) _
    · rename_i m s₁ hd
      obtain ⟨hr, hf⟩ := h.device (Grows.createMeshRecord desc) hd
      have hm : Resting { s₁ with meshes := s₁.meshes.set handle.value (some m) } := hr.meshes _ _
      exact FenceQuiet.status ⟨hm, hf⟩ _

theorem destroyMesh_quiet (h : Resting s) (handle : MeshHandle) :
    FenceQuiet s (s.destroyMesh handle) := by
  rw [D3D12Renderer.destroyMesh]
  split
  · exact h.quiet.status _
  · exact FenceQuiet.status ⟨h.meshes _ _, rfl⟩ _

theorem FenceQuiet.inv (h : FenceQuiet s s') (hp : s.fence.phase = .idle) : ResourcesInv s' := by
  rw [ResourcesInv, h.2, hp]
  exact ⟨h.1, trivial⟩

/-- What is recorded from the checked state is recorded right. -/
theorem records_inv (h : Resting s) (hp : s.fence.phase = .idle) (caller : Submitter)
    (answers : List Int) {checked : RendererResult (DeviceM RecordedWork)}
    (hc : ∀ x, checked = .ok x → s.fence.initialized = true ∧ Grows x ∧
      ∀ d w d', x d = .ok w d' → Recorded s.textures (realStates s.log) w) :
    ResourcesInv (s.records caller answers checked) := by
  rw [D3D12Renderer.records.eq_def]
  split
  · exact (h.quiet.fails caller _).inv hp
  · rename_i x
    obtain ⟨hi, hg, hr⟩ := hc x rfl
    split
    · rename_i hd
      exact (FenceQuiet.fails (h.device hg hd) caller _).inv hp
    · rename_i w s₁ hd
      obtain ⟨n, hn, -⟩ := device_grows hg hd
      obtain ⟨d, hx, rfl⟩ := device_ok hd
      have hw := hr _ w d hx
      have hrest := (h.device hg hd).1
      have hlog : realStates (s.log ++ [.recorded w.commands]) = realStates s.log := by
        rw [realStates, resourceStates.after_snoc]
        rfl
      have hrec : Resting (D3D12Renderer.record { s with objects := d.objects }
          (.recorded w.commands)) := hrest.record ⟨hw.right, hw.once⟩ rfl
      exact ⟨⟨hrec.life.goes _, hrec.apart, hrec.accepts, hrec.tracked⟩, hi, w, rfl, hlog.symm ▸ hw⟩

theorem Resting.started (h : Resting s) (hi : s.fence.initialized = false) :
    (workBooks s.fence).outstanding = [] := h.life.started hi

theorem resourceCall_inv (h : Resting s) (hp : s.fence.phase = .idle) {answers : List Int}
    {c : ResourceCall} (hs : s.call answers c = some s') : ResourcesInv s' := by
  cases c with
  | initializeWith generation =>
    obtain ⟨f, hf, rfl⟩ := Option.map_eq_some_iff.mp hs
    simp only [D3D12Fence.call] at hf
    split at hf
    · cases hf
      exact ⟨h.fence (h.life.returns _), trivial⟩
    · rename_i hi
      split at hf
      · cases hf
        exact ⟨h.fence (h.life.returns _), trivial⟩
      · cases hf
        exact ⟨h.fence ⟨h.life.queued, h.life.ascends, h.life.started, h.life.fresh, h.life.known,
          h.life.kept⟩, Bool.eq_false_of_not_eq_true hi⟩
  | createTexture desc =>
    cases hs
    exact (createTexture_quiet h desc answers).inv hp
  | destroyTexture handle =>
    cases hs
    exact (destroyTexture_quiet h handle).inv hp
  | createMesh desc =>
    cases hs
    exact (createMesh_quiet h desc answers).inv hp
  | updateMesh handle desc =>
    cases hs
    exact (updateMesh_quiet h handle desc answers).inv hp
  | destroyMesh handle =>
    cases hs
    exact (destroyMesh_quiet h handle).inv hp
  | uploadTexture handle frame =>
    cases hs
    refine records_inv h hp _ _ fun x hx => ?_
    obtain ⟨hi, t, ht, rfl⟩ := uploadTexture_ok hx
    exact ⟨hi, Grows.recordUpload _, fun d w d' hw => recordUpload_ok h.tracked h.apart ht hw⟩
  | executeRenderPass desc =>
    cases hs
    refine records_inv h hp _ _ fun x hx => ?_
    obtain ⟨hi, t, draws, ht, hd, rfl⟩ := executeRenderPass_ok hx
    exact ⟨hi, Grows.recordPass _ _ _, fun d w d' hw => recordPass_ok h.tracked h.apart ht hd hw⟩
  | readTexture handle timeoutMs =>
    cases hs
    refine records_inv h hp _ _ fun x hx => ?_
    obtain ⟨hi, t, ht, rfl⟩ := readTexture_ok hx
    exact ⟨hi, Grows.recordReadBack _, fun d w d' hw => recordReadBack_ok h.tracked h.apart ht hw⟩
  | waitFence fence timeoutMs =>
    simp only [D3D12Renderer.call] at hs
    split at hs
    · cases hs
      exact (h.quiet.status _).inv hp
    · obtain ⟨f, hf, rfl⟩ := Option.map_eq_some_iff.mp hs
      simp only [D3D12Fence.call] at hf
      split at hf
      · cases hf
        exact ⟨h.fence (h.life.returns _), trivial⟩
      · cases hf
        exact ⟨h.fence (h.life.goes _), trivial⟩
  | shutdown =>
    obtain ⟨f, hf, rfl⟩ := Option.map_eq_some_iff.mp hs
    simp only [D3D12Fence.call] at hf
    split at hf
    · cases hf
      exact ⟨h.fence (h.life.goes _), trivial⟩
    · rename_i hi
      cases hf
      have ho := h.started (Bool.eq_false_of_not_eq_true hi)
      exact ⟨h.fence (h.life.closes ho none), ho⟩

/-! ## The GPU goes on -/

/-- What the GPU does to the queue and the fence keeps what is held. -/
structure Proceeds (f f' : D3D12Fence) : Prop where
  life : ∀ {works K K'}, Lifetimes f works K →
    (∀ id ∈ (workBooks f').outstanding, K id → K' id) → Lifetimes f' works K'
  outstanding : ∀ id ∈ (workBooks f').outstanding, id ∈ (workBooks f).outstanding ∧
    ∀ value, Signals id value f.gpu.queue → Signals id value f'.gpu.queue
  initialized : f'.initialized = f.initialized

theorem proceeds_executes {f f' : D3D12Fence} (hq : (workBooks f).queued = queuedWork f.gpu.queue)
    (hs : f.executes = some f') : Proceeds f f' :=
  ⟨fun h hK => h.executes hs hK, executes_outstanding hq hs, (executes_frame hs).2.2.1⟩

theorem proceeds_raises {f f' : D3D12Fence} {value : Nat} (hs : f.raises value = some f') :
    Proceeds f f' := by
  obtain ⟨event, registered, rfl⟩ := raises_frame hs
  refine ⟨fun h hK => ?_, fun id hid => ⟨hid, fun _ hv => hv⟩, rfl⟩
  exact Lifetimes.mono ⟨h.queued, h.ascends, h.started, h.fresh, h.known, h.kept⟩ hK

namespace Proceeds

variable {f : D3D12Fence}

theorem nil (h : Proceeds s.fence f) (ho : (workBooks s.fence).outstanding = []) :
    (workBooks f).outstanding = [] := by
  refine List.eq_nil_iff_forall_not_mem.mpr fun id hid => ?_
  have hmem := (h.outstanding id hid).1
  rw [ho] at hmem
  exact nomatch hmem

theorem awaited (h : Proceeds s.fence f) {w : FenceWait} (ha : Awaited s.fence w) :
    Awaited f w := by
  obtain ⟨waiter, value, timeoutMs⟩ := w
  cases waiter with
  | shutdown failure =>
    intro id hid
    obtain ⟨hid, hv⟩ := h.outstanding id hid
    exact hv _ (ha id hid)
  | waitFence | readTexture work => trivial
  | idle | leave failure => exact ha

theorem awaiting (h : Proceeds s.fence f) {p : D3D12Phase} (ha : Awaiting s.fence p) :
    Awaiting f p := by
  cases p with
  | checking w | registering w | waiting w => exact h.awaited ha
  | collecting w =>
    obtain ⟨waiter, value, timeoutMs⟩ := w
    cases waiter with
    | shutdown failure => exact h.nil ha
    | waitFence | readTexture work => trivial
    | idle | leave failure => exact ha
  | closing failure => exact h.nil ha
  | initializing => exact h.initialized.trans ha
  | idle | copying work => trivial
  | signalling k =>
    cases k with
    | shutdown failure => trivial
    | submit caller work | present | idle | leave failure => exact ha
  | recording caller | presenting | retaining k value => exact ha

theorem resting (h : Proceeds s.fence f) (hr : Resting s) : Resting { s with fence := f } :=
  hr.fence (h.life hr.life fun _ _ hK => hK)

theorem submitting (h : Proceeds s.fence f) {K K' : Nat → Prop} {work : Nat}
    (hs : Submitting s K work) (hK : ∀ id ∈ (workBooks f).outstanding, K id → K' id) :
    Submitting { s with fence := f } K' work :=
  ⟨h.life hs.life hK, hs.apart, hs.accepts, hs.doing⟩

theorem inPhase (h : Proceeds s.fence f) {p : D3D12Phase} (hp : InPhase s p) :
    InPhase { s with fence := f } p := by
  cases p with
  | recording caller =>
    exact ⟨h.resting hp.toResting, h.initialized.trans hp.initialized, hp.recorded⟩
  | signalling k =>
    cases k with
    | submit caller work => exact h.submitting hp fun _ _ hK => hK
    | present | idle | leave failure | shutdown failure =>
      exact ⟨h.resting hp.1, h.awaiting hp.2⟩
  | retaining k value =>
    cases k with
    | submit caller work =>
      exact h.submitting hp fun id hid hK => ⟨hK.1, (h.outstanding id hid).2 _ hK.2⟩
    | present | idle | leave failure | shutdown failure =>
      exact ⟨h.resting hp.1, h.awaiting hp.2⟩
  | idle | initializing | presenting | checking w | registering w | waiting w | collecting w
  | copying work | closing failure => exact ⟨h.resting hp.1, h.awaiting hp.2⟩

end Proceeds

theorem InPhase.queued {p : D3D12Phase} (h : InPhase s p) :
    (workBooks s.fence).queued = queuedWork s.fence.gpu.queue := by
  cases p with
  | recording caller => exact h.life.queued
  | signalling k =>
    cases k with
    | submit caller work => exact h.life.queued
    | present | idle | leave failure | shutdown failure => exact h.1.life.queued
  | retaining k value =>
    cases k with
    | submit caller work => exact h.life.queued
    | present | idle | leave failure | shutdown failure => exact h.1.life.queued
  | idle | initializing | presenting | checking w | registering w | waiting w | collecting w
  | copying work | closing failure => exact h.1.life.queued

/-- The records are only followed up by the answers and by what goes on without one. -/
theorem follows_other {a : D3D12Action} (h : ∀ hr, a ≠ .answer hr) (h' : a ≠ .proceed) :
    s.follows a = s := by
  rw [D3D12Renderer.follows.eq_def]
  split
  · exact absurd rfl (h _)
  · exact absurd rfl (h _)
  · exact absurd rfl h'
  · exact absurd rfl h'
  · rfl

/-! ## The submission -/

section Submission

variable {caller : Submitter} {hr : Int} {work value : Nat}

theorem Lifetimes.submitFails {f : D3D12Fence} {works : Table RecordedWork} {K : Nat → Prop}
    (h : Lifetimes f works K) (caller : Submitter) (e : RendererError) :
    Lifetimes (f.submitFails caller e) works K := by
  cases caller with
  | command => exact h.returns _
  | readTexture timeoutMs => exact h.returns _

theorem submitFails_phase (f : D3D12Fence) (caller : Submitter) (e : RendererError) :
    (f.submitFails caller e).phase = .idle := by cases caller <;> rfl

/-- What a call held goes with it. -/
theorem Resting.drops (h : Resting s) : Resting { s with doing := none } :=
  ⟨h.life, h.apart, h.accepts, h.tracked⟩

theorem ResourcesInv.of_idle {s : D3D12Renderer} (h : Resting s) (hp : s.fence.phase = .idle) :
    ResourcesInv s := by
  rw [ResourcesInv, hp]
  exact ⟨h, trivial⟩

/-- The list is executed with all that it was recorded for. -/
theorem closeList_inv (h : Recording s) (hp : s.fence.phase = .recording caller) :
    ResourcesInv { s.follows (.answer hr) with fence := s.fence.closeList caller hr } := by
  obtain ⟨w, hw, hrec⟩ := h.recorded
  have hfollows : s.follows (.answer hr) =
      if hresultFailed hr then { s with doing := none } else s.executes w := by
    rw [D3D12Renderer.follows.eq_def, hp, hw]
  by_cases hf : hresultFailed hr = true
  · rw [hfollows, if_pos hf, D3D12Fence.closeList, if_pos hf]
    refine .of_idle ?_ (submitFails_phase ..)
    exact h.drops.fence (h.life.submitFails caller _)
  · rw [hfollows, if_neg hf, D3D12Fence.closeList, if_neg hf]
    have hlife : Lifetimes s.fence.queues (s.works.set s.fence.works (some w))
        fun id => id = s.fence.works :=
      (h.life.queues h.initialized hrec.uses).mono fun id _ hid => hid.resolve_right fun hn => hn
    refine ⟨hlife.goes _, h.apart, Monitor.accepts_snoc.mpr ⟨h.accepts, hrec.right⟩,
      w, hw, Table.set_same, ?_⟩
    show Settles s.textures (resourceStates.after (s.log ++ [.executed w.commands])) w
    rw [resourceStates.after_snoc]
    exact hrec.settles

theorem Submitting.signal (h : Submitting s (fun id => id = work) work)
    (hp : s.fence.phase = .signalling (.submit caller work)) (hf : hresultFailed hr = false)
    (hlt : s.fence.lastFenceValue + 1 < 2 ^ 64) :
    ResourcesInv { s.follows (.answer hr) with
      fence := s.fence.signal (.submit caller work) hr } := by
  obtain ⟨w, hw, hwork, hset⟩ := h.doing
  have hfollows : s.follows (.answer hr) = s := by
    rw [D3D12Renderer.follows.eq_def, hp, hw]
    exact if_neg (Bool.eq_false_iff.mp hf)
  rw [hfollows, D3D12Fence.signal, if_neg (Bool.eq_false_iff.mp hf), Nat.mod_eq_of_lt hlt]
  refine ⟨?_, h.apart, h.accepts, w, hw, hwork, hset⟩
  exact (h.life.signals _).mono fun id _ hid => ⟨hid, Signals.last_signal _ _ _⟩

/-- The submission is kept, and the records say what it leaves. -/
theorem Submitting.retain
    (h : Submitting s (fun id => id = work ∧ Signals id value s.fence.gpu.queue) work)
    (hp : s.fence.phase = .retaining (.submit caller work) value) :
    ResourcesInv { s.follows .proceed with
      fence := s.fence.retain (.submit caller work) value } := by
  obtain ⟨w, hw, -, hset⟩ := h.doing
  have hfollows : s.follows .proceed = s.settles w := by
    rw [D3D12Renderer.follows.eq_def, hp, hw]
  have hlife : Lifetimes { s.fence with pendingSubmissions := s.fence.pendingSubmissions ++
      [PendingSubmission.mk value (some work)] }.collectCompletedSubmissions s.works
      fun _ => False := h.life.retains
  have hrest : Resting { s.settles w with fence := { s.fence with pendingSubmissions :=
      s.fence.pendingSubmissions ++
        [PendingSubmission.mk value (some work)] }.collectCompletedSubmissions } :=
    ⟨hlife, h.apart.settles _, h.accepts, hset.tracked⟩
  rw [hfollows]
  cases caller with
  | command => exact ⟨hrest.fence (hlife.returns _), trivial⟩
  | readTexture timeoutMs => exact ⟨hrest.fence (hlife.goes _), trivial⟩

end Submission

/-! ## Waiting -/

section Waiting

variable {w : FenceWait} {hr : Int}

/-- A wait that fails leaves nothing of a shutdown's. -/
theorem Resting.waitFails (h : Resting s) {waiter : FenceWaiter} {w : FenceWait}
    (hw : w.waiter = waiter) (ha : Awaited s.fence w) (e : RendererError)
    (ho : ∀ failure, waiter = .shutdown failure → (workBooks s.fence).outstanding = []) :
    ResourcesInv { s with fence := s.fence.waitFails e waiter } := by
  obtain ⟨waiter', value, timeoutMs⟩ := w
  cases hw
  cases waiter' with
  | waitFence => exact ⟨h.fence (h.life.returns _), trivial⟩
  | readTexture work => exact ⟨h.fence (h.life.returns _), trivial⟩
  | idle | leave failure => exact ha.elim
  | shutdown failure =>
    have hnil := ho failure rfl
    exact ⟨h.fence (h.life.closes hnil _), hnil⟩

/-- What was before a value that is reached is done. -/
theorem Resting.none_left (h : Resting s) {value : Nat}
    (ha : ∀ id ∈ (workBooks s.fence).outstanding, Signals id value s.fence.gpu.queue)
    (hv : value ≤ s.fence.gpu.completedValue) : (workBooks s.fence).outstanding = [] := by
  refine List.eq_nil_iff_forall_not_mem.mpr fun id hid => ?_
  exact absurd ((ha id hid).lt h.life.ascends) (Nat.not_lt.mpr hv)

/-- The wait of a shutdown is over when nothing is outstanding. -/
theorem Resting.over (h : Resting s) (ha : Awaited s.fence w)
    (hc : WaitEnds s (.waiting w)) (failure : Option RendererError)
    (hw : w.waiter = .shutdown failure) : (workBooks s.fence).outstanding = [] := by
  obtain ⟨waiter, value, timeoutMs⟩ := w
  cases hw
  exact hc.elim (h.none_left ha) id

theorem Resting.shutdownSignal (h : Resting s) {failure : Option RendererError}
    (hlt : s.fence.lastFenceValue + 1 < 2 ^ 64)
    (ho : hresultFailed hr = true → (workBooks s.fence).outstanding = []) :
    ResourcesInv { s with fence := s.fence.signal (.shutdown failure) hr } := by
  rw [D3D12Fence.signal, Nat.mod_eq_of_lt hlt]
  split
  · rename_i hf
    have hlife : Lifetimes { s.fence with lastFenceValue := s.fence.lastFenceValue + 1 } s.works
        fun _ => False :=
      ⟨h.life.queued, h.life.ascends.later, h.life.started, h.life.fresh, h.life.known, h.life.kept⟩
    exact ⟨h.fence (hlife.closes (ho hf) failure), ho hf⟩
  · refine ⟨h.fence (h.life.signals _), fun id _ => ?_⟩
    exact Signals.last_signal id _ _

theorem Resting.check (h : Resting s) (ha : Awaited s.fence w) :
    ResourcesInv { s with fence := s.fence.check w } := by
  rw [D3D12Fence.check]
  split
  · rename_i hv
    refine ⟨h.fence (h.life.goes _), ?_⟩
    obtain ⟨waiter, value, timeoutMs⟩ := w
    cases waiter with
    | shutdown failure => exact h.none_left ha hv
    | waitFence | readTexture work => trivial
    | idle | leave failure => exact ha
  · exact ⟨h.fence (h.life.goes _), ha⟩

theorem Resting.waitForSingleObject (h : Resting s) (ha : Awaited s.fence w)
    (hc : WaitEnds s (.waiting w)) {r : WaitAnswer} {f : D3D12Fence}
    (hs : s.fence.waitForSingleObject w r = some f) : ResourcesInv { s with fence := f } := by
  have hover := h.over ha hc
  cases r with
  | object =>
    simp only [D3D12Fence.waitForSingleObject] at hs
    split at hs
    · cases hs
      refine ⟨h.fence ⟨h.life.queued, h.life.ascends, h.life.started, h.life.fresh, h.life.known,
        h.life.kept⟩, ?_⟩
      obtain ⟨waiter, value, timeoutMs⟩ := w
      cases waiter with
      | shutdown failure => exact hover failure rfl
      | waitFence | readTexture work => trivial
      | idle | leave failure => exact ha
    · cases hs
  | timeout =>
    simp only [D3D12Fence.waitForSingleObject] at hs
    split at hs
    · cases hs
      exact h.waitFails rfl ha _ hover
    · cases hs
  | failed hr =>
    cases hs
    exact h.waitFails rfl ha _ hover

theorem Resting.waitSucceeds (h : Resting s) (ha : Awaiting s.fence (.collecting w)) :
    ResourcesInv { s with fence := s.fence.waitSucceeds w } := by
  obtain ⟨waiter, value, timeoutMs⟩ := w
  have hlife := h.life.collects.record (e := .waited value) fun _ => rfl
  have hb : (workBooks (s.fence.collectCompletedSubmissions.record (.waited value))) =
      workBooks s.fence := workBooks_record _ _
  cases waiter with
  | waitFence => exact ⟨h.fence (hlife.returns _), trivial⟩
  | readTexture work => exact ⟨h.fence (hlife.goes _), trivial⟩
  | idle | leave failure => exact ha.elim
  | shutdown failure =>
    have ho : (workBooks (s.fence.collectCompletedSubmissions.record (.waited value))).outstanding =
        [] := by
      rw [hb]
      exact ha
    exact ⟨h.fence (hlife.closes ho failure), ho⟩

end Waiting

/-! ## The steps -/

theorem Lifetimes.restarts {f : D3D12Fence} {works : Table RecordedWork}
    (failure : Option RendererError) : Lifetimes (f.release failure) works fun _ => False := by
  have hb : workBooks (f.release failure) = {} := by
    show outstandingWork.after ((f.log ++ [.released]) ++ [.returned _]) = {}
    rw [outstandingWork.after_snoc, outstandingWork.after_snoc]
    rfl
  refine ⟨?_, ⟨List.pairwise_singleton _ _, fun v hv => ?_⟩, ?_, ?_, ?_, ?_⟩
  · rw [hb]
    rfl
  · exact Nat.le_of_eq (List.mem_singleton.mp hv)
  all_goals rw [hb]
  · exact fun _ => rfl
  · exact fun _ h => nomatch h
  · exact fun _ h => nomatch h
  · exact fun _ h => nomatch h

theorem Resting.release (h : Resting s) {failure : Option RendererError}
    (hp : s.fence.phase = .closing failure) :
    ResourcesInv { s.follows .proceed with fence := s.fence.release failure } := by
  have hfollows : s.follows .proceed = s.clears := by
    rw [D3D12Renderer.follows.eq_def, hp]
  rw [hfollows]
  exact ⟨⟨Lifetimes.restarts failure, ⟨fun ht => (nomatch ht), fun ht => (nomatch ht)⟩, h.accepts,
    fun _ _ ht => (nomatch ht)⟩, trivial⟩

/-- In a phase that no submission is in, an answer leaves the records as they are. -/
theorem follows_answer {hr : Int} (h : ∀ caller, s.fence.phase ≠ .recording caller)
    (h' : ∀ caller work, s.fence.phase ≠ .signalling (.submit caller work)) :
    s.follows (.answer hr) = s := by
  rw [D3D12Renderer.follows.eq_def]
  split
  · rename_i hp _ _
    exact absurd hp (h _)
  · rename_i hp _ _
    exact absurd hp (h' _ _)
  · rename_i ha
    cases ha
  · rename_i ha
    cases ha
  · rfl

theorem follows_proceed (h : ∀ caller work value, s.fence.phase ≠ .retaining (.submit caller work) value)
    (h' : ∀ failure, s.fence.phase ≠ .closing failure) : s.follows .proceed = s := by
  rw [D3D12Renderer.follows.eq_def]
  split
  · rename_i ha
    cases ha
  · rename_i ha
    cases ha
  · rename_i hp _ _
    exact absurd hp (h _ _ _)
  · rename_i hp _
    exact absurd hp (h' _)
  · rfl

theorem answer_inv (h : ResourcesInv s) {hr : Int} (hc : SignalsAnswered s hr s.fence.phase)
    {f : D3D12Fence} (hs : d3d12Step s.fence (.answer hr) = some f) :
    ResourcesInv { s.follows (.answer hr) with fence := f } := by
  rw [ResourcesInv] at h
  cases hp : s.fence.phase with
  | recording caller =>
    rw [hp] at h
    simp only [d3d12Step, hp] at hs
    cases hs
    exact closeList_inv h hp
  | signalling k =>
    rw [hp] at h hc
    simp only [d3d12Step, hp] at hs
    cases hs
    cases k with
    | submit caller work => exact h.signal hp hc.2 hc.1
    | shutdown failure =>
      rw [follows_answer (by simp [hp]) (by simp [hp])]
      exact h.1.shutdownSignal hc.1 hc.2
    | present | idle | leave failure => exact h.2.elim
  | registering w =>
    rw [hp] at h hc
    simp only [d3d12Step, hp] at hs
    cases hs
    rw [follows_answer (by simp [hp]) (by simp [hp]), D3D12Fence.setEventOnCompletion]
    split
    · rename_i hf
      obtain ⟨waiter, value, timeoutMs⟩ := w
      refine h.1.waitFails rfl h.2 _ fun failure hw => ?_
      cases hw
      exact hc hf
    · exact ⟨h.1.fence ⟨h.1.life.queued, h.1.life.ascends, h.1.life.started, h.1.life.fresh,
        h.1.life.known, h.1.life.kept⟩, h.2⟩
  | copying work =>
    rw [hp] at h
    simp only [d3d12Step, hp] at hs
    cases hs
    rw [follows_answer (by simp [hp]) (by simp [hp]), D3D12Fence.copy]
    split
    · exact ⟨h.1.fence (h.1.life.returns _), trivial⟩
    · exact ⟨h.1.fence ((h.1.life.record (e := .copied work) fun _ => rfl).returns _), trivial⟩
  | presenting =>
    rw [hp] at h
    exact h.2.elim
  | idle | initializing | retaining k value | checking w | waiting w | collecting w
  | closing failure =>
    simp only [d3d12Step, hp] at hs
    cases hs

theorem proceed_inv (h : ResourcesInv s) {f : D3D12Fence}
    (hs : d3d12Step s.fence .proceed = some f) :
    ResourcesInv { s.follows .proceed with fence := f } := by
  rw [ResourcesInv] at h
  cases hp : s.fence.phase with
  | retaining k value =>
    rw [hp] at h
    simp only [d3d12Step, hp] at hs
    cases hs
    cases k with
    | submit caller work => exact h.retain hp
    | present | idle | leave failure | shutdown failure => exact h.2.elim
  | checking w =>
    rw [hp] at h
    simp only [d3d12Step, hp] at hs
    cases hs
    rw [follows_proceed (by simp [hp]) (by simp [hp])]
    exact h.1.check h.2
  | collecting w =>
    rw [hp] at h
    simp only [d3d12Step, hp] at hs
    cases hs
    rw [follows_proceed (by simp [hp]) (by simp [hp])]
    exact h.1.waitSucceeds h.2
  | closing failure =>
    rw [hp] at h
    simp only [d3d12Step, hp] at hs
    cases hs
    exact h.1.release hp
  | idle | initializing | recording caller | presenting | signalling k | registering w | waiting w
  | copying work =>
    simp only [d3d12Step, hp] at hs
    cases hs

/-- The beginning of the backend's life. -/
theorem initialize_inv (h : ResourcesInv s) {a : D3D12Action} {f : D3D12Fence}
    (ha : (∃ e, a = .refuse e) ∨ (∃ e, a = .abandon e) ∨ ∃ failure, a = .pipeline failure)
    (hr : D3D12Renderer.resumes s.fence.phase a = true) (hs : d3d12Step s.fence a = some f) :
    ResourcesInv { s.follows a with fence := f } := by
  have hfollows : s.follows a = s := by
    obtain ⟨e, rfl⟩ | ⟨e, rfl⟩ | ⟨failure, rfl⟩ := ha <;> exact follows_other (by simp) (by simp)
  rw [ResourcesInv] at h
  obtain ⟨e, rfl⟩ | ⟨e, rfl⟩ | ⟨failure, rfl⟩ := ha
  · have hp : s.fence.phase = .initializing := of_decide_eq_true hr
    rw [hp] at h
    simp only [d3d12Step, hp] at hs
    cases hs
    rw [hfollows]
    exact ⟨h.1.fence (h.1.life.returns _), trivial⟩
  · simp only [d3d12Step] at hs
    split at hs
    · rename_i hp
      rw [hp] at h
      cases hs
      rw [hfollows]
      exact ⟨h.1.fence (h.1.life.closes (h.1.started h.2) _), h.1.started h.2⟩
    · cases hs
  · simp only [d3d12Step] at hs
    split at hs
    · rename_i hp
      rw [hp] at h
      cases hs
      rw [hfollows]
      cases failure with
      | some e => exact ⟨h.1.fence (h.1.life.goes _), trivial⟩
      | none =>
        have hlife : Lifetimes { s.fence with initialized := true } s.works fun _ => False :=
          ⟨h.1.life.queued, h.1.life.ascends, fun hn => Bool.noConfusion hn, h.1.life.fresh,
            h.1.life.known, h.1.life.kept⟩
        exact ⟨h.1.fence (hlife.returns _), trivial⟩
    · cases hs

theorem fence_inv (h : ResourcesInv s) {a : D3D12Action}
    (hc : SubmissionsComplete s (.fence a))
    (hr : D3D12Renderer.resumes s.fence.phase a = true) {f : D3D12Fence}
    (hs : d3d12Step s.fence a = some f) : ResourcesInv { s.follows a with fence := f } := by
  cases a with
  | answer hr => exact answer_inv h hc hs
  | proceed => exact proceed_inv h hs
  | refuse e => exact initialize_inv h (.inl ⟨e, rfl⟩) hr hs
  | abandon e => exact initialize_inv h (.inr (.inl ⟨e, rfl⟩)) hr hs
  | pipeline failure => exact initialize_inv h (.inr (.inr ⟨failure, rfl⟩)) hr hs
  | call c | leaves => cases hr
  | waits r =>
    have hfollows : s.follows (.waits r) = s := follows_other (by simp) (by simp)
    rw [hfollows]
    rw [ResourcesInv] at h
    simp only [d3d12Step] at hs
    split at hs
    · rename_i w hp
      rw [hp] at h
      have hwait : WaitEnds s (.waiting w) := hp ▸ (hc : WaitEnds s s.fence.phase)
      exact h.1.waitForSingleObject h.2 hwait hs
    · cases hs
  | executes =>
    have hfollows : s.follows .executes = s := follows_other (by simp) (by simp)
    rw [hfollows]
    rw [ResourcesInv] at h ⊢
    have hphase : f.phase = s.fence.phase := (executes_frame hs).1
    show InPhase { s with fence := f } f.phase
    rw [hphase]
    exact (proceeds_executes h.queued hs).inPhase h
  | raises value =>
    have hfollows : s.follows (.raises value) = s := follows_other (by simp) (by simp)
    rw [hfollows]
    rw [ResourcesInv] at h ⊢
    have hphase : f.phase = s.fence.phase := by
      obtain ⟨event, registered, rfl⟩ := raises_frame hs
      rfl
    show InPhase { s with fence := f } f.phase
    rw [hphase]
    exact (proceeds_raises hs).inPhase h

theorem resources_step (h : ResourcesInv s) {a : ResourceAction} (hc : SubmissionsComplete s a)
    (hs : d3d12RendererStep s a = some s') : ResourcesInv s' := by
  cases a with
  | call c answers =>
    simp only [d3d12RendererStep] at hs
    split at hs
    · rename_i hp
      rw [ResourcesInv, hp] at h
      exact resourceCall_inv h.1 hp hs
    · cases hs
  | fence a =>
    simp only [d3d12RendererStep] at hs
    split at hs
    · rename_i hr
      obtain ⟨f, hf, rfl⟩ := Option.map_eq_some_iff.mp hs
      exact fence_inv h hc hr hf
    · cases hs

/-! ## The results -/

theorem resources_init : ResourcesInv {} :=
  ⟨⟨⟨rfl, ⟨List.pairwise_singleton _ _, fun _ hv => Nat.le_of_eq (List.mem_singleton.mp hv)⟩,
    fun _ => rfl, fun _ h => (nomatch h), fun _ h => (nomatch h), fun _ h => (nomatch h)⟩,
    ⟨fun ht => (nomatch ht), fun ht => (nomatch ht)⟩, resourceStates.accepts_nil,
    fun _ _ ht => (nomatch ht)⟩, trivial⟩

/-- What a submission holds is held. -/
theorem Lifetimes.keptAlive {K : Nat → Prop} (h : Lifetimes s.fence s.works K)
    (hK : ∀ id, K id → ∃ w, s.doing = some w ∧ s.works id = some w) : KeptAlive s := by
  intro id hid
  obtain ⟨w, hw, huses⟩ := h.known id hid
  refine ⟨w, hw, fun o ho => ?_⟩
  obtain ⟨p, hp, hwork, -⟩ | hk := h.kept id hid
  · exact .pending hp hwork hw (huses ho)
  · obtain ⟨v, hv, hvw⟩ := hK id hk
    cases Option.some.inj (hw.symm.trans hvw)
    exact .doing hv (huses ho)

theorem Resting.keeps (h : Resting s) :
    KeptAlive s ∧ resourceStates.Accepts s.log ∧ StatesTracked s :=
  ⟨h.life.keptAlive fun _ hn => hn.elim, h.accepts, fun _ => h.tracked⟩

theorem Submitting.keeps {K : Nat → Prop} {work : Nat} (h : Submitting s K work)
    (hK : ∀ id, K id → id = work) (hp : ¬Settled s.fence.phase) :
    KeptAlive s ∧ resourceStates.Accepts s.log ∧ StatesTracked s := by
  refine ⟨h.life.keptAlive fun id hid => ?_, h.accepts, fun hs => absurd hs hp⟩
  obtain ⟨w, hw, hwork, -⟩ := h.doing
  exact ⟨w, hw, hK id hid ▸ hwork⟩

theorem ResourcesInv.keeps (h : ResourcesInv s) :
    KeptAlive s ∧ resourceStates.Accepts s.log ∧ StatesTracked s := by
  rw [ResourcesInv] at h
  cases hp : s.fence.phase with
  | recording caller =>
    rw [hp] at h
    exact h.toResting.keeps
  | signalling k =>
    rw [hp] at h
    cases k with
    | submit caller work => exact h.keeps (fun _ hid => hid) (hp ▸ id)
    | present | idle | leave failure | shutdown failure => exact h.1.keeps
  | retaining k value =>
    rw [hp] at h
    cases k with
    | submit caller work => exact h.keeps (fun _ hid => hid.1) (hp ▸ id)
    | present | idle | leave failure | shutdown failure => exact h.1.keeps
  | idle | initializing | presenting | checking w | registering w | waiting w | collecting w
  | copying work | closing failure =>
    rw [hp] at h
    exact h.1.keeps

/-- While the signals are answered, what an outstanding list uses is held, the barriers are right
and the records say what state the textures are in. -/
theorem submissions_complete {as : List ResourceAction}
    (hc : Along d3d12RendererStep SubmissionsComplete {} as)
    (hr : run d3d12RendererStep {} as = some s) :
    KeptAlive s ∧ resourceStates.Accepts s.log ∧ StatesTracked s :=
  (run_invariant_along (fun _ _ _ h hc hs => resources_step h hc hs) resources_init hc hr).keeps

def uploadedTexture : TextureDescription :=
  { extent := ⟨1, 1⟩, format := .rgba8Unorm
    usage := { sampled := true, transferDestination := true } }

/-- A texture is created and written to; the upload is executed, and signalled with this answer. -/
def uploadActs (signalled : Int) : List ResourceAction :=
  [.call (.initializeWith 1) [], .fence (.pipeline none), .call (.createTexture uploadedTexture) [],
    .call (.uploadTexture ⟨1, 1⟩ ⟨⟨⟨1, 1⟩, .rgba8Unorm, 0⟩, 4⟩) [],
    .fence (.answer 0), .fence (.answer signalled), .fence .proceed]

theorem submissions_complete_upload :
    ∃ s, run d3d12RendererStep {} (uploadActs 0) = some s ∧ outstanding s = [0] ∧
      KeptAlive s ∧ resourceStates.Accepts s.log ∧ StatesTracked s := by
  have hc : Along d3d12RendererStep SubmissionsComplete {} (uploadActs 0) := by decide
  have ho : (run d3d12RendererStep {} (uploadActs 0)).map outstanding = some [0] := by decide
  obtain ⟨s, hs, ho⟩ := Option.map_eq_some_iff.mp ho
  exact ⟨s, hs, ho, submissions_complete hc hs⟩

/-- What is left when the signal of an upload fails. -/
theorem unsignalled_upload : ∃ s, run d3d12RendererStep {} ((uploadActs (-1)).take 6) = some s ∧
    s.fence.phase = .idle ∧ outstanding s = [0] ∧
    (s.works 0).map RecordedWork.uses = some [3, 4, 0, 0, 2, 0] ∧
    s.textures = (∅ : Table D3D12TextureRecord).set 1
      (some ⟨0, none, some 1, uploadedTexture, .common, 0⟩) ∧
    s.meshes = ∅ ∧ s.fence.pendingSubmissions = [] ∧ s.doing = none ∧
    resourceStates.after s.log 0 = .pixelShaderResource :=
  ⟨_, rfl, rfl, by decide, by decide, rfl, rfl, rfl, rfl, by decide⟩

/-- The list is executed and its signal fails: its allocator is released while it is outstanding,
and the record of the texture does not say what state it is in. -/
theorem submissions_complete_broken : ∃ as s, run d3d12RendererStep {} as = some s ∧
    s.fence.phase = .idle ∧ ¬KeptAlive s ∧ ¬StatesTracked s := by
  obtain ⟨s, hs, hp, ho, hw, ht, hm, hpend, hdoing, hreal⟩ := unsignalled_upload
  refine ⟨_, s, hs, hp, fun h => ?_, fun h => ?_⟩
  · obtain ⟨w, hw', hkept⟩ := h 0 (by rw [ho]; exact List.mem_singleton_self 0)
    rw [hw', Option.map_some, Option.some.injEq] at hw
    cases hkept 3 (by rw [hw]; exact List.mem_cons_self) with
    | texture hti hobj =>
      rw [ht] at hti
      obtain ⟨-, ⟨⟩⟩ | ⟨-, hti⟩ := Table.set_cases hti
      · exact absurd hobj (by decide)
      · exact nomatch hti
    | mesh hmi hobj =>
      rw [hm] at hmi
      exact nomatch hmi
    | pending hpi hid hwi hobj =>
      rw [hpend] at hpi
      exact nomatch hpi
    | doing hwi hobj =>
      rw [hdoing] at hwi
      exact nomatch hwi
  · have hone : s.textures 1 = some ⟨0, none, some 1, uploadedTexture, .common, 0⟩ := by
      rw [ht, Table.set_same]
    have htracked := h (by rw [hp]; trivial) 1 _ hone
    rw [hreal] at htracked
    exact nomatch htracked

end WSE.Proof.Oui
