import WapitiStew.Spec.Oui.ProjectionExecution

/-!
# Executions of projections own their temporaries

`ScopeLeft` is what holds when the scope of the temporaries is left, with a value or an exception:
what the calls gave out was handed back, or is still held and then is released (`release_eq`).
-/

namespace WSE.Proof.Oui

open WSE.Framework WSE.Impl.Oui WSE.Spec.Oui

variable {ε α β : Type}

/-! ## Calls -/

section Release

variable (r : Renderer ε)

/-- The call that hands back a mesh after others. -/
def meshRelease (calls : List (RendererCall ε)) (h : MeshHandle) : List (RendererCall ε) :=
  if h.valid then [.destroyMesh h (r.destroyMesh calls h)] else []

def textureRelease (calls : List (RendererCall ε)) (h : TextureHandle) : List (RendererCall ε) :=
  if h.valid then [.destroyTexture h (r.destroyTexture calls h)] else []

/-- The calls of `release` from a state. -/
def releases (s : Execution ε) : List (RendererCall ε) :=
  meshRelease r s.calls s.mesh ++
    textureRelease r (s.calls ++ meshRelease r s.calls s.mesh) s.texture

variable {r}

/-- What `release` makes of what its two calls gave. -/
def released : Except ε RendererStatus → Except ε RendererStatus → Except ε RendererStatus
  | .error e, _ => .error e
  | .ok _, .error e => .error e
  | .ok meshStatus, .ok textureStatus =>
    .ok (if meshStatus.isOk then textureStatus else meshStatus)

end Release

/-! ## What the calls say -/

section Calls

variable (l m : List (RendererCall ε))

theorem createdTextures_append :
    createdTextures (l ++ m) = createdTextures l ++ createdTextures m := List.filterMap_append

theorem createdMeshes_append : createdMeshes (l ++ m) = createdMeshes l ++ createdMeshes m :=
  List.filterMap_append

theorem destroyedTextures_append :
    destroyedTextures (l ++ m) = destroyedTextures l ++ destroyedTextures m :=
  List.filterMap_append

theorem destroyedMeshes_append :
    destroyedMeshes (l ++ m) = destroyedMeshes l ++ destroyedMeshes m := List.filterMap_append

theorem passes_append : passes (l ++ m) = passes l ++ passes m := List.filterMap_append

theorem destroys_append : destroys (l ++ m) = destroys l ++ destroys m := List.filterMap_append

theorem createdTextures_single (t : TextureDescription) (h : TextureHandle) :
    createdTextures [(.createTexture t (.ok (.ok h)) : RendererCall ε)] =
      if h.valid then [h] else [] := by
  cases hv : h.valid <;> simp [createdTextures, hv]

theorem createdMeshes_single (m : MeshData Single) (h : MeshHandle) :
    createdMeshes [(.createMesh m (.ok (.ok h)) : RendererCall ε)] =
      if h.valid then [h] else [] := by
  cases hv : h.valid <;> simp [createdMeshes, hv]

end Calls

section Releases

variable (r : Renderer ε) (s : Execution ε)

theorem createdTextures_releases : createdTextures (releases r s) = [] := by
  unfold releases meshRelease textureRelease
  split <;> split <;> rfl

theorem createdMeshes_releases : createdMeshes (releases r s) = [] := by
  unfold releases meshRelease textureRelease
  split <;> split <;> rfl

theorem passes_releases : passes (releases r s) = [] := by
  unfold releases meshRelease textureRelease
  split <;> split <;> rfl

theorem destroyedTextures_releases :
    destroyedTextures (releases r s) = if s.texture.valid then [s.texture] else [] := by
  unfold releases meshRelease textureRelease
  split <;> split <;> rfl

theorem destroyedMeshes_releases :
    destroyedMeshes (releases r s) = if s.mesh.valid then [s.mesh] else [] := by
  unfold releases meshRelease textureRelease
  split <;> split <;> rfl

theorem checked_releases (d : ProjectionPassDescription) :
    ∀ c ∈ releases r s, Checked d c := by
  unfold releases meshRelease textureRelease
  refine List.forall_mem_append.mpr ⟨?_, ?_⟩
  · split
    · rename_i h
      exact List.forall_mem_singleton.mpr h
    · exact List.forall_mem_nil _
  · split
    · rename_i h
      exact List.forall_mem_singleton.mpr h
    · exact List.forall_mem_nil _

end Releases

/-! ## What the renderer is given -/

section Passes

variable {d : ProjectionPassDescription}

/-- What an accepted projection has. -/
structure Accepted (d : ProjectionPassDescription) : Prop where
  scale : d.supersampleScale = 1 ∨ d.supersampleScale = 2
  extent : d.supersampleScale = 2 → d.renderArea.extent.empty = false ∧
    d.renderArea.extent.width ≤ (2 ^ 32 - 1) / 2 ∧ d.renderArea.extent.height ≤ (2 ^ 32 - 1) / 2
  pass : (makeProjectionRenderPass d d.colorAttachment d.renderArea d.finalState).validate = .ok ()

theorem accepted (h : d.validate = .ok ()) : Accepted d := by
  rw [ProjectionPassDescription.validate] at h
  obtain ⟨-, h⟩ := unless_ok h rfl
  obtain ⟨-, h⟩ := unless_ok h rfl
  obtain ⟨hscale, h⟩ := unless_ok h rfl
  obtain ⟨hempty, h⟩ := unless_ok h rfl
  obtain ⟨hlarge, h⟩ := unless_ok h rfl
  refine ⟨?_, fun h2 => ⟨?_, ?_⟩, h⟩
  · simp only [Bool.and_eq_true, decide_eq_true_eq] at hscale
    omega
  · simpa [h2] using hempty
  · simp only [h2, decide_true, Bool.true_and, Bool.or_eq_true, decide_eq_true_eq] at hlarge
    omega

/-- The check that an area does not leave its coordinates. -/
theorem area_iff (a : RendererRegion2D) :
    ¬(!a.extent.empty && (a.x > 2 ^ 32 - 1 - a.extent.width ||
      a.y > 2 ^ 32 - 1 - a.extent.height)) = true ↔
    (a.extent.empty = false →
      a.x ≤ 2 ^ 32 - 1 - a.extent.width ∧ a.y ≤ 2 ^ 32 - 1 - a.extent.height) := by
  cases a.extent.empty with
  | true => simp
  | false =>
    simp only [Bool.not_false, Bool.true_and, Bool.or_eq_true, decide_eq_true_eq, forall_const]
    omega

/-- What a pass that is checked has. -/
theorem validate_iff (p : PassDescription) : p.validate = .ok () ↔
    p.colorAttachment.valid = true ∧
    ¬(p.loadOperation = .clear ∧ isNormalizedColor p.clearColor = false) ∧
    p.finalState ≠ .undefined ∧
    (p.renderArea.extent.empty = false →
      p.renderArea.x ≤ 2 ^ 32 - 1 - p.renderArea.extent.width ∧
      p.renderArea.y ≤ 2 ^ 32 - 1 - p.renderArea.extent.height) ∧
    ∀ c ∈ p.drawCommands, c.validate p.colorAttachment = .ok () := by
  rw [← forM_ok]
  constructor
  · intro h
    rw [PassDescription.validate] at h
    obtain ⟨hattachment, h⟩ := unless_ok h rfl
    obtain ⟨hcolor, h⟩ := unless_ok h rfl
    obtain ⟨hstate, h⟩ := unless_ok h rfl
    obtain ⟨harea, h⟩ := unless_ok h rfl
    exact ⟨by simpa using hattachment, by simpa using hcolor, hstate, (area_iff _).mp harea, h⟩
  · rintro ⟨hattachment, hcolor, hstate, harea, h⟩
    have hcolor' : ¬(p.loadOperation = .clear && !isNormalizedColor p.clearColor) = true := by
      simpa using hcolor
    have harea' := (area_iff _).mpr harea
    rw [PassDescription.validate]
    simp only [hattachment, hcolor', hstate, harea', Bool.not_true, Bool.false_eq_true, if_false]
    exact h

/-- What the backends read of a checked pass passes their check. -/
theorem validate_passDescription {p : PassDescription} (h : p.validate = .ok ()) :
    validateRenderPassDescription p.description = .ok () := by
  obtain ⟨hattachment, -, hstate, harea, hdraws⟩ := (validate_iff p).mp h
  have hdraws' : p.description.drawCommands.forM
      (validateDrawCommand p.description.colorAttachment) = .ok () := by
    refine forM_ok.mpr (List.forall_mem_map.mpr fun c hc => ?_)
    have hdraw := hdraws c hc
    rw [DrawCommand.validate] at hdraw
    obtain ⟨_, hdraw, -⟩ := except_bind_ok hdraw
    exact hdraw
  have harea' := (area_iff p.description.renderArea).mpr harea
  have hattachment' : p.description.colorAttachment.valid = true := hattachment
  have hstate' : ¬p.description.finalState = .undefined := hstate
  rw [validateRenderPassDescription]
  simp only [hattachment', hstate', harea', Bool.not_true, Bool.false_eq_true, if_false]
  exact hdraws'

theorem checked_pass {d : ProjectionPassDescription} {p : PassDescription}
    (h : p.validate = .ok ()) (a : Answer ε FenceHandle) : Checked d (.executeRenderPass p a) :=
  ⟨h, validate_passDescription h⟩

section Supersampled

variable (h : Accepted d) (h2 : d.supersampleScale = 2)

include h h2

end Supersampled

end Passes

/-! ## The scope of the temporaries -/

/-- The result is not a fence. -/
def NoFence : EStateM.Result ε (Execution ε) (RendererResult FenceHandle) → Prop
  | .ok (.ok _) _ => False
  | _ => True

/-- The state in which the scope is left. -/
structure ScopeLeft (r : Renderer ε) (d : ProjectionPassDescription)
    (x : EStateM.Result ε (Execution ε) (RendererResult FenceHandle)) : Prop where
  textures : createdTextures (lastState x).calls = destroyedTextures (lastState x).calls ++
    if (lastState x).texture.valid then [(lastState x).texture] else []
  meshes : createdMeshes (lastState x).calls = destroyedMeshes (lastState x).calls ++
    if (lastState x).mesh.valid then [(lastState x).mesh] else []
  oneTexture : (createdTextures (lastState x).calls).length ≤ 1
  oneMesh : (createdMeshes (lastState x).calls).length ≤ 1
  failed : NoFence x → ¬Succeeded d (lastState x).calls
  succeeded : ¬NoFence x → Succeeded d (lastState x).calls ∧ (lastState x).mesh = {} ∧
    (lastState x).texture = {}
  checked : Fresh r d → ∀ c ∈ (lastState x).calls, Checked d c

/-- The state before a call in the scope, when so many passes were answered with a fence. -/
structure Holds (r : Renderer ε) (d : ProjectionPassDescription) (k : Nat) (s : Execution ε) :
    Prop where
  textures : createdTextures s.calls = if s.texture.valid then [s.texture] else []
  meshes : createdMeshes s.calls = if s.mesh.valid then [s.mesh] else []
  destroyedTextures : destroyedTextures s.calls = []
  destroyedMeshes : destroyedMeshes s.calls = []
  destroys : destroys s.calls = []
  count : (passes s.calls).length = k
  passes : ∀ a ∈ passes s.calls, ∃ fence, a = .ok (.ok fence)
  checked : Fresh r d → ∀ c ∈ s.calls, Checked d c

theorem length_ite_le {p : Prop} [Decidable p] (a : α) :
    (if p then [a] else []).length ≤ 1 := by
  split
  · exact Nat.le_refl _
  · exact Nat.zero_le _

section Scope

variable {r : Renderer ε} {d : ProjectionPassDescription} {s : Execution ε} {k : Nat}
  {x : EStateM.Result ε (Execution ε) (RendererResult FenceHandle)} {c : RendererCall ε}

/-- A call that gives nothing out. -/
structure Plain (c : RendererCall ε) : Prop where
  createdTextures : createdTextures [c] = []
  createdMeshes : createdMeshes [c] = []
  destroyedTextures : destroyedTextures [c] = []
  destroyedMeshes : destroyedMeshes [c] = []

/-- The scope is left because of a call that fails. -/
theorem Holds.leave (hs : Holds r d k s) (hc : Plain c) (hcheck : Fresh r d → Checked d c)
    (hfail : ¬Succeeded d (s.calls ++ [c])) (hn : NoFence x)
    (hx : lastState x = { s with calls := s.calls ++ [c] }) : ScopeLeft r d x where
  textures := by
    rw [hx, createdTextures_append, destroyedTextures_append, hs.textures, hs.destroyedTextures,
      hc.createdTextures, hc.destroyedTextures, List.append_nil]
    rfl
  meshes := by
    rw [hx, createdMeshes_append, destroyedMeshes_append, hs.meshes, hs.destroyedMeshes,
      hc.createdMeshes, hc.destroyedMeshes, List.append_nil]
    rfl
  oneTexture := by
    rw [hx, createdTextures_append, hs.textures, hc.createdTextures, List.append_nil]
    exact length_ite_le _
  oneMesh := by
    rw [hx, createdMeshes_append, hs.meshes, hc.createdMeshes, List.append_nil]
    exact length_ite_le _
  failed := fun _ => by
    rw [hx]
    exact hfail
  succeeded := fun h => absurd hn h
  checked := fun hf => by
    rw [hx]
    exact List.forall_mem_append.mpr ⟨hs.checked hf, List.forall_mem_singleton.mpr (hcheck hf)⟩

/-- A pass that was answered with a fence. -/
theorem Holds.pass (hs : Holds r d k s) {p : PassDescription} (fence : FenceHandle)
    (hp : Fresh r d → p.validate = .ok ()) :
    Holds r d (k + 1)
      { s with calls := s.calls ++ [.executeRenderPass p (.ok (.ok fence))] } where
  textures := by
    rw [createdTextures_append, hs.textures]
    exact List.append_nil _
  meshes := by
    rw [createdMeshes_append, hs.meshes]
    exact List.append_nil _
  destroyedTextures := by
    rw [destroyedTextures_append, hs.destroyedTextures]
    rfl
  destroyedMeshes := by
    rw [destroyedMeshes_append, hs.destroyedMeshes]
    rfl
  destroys := by
    rw [destroys_append, hs.destroys]
    rfl
  count := by
    rw [passes_append, List.length_append, hs.count]
    rfl
  passes := by
    rw [passes_append]
    exact List.forall_mem_append.mpr ⟨hs.passes, List.forall_mem_singleton.mpr ⟨fence, rfl⟩⟩
  checked := fun hf => List.forall_mem_append.mpr ⟨hs.checked hf,
    List.forall_mem_singleton.mpr (checked_pass (hp hf) _)⟩

/-- A texture that is given out is held. -/
theorem Holds.texture (hs : Holds r d k s) (h0 : s.texture = {}) (t : TextureDescription)
    (h : TextureHandle) (ht : ∀ a, Checked d (.createTexture t a : RendererCall ε)) :
    Holds r d k
      { s with calls := s.calls ++ [.createTexture t (.ok (.ok h))], texture := h } where
  textures := by
    rw [createdTextures_append, hs.textures, h0, createdTextures_single]
    rfl
  meshes := by
    rw [createdMeshes_append, hs.meshes]
    exact List.append_nil _
  destroyedTextures := by
    rw [destroyedTextures_append, hs.destroyedTextures]
    rfl
  destroyedMeshes := by
    rw [destroyedMeshes_append, hs.destroyedMeshes]
    rfl
  destroys := by
    rw [destroys_append, hs.destroys]
    rfl
  count := by
    rw [passes_append, List.length_append, hs.count]
    rfl
  passes := by
    rw [passes_append]
    exact List.forall_mem_append.mpr ⟨hs.passes, List.forall_mem_nil _⟩
  checked := fun hf => List.forall_mem_append.mpr ⟨hs.checked hf,
    List.forall_mem_singleton.mpr (ht _)⟩

theorem Holds.mesh (hs : Holds r d k s) (h0 : s.mesh = {}) (m : MeshData Single)
    (h : MeshHandle) (hm : ∀ a, Checked d (.createMesh m a : RendererCall ε)) :
    Holds r d k
      { s with calls := s.calls ++ [.createMesh m (.ok (.ok h))], mesh := h } where
  textures := by
    rw [createdTextures_append, hs.textures]
    exact List.append_nil _
  meshes := by
    rw [createdMeshes_append, hs.meshes, h0, createdMeshes_single]
    rfl
  destroyedTextures := by
    rw [destroyedTextures_append, hs.destroyedTextures]
    rfl
  destroyedMeshes := by
    rw [destroyedMeshes_append, hs.destroyedMeshes]
    rfl
  destroys := by
    rw [destroys_append, hs.destroys]
    rfl
  count := by
    rw [passes_append, List.length_append, hs.count]
    rfl
  passes := by
    rw [passes_append]
    exact List.forall_mem_append.mpr ⟨hs.passes, List.forall_mem_nil _⟩
  checked := fun hf => List.forall_mem_append.mpr ⟨hs.checked hf,
    List.forall_mem_singleton.mpr (hm _)⟩

/-- The scope is left after the temporaries were released. -/
theorem Holds.release (hs : Holds r d 2 s) (h2 : d.supersampleScale = 2)
    (hx : lastState x = ⟨s.calls ++ releases r s, {}, {}⟩)
    (hn : ¬NoFence x ↔ ∀ a ∈ Spec.Oui.destroys (releases r s), a = .ok (.ok ())) :
    ScopeLeft r d x := by
  have hsucceeded : Succeeded d (s.calls ++ releases r s) ↔ ¬NoFence x := by
    rw [hn]
    constructor
    · intro h
      have hdestroys := h.destroys
      rw [destroys_append, hs.destroys] at hdestroys
      exact hdestroys
    · intro h
      refine ⟨?_, ?_, ?_⟩
      · rw [passes_append, passes_releases, List.append_nil, hs.count, h2]
      · rw [passes_append, passes_releases, List.append_nil]
        exact hs.passes
      · rw [destroys_append, hs.destroys]
        exact h
  rw [← hsucceeded] at hn
  refine ⟨?_, ?_, ?_, ?_, ?_, ?_, ?_⟩ <;> rw [hx]
  · rw [createdTextures_append, destroyedTextures_append, hs.textures, hs.destroyedTextures,
      createdTextures_releases, destroyedTextures_releases]
    rfl
  · rw [createdMeshes_append, destroyedMeshes_append, hs.meshes, hs.destroyedMeshes,
      createdMeshes_releases, destroyedMeshes_releases]
    rfl
  · rw [createdTextures_append, hs.textures, createdTextures_releases, List.append_nil]
    exact length_ite_le _
  · rw [createdMeshes_append, hs.meshes, createdMeshes_releases, List.append_nil]
    exact length_ite_le _
  · exact fun hnone hs => hsucceeded.mp hs hnone
  · exact fun h => ⟨hsucceeded.mpr h, rfl, rfl⟩
  · exact fun hf => List.forall_mem_append.mpr ⟨hs.checked hf, checked_releases r s d⟩

end Scope

section Ends

variable {r : Renderer ε} {d : ProjectionPassDescription}

end Ends

end WSE.Proof.Oui
