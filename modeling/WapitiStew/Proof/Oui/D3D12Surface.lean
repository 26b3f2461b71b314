import WapitiStew.Framework.Throwing
import WapitiStew.Spec.Oui.D3D12Surface

/-!
# What the surfaces of the D3D12 backend can do

One statement for each operation that has several ends: the rebuild of the buffers (`Resized`), the
way into display-mode fullscreen (`Entered`) and back (`Left`), and the changes of the window that
need no display mode (`Changed`).
-/

namespace WSE.Proof.Oui

open WSE.Framework WSE.Impl.Oui WSE.Impl.Oui.D3D12Surfaces WSE.Spec.Oui

variable {s t u : D3D12Surfaces} {id : Nat} {sf : D3D12SurfaceRecord} {h : SurfaceHandle}

theorem findSurface_some (hf : s.findSurface h = some sf) :
    h.generation = s.handleGeneration ∧ s.surfaces h.value = some sf := by
  rw [D3D12Surfaces.findSurface] at hf
  split at hf
  · exact nomatch hf
  · exact ⟨not_not.mp ‹_›, hf⟩

theorem modifySurface_eq (hsf : s.surfaces id = some sf)
    (f : D3D12SurfaceRecord → D3D12SurfaceRecord) :
    s.modifySurface id f = s.setSurface id (f sf) := by
  rw [D3D12Surfaces.modifySurface, hsf, Option.map_some, D3D12Surfaces.setSurface]

/-- A change of a display's mode leaves the surfaces. -/
theorem changeDisplaySettings_surfaces (s : D3D12Surfaces) (device : String)
    (mode : NativeDisplayMode) (answer : Int) :
    (s.changeDisplaySettings device mode answer).surfaces = s.surfaces := by
  rw [changeDisplaySettings]
  split <;> rfl

/-! ## The rebuild -/

/-- While its buffers are rebuilt. -/
def stripped (s : D3D12Surfaces) (id : Nat) (sf : D3D12SurfaceRecord) : D3D12Surfaces :=
  (s.eraseTextures sf.textures).setSurface id { sf with textures := [] }

def widened (sf : D3D12SurfaceRecord) (extent : RendererExtent2D) : D3D12SurfaceRecord :=
  { sf with description := { sf.description with extent := extent } }

/-- The ways in which a rebuild ends. -/
inductive Resized (s : D3D12Surfaces) (id : Nat) (sf : D3D12SurfaceRecord)
    (extent : RendererExtent2D) (force : Bool) (a : RebuildAnswers) :
    RendererStatus × D3D12Surfaces → Prop
  | refused (e : RendererError) : Resized s id sf extent force a (.error e, s)
  | fitting (hf : force = false) (he : sf.description.extent = extent) :
      Resized s id sf extent force a (.ok (), s)
  | lost (e : RendererError) : Resized s id sf extent force a (.error e, stripped s id sf)
  | regained (e : RendererError) {old : List SurfaceTextureRecord}
      (ho : sf.textures.mapM s.findTexture = some old) (states : Option (List TextureState)) :
      Resized s id sf extent force a (.error e, (stripped s id sf).acquireBuffers id sf
        sf.description.extent (some sf.textures) states)
  | renewed (hr : Renews sf.description.bufferCount a) (hsc : sf.swapChain = true) :
      Resized s id sf extent force a (.ok (), ((stripped s id sf).acquireBuffers id
        (widened sf extent) extent none none).record
          (.buffers id ((stripped s id sf).freshHandles sf.description.bufferCount)))

theorem rebuild_resized {extent : RendererExtent2D} {force : Bool} {a : RebuildAnswers}
    {old : List SurfaceTextureRecord} (hd : a.descriptorHeap = none) (hi : a.idle = none)
    (ho : sf.textures.mapM s.findTexture = some old) (hsc : sf.swapChain = true)
    (states : List TextureState) :
    Resized s id sf extent force a (s.rebuild id sf extent states a) := by
  rw [rebuild]
  split
  · exact .lost _
  · rename_i hg
    split
    · split
      · exact .lost _
      · exact .regained _ ho _
    · rename_i hrb
      split
      · exact .renewed ⟨hd, hi, hg, hrb, ‹_›⟩ hsc
      · split
        · exact .regained _ ho _
        · exact .lost _

theorem resize_resized (hsf : s.surfaces id = some sf) (extent : RendererExtent2D) (force : Bool)
    (a : RebuildAnswers) :
    Resized s id sf extent force a (s.resizeWindowSurfaceBuffers id extent force a) := by
  rw [resizeWindowSurfaceBuffers, hsf]
  dsimp only
  split
  · exact .refused _
  · rename_i hsc
    split
    · rename_i hk
      exact .fitting hk.1 hk.2
    · split
      · exact .refused _
      · exact .refused _
      · exact .refused _
      · rename_i hd hi ho
        exact rebuild_resized hd hi ho (Bool.not_eq_false _ ▸ hsc) _

/-! ## Into display-mode fullscreen and back -/

/-- The ways in which `applyMode` ends. -/
inductive Entered (s : D3D12Surfaces) (id : Nat) (sf : D3D12SurfaceRecord)
    (request : SurfaceWindowModeRequest) (a : TransitionAnswers) :
    RendererStatus × D3D12Surfaces → Prop
  | refused (e : RendererError) : Entered s id sf request a (.error e, s)
  | misplaced (e : RendererError) (device : String) (native : NativeDisplayMode) :
      Entered s id sf request a (.error e, (s.changeDisplaySettings device native a.modeChange)
        |>.changeDisplaySettings device (s.displays device) a.modeRollback)
  | unbuilt (e e' : RendererError) (device : String) (native : NativeDisplayMode)
      {u : D3D12Surfaces} (hu : Resized (s.changeDisplaySettings device native a.modeChange) id sf
        request.displayMode.extent true a.rebuild (.error e, u)) :
      Entered s id sf request a
        (.error e', u.changeDisplaySettings device (s.displays device) a.modeRollback)
  | entered (target : DisplayTarget) (native : NativeDisplayMode) {u : D3D12Surfaces}
      (hw : sf.windowMode = .windowed) (hsc : sf.swapChain = true)
      (hu : Resized (s.changeDisplaySettings target.deviceName native a.modeChange) id sf
        request.displayMode.extent true a.rebuild (.ok (), u)) :
      Entered s id sf request a (.ok (), u.modifySurface id fun now =>
        now.inDisplayMode sf.description.extent request target (s.displays target.deviceName))

theorem checkEnter_ok {request : SurfaceWindowModeRequest} {a : TransitionAnswers}
    {p : DisplayTarget × NativeDisplayMode} (hc : checkEnter sf request a = .ok p) :
    sf.windowMode = .windowed ∧ sf.swapChain = true := by
  obtain ⟨hsc, hc⟩ := unless_ok hc rfl
  obtain ⟨hw, hc⟩ := unless_ok hc rfl
  exact ⟨not_not.mp hw, Bool.not_eq_false _ ▸ hsc⟩

theorem applyMode_entered (hsf : s.surfaces id = some sf) {request : SurfaceWindowModeRequest}
    {a : TransitionAnswers} (target : DisplayTarget) (native : NativeDisplayMode)
    (hw : sf.windowMode = .windowed) (hsc : sf.swapChain = true) :
    Entered s id sf request a (s.applyMode id sf request target native a) := by
  rw [applyMode]
  split
  · exact .refused _
  · split
    · exact .misplaced _ _ _
    · have hres := resize_resized ((changeDisplaySettings_surfaces s target.deviceName native
        a.modeChange).symm ▸ hsf) request.displayMode.extent true a.rebuild
      split
      · rename_i hx
        rw [hx] at hres
        exact .unbuilt _ _ _ _ hres
      · rename_i hx
        rw [hx] at hres
        exact .entered target native hw hsc hres

theorem enterDisplayModeFullscreen_entered (hsf : s.surfaces id = some sf)
    (request : SurfaceWindowModeRequest) (a : TransitionAnswers) :
    Entered s id sf request a (s.enterDisplayModeFullscreen id sf request a) := by
  rw [enterDisplayModeFullscreen]
  split
  · exact .refused _
  · rename_i hc
    obtain ⟨hw, hsc⟩ := checkEnter_ok hc
    exact applyMode_entered hsf _ _ hw hsc

/-- The display is put back into the mode that the surface found. -/
def modePutBack (s : D3D12Surfaces) (sf : D3D12SurfaceRecord) (a : TransitionAnswers) :
    D3D12Surfaces :=
  s.changeDisplaySettings sf.displayDeviceName sf.restoreNativeDisplayMode a.modeChange

theorem modePutBack_surfaces (s : D3D12Surfaces) (sf : D3D12SurfaceRecord) (a : TransitionAnswers) :
    (modePutBack s sf a).surfaces = s.surfaces := changeDisplaySettings_surfaces _ _ _ _

/-- What a surface in display-mode fullscreen has to have for it to leave. -/
def Restorable (sf : D3D12SurfaceRecord) : Prop :=
  sf.swapChain = true ∧ sf.hasWindowedState = true ∧ sf.hasNativeDisplayMode = true ∧
    sf.displayDeviceName ≠ ""

/-- The ways in which a leave ends. -/
inductive Left (s : D3D12Surfaces) (id : Nat) (sf : D3D12SurfaceRecord) (a : TransitionAnswers) :
    RendererStatus × D3D12Surfaces → Prop
  | refused (e : RendererError)
      (hr : Restorable sf → sf.windowMode = .displayModeFullscreen → a.modeChange = 0 →
        a.idle ≠ none) : Left s id sf a (.error e, s)
  | misplaced (e : RendererError) (hi : a.idle = none) :
      Left s id sf a (.error e, modePutBack s sf a)
  | unbuilt (e : RendererError) {u : D3D12Surfaces} (hi : a.idle = none)
      (hu : Resized (modePutBack s sf a) id sf sf.windowedExtent true a.rebuild (.error e, u)) :
      Left s id sf a (.error e, u)
  | unverified (e : RendererError) {u : D3D12Surfaces} (hi : a.idle = none)
      (hu : Resized (modePutBack s sf a) id sf sf.windowedExtent true a.rebuild (.ok (), u))
      (hv : verifyDisplay sf a = .error e) : Left s id sf a (.error e, u)
  | left {u : D3D12Surfaces} (hi : a.idle = none) (hp : a.placement = none)
      (hu : Resized (modePutBack s sf a) id sf sf.windowedExtent true a.rebuild (.ok (), u))
      (hv : verifyDisplay sf a = .ok ()) :
      Left s id sf a (.ok (), u.modifySurface id D3D12SurfaceRecord.windowed)

theorem modeError_none {message : String} {answer : Int} :
    modeError message answer = none ↔ answer = 0 := by
  rw [modeError]
  split
  · exact iff_of_true rfl ‹_›
  · exact iff_of_false nofun ‹_›

theorem leaveDisplayModeFullscreen_left (hsf : s.surfaces id = some sf) (a : TransitionAnswers) :
    Left s id sf a (s.leaveDisplayModeFullscreen id sf a) := by
  rw [leaveDisplayModeFullscreen]
  split
  · rename_i hc
    refine .refused _ fun hr hw _ => ?_
    obtain ⟨hsc, hws, hnm, hdn⟩ := hr
    rw [hsc, hws, hnm] at hc
    simp [hw, hdn] at hc
  · split
    · rename_i hi
      exact .refused _ fun _ _ _ => by rw [hi]; exact nofun
    · rename_i hi
      split
      · rename_i hm
        refine .refused _ fun _ _ h0 => ?_
        rw [modeError_none.mpr h0] at hm
        exact nomatch hm
      · have hres := resize_resized ((modePutBack_surfaces s sf a).symm ▸ hsf) sf.windowedExtent
          true a.rebuild
        dsimp only
        split
        · exact .misplaced _ hi
        · rename_i hp
          split
          · rename_i hx
            rw [modePutBack, hx] at hres
            exact .unbuilt _ hi hres
          · rename_i hx
            rw [modePutBack, hx] at hres
            split
            · exact .unverified _ hi hres ‹_›
            · exact .left hi hp hres ‹_›

/-! ## Other changes -/

/-- A change of the record that is none of the buffers and none into display-mode fullscreen. -/
structure Mild (f : D3D12SurfaceRecord → D3D12SurfaceRecord) : Prop where
  description : ∀ now, (f now).description = now.description
  textures : ∀ now, (f now).textures = now.textures
  windowMode : ∀ now : D3D12SurfaceRecord, now.windowMode ≠ .displayModeFullscreen →
    (f now).windowMode ≠ .displayModeFullscreen

theorem mild_settled : Mild D3D12SurfaceRecord.settled := ⟨fun _ => rfl, fun _ => rfl, fun _ h => h⟩

theorem mild_unbordered : Mild D3D12SurfaceRecord.unbordered :=
  ⟨fun _ => rfl, fun _ => rfl, fun _ _ => nofun⟩

theorem mild_borderless (extent : RendererExtent2D) (displayId : String) :
    Mild fun now => now.borderless extent displayId :=
  ⟨fun _ => rfl, fun _ => rfl, fun _ _ => nofun⟩

/-- The ways in which a change without a display mode ends. -/
inductive Changed (s : D3D12Surfaces) (id : Nat) (sf : D3D12SurfaceRecord) (a : TransitionAnswers) :
    RendererStatus × D3D12Surfaces → Prop
  | refused (e : RendererError) : Changed s id sf a (.error e, s)
  | unbuilt (e e' : RendererError) {u : D3D12Surfaces} {extent : RendererExtent2D}
      (hu : Resized s id sf extent false a.rebuild (.error e, u)) : Changed s id sf a (.error e', u)
  | changed {u : D3D12Surfaces} {extent : RendererExtent2D}
      {f : D3D12SurfaceRecord → D3D12SurfaceRecord} (hf : Mild f)
      (hu : Resized s id sf extent false a.rebuild (.ok (), u)) :
      Changed s id sf a (.ok (), u.modifySurface id f)

theorem enterBorderless_changed (hsf : s.surfaces id = some sf) (request : SurfaceWindowModeRequest)
    (a : TransitionAnswers) : Changed s id sf a (s.enterBorderless id sf request a) := by
  rw [enterBorderless]
  split
  · exact .refused _
  · split
    · exact .refused _
    · rename_i display _
      split
      · exact .refused _
      · dsimp only
        split
        · exact .refused _
        · exact .refused _
        · have hres := resize_resized hsf display.desktopExtent false a.rebuild
          split
          · rename_i hx
            rw [hx] at hres
            exact .unbuilt _ _ hres
          · rename_i hx
            rw [hx] at hres
            exact .changed (mild_borderless _ _) hres

theorem restoreWindowed_changed (hsf : s.surfaces id = some sf) (a : TransitionAnswers) :
    Changed s id sf a (s.restoreWindowed id sf a) := by
  rw [restoreWindowed]
  split
  · exact .refused _
  · split
    · exact .refused _
    · have hres := resize_resized hsf sf.windowedExtent false a.rebuild
      split
      · rename_i hx
        rw [hx] at hres
        exact .unbuilt _ _ hres
      · rename_i hx
        rw [hx] at hres
        exact .changed mild_unbordered hres

/-- The ways in which a call that changes a surface ends. -/
inductive Transitioned (s : D3D12Surfaces) (h : SurfaceHandle) (request : SurfaceWindowModeRequest)
    (a : TransitionAnswers) : RendererStatus × D3D12Surfaces → Prop
  | refused (e : RendererError) : Transitioned s h request a (.error e, s)
  | kept : Transitioned s h request a (.ok (), s)
  | enters {sf : D3D12SurfaceRecord} {r : RendererStatus × D3D12Surfaces}
      (hf : s.findSurface h = some sf) (hm : request.mode = .displayModeFullscreen)
      (hr : Entered s h.value sf request a r) : Transitioned s h request a r
  | leaves {sf : D3D12SurfaceRecord} {r : RendererStatus × D3D12Surfaces}
      (hf : s.findSurface h = some sf) (ht : sf.description.type = .window)
      (hm : request.mode = .windowed) (hw : sf.windowMode = .displayModeFullscreen)
      (hr : Left s h.value sf a r) : Transitioned s h request a r
  | changes {sf : D3D12SurfaceRecord} {r : RendererStatus × D3D12Surfaces}
      (hf : s.findSurface h = some sf) (hm : request.mode ≠ .displayModeFullscreen)
      (hw : sf.windowMode ≠ .displayModeFullscreen) (hr : Changed s h.value sf a r) :
      Transitioned s h request a r

theorem setSurfaceWindowMode_transitioned (s : D3D12Surfaces) (h : SurfaceHandle)
    (request : SurfaceWindowModeRequest) (a : TransitionAnswers) :
    Transitioned s h request a (s.setSurfaceWindowMode h request a) := by
  rw [D3D12Surfaces.setSurfaceWindowMode]
  split
  · exact .refused _
  · rename_i sf hf
    have hsf := (findSurface_some hf).2
    split
    · split
      · exact .kept
      · exact .refused _
    · split
      · exact .refused _
      · rename_i ht
        split
        · exact .kept
        · rw [D3D12Surfaces.changeWindowMode]
          split
          · exact .enters hf ‹_› (enterDisplayModeFullscreen_entered hsf _ _)
          · rename_i hm
            split
            · rename_i hw
              split
              · exact .refused _
              · exact .leaves hf (not_not.mp fun h => ht (.inl h)) (not_not.mp ‹_›) hw
                  (leaveDisplayModeFullscreen_left hsf a)
            · rename_i hw
              split
              · exact .refused _
              · split
                · exact .changes hf hm hw (enterBorderless_changed hsf _ _)
                · exact .changes hf hm hw (restoreWindowed_changed hsf _)

theorem resizeSurface_changed (s : D3D12Surfaces) (h : SurfaceHandle) (extent : RendererExtent2D)
    (a : TransitionAnswers) :
    (∃ r, s.resizeSurface h extent a = (r, s)) ∨ ∃ sf, s.findSurface h = some sf ∧
      sf.windowMode ≠ .displayModeFullscreen ∧
      Changed s h.value sf a (s.resizeSurface h extent a) := by
  rw [D3D12Surfaces.resizeSurface]
  split
  · exact .inl ⟨_, rfl⟩
  · rename_i sf hf
    split
    · exact .inl ⟨_, rfl⟩
    · split
      · exact .inl ⟨_, rfl⟩
      · rename_i hw
        split
        · exact .inl ⟨_, rfl⟩
        · split
          · exact .inl ⟨_, rfl⟩
          · split
            · exact .inl ⟨_, rfl⟩
            · exact .inl ⟨_, rfl⟩
            · have hres := resize_resized (findSurface_some hf).2 extent false a.rebuild
              refine .inr ⟨sf, hf, by rw [not_not.mp hw]; exact nofun, ?_⟩
              split
              · rename_i hx
                rw [hx] at hres
                exact .unbuilt _ _ hres
              · rename_i hx
                rw [hx] at hres
                exact .changed mild_settled hres

end WSE.Proof.Oui
