import WapitiStew.Framework.Transition
import WapitiStew.Proof.Oui.D3D12Surface

/-!
# The display modes come back

The operations as changes of the `loans`: a surface that enters takes its display, one that leaves
puts the mode back and releases it, and all others keep them (`Becomes`). While each leaves in its
turn the original modes are kept, and they are back when nothing is held (`modes_come_back`).
-/

namespace WSE.Proof.Oui

open WSE.Framework WSE.Impl.Oui WSE.Impl.Oui.D3D12Surfaces WSE.Spec.Oui

variable {s t u : D3D12Surfaces} {id : Nat} {sf sf' : D3D12SurfaceRecord} {h : SurfaceHandle}
  {a : TransitionAnswers} {modes : String → NativeDisplayMode}

/-! ## One record is set -/

/-- Apart from textures and displays, the record is what changes. -/
structure SetsOne (s t : D3D12Surfaces) (id : Nat) (sf : D3D12SurfaceRecord) : Prop where
  initialized : t.initialized = s.initialized
  generation : t.handleGeneration = s.handleGeneration
  closing : t.closing = s.closing
  next : s.nextResourceId ≤ t.nextResourceId
  surfaces : t.surfaces = s.surfaces.set id (some sf)

namespace SetsOne

theorem refl (hsf : s.surfaces id = some sf) : SetsOne s s id sf :=
  ⟨rfl, rfl, rfl, Nat.le_refl _, (Table.set_self hsf).symm⟩

theorem same (h : SetsOne s t id sf) : t.surfaces id = some sf := by
  rw [h.surfaces, Table.set_same]

theorem trans (h : SetsOne s t id sf) (h' : SetsOne t u id sf') : SetsOne s u id sf' where
  initialized := h'.initialized.trans h.initialized
  generation := h'.generation.trans h.generation
  closing := h'.closing.trans h.closing
  next := h.next.trans h'.next
  surfaces := by
    rw [h'.surfaces, h.surfaces]
    funext j
    by_cases hj : j = id
    · rw [hj, Table.set_same, Table.set_same]
    · rw [Table.set_ne hj, Table.set_ne hj, Table.set_ne hj]

theorem setSurface (s : D3D12Surfaces) (id : Nat) (sf : D3D12SurfaceRecord) :
    SetsOne s (s.setSurface id sf) id sf := ⟨rfl, rfl, rfl, Nat.le_refl _, rfl⟩

theorem modify (h : SetsOne s t id sf) (f : D3D12SurfaceRecord → D3D12SurfaceRecord) :
    SetsOne s (t.modifySurface id f) id (f sf) := by
  rw [modifySurface_eq h.same]
  exact h.trans (setSurface t id (f sf))

theorem displays (hsf : s.surfaces id = some sf) (device : String) (mode : NativeDisplayMode)
    (answer : Int) : SetsOne s (s.changeDisplaySettings device mode answer) id sf := by
  rw [changeDisplaySettings]
  split
  · exact ⟨rfl, rfl, rfl, Nat.le_refl _, (Table.set_self hsf).symm⟩
  · exact refl hsf

theorem acquire (s : D3D12Surfaces) (id : Nat) (sf : D3D12SurfaceRecord) (extent : RendererExtent2D)
    (reused : Option (List TextureHandle)) (states : Option (List TextureState)) :
    ∃ hs, SetsOne s (s.acquireBuffers id sf extent reused states) id
      { sf with textures := hs } := by
  refine ⟨_, rfl, rfl, rfl, ?_, rfl⟩
  rw [acquireBuffers]
  dsimp only
  split
  · exact Nat.le_refl _
  · exact Nat.le_add_right _ _

end SetsOne

theorem stripped_sets (s : D3D12Surfaces) (id : Nat) (sf : D3D12SurfaceRecord) :
    SetsOne s (stripped s id sf) id { sf with textures := [] } :=
  ⟨rfl, rfl, rfl, Nat.le_refl _, rfl⟩

/-- A rebuild changes what a surface says of its buffers. -/
theorem Resized.sets {extent : RendererExtent2D} {force : Bool} {a : RebuildAnswers}
    {r : RendererStatus × D3D12Surfaces} (h : Resized s id sf extent force a r)
    (hsf : s.surfaces id = some sf) : r.2.displays = s.displays ∧
      ∃ d hs, SetsOne s r.2 id { sf with description := d, textures := hs } := by
  cases h with
  | refused e => exact ⟨rfl, sf.description, sf.textures, .refl hsf⟩
  | fitting _ _ => exact ⟨rfl, sf.description, sf.textures, .refl hsf⟩
  | lost e => exact ⟨rfl, sf.description, [], stripped_sets s id sf⟩
  | regained e _ states =>
    obtain ⟨hs, hset⟩ := SetsOne.acquire (stripped s id sf) id sf sf.description.extent
      (some sf.textures) states
    exact ⟨rfl, sf.description, hs, (stripped_sets s id sf).trans hset⟩
  | renewed _ _ =>
    obtain ⟨hs, hset⟩ := SetsOne.acquire (stripped s id sf) id (widened sf extent) extent none none
    refine ⟨rfl, (widened sf extent).description, hs,
      (stripped_sets s id sf).trans (hset.trans ?_)⟩
    exact ⟨rfl, rfl, rfl, Nat.le_refl _, (Table.set_self hset.same).symm⟩

theorem changeDisplaySettings_displays (device : String) (mode : NativeDisplayMode) {answer : Int}
    (h0 : answer = 0) : (s.changeDisplaySettings device mode answer).displays =
      Function.update s.displays device mode := by
  rw [changeDisplaySettings, if_pos h0]

theorem Entered.sets {request : SurfaceWindowModeRequest} {r : RendererStatus × D3D12Surfaces}
    (h : Entered s id sf request a r) (hsf : s.surfaces id = some sf) (ha : CarriesOut a) :
    (r.1.isOk = false ∧ r.2.displays = s.displays ∧
      ∃ d hs, SetsOne s r.2 id { sf with description := d, textures := hs }) ∨
    ∃ target native d hs, r.1 = .ok () ∧ sf.windowMode = .windowed ∧ sf.swapChain = true ∧
      r.2.displays = Function.update s.displays target.deviceName native ∧
      SetsOne s r.2 id
        (D3D12SurfaceRecord.inDisplayMode { sf with description := d, textures := hs }
          sf.description.extent request target (s.displays target.deviceName)) := by
  have hback : ∀ {u : D3D12Surfaces} {device : String} {native : NativeDisplayMode},
      u.displays = (s.changeDisplaySettings device native a.modeChange).displays →
      (u.changeDisplaySettings device (s.displays device) a.modeRollback).displays =
        s.displays := by
    intro u device native hu
    rw [changeDisplaySettings_displays _ _ ha.2, hu, changeDisplaySettings_displays _ _ ha.1,
      Function.update_idem, Function.update_eq_self]
  cases h with
  | refused e => exact .inl ⟨rfl, rfl, sf.description, sf.textures, .refl hsf⟩
  | misplaced e device native =>
    have hset := SetsOne.displays hsf device native a.modeChange
    exact .inl ⟨rfl, hback rfl, sf.description, sf.textures, hset.trans (.displays hset.same _ _ _)⟩
  | unbuilt e e' device native hu =>
    have hset := SetsOne.displays hsf device native a.modeChange
    obtain ⟨hd, d, hs, hres⟩ := hu.sets hset.same
    exact .inl ⟨rfl, hback hd, d, hs, hset.trans (hres.trans (.displays hres.same _ _ _))⟩
  | entered target native hw hsc hu =>
    have hset := SetsOne.displays hsf target.deviceName native a.modeChange
    obtain ⟨hd, d, hs, hres⟩ := hu.sets hset.same
    exact .inr ⟨target, native, d, hs, rfl, hw, hsc,
      hd.trans (changeDisplaySettings_displays _ _ ha.1), (hset.trans hres).modify _⟩

theorem Left.sets {r : RendererStatus × D3D12Surfaces} (h : Left s id sf a r)
    (hsf : s.surfaces id = some sf) (ha : CarriesOut a) :
    (r.1.isOk = false ∧
      (r.2.displays = s.displays ∧
          (Restorable sf → sf.windowMode = .displayModeFullscreen → a.idle ≠ none) ∨
        r.2.displays =
          Function.update s.displays sf.displayDeviceName sf.restoreNativeDisplayMode) ∧
      ∃ d hs, SetsOne s r.2 id { sf with description := d, textures := hs }) ∨
    ∃ d hs, r.1 = .ok () ∧ Leaves sf a ∧
      r.2.displays = Function.update s.displays sf.displayDeviceName sf.restoreNativeDisplayMode ∧
      SetsOne s r.2 id
        (D3D12SurfaceRecord.windowed { sf with description := d, textures := hs }) := by
  have hset : SetsOne s (modePutBack s sf a) id sf := .displays hsf _ _ _
  have hput : (modePutBack s sf a).displays =
      Function.update s.displays sf.displayDeviceName sf.restoreNativeDisplayMode :=
    changeDisplaySettings_displays _ _ ha.1
  cases h with
  | refused e hr =>
    exact .inl ⟨rfl, .inl ⟨rfl, fun hres hw => hr hres hw ha.1⟩, sf.description, sf.textures,
      .refl hsf⟩
  | misplaced e hi => exact .inl ⟨rfl, .inr hput, sf.description, sf.textures, hset⟩
  | unbuilt e hi hu =>
    obtain ⟨hd, d, hs, hres⟩ := hu.sets hset.same
    exact .inl ⟨rfl, .inr (hd.trans hput), d, hs, hset.trans hres⟩
  | unverified e hi hu hv =>
    obtain ⟨hd, d, hs, hres⟩ := hu.sets hset.same
    exact .inl ⟨rfl, .inr (hd.trans hput), d, hs, hset.trans hres⟩
  | left hi hp hu hv =>
    obtain ⟨hd, d, hs, hres⟩ := hu.sets hset.same
    refine .inr ⟨d, hs, rfl, ⟨hi, hp, ?_, hv⟩, hd.trans hput, (hset.trans hres).modify _⟩
    cases hu with
    | renewed hr _ => exact hr
    | fitting hf _ => exact nomatch hf

theorem Changed.sets {r : RendererStatus × D3D12Surfaces} (h : Changed s id sf a r)
    (hsf : s.surfaces id = some sf) (hw : sf.windowMode ≠ .displayModeFullscreen) :
    r.2.displays = s.displays ∧
      ∃ sf', SetsOne s r.2 id sf' ∧ sf'.windowMode ≠ .displayModeFullscreen := by
  cases h with
  | refused e => exact ⟨rfl, sf, .refl hsf, hw⟩
  | unbuilt e e' hu =>
    obtain ⟨hd, d, hs, hres⟩ := hu.sets hsf
    exact ⟨hd, _, hres, hw⟩
  | changed hf hu =>
    obtain ⟨hd, d, hs, hres⟩ := hu.sets hsf
    exact ⟨hd, _, hres.modify _, hf.windowMode _ hw⟩

theorem Transitioned.sets {request : SurfaceWindowModeRequest} {r : RendererStatus × D3D12Surfaces}
    (htr : Transitioned s h request a r) (ha : CarriesOut a) :
    r.2 = s ∨ ∃ sf', SetsOne s r.2 h.value sf' := by
  cases htr with
  | refused e => exact .inl rfl
  | kept => exact .inl rfl
  | enters hf _ hr =>
    have hends := hr.sets (findSurface_some hf).2 ha
    obtain ⟨-, -, d, hs, hset⟩ | ⟨_, _, d, hs, -, -, -, -, hset⟩ := hends
    · exact .inr ⟨_, hset⟩
    · exact .inr ⟨_, hset⟩
  | leaves hf _ _ _ hr =>
    obtain ⟨-, -, d, hs, hset⟩ | ⟨d, hs, -, -, -, hset⟩ := hr.sets (findSurface_some hf).2 ha
    · exact .inr ⟨_, hset⟩
    · exact .inr ⟨_, hset⟩
  | changes hf _ hw hr =>
    obtain ⟨-, sf', hset, -⟩ := hr.sets (findSurface_some hf).2 hw
    exact .inr ⟨sf', hset⟩

/-! ## The loans -/

theorem restoring_none (hw : sf.windowMode ≠ .displayModeFullscreen) : restoring sf = none :=
  if_neg hw

theorem restoring_some (hw : sf.windowMode = .displayModeFullscreen) :
    restoring sf = some (sf.displayDeviceName, sf.restoreNativeDisplayMode) := if_pos hw

theorem loans_holder (hid : id ∉ s.closing.getD []) (hsf : s.surfaces id = some sf) :
    (loans s).holder id = restoring sf := by
  show (if _ then _ else _) = _
  rw [if_neg hid, hsf, Option.bind_some]

theorem SetsOne.loans (h : SetsOne s t id sf) (hid : id ∉ s.closing.getD []) :
    loans t = ⟨t.displays, Function.update (loans s).holder id (restoring sf)⟩ := by
  refine congrArg (Loans.mk t.displays) (funext fun j => ?_)
  rw [h.closing, h.surfaces]
  by_cases hj : j = id
  · rw [hj, Function.update_self, if_neg hid, Table.set_same, Option.bind_some]
  · rw [Function.update_of_ne hj, Table.set_ne hj]
    rfl

theorem SetsOne.loans_same (h : SetsOne s t id sf') (hid : id ∉ s.closing.getD [])
    (hsf : s.surfaces id = some sf) (hd : t.displays = s.displays)
    (hr : restoring sf' = restoring sf) : WSE.Spec.Oui.loans t = WSE.Spec.Oui.loans s := by
  rw [h.loans hid, hr, ← loans_holder hid hsf, Function.update_eq_self, hd]
  rfl

theorem putBack_loans (hid : id ∉ s.closing.getD []) (hsf : s.surfaces id = some sf)
    (hw : sf.windowMode = .displayModeFullscreen) : (loans s).putBack id =
      ⟨Function.update s.displays sf.displayDeviceName sf.restoreNativeDisplayMode,
        (loans s).holder⟩ :=
  Loans.putBack_held ((loans_holder hid hsf).trans (restoring_some hw))

/-- What a leave does to the loans. -/
theorem Left.repays (hid : id ∉ s.closing.getD []) (hsf : s.surfaces id = some sf)
    (hw : sf.windowMode = .displayModeFullscreen) {r : RendererStatus × D3D12Surfaces}
    (h : Left s id sf a r) (ha : CarriesOut a) :
    (loans r.2 = loans s ∧ (Restorable sf → a.idle ≠ none)) ∨
      loans r.2 = (loans s).putBack id ∨
      Leaves sf a ∧ loans r.2 = ((loans s).putBack id).release id := by
  rw [putBack_loans hid hsf hw]
  obtain ⟨-, hd, d, hs, hset⟩ | ⟨d, hs, -, hl, hd, hset⟩ := h.sets hsf ha
  · obtain ⟨hd, hidle⟩ | hd := hd
    · exact .inl ⟨hset.loans_same hid hsf hd rfl, fun hr => hidle hr hw⟩
    · refine .inr (.inl ?_)
      rw [hset.loans hid, hd]
      show Loans.mk _ (Function.update (loans s).holder id (restoring sf)) = _
      rw [← loans_holder hid hsf, Function.update_eq_self]
  · refine .inr (.inr ⟨hl, ?_⟩)
    rw [hset.loans hid, hd]
    rfl

/-- While the modes can be put back. -/
structure ModesInv (modes : String → NativeDisplayMode) (s : D3D12Surfaces) : Prop where
  kept : (loans s).Kept modes
  ready : ∀ id sf, s.surfaces id = some sf → sf.windowMode = .displayModeFullscreen → Restorable sf
  below : s.surfaces.Below s.nextResourceId
  stopped : s.initialized = false → ∀ id, s.surfaces id = none

namespace ModesInv

theorem started (hi : ModesInv modes s) (hsf : s.surfaces id = some sf) : s.initialized = true :=
  Bool.not_eq_false _ ▸ fun hst => nomatch (hi.stopped hst id).symm.trans hsf

theorem add (hi : ModesInv modes s) (h : SetsOne s t id sf') (hst : s.initialized = true)
    (hlt : id < t.nextResourceId)
    (hr : sf'.windowMode = .displayModeFullscreen → Restorable sf')
    (hk : (loans t).Kept modes) : ModesInv modes t where
  kept := hk
  ready := by
    intro j sfj hj
    rw [h.surfaces] at hj
    obtain ⟨-, he⟩ | ⟨-, hj⟩ := Table.set_cases hj
    · exact Option.some.inj he ▸ hr
    · exact hi.ready j sfj hj
  below := by
    rw [h.surfaces]
    exact (hi.below.mono h.next).set hlt
  stopped hno := nomatch hst.symm.trans (h.initialized.symm.trans hno)

theorem set (hi : ModesInv modes s) (h : SetsOne s t id sf') (hsf : s.surfaces id = some sf)
    (hr : sf'.windowMode = .displayModeFullscreen → Restorable sf')
    (hk : (loans t).Kept modes) : ModesInv modes t :=
  hi.add h (hi.started hsf) ((hi.below.lt hsf).trans_le h.next) hr hk

/-- A change of the record that the display has no part in. -/
theorem set_same (hi : ModesInv modes s) (h : SetsOne s t id sf') (hsf : s.surfaces id = some sf)
    (hid : id ∉ s.closing.getD []) (hd : t.displays = s.displays)
    (hr : restoring sf' = restoring sf)
    (hready : sf'.windowMode = .displayModeFullscreen → Restorable sf') : ModesInv modes t :=
  hi.set h hsf hready (h.loans_same hid hsf hd hr ▸ hi.kept)

theorem entered (hi : ModesInv modes s) (hid : id ∉ s.closing.getD [])
    (hsf : s.surfaces id = some sf) {request : SurfaceWindowModeRequest}
    {r : RendererStatus × D3D12Surfaces} (h : Entered s id sf request a r) (ha : CarriesOut a) :
    ModesInv modes r.2 := by
  obtain ⟨-, hd, d, hs, hset⟩ | ⟨target, native, d, hs, -, hw, hsc, hd, hset⟩ := h.sets hsf ha
  · exact hi.set_same hset hsf hid hd rfl (hi.ready id sf hsf)
  · refine hi.set hset hsf (fun _ => ⟨hsc, rfl, rfl, target.named⟩) ?_
    have hnone : (loans s).holder id = none :=
      (loans_holder hid hsf).trans (restoring_none (by rw [hw]; exact nofun))
    rw [hset.loans hid, hd]
    exact hi.kept.take (d := target.deviceName) (m := native) hnone

theorem left (hi : ModesInv modes s) (hid : id ∉ s.closing.getD [])
    (hsf : s.surfaces id = some sf) (hw : sf.windowMode = .displayModeFullscreen)
    {r : RendererStatus × D3D12Surfaces} (h : Left s id sf a r) (ha : CarriesOut a)
    (ht : Leaves sf a → (loans s).InTurn modes id) : ModesInv modes r.2 := by
  have hk : (loans r.2).Kept modes := by
    obtain ⟨hl, -⟩ | hl | ⟨hleaves, hl⟩ := h.repays hid hsf hw ha
    · exact hl ▸ hi.kept
    · exact hl ▸ hi.kept.putBack
    · exact hl ▸ hi.kept.leave (ht hleaves)
  obtain ⟨-, -, d, hs, hset⟩ | ⟨d, hs, -, -, -, hset⟩ := h.sets hsf ha
  · exact hi.set hset hsf (hi.ready id sf hsf) hk
  · exact hi.set hset hsf nofun hk

theorem changed (hi : ModesInv modes s) (hid : id ∉ s.closing.getD [])
    (hsf : s.surfaces id = some sf) (hw : sf.windowMode ≠ .displayModeFullscreen)
    {r : RendererStatus × D3D12Surfaces} (h : Changed s id sf a r) : ModesInv modes r.2 := by
  obtain ⟨hd, sf', hset, hw'⟩ := h.sets hsf hw
  refine hi.set_same hset hsf hid hd ?_ fun he => absurd he hw'
  rw [restoring_none hw, restoring_none hw']

theorem transitioned (hi : ModesInv modes s) (hcl : s.closing = none)
    {request : SurfaceWindowModeRequest} {r : RendererStatus × D3D12Surfaces}
    (htr : Transitioned s h request a r) (ha : CarriesOut a)
    (ht : ∀ sf, s.findSurface h = some sf → sf.description.type = .window →
      request.mode = .windowed → Leaves sf a → (loans s).InTurn modes h.value) :
    ModesInv modes r.2 := by
  have hid : h.value ∉ s.closing.getD [] := by rw [hcl]; exact nofun
  cases htr with
  | refused e => exact hi
  | kept => exact hi
  | enters hf _ hr => exact hi.entered hid (findSurface_some hf).2 hr ha
  | leaves hf hty hm hw hr => exact hi.left hid (findSurface_some hf).2 hw hr ha (ht _ hf hty hm)
  | changes hf _ hw hr => exact hi.changed hid (findSurface_some hf).2 hw hr

/-- A surface that is not in display-mode fullscreen goes. -/
theorem discard (hi : ModesInv modes s) (hcl : s.closing = none)
    (hw : ∀ sf, s.surfaces id = some sf → sf.windowMode ≠ .displayModeFullscreen) :
    ModesInv modes (s.discard id) where
  kept := by
    have hl : loans (s.discard id) = loans s := by
      refine congrArg (Loans.mk s.displays) (funext fun j => ?_)
      show (if j ∈ s.closing.getD [] then none else (s.surfaces.set id none j).bind restoring) = _
      rw [hcl, if_neg nofun]
      by_cases hj : j = id
      · rw [hj, Table.set_same]
        cases hsf : s.surfaces id with
        | none => rfl
        | some sf => exact (restoring_none (hw sf hsf)).symm
      · rw [Table.set_ne hj, if_neg nofun]
    rw [hl]
    exact hi.kept
  ready j sfj hj := by
    obtain ⟨-, he⟩ | ⟨-, hj⟩ := Table.set_cases hj
    · exact nomatch he
    · exact hi.ready j sfj hj
  below := hi.below.erase
  stopped hst j := by
    show s.surfaces.set id none j = none
    rw [Table.set_none (hi.stopped hst id)]
    exact hi.stopped hst j

end ModesInv

theorem destroySurface_windowed (hf : s.findSurface h = some sf)
    (hw : sf.windowMode ≠ .displayModeFullscreen) (a : TransitionAnswers) :
    s.destroySurface h a = (.ok (), s.discard h.value) := by
  rw [D3D12Surfaces.destroySurface, hf]
  dsimp only
  rw [if_neg hw]

theorem ModesInv.destroySurface (hi : ModesInv modes s) (hcl : s.closing = none)
    (ha : CarriesOut a)
    (ht : ∀ sf, s.findSurface h = some sf → Leaves sf a → (loans s).InTurn modes h.value) :
    ModesInv modes (s.destroySurface h a).2 := by
  cases hf : s.findSurface h with
  | none =>
    rw [D3D12Surfaces.destroySurface, hf]
    exact hi
  | some sf =>
    have hsf := (findSurface_some hf).2
    by_cases hw : sf.windowMode = .displayModeFullscreen
    · have hl := leaveDisplayModeFullscreen_left hsf a
      have hinv := hi.left (by rw [hcl]; exact nofun) hsf hw hl ha (ht sf hf)
      rw [D3D12Surfaces.destroySurface, hf]
      dsimp only
      rw [if_pos hw]
      split
      · rename_i hx
        rwa [hx] at hinv
      · rename_i hx
        rw [hx] at hinv hl
        obtain ⟨hno, -⟩ | ⟨d, hs, -, -, -, hset⟩ := hl.sets hsf ha
        · exact nomatch hno
        · refine hinv.discard (hset.closing.trans hcl) fun sf' hsf' => ?_
          rw [Option.some.inj (hsf'.symm.trans hset.same)]
          exact nofun
    · rw [destroySurface_windowed hf hw]
      exact hi.discard hcl fun sf' hsf' => Option.some.inj (hsf'.symm.trans hsf) ▸ hw

/-! ## New surfaces -/

/-- The surfaces and the displays are left. -/
structure KeepsSurfaces (s t : D3D12Surfaces) : Prop where
  initialized : t.initialized = s.initialized
  generation : t.handleGeneration = s.handleGeneration
  closing : t.closing = s.closing
  next : s.nextResourceId ≤ t.nextResourceId
  surfaces : t.surfaces = s.surfaces
  displays : t.displays = s.displays

namespace KeepsSurfaces

theorem refl (s : D3D12Surfaces) : KeepsSurfaces s s := ⟨rfl, rfl, rfl, Nat.le_refl _, rfl, rfl⟩

theorem trans (h : KeepsSurfaces s t) (h' : KeepsSurfaces t u) : KeepsSurfaces s u where
  initialized := h'.initialized.trans h.initialized
  generation := h'.generation.trans h.generation
  closing := h'.closing.trans h.closing
  next := h.next.trans h'.next
  surfaces := h'.surfaces.trans h.surfaces
  displays := h'.displays.trans h.displays

theorem sets (h : KeepsSurfaces s t) (h' : SetsOne t u id sf) : SetsOne s u id sf where
  initialized := h'.initialized.trans h.initialized
  generation := h'.generation.trans h.generation
  closing := h'.closing.trans h.closing
  next := h.next.trans h'.next
  surfaces := h.surfaces ▸ h'.surfaces

theorem inv (h : KeepsSurfaces s t) (hi : ModesInv modes s) : ModesInv modes t where
  kept := by
    have hl : loans t = loans s := by
      rw [loans, loans, h.displays, h.closing, h.surfaces]
    exact hl ▸ hi.kept
  ready := h.surfaces ▸ hi.ready
  below := h.surfaces ▸ hi.below.mono h.next
  stopped hno := h.surfaces ▸ hi.stopped (h.initialized.symm.trans hno)

end KeepsSurfaces

theorem createBuffers_keeps (id : Nat) (d : SurfaceDescription) (answers : List NativeFailure)
    (n : Nat) (handles : List TextureHandle) (s : D3D12Surfaces) :
    KeepsSurfaces s (createBuffers id d answers n handles s).2 := by
  induction n generalizing handles s with
  | zero => exact .refl s
  | succ n ih =>
    rw [createBuffers]
    split
    · exact ⟨rfl, rfl, rfl, Nat.le_refl _, rfl, rfl⟩
    · refine .trans ?_ (ih _ _)
      exact ⟨rfl, rfl, rfl, Nat.le_succ _, rfl, rfl⟩

/-- The ways in which a creation ends that changes no display. -/
inductive Created (s : D3D12Surfaces) : RendererResult SurfaceHandle × D3D12Surfaces → Prop
  | refused (e : RendererError) {t : D3D12Surfaces} (hk : KeepsSurfaces s t) :
      Created s (.error e, t)
  | created {id : Nat} {sf : D3D12SurfaceRecord} {t : D3D12Surfaces} (hset : SetsOne s t id sf)
      (hd : t.displays = s.displays) (hw : sf.windowMode ≠ .displayModeFullscreen)
      (hid : s.nextResourceId ≤ id) (hlt : id < t.nextResourceId) :
      Created s (.ok ⟨id, s.handleGeneration⟩, t)

theorem createOffscreenSurface_created (s : D3D12Surfaces) (d : SurfaceDescription)
    (a : CreationAnswers) : Created s (s.createOffscreenSurface d a) := by
  rw [D3D12Surfaces.createOffscreenSurface]
  split
  · exact .refused _ (.refl s)
  · exact .created ⟨rfl, rfl, rfl, Nat.le_add_right _ 2, rfl⟩ rfl nofun (Nat.le_succ _)
      (Nat.lt_succ_self _)

theorem createWindowSurface_created (s : D3D12Surfaces) (d : SurfaceDescription)
    (a : CreationAnswers) : Created s (s.createWindowSurface d a) := by
  rw [D3D12Surfaces.createWindowSurface]
  split
  · exact .refused _ (.refl s)
  · have hone : KeepsSurfaces s { s with nextResourceId := s.nextResourceId + 1 } :=
      ⟨rfl, rfl, rfl, Nat.le_succ _, rfl, rfl⟩
    have hk := createBuffers_keeps s.nextResourceId d a.getBuffer d.bufferCount []
      { s with nextResourceId := s.nextResourceId + 1 }
    dsimp only
    split
    · rename_i hx
      rw [hx] at hk
      exact .refused _ (hone.trans hk)
    · rename_i t hx
      rw [hx] at hk
      rw [hk.generation]
      exact .created (hone.trans hk |>.sets ⟨rfl, rfl, rfl, Nat.le_refl _, rfl⟩) hk.displays nofun
        (Nat.le_refl _) hk.next

theorem Created.inv {r : RendererResult SurfaceHandle × D3D12Surfaces} (h : Created s r)
    (hi : ModesInv modes s) (hcl : s.closing = none) (hst : s.initialized = true) :
    ModesInv modes r.2 := by
  cases h with
  | refused e hk => exact hk.inv hi
  | @created id sf t hset hd hw hid hlt =>
    refine hi.add hset hst hlt (fun he => absurd he hw) ?_
    have hl : loans t = loans s := by
      rw [hset.loans (by rw [hcl]; exact nofun), restoring_none hw, hd]
      have hnone : (loans s).holder id = none := by
        show (if _ then _ else (s.surfaces id).bind restoring) = none
        rw [hi.below id hid, Option.bind_none, ite_self]
      rw [← hnone, Function.update_eq_self]
      rfl
    exact hl ▸ hi.kept

/-- The window that a failed entry leaves is taken away again. -/
theorem discard_keeps (hi : ModesInv modes s) (hset : SetsOne s t id sf)
    (hd : t.displays = s.displays) (hid : s.nextResourceId ≤ id) :
    KeepsSurfaces s (t.discard id) where
  initialized := hset.initialized
  generation := hset.generation
  closing := hset.closing
  next := hset.next
  surfaces := by
    show t.surfaces.set id none = s.surfaces
    rw [hset.surfaces]
    funext j
    by_cases hj : j = id
    · rw [hj, Table.set_same, hi.below id hid]
    · rw [Table.set_ne hj, Table.set_ne hj]
  displays := hd

theorem createDirectDisplaySurface_keeps (hi : ModesInv modes s) (hcl : s.closing = none)
    (hst : s.initialized = true) (d : SurfaceDescription) {a : CreationAnswers}
    (ha : CarriesOut a.transition) :
    ModesInv modes (s.createDirectDisplaySurface d a).2 ∧
      ((s.createDirectDisplaySurface d a).1.isOk = false →
        KeepsSurfaces s (s.createDirectDisplaySurface d a).2) := by
  rw [D3D12Surfaces.createDirectDisplaySurface]
  split
  · exact ⟨hi, fun _ => .refl s⟩
  · split
    · exact ⟨hi, fun _ => .refl s⟩
    · have hc := createWindowSurface_created s (asWindow d) a
      have hinv := hc.inv hi hcl hst
      split
      · rename_i hx
        rw [hx] at hc hinv
        cases hc with
        | refused _ hk => exact ⟨hinv, fun _ => hk⟩
      · rename_i h t hx
        rw [hx] at hc hinv
        cases hc with
        | @created id sf _ hset hd hw hid hlt =>
        have htr := setSurfaceWindowMode_transitioned t ⟨id, s.handleGeneration⟩
          ⟨.displayModeFullscreen, d.displayId, d.displayMode⟩ a.transition
        have hinv' := hinv.transitioned (hset.closing.trans hcl) htr ha
          fun _ _ _ hm => by cases hm
        split
        · rename_i e u hy
          rw [hy] at htr hinv'
          -- the window is not in display-mode fullscreen, and there was none before
          have hu : ∃ sf', SetsOne t u id sf' ∧ sf'.windowMode ≠ .displayModeFullscreen ∧
              u.displays = t.displays := by
            cases htr with
            | refused _ => exact ⟨sf, .refl hset.same, hw, rfl⟩
            | enters hf _ hr =>
              have hsf := (findSurface_some hf).2
              cases Option.some.inj (hset.same.symm.trans hsf)
              obtain ⟨-, hdu, _, _, hsu⟩ | ⟨_, _, _, _, hno, -⟩ := hr.sets hsf ha
              · exact ⟨_, hsu, hw, hdu⟩
              · cases hno
            | leaves _ _ hm _ _ => cases hm
            | changes _ hm _ _ => exact absurd rfl hm
          obtain ⟨sf', hsu, hwu, hdu⟩ := hu
          have hfu : u.findSurface ⟨id, s.handleGeneration⟩ = some sf' := by
            rw [findSurface, if_neg (not_not.mpr (hset.generation.symm.trans hsu.generation.symm)),
              hsu.same]
          rw [destroySurface_windowed hfu hwu]
          have hkeeps := discard_keeps hi (hset.trans hsu) (hdu.trans hd) hid
          exact ⟨hkeeps.inv hi, fun _ => hkeeps⟩
        · rename_i u hy
          rw [hy] at hinv'
          refine ⟨?_, fun hno => Bool.noConfusion hno⟩
          have hcu : u.closing = none := by
            obtain he | ⟨sf', hset'⟩ := htr.sets ha
            · rw [hy] at he
              exact (congrArg D3D12Surfaces.closing he).trans (hset.closing.trans hcl)
            · rw [hy] at hset'
              exact hset'.closing.trans (hset.closing.trans hcl)
          cases hsf : u.surfaces id with
          | none =>
            rw [show u.modifySurface id _ = { u with surfaces := u.surfaces.set id none } by
              rw [modifySurface, hsf, Option.map_none], Table.set_none hsf]
            exact hinv'
          | some sf' =>
            rw [modifySurface_eq hsf]
            exact hinv'.set_same (.setSurface u id _) hsf
              (by rw [hcu]; exact List.not_mem_nil) rfl rfl
              (hinv'.ready id sf' hsf)

/-! ## The calls -/

theorem dispatch_eq (messages : List WindowMessage) (sf : D3D12SurfaceRecord) :
    ∃ w b, messages.foldl D3D12SurfaceRecord.dispatch sf =
      { sf with windowEvents := w, window := b } := by
  induction messages generalizing sf with
  | nil => exact ⟨_, _, rfl⟩
  | cons m messages ih =>
    obtain ⟨w, b, hm⟩ : ∃ w b, sf.dispatch m = { sf with windowEvents := w, window := b } := by
      rw [D3D12SurfaceRecord.dispatch]
      split
      · exact ⟨_, _, rfl⟩
      · exact ⟨_, _, rfl⟩
    rw [List.foldl_cons, hm]
    exact ih _

theorem pollExtent_sets (s : D3D12Surfaces) (h : SurfaceHandle) (sf : D3D12SurfaceRecord)
    (w : WindowEventState) (b : Bool) (a : TransitionAnswers) : ∃ w' d hs,
      (s.pollExtent h { sf with windowEvents := w, window := b } a).2.displays = s.displays ∧
      SetsOne s (s.pollExtent h { sf with windowEvents := w, window := b } a).2 h.value
        { sf with windowEvents := w', window := b, description := d, textures := hs } := by
  rw [pollExtent.eq_def]
  dsimp only
  split
  · exact ⟨_, _, _, rfl, .setSurface s h.value _⟩
  · split
    · have hset := SetsOne.setSurface s h.value (D3D12SurfaceRecord.settled
        { sf with window := b, windowEvents := { w with displayTopologyChanged := false } })
      have hres := resize_resized hset.same w.extent false a.rebuild
      obtain ⟨hd, d, hs, hset'⟩ := hres.sets hset.same
      split
      · rename_i hx
        rw [hx] at hset' hd
        exact ⟨_, d, hs, hd, hset.trans hset'⟩
      · rename_i hx
        rw [hx] at hset' hd
        exact ⟨_, d, hs, hd, hset.trans hset'⟩
    · exact ⟨_, _, _, rfl, .setSurface s h.value _⟩

namespace ModesInv

theorem pollSurfaceEvents (hi : ModesInv modes s) (hcl : s.closing = none)
    (messages : List WindowMessage) (a : TransitionAnswers) :
    ModesInv modes (s.pollSurfaceEvents h messages a).2 := by
  rw [D3D12Surfaces.pollSurfaceEvents]
  split
  · exact hi
  · rename_i sf hf
    have hsf := (findSurface_some hf).2
    split
    · exact hi
    · obtain ⟨w, b, hm⟩ := dispatch_eq messages sf
      rw [hm]
      obtain ⟨w', d, hs, hd, hset⟩ := pollExtent_sets s h sf w b a
      exact hi.set_same hset hsf (by rw [hcl]; exact nofun) hd rfl (hi.ready h.value sf hsf)

theorem resizeSurface (hi : ModesInv modes s) (hcl : s.closing = none) (extent : RendererExtent2D)
    (a : TransitionAnswers) : ModesInv modes (s.resizeSurface h extent a).2 := by
  obtain ⟨r, hr⟩ | ⟨sf, hf, hw, hc⟩ := resizeSurface_changed s h extent a
  · rw [hr]
    exact hi
  · exact hi.changed (by rw [hcl]; exact nofun) (findSurface_some hf).2 hw hc

theorem createSurface (hi : ModesInv modes s) (hcl : s.closing = none)
    (hst : s.initialized = true) (d : SurfaceDescription) {a : CreationAnswers}
    (ha : CarriesOut a.transition) : ModesInv modes (s.createSurface d a).2 := by
  rw [D3D12Surfaces.createSurface]
  split
  · exact (createOffscreenSurface_created s d a).inv hi hcl hst
  · exact (createWindowSurface_created s d a).inv hi hcl hst
  · exact (createDirectDisplaySurface_keeps hi hcl hst d ha).1

end ModesInv

theorem presentSurface_keeps (s : D3D12Surfaces) (h : SurfaceHandle) (index : Nat)
    (present signal : NativeFailure) :
    KeepsSurfaces s (s.presentSurface h index present signal).2 := by
  rw [D3D12Surfaces.presentSurface]
  split
  · exact .refl s
  · split
    · exact .refl s
    · split
      · exact .refl s
      · split
        · exact ⟨rfl, rfl, rfl, Nat.le_refl _, rfl, rfl⟩
        · split
          · exact .refl s
          · exact .refl s

theorem destroyTexture_keeps (s : D3D12Surfaces) (h : TextureHandle) :
    KeepsSurfaces s (s.destroyTexture h).2 := by
  rw [D3D12Surfaces.destroyTexture]
  split
  · exact .refl s
  · split
    · exact .refl s
    · exact ⟨rfl, rfl, rfl, Nat.le_refl _, rfl, rfl⟩

/-- A call is refused, or carried out by an initialized renderer. -/
theorem guarded_cases {α : Type} (s : D3D12Surfaces) (check : RendererStatus)
    (x : RendererResult α × D3D12Surfaces) : (∃ e, s.guarded check x = (.error e, s)) ∨
      s.initialized = true ∧ check = .ok () ∧ s.guarded check x = x := by
  rw [guarded.eq_def]
  split
  · exact .inl ⟨_, rfl⟩
  · split
    · exact .inr ⟨‹_›, rfl, rfl⟩
    · exact .inl ⟨_, rfl⟩

/-- A call that is guarded keeps what the call itself keeps. -/
theorem guarded_inv {α : Type} (hi : ModesInv modes s) (check : RendererStatus)
    {x : RendererResult α × D3D12Surfaces} (hx : s.initialized = true → ModesInv modes x.2) :
    ModesInv modes (s.guarded check x).2 := by
  obtain ⟨e, he⟩ | ⟨hst, -, he⟩ := guarded_cases s check x
  · rw [he]
    exact hi
  · rw [he]
    exact hx hst

theorem ModesInv.perform (hi : ModesInv modes s) (hcl : s.closing = none) {c : SurfaceCall}
    (hc : ModesKept modes s (.call c)) : ModesInv modes (s.perform c).2 := by
  obtain ⟨hcarry, hturn⟩ := hc
  cases c with
  | createSurface d a =>
    exact guarded_inv hi _ fun hst => hi.createSurface hcl hst d (hcarry _ List.mem_cons_self)
  | resizeSurface h extent a => exact guarded_inv hi _ fun _ => hi.resizeSurface hcl extent a
  | setSurfaceWindowMode h request a =>
    refine guarded_inv hi _ fun _ => hi.transitioned hcl
      (setSurfaceWindowMode_transitioned s h request a) (hcarry _ List.mem_cons_self) ?_
    intro sf hf ht hm hl
    refine hturn (h.value, sf, a) ?_ hl
    rw [leaving, if_pos hm, hf, Option.filter_some, if_pos (decide_eq_true ht), Option.map_some]
    rfl
  | pollSurfaceEvents h messages a =>
    exact guarded_inv hi _ fun _ => hi.pollSurfaceEvents hcl messages a
  | presentSurface h index present signal =>
    exact guarded_inv hi _ fun _ => (presentSurface_keeps s h index present signal).inv hi
  | destroySurface h a =>
    refine guarded_inv hi _ fun _ => hi.destroySurface hcl (hcarry _ List.mem_cons_self) ?_
    intro sf hf hl
    refine hturn (h.value, sf, a) ?_ hl
    rw [leaving, hf, Option.map_some]
    rfl
  | destroyTexture h => exact guarded_inv hi _ fun _ => (destroyTexture_keeps s h).inv hi

/-- What a call that fails to enter leaves. -/
theorem enter_fails (hi : ModesInv modes s) (hcl : s.closing = none) {c : SurfaceCall}
    (hc : ∀ a ∈ transitions c, CarriesOut a) (he : Enters c) (hf : (s.perform c).1.failed = true) :
    (s.perform c).2.displays = s.displays ∧
      ∀ id, ((s.perform c).2.surfaces id).map (·.windowMode) =
        (s.surfaces id).map (·.windowMode) := by
  cases c with
  | createSurface d a =>
    obtain ⟨e, hg⟩ | ⟨hst, -, hg⟩ :=
      guarded_cases s (validateSurfaceDescription d) (s.createSurface d a)
    · simp only [D3D12Surfaces.perform, hg, implies_true, and_self]
    · have hcs : s.createSurface d a = s.createDirectDisplaySurface d a := by
        rw [D3D12Surfaces.createSurface, show d.type = .directDisplay from he]
      rw [hcs] at hg
      simp only [D3D12Surfaces.perform, hcs, hg, SurfaceResult.failed] at hf ⊢
      have hk := (createDirectDisplaySurface_keeps hi hcl hst d (hc _ List.mem_cons_self)).2
        (Bool.not_eq_true' _ ▸ hf)
      exact ⟨hk.displays, fun id => by rw [hk.surfaces]⟩
  | setSurfaceWindowMode h request a =>
    have hm : request.mode = .displayModeFullscreen := he
    have htr := setSurfaceWindowMode_transitioned s h request a
    obtain ⟨e, hg⟩ | ⟨-, -, hg⟩ := guarded_cases s
      (do checkSurfaceHandle h; validateSurfaceWindowModeRequest request)
      (s.setSurfaceWindowMode h request a)
    · simp only [D3D12Surfaces.perform, hg, implies_true, and_self]
    · simp only [D3D12Surfaces.perform, hg, SurfaceResult.failed] at hf ⊢
      generalize s.setSurfaceWindowMode h request a = r at htr hf
      cases htr with
      | refused e => exact ⟨rfl, fun _ => rfl⟩
      | kept => exact nomatch hf
      | enters hfind _ hr =>
        have hsf := (findSurface_some hfind).2
        obtain ⟨-, hd, d, hs, hset⟩ | ⟨_, _, _, _, hok, -⟩ := hr.sets hsf (hc _ List.mem_cons_self)
        · refine ⟨hd, fun id => ?_⟩
          rw [hset.surfaces]
          by_cases hid : id = h.value
          · rw [hid, Table.set_same, hsf, Option.map_some, Option.map_some]
          · rw [Table.set_ne hid]
        · rw [hok] at hf
          exact nomatch hf
      | leaves _ _ hw _ _ => exact nomatch hm.symm.trans hw
      | changes _ hno _ _ => exact absurd hm hno
  | resizeSurface _ _ _ => exact he.elim
  | pollSurfaceEvents _ _ _ => exact he.elim
  | presentSurface _ _ _ _ => exact he.elim
  | destroySurface _ _ => exact he.elim
  | destroyTexture _ => exact he.elim

/-! ## Runs -/

/-- What a shutdown does with one surface. -/
theorem ModesInv.closes (hi : ModesInv modes s) {done : List Nat} (hcl : s.closing = some done)
    (hid : id ∉ done) (hsf : s.surfaces id = some sf) (ha : CarriesOut a)
    (ht : (loans s).InTurn modes id) (hr : a.idle ≠ none → (loans s).Returned modes id) :
    ModesInv modes (s.closes id sf done a) := by
  have hnot : id ∉ s.closing.getD [] := by rwa [hcl]
  -- once the shutdown is done with it the surface holds no display
  have hdone : ∀ {t : D3D12Surfaces}, t.closing = some done → ModesInv modes t →
      (loans t).InTurn modes id → (loans t).Returned modes id →
      ModesInv modes { t with closing := some (id :: done) } := by
    intro t hct hit htt hrt
    refine ⟨?_, hit.ready, hit.below, hit.stopped⟩
    have hl : loans { t with closing := some (id :: done) } = (loans t).release id := by
      refine congrArg (Loans.mk t.displays) (funext fun j => ?_)
      show (if j ∈ id :: done then none else (t.surfaces j).bind restoring) =
        Function.update (fun j => if j ∈ t.closing.getD [] then none
          else (t.surfaces j).bind restoring) id none j
      rw [hct]
      by_cases hj : j = id
      · rw [hj, if_pos List.mem_cons_self, Function.update_self]
      · rw [Function.update_of_ne hj]
        simp only [List.mem_cons, hj, false_or, Option.getD_some]
    rw [hl]
    exact hit.kept.release htt hrt
  rw [D3D12Surfaces.closes]
  split
  · rename_i hw
    have hl := leaveDisplayModeFullscreen_left hsf a
    generalize s.leaveDisplayModeFullscreen id sf a = r at hl
    have hinv := hi.left hnot hsf hw hl ha fun _ => ht
    have hcr : r.2.closing = some done := by
      obtain ⟨-, -, d, hs, hset⟩ | ⟨d, hs, -, -, -, hset⟩ := hl.sets hsf ha
      · exact hset.closing.trans hcl
      · exact hset.closing.trans hcl
    obtain ⟨hlo, hidle⟩ | hlo | ⟨-, hlo⟩ := hl.repays hnot hsf hw ha
    · exact hdone hcr hinv (hlo ▸ ht) (hlo ▸ hr (hidle (hi.ready id sf hsf hw)))
    · exact hdone hcr hinv (hlo ▸ ht.putBack) (hlo ▸ hi.kept.returned)
    · have hnone : (loans r.2).holder id = none := hlo ▸ Loans.release_holder_self
      exact hdone hcr hinv (fun _ _ he => nomatch hnone.symm.trans he)
        fun _ _ he => nomatch hnone.symm.trans he
  · rename_i hw
    refine hdone hcl hi ht fun d m he => ?_
    rw [loans_holder hnot hsf, restoring_none hw] at he
    exact nomatch he

theorem modes_init (modes : String → NativeDisplayMode) : ModesInv modes { displays := modes } where
  kept := Loans.Kept.start (l := loans { displays := modes }) fun _ => rfl
  ready _ _ h := nomatch h
  below := Table.below_empty
  stopped _ _ := rfl

theorem modes_step {b : SurfaceAction} (hi : ModesInv modes s) (hc : ModesKept modes s b)
    (hs : d3d12SurfaceStep s b = some t) : ModesInv modes t := by
  cases b with
  | initializeWith generation =>
    rw [d3d12SurfaceStep] at hs
    split at hs
    · cases hs
      exact ⟨hi.kept, hi.ready, hi.below, nofun⟩
    · exact nomatch hs
  | call c =>
    rw [d3d12SurfaceStep] at hs
    split at hs
    · cases hs
      exact hi.perform ‹_› hc
    · exact nomatch hs
  | message id m =>
    rw [d3d12SurfaceStep] at hs
    split at hs
    · rename_i sf hsf
      cases hs
      obtain ⟨w, b, hm⟩ := dispatch_eq [m] sf
      rw [List.foldl_cons, List.foldl_nil] at hm
      rw [hm]
      have hset := SetsOne.setSurface s id { sf with windowEvents := w, window := b }
      refine hi.set hset hsf (hi.ready id sf hsf) ?_
      have hl : loans (s.setSurface id { sf with windowEvents := w, window := b }) = loans s := by
        refine congrArg (Loans.mk s.displays) (funext fun j => ?_)
        show (if j ∈ s.closing.getD [] then none else (s.surfaces.set id _ j).bind restoring) = _
        by_cases hj : j = id
        · rw [hj, Table.set_same, hsf]
          rfl
        · rw [Table.set_ne hj]
      exact hl ▸ hi.kept
    · exact nomatch hs
  | shutdown =>
    rw [d3d12SurfaceStep] at hs
    split at hs
    · rename_i hcl
      cases hs
      have hl : loans { s with closing := some [] } = loans s := by
        rw [loans, loans, hcl]
        rfl
      exact ⟨hl ▸ hi.kept, hi.ready, hi.below, hi.stopped⟩
    · exact nomatch hs
  | closes id a =>
    obtain ⟨ha, ht, hr⟩ := hc
    rw [d3d12SurfaceStep] at hs
    split at hs
    · rename_i done sf hcl hsf
      split at hs
      · exact nomatch hs
      · rename_i hid
        cases hs
        exact hi.closes hcl hid hsf ha ht hr
    · exact nomatch hs
  | shutdownEnds =>
    rw [d3d12SurfaceStep] at hs
    split at hs
    · rename_i done hcl
      split at hs
      · rename_i hall
        cases hs
        -- the shutdown has been at every surface, so nothing is held
        have hfree : ∀ id, (loans s).holder id = none := by
          intro id
          show (if id ∈ s.closing.getD [] then none else (s.surfaces id).bind restoring) = none
          rw [hcl]
          split
          · rfl
          · rename_i hid
            cases hsf : s.surfaces id with
            | none => rfl
            | some sf => exact absurd (hall id (hi.below.lt hsf) (by rw [hsf]; rfl)) hid
        refine ⟨?_, (fun _ _ h => nomatch h), Table.below_empty, fun _ _ => rfl⟩
        have hl : loans s.closed = ⟨modes, fun _ => none⟩ := by
          refine (congrArg (Loans.mk s.displays) (funext fun id => ?_)).trans
            (congrArg (Loans.mk · fun _ => none) (hi.kept.current_eq hfree))
          exact ite_self none
        rw [hl]
        exact Loans.Kept.start (l := ⟨modes, fun _ => none⟩) fun _ => rfl
      · exact nomatch hs
    · exact nomatch hs

/-- Nothing is held when all surfaces are windowed. -/
theorem ModesInv.restored (hi : ModesInv modes s) (hw : AllWindowed s ∨ s.initialized = false) :
    s.displays = modes := by
  refine hi.kept.current_eq fun id => ?_
  show (if id ∈ s.closing.getD [] then none else (s.surfaces id).bind restoring) = none
  split
  · rfl
  · cases hsf : s.surfaces id with
    | none => rfl
    | some sf =>
      obtain hw | hst := hw
      · exact restoring_none (hw.2 id sf hsf)
      · exact nomatch (hi.stopped hst id).symm.trans hsf

theorem modes_run {acts : List SurfaceAction}
    (hc : Along d3d12SurfaceStep (ModesKept modes) { displays := modes } acts)
    (hr : run d3d12SurfaceStep { displays := modes } acts = some s) : ModesInv modes s :=
  run_invariant_along (fun _ _ _ h hok hs => modes_step h hok hs) (modes_init modes) hc hr

/-- While the surfaces leave their displays in turn, the modes are back when all surfaces are
windowed and after a shutdown; and a call that fails to enter leaves windows and displays. -/
theorem modes_come_back {acts : List SurfaceAction}
    (hc : Along d3d12SurfaceStep (ModesKept modes) { displays := modes } acts)
    (hr : run d3d12SurfaceStep { displays := modes } acts = some s) :
    (AllWindowed s ∨ s.initialized = false → s.displays = modes) ∧
      (s.closing = none → ∀ c, Enters c → (∀ a ∈ transitions c, CarriesOut a) →
        (s.perform c).1.failed = true → (s.perform c).2.displays = s.displays ∧
          ∀ id, ((s.perform c).2.surfaces id).map (·.windowMode) =
            (s.surfaces id).map (·.windowMode)) :=
  ⟨(modes_run hc hr).restored,
    fun hcl _ he hcarry hf => enter_fails (modes_run hc hr) hcl hcarry he hf⟩

def desktopMode : DisplayMode := ⟨⟨2, 2⟩, 60, 1, .rgba8Unorm, false⟩

def lowMode : DisplayMode := ⟨⟨1, 1⟩, 60, 1, .rgba8Unorm, false⟩

def desktopModes : String → NativeDisplayMode := fun _ => ⟨2, 2, 60, false, 0⟩

def oneDisplay (current : DisplayMode) : DisplayDescription :=
  ⟨"monitor", ⟨2, 2⟩, current, [desktopMode, lowMode]⟩

def smallWindow : SurfaceAction :=
  .call (.createSurface { type := .window, extent := ⟨1, 1⟩, bufferCount := 2 } {})

def enterMode (surface : Nat) (mode current : DisplayMode) : SurfaceAction :=
  .call (.setSurfaceWindowMode ⟨surface, 1⟩ ⟨.displayModeFullscreen, "monitor", mode⟩
    { target := .ok ⟨oneDisplay current, "DISPLAY1", by decide⟩
      candidates := [⟨2, 2, 60, false, 0⟩, ⟨1, 1, 60, false, 0⟩] })

def leaveMode (surface : Nat) (found : DisplayMode) : SurfaceAction :=
  .call (.setSurfaceWindowMode ⟨surface, 1⟩ ⟨.windowed, "", {}⟩
    { displaysAfter := .ok [oneDisplay found] })

/-- A surface that is alone leaves in its turn. -/
theorem inTurn_alone (hb : s.surfaces.Below s.nextResourceId)
    (h : ∀ j < s.nextResourceId, j ≠ id → (s.surfaces j).isNone) : (loans s).InTurn modes id := by
  refine fun d m _ => .inl fun j hj m' he => ?_
  have hnone : s.surfaces j = none := by
    by_cases hlt : j < s.nextResourceId
    · exact Option.isNone_iff_eq_none.mp (h j hlt hj)
    · exact hb j (Nat.le_of_not_lt hlt)
  have hheld : (loans s).holder j = none := by
    show (if _ then _ else (s.surfaces j).bind restoring) = none
    rw [hnone, Option.bind_none, ite_self]
  exact nomatch hheld.symm.trans he

theorem along_enter : Along d3d12SurfaceStep (ModesKept desktopModes) { displays := desktopModes }
    [.initializeWith 1, smallWindow, enterMode 1 lowMode desktopMode] := by
  refine along_of_forall (List.forall_mem_cons.mpr ⟨fun _ => trivial, ?_⟩) _
  refine List.forall_mem_cons.mpr ⟨fun s => ⟨by decide, fun p hp => nomatch hp⟩, ?_⟩
  refine List.forall_mem_singleton.mpr fun s => ⟨by decide, fun p hp => ?_⟩
  rw [leaving, if_neg nofun] at hp
  exact nomatch hp

/-- A window enters the lower mode, and leaves it. -/
theorem modes_come_back_one : ∃ s,
    run d3d12SurfaceStep { displays := desktopModes }
      ([.initializeWith 1, smallWindow, enterMode 1 lowMode desktopMode] ++
        [leaveMode 1 desktopMode]) = some s ∧
    (AllWindowed s ∨ s.initialized = false → s.displays = desktopModes) := by
  have hend : (run d3d12SurfaceStep { displays := desktopModes }
      ([.initializeWith 1, smallWindow, enterMode 1 lowMode desktopMode] ++
        [leaveMode 1 desktopMode])).isSome = true := by
    decide +kernel
  have hone : (run d3d12SurfaceStep { displays := desktopModes }
      [.initializeWith 1, smallWindow, enterMode 1 lowMode desktopMode]).all fun s =>
        ∀ j < s.nextResourceId, j ≠ 1 → (s.surfaces j).isNone := by
    decide +kernel
  obtain ⟨s, hs⟩ := Option.isSome_iff_exists.mp hend
  have hleave : ∀ t, run d3d12SurfaceStep { displays := desktopModes }
      [.initializeWith 1, smallWindow, enterMode 1 lowMode desktopMode] = some t →
      ModesKept desktopModes t (leaveMode 1 desktopMode) := by
    refine fun t ht => ⟨by decide, fun p hp _ => ?_⟩
    rw [ht, Option.all_some, decide_eq_true_eq] at hone
    have hturn : (loans t).InTurn desktopModes 1 :=
      inTurn_alone (modes_run along_enter ht).below hone
    obtain ⟨sf, -, rfl⟩ := Option.map_eq_some_iff.mp hp
    exact hturn
  exact ⟨s, hs, (modes_come_back (along_enter.snoc hleave) hs).1⟩

/-- Two windows on one display, which leave it in the order in which they entered: the second puts
back the mode of the first. -/
theorem modes_come_back_broken : ∃ acts s, (∀ b ∈ acts, ModesCarriedOut b) ∧
    run d3d12SurfaceStep { displays := desktopModes } acts = some s ∧ s.initialized = false ∧
    s.displays "DISPLAY1" ≠ desktopModes "DISPLAY1" := by
  let acts := [.initializeWith 1, smallWindow, smallWindow, enterMode 1 lowMode desktopMode,
    enterMode 4 desktopMode lowMode, leaveMode 1 desktopMode, leaveMode 4 lowMode, .shutdown,
    .closes 1 {}, .closes 4 {}, .shutdownEnds]
  have hend : (run d3d12SurfaceStep { displays := desktopModes } acts).map
      (fun s => (s.initialized, s.displays "DISPLAY1")) = some (false, ⟨1, 1, 60, false, 0⟩) := by
    decide +kernel
  obtain ⟨s, hs, hd⟩ := Option.map_eq_some_iff.mp hend
  obtain ⟨hst, hmode⟩ := Prod.mk.inj hd
  refine ⟨acts, s, by decide +kernel, hs, hst, ?_⟩
  rw [hmode]
  decide

end WSE.Proof.Oui
