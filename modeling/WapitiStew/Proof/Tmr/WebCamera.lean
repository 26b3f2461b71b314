import WapitiStew.Spec.Tmr.WebCamera

/-!
# The held selection and the open session

Each call either keeps the selection with the session, sets both, or, when a
default open is rejected, sets the selection alone (`perform_cases`). So in every
reachable state the held selection is the session's own or that of the last such
rejected open, and a write that reaches the session was checked against it; where
no default open is rejected so, the two agree (`webcamera_agreement`).
-/

namespace WSE.Proof.Tmr

open WSE.Framework WSE.Impl.Tmr WSE.Spec.Tmr

variable {w w' : WebCamera}

theorem sameCamera_refl (w : WebCamera) : SameCamera w w := ⟨rfl, rfl, rfl, rfl, rfl, rfl⟩

theorem sameCamera_remember (w : WebCamera) (status : CameraStatus) :
    SameCamera w (w.remember status) := ⟨rfl, rfl, rfl, rfl, rfl, rfl⟩

/-! ## Selecting and opening -/

/-- `select` holds the default selection, or fails and changes nothing. -/
theorem select_cases (w : WebCamera) (device : CameraDeviceInfo)
    (selected : CameraResult CameraCapability) :
    (∃ e, w.select device selected = (w, .error e) ∧
      ∀ capability, selected = .ok capability → defaultSelection device capability = none) ∨
    ∃ capability s, selected = .ok capability ∧ defaultSelection device capability = some s ∧
      w.select device selected = (w.hold s, .ok ()) := by
  unfold WebCamera.select defaultSelection
  cases isWebCameraCandidate device with
  | false => exact .inl ⟨_, rfl, fun _ _ => rfl⟩
  | true =>
    cases selected with
    | error e => exact .inl ⟨e, rfl, fun _ h => by cases h⟩
    | ok capability =>
      cases hd : defaultConfiguration capability with
      | error e =>
        refine .inl ⟨e, ?_, fun c h => ?_⟩
        · simp only [Bool.not_true, Bool.false_eq_true, if_false, hd]
        · cases h
          simp only [if_true, hd]
      | ok configuration =>
        refine .inr ⟨capability, ⟨device, capability, configuration⟩, rfl, ?_, ?_⟩
        · simp only [if_true, hd]
        · simp only [Bool.not_true, Bool.false_eq_true, if_false, hd]

/-- `open(device, configuration)` opens the session with what it then holds, or fails and changes
nothing; with a session and a web camera, it opens as `Opens` says. -/
theorem openWith_cases (w : WebCamera) (device : CameraDeviceInfo)
    (configuration : CameraStreamConfiguration) (queried : CameraResult CameraCapability)
    (opened : CameraStatus) :
    (∃ e w', w.openWith device configuration queried opened = (w', .error e) ∧ SameCamera w w' ∧
      w'.hasSession = w.hasSession ∧ w'.calls = w.calls ∧
      (w.hasSession = true → isWebCameraCandidate device = true →
        ¬Opens w configuration queried opened)) ∨
    ∃ w' o, w.openWith device configuration queried opened = (w', .ok ()) ∧
      Opens w configuration queried opened ∧ w'.hasSession = true ∧
      w'.session = some o ∧ held w' = o ∧ w'.calls = w.calls ∧ w'.writes = w.writes := by
  have reject (e : CameraFailure) (h : ¬Opens w configuration queried opened) :
      ∃ e' w', ((w.remember (.error e), .error e) : WebCamera × CameraStatus) = (w', .error e') ∧
        SameCamera w w' ∧ w'.hasSession = w.hasSession ∧ w'.calls = w.calls ∧
        (w.hasSession = true → isWebCameraCandidate device = true →
          ¬Opens w configuration queried opened) :=
    ⟨e, _, rfl, sameCamera_remember w _, rfl, rfl, fun _ _ => h⟩
  unfold WebCamera.openWith
  dsimp only
  split
  · rename_i hs
    refine .inl ⟨_, w, rfl, sameCamera_refl w, rfl, rfl, fun h => ?_⟩
    rw [h] at hs
    exact absurd hs Bool.false_ne_true
  rename_i hs
  split
  · rename_i ho
    exact .inl (reject _ fun h => by rw [h.1] at ho; exact absurd ho Bool.false_ne_true)
  rename_i ho
  split
  · rename_i hv
    exact .inl (reject _ fun h => by rw [h.2.1] at hv; exact absurd hv Bool.false_ne_true)
  rename_i hv
  split
  · rename_i hc
    refine .inl ⟨_, _, rfl, sameCamera_remember w _, rfl, rfl, fun _ h => ?_⟩
    rw [h] at hc
    exact absurd hc Bool.false_ne_true
  split
  · exact .inl (reject _ fun ⟨_, _, ⟨_, h, _⟩, _⟩ => by cases h)
  rename_i capability
  split
  · rename_i hp
    refine .inl (reject _ fun ⟨_, _, ⟨c, h, hsome⟩, _⟩ => ?_)
    cases h
    rw [Option.isNone_iff_eq_none.mp hp] at hsome
    exact absurd hsome Bool.false_ne_true
  rename_i hp
  split
  · exact .inl (reject _ fun h => by cases h.2.2.2)
  · refine .inr ⟨_, _, rfl, ⟨by simpa using ho, by simpa using hv, ⟨capability, rfl, ?_⟩, rfl⟩, ?_,
      rfl, rfl, rfl, rfl⟩
    · simpa [Option.isSome_iff_ne_none] using hp
    · simpa using hs

theorem defaultSelection_candidate {device : CameraDeviceInfo} {capability : CameraCapability}
    {s : Selection} (h : defaultSelection device capability = some s) :
    isWebCameraCandidate device = true ∧ s.device = device := by
  unfold defaultSelection at h
  split at h
  · rename_i hc
    split at h
    · cases h
      exact ⟨hc, rfl⟩
    · cases h
  · cases h

/-- `open(device)` fails in its selection and changes nothing, or fails later and holds the
default selection beside the session, or opens the session with what it then holds. -/
theorem openDefault_cases (w : WebCamera) (device : CameraDeviceInfo)
    (selected queried : CameraResult CameraCapability) (opened : CameraStatus) :
    (∃ e w', w.openDefault device selected queried opened = (w', .error e) ∧ SameCamera w w' ∧
      w'.hasSession = w.hasSession ∧ w'.calls = w.calls ∧
      (w.hasSession = true →
        ∀ capability, selected = .ok capability → defaultSelection device capability = none)) ∨
    (∃ e w' capability s, selected = .ok capability ∧
      defaultSelection device capability = some s ∧
      w.openDefault device selected queried opened = (w', .error e) ∧ w'.session = w.session ∧
      held w' = s ∧ w'.hasSelection = true ∧ w.hasSession = true ∧ w'.hasSession = w.hasSession ∧
      w'.calls = w.calls ∧ w'.writes = w.writes ∧ ¬Opens w s.configuration queried opened) ∨
    ∃ w' o, w.openDefault device selected queried opened = (w', .ok ()) ∧ w'.hasSession = true ∧
      w'.session = some o ∧ held w' = o ∧ w'.calls = w.calls ∧ w'.writes = w.writes := by
  unfold WebCamera.openDefault
  split
  · rename_i hs
    refine .inl ⟨_, w, rfl, sameCamera_refl w, rfl, rfl, fun h => ?_⟩
    rw [h] at hs
    exact absurd hs Bool.false_ne_true
  · rename_i hs
    have hs : w.hasSession = true := by simpa using hs
    obtain ⟨e, heq, hnone⟩ | ⟨capability, s, hcap, hdef, heq⟩ := select_cases w device selected
    · rw [heq]
      exact .inl ⟨e, _, rfl, sameCamera_remember w _, rfl, rfl, fun _ => hnone⟩
    · rw [heq]
      obtain ⟨e, w', hw, hsame, hh, hcalls, hnot⟩ | ⟨w', o, hw, -, hh, ho, hheld, hcalls, hwr⟩ :=
        openWith_cases (w.hold s) device (w.hold s).configuration queried opened
      · exact .inr (.inl ⟨e, w', capability, s, hcap, hdef, hw, hsame.session, hsame.held,
          hsame.hasSelection, hs, hh, hcalls, hsame.writes,
          hnot hs (defaultSelection_candidate hdef).1⟩)
      · exact .inr (.inr ⟨w', o, hw, hh, ho, hheld, hcalls, hwr⟩)

/-- A rejected default open leaves the selection alone exactly if it had nothing to select or had
selected it before. -/
theorem openDefault_sameSelection {device : CameraDeviceInfo}
    {selected queried : CameraResult CameraCapability} {opened : CameraStatus} {e : CameraFailure}
    (h : w.openDefault device selected queried opened = (w', .error e)) :
    SameSelection w w' ↔ OpensOrKeeps w (.openDefault device selected queried opened) := by
  obtain ⟨_, w₁, heq, hsame, -, -, hnone⟩ | ⟨_, w₁, capability, s, rfl, hdef, heq, hsess, hheld,
    hsel, hs, -, -, -, hnot⟩ | ⟨w₁, o, heq, -⟩ :=
      openDefault_cases w device selected queried opened
  · cases h.symm.trans heq
    refine ⟨fun _ => ?_, fun _ => ⟨hsame.session, hsame.held, hsame.hasSelection⟩⟩
    cases selected with
    | error => trivial
    | ok capability => exact fun s hdef hs => by cases (hnone hs capability rfl).symm.trans hdef
  · cases h.symm.trans heq
    constructor
    · rintro ⟨-, hh, hp⟩ s' hdef' -
      cases hdef.symm.trans hdef'
      exact .inr ⟨hh.symm.trans hheld, hp.symm.trans hsel⟩
    · intro hok
      obtain ho | ⟨hh, hp⟩ := hok s hdef hs
      · exact absurd ho hnot
      · exact ⟨hsess, hheld.trans hh.symm, hsel.trans hp.symm⟩
  · cases h.symm.trans heq

/-! ## Other calls -/

/-- A write that reaches the session is permitted by the held capability. -/
theorem permits_control {c : CameraControlCapability} {v : CameraControlValue}
    (h : controlValid c v = some true) : ControlAllowed c v := by
  unfold controlValid at h
  unfold ControlAllowed
  cases hmode : v.mode with
  | manual =>
    rw [hmode] at h
    dsimp only at h
    split at h
    · rename_i hrange
      simp only [Bool.and_eq_true, decide_eq_true_eq] at hrange
      obtain ⟨⟨⟨hw, hm⟩, hmin⟩, hmax⟩ := hrange
      split at h
      · cases h
      · have hdvd := of_decide_eq_true (Option.some.inj h)
        exact ⟨hw, hm, hmin, hmax, Int.dvd_of_tmod_eq_zero hdvd⟩
    · cases h
  | automatic =>
    rw [hmode] at h
    have hboth := Option.some.inj h
    rw [Bool.and_eq_true] at hboth
    exact hboth

theorem permits_extension {x : CameraExtensionUnitSelector} {v : CameraExtensionUnitValue}
    (h : extensionValid v x = true) :
    x.unitGuid = v.selector.unitGuid ∧ x.unitId = v.selector.unitId ∧
      x.selector = v.selector.selector ∧ x.writable = true ∧
      x.minimumSize ≤ v.payload.length ∧ v.payload.length ≤ x.maximumSize := by
  simp only [extensionValid, sameExtensionSelector, Bool.and_eq_true, decide_eq_true_eq] at h
  obtain ⟨⟨⟨⟨⟨hg, hu⟩, hs⟩, hw⟩, hmin⟩, hmax⟩ := h
  exact ⟨hg, hu, hs, hw, hmin, hmax⟩

theorem controlCapability_ok {control : CameraControl} {c : CameraControlCapability}
    (h : w.controlCapability control = .ok c) :
    c ∈ w.capability.controls ∧ c.control = control := by
  unfold WebCamera.controlCapability WebCamera.currentCapabilities at h
  split at h
  · cases h
  rename_i capability hcap
  split at hcap
  · cases hcap
    split at h
    · rename_i found hfind
      cases h
      unfold findControlCapability at hfind
      exact ⟨List.mem_of_find?_eq_some hfind, by simpa using List.find?_some hfind⟩
    · cases h
  · cases hcap

/-- Nothing is opened, closed or selected, and what is written is permitted. -/
structure Kept (w w' : WebCamera) : Prop where
  session : w'.session = w.session
  held : held w' = held w
  hasSession : w'.hasSession = w.hasSession
  calls : w'.calls = w.calls
  writes : ∃ new, w'.writes = w.writes ++ new ∧ ∀ v ∈ new, Permits w.capability v

theorem kept_same {w₀ : WebCamera} (h : SameCamera w w₀) (hs : w₀.hasSession = w.hasSession)
    (hc : w₀.calls = w.calls) : Kept w w₀ :=
  ⟨h.session, h.held, hs, hc, [], by rw [h.writes, List.append_nil], nofun⟩

theorem Kept.refl (w : WebCamera) : Kept w w := kept_same (sameCamera_refl w) rfl rfl

theorem kept_remember (w : WebCamera) (status : CameraStatus) : Kept w (w.remember status) :=
  kept_same (sameCamera_remember w status) rfl rfl

theorem kept_write (w : WebCamera) (status : CameraStatus) {v : ControlWrite}
    (h : Permits w.capability v) :
    Kept w { w.remember status with writes := w.writes ++ [v] } :=
  ⟨rfl, rfl, rfl, rfl, [v], rfl, fun _ hx => List.mem_singleton.mp hx ▸ h⟩

theorem kept_setControl {v : CameraControlValue} {answer status : CameraStatus}
    (h : w.setControl v answer = some (w', status)) : Kept w w' := by
  unfold WebCamera.setControl at h
  split at h
  · cases h
    exact .refl w
  split at h
  · cases h
    exact kept_remember w _
  · rename_i c hc
    obtain ⟨hmem, hcontrol⟩ := controlCapability_ok hc
    obtain ⟨valid, hvalid, heq⟩ := Option.map_eq_some_iff.mp h
    split at heq
    · rename_i ht
      cases heq
      exact kept_write w _ ⟨c, hmem, hcontrol, permits_control (ht ▸ hvalid)⟩
    · cases heq
      exact kept_remember w _

theorem kept_setExtensionUnit (w : WebCamera) (v : CameraExtensionUnitValue) (answer : CameraStatus) :
    Kept w (w.setExtensionUnit v answer).1 := by
  unfold WebCamera.setExtensionUnit WebCamera.currentCapabilities
  split
  · exact .refl w
  split
  · exact kept_remember w _
  rename_i capability hcap
  split at hcap
  · cases hcap
    split
    · rename_i hany
      obtain ⟨x, hx, hvalid⟩ := List.any_eq_true.mp hany
      exact kept_write w _ ⟨x, hx, permits_extension hvalid⟩
    · exact kept_remember w _
  · cases hcap

/-! ## Runs -/

theorem lastReselection_opens {c : WebCameraCall × CameraStatus}
    {cs : List (WebCameraCall × CameraStatus)} (h : opens c = true) :
    lastReselection (c :: cs) = none := by
  rw [lastReselection, List.takeWhile_cons, h]
  rfl

theorem lastReselection_cons {c : WebCameraCall × CameraStatus}
    {cs : List (WebCameraCall × CameraStatus)} (h : opens c = false) :
    lastReselection (c :: cs) = (reselection c).or (lastReselection cs) := by
  rw [lastReselection, List.takeWhile_cons, h]
  cases hr : reselection c with
  | none => simp only [Bool.not_false, if_true, List.findSome?_cons, hr, Option.none_or,
      lastReselection]
  | some s => simp only [Bool.not_false, if_true, List.findSome?_cons, hr, Option.some_or]

/-- The held selection is the session's, or that of the last rejected default open. -/
structure CameraInv (w : WebCamera) : Prop where
  hasSession : ∀ o, w.session = some o → w.hasSession = true
  agrees : ∀ o, w.session = some o → held w = (lastReselection w.calls).getD o

theorem CameraInv.closed (h : w.session = none) : CameraInv w :=
  ⟨fun _ ho => absurd (h.symm.trans ho) (by simp), fun _ ho => absurd (h.symm.trans ho) (by simp)⟩

theorem constructedAt_session (hasSession : Bool) (index : Int64)
    (enumerated : CameraResult (List CameraDeviceInfo))
    (capabilities : CameraDeviceInfo → CameraResult CameraCapability) :
    (WebCamera.constructedAt hasSession index enumerated capabilities).session = none := by
  unfold WebCamera.constructedAt
  dsimp only
  split
  · rfl
  split
  · rfl
  split
  · rfl
  · rename_i device _
    obtain ⟨e, heq, -⟩ | ⟨_, s, -, -, heq⟩ := select_cases (.constructed hasSession) device
      (capabilities device)
    · rw [heq]
      rfl
    · rw [heq]
      rfl

theorem kept_start (w : WebCamera) (answer : CameraStatus) : Kept w (w.start answer).1 := by
  unfold WebCamera.start
  split
  · exact .refl w
  · exact kept_remember w answer

theorem kept_stop (w : WebCamera) (answer : CameraStatus) : Kept w (w.stop answer).1 := by
  unfold WebCamera.stop
  split
  · exact .refl w
  · exact kept_remember w answer

/-- What a call has opened is held. -/
structure Opened (w w' : WebCamera) (o : Selection) : Prop where
  hasSession : w'.hasSession = true
  session : w'.session = some o
  held : held w' = o
  writes : w'.writes = w.writes

/-- A default open was rejected with the selection `s` made. -/
structure Reselected (w w' : WebCamera) (s : Selection) : Prop where
  session : w'.session = w.session
  held : held w' = s
  wasUsable : w.hasSession = true
  hasSession : w'.hasSession = w.hasSession
  writes : w'.writes = w.writes

theorem some_pair {α β : Type} {r : α × β} {a : α} {b : β} (h : some r = some (a, b)) :
    a = r.1 ∧ b = r.2 := by
  cases h
  exact ⟨rfl, rfl⟩

/-- What a call can do: keep the camera, close the session, open it, or reselect. -/
theorem perform_cases {call : WebCameraCall} {status : CameraStatus}
    (h : w.perform call = some (w', status)) :
    (Kept w w' ∧ opens (call, status) = false ∧
      (w.hasSession = true → reselection (call, status) = none)) ∨
    (w'.session = none ∧ w'.writes = w.writes) ∨
    (∃ o, Opened w w' o ∧ opens (call, status) = true) ∨
    ∃ device capability queried opened s e,
      call = .openDefault device (.ok capability) queried opened ∧ status = .error e ∧
      defaultSelection device capability = some s ∧ Reselected w w' s ∧
      ¬Opens w s.configuration queried opened := by
  cases call with
  | openDefault device selected queried opened =>
    have h := Option.some.inj h
    obtain ⟨e, w₁, heq, hsame, hh, hc, hnone⟩ | ⟨e, w₁, capability, s, rfl, hdef, heq, hsess,
      hheld, -, hs, hh, -, hwr, hnot⟩ | ⟨w₁, o, heq, hh, hsess, hheld, -, hwr⟩ :=
        openDefault_cases w device selected queried opened
    · cases h.symm.trans heq
      refine .inl ⟨kept_same hsame hh hc, rfl, fun hs => ?_⟩
      cases selected with
      | error => rfl
      | ok capability => exact hnone hs capability rfl
    · cases h.symm.trans heq
      exact .inr (.inr (.inr ⟨device, capability, queried, opened, s, e, rfl, rfl, hdef,
        ⟨hsess, hheld, hs, hh, hwr⟩, hnot⟩))
    · cases h.symm.trans heq
      exact .inr (.inr (.inl ⟨o, ⟨hh, hsess, hheld, hwr⟩, rfl⟩))
  | openWith device configuration queried opened =>
    have h := Option.some.inj h
    obtain ⟨e, w₁, heq, hsame, hh, hc, -⟩ | ⟨w₁, o, heq, -, hh, hsess, hheld, -, hwr⟩ :=
      openWith_cases w device configuration queried opened
    · cases h.symm.trans heq
      exact .inl ⟨kept_same hsame hh hc, rfl, fun _ => rfl⟩
    · cases h.symm.trans heq
      exact .inr (.inr (.inl ⟨o, ⟨hh, hsess, hheld, hwr⟩, rfl⟩))
  | start answer =>
    obtain ⟨rfl, rfl⟩ := some_pair h
    exact .inl ⟨kept_start w answer, rfl, fun _ => rfl⟩
  | stop answer =>
    obtain ⟨rfl, rfl⟩ := some_pair h
    exact .inl ⟨kept_stop w answer, rfl, fun _ => rfl⟩
  | setControl v answer => exact .inl ⟨kept_setControl h, rfl, fun _ => rfl⟩
  | setExtensionUnit v answer =>
    obtain ⟨rfl, rfl⟩ := some_pair h
    exact .inl ⟨kept_setExtensionUnit w v answer, rfl, fun _ => rfl⟩
  | close =>
    cases Option.some.inj h
    unfold WebCamera.close
    split
    · exact .inr (.inl ⟨rfl, rfl⟩)
    · exact .inl ⟨.refl w, rfl, fun _ => rfl⟩
  | sessionLost =>
    cases Option.some.inj h
    exact .inr (.inl ⟨rfl, rfl⟩)

/-- What a step writes is permitted by the held capability. -/
theorem step_writes {call : WebCameraCall} (hs : webCameraStep w call = some w') :
    ∃ new, w'.writes = w.writes ++ new ∧ ∀ v ∈ new, Permits w.capability v := by
  obtain ⟨⟨w₀, status⟩, hperform, rfl⟩ := Option.map_eq_some_iff.mp hs
  have none_new (h : w₀.writes = w.writes) :
      ∃ new, w₀.writes = w.writes ++ new ∧ ∀ v ∈ new, Permits w.capability v :=
    ⟨[], by rw [h, List.append_nil], nofun⟩
  obtain ⟨hk, -⟩ | ⟨-, hwr⟩ | ⟨o, ho, -⟩ | ⟨_, _, _, _, s, _, -, -, -, hr, -⟩ :=
    perform_cases hperform
  · exact hk.writes
  · exact none_new hwr
  · exact none_new ho.writes
  · exact none_new hr.writes

/-- Every call keeps the invariant. -/
theorem CameraInv.step (h : CameraInv w) {call : WebCameraCall}
    (hs : webCameraStep w call = some w') : CameraInv w' := by
  obtain ⟨⟨w₀, status⟩, hperform, rfl⟩ := Option.map_eq_some_iff.mp hs
  obtain ⟨hk, hopens, hresel⟩ | ⟨hnone, -⟩ | ⟨o, ho, hopens⟩ |
    ⟨device, capability, queried, opened, s, e, rfl, rfl, hdef, hr, -⟩ := perform_cases hperform
  · refine ⟨fun o ho => ?_, fun o ho => ?_⟩
    · exact hk.hasSession.trans (h.hasSession o (hk.session.symm.trans ho))
    · have ho := hk.session.symm.trans ho
      show held w₀ = (lastReselection ((call, status) :: w.calls)).getD o
      rw [lastReselection_cons hopens, hresel (h.hasSession o ho), Option.none_or, hk.held]
      exact h.agrees o ho
  · exact .closed hnone
  · refine ⟨fun _ _ => ho.hasSession, fun o' ho' => ?_⟩
    cases ho.session.symm.trans ho'
    show held w₀ = (lastReselection ((call, status) :: w.calls)).getD _
    rw [lastReselection_opens hopens, ho.held]
    rfl
  · refine ⟨fun _ _ => hr.hasSession.trans hr.wasUsable, fun o _ => ?_⟩
    have hresel : reselection (.openDefault device (.ok capability) queried opened, .error e) =
      some s := hdef
    show held w₀ = (lastReselection (_ :: w.calls)).getD o
    rw [lastReselection_cons rfl, hresel, hr.held]
    rfl

/-- What the session was opened with is held. -/
def HoldsSession (w : WebCamera) : Prop := ∀ o, w.session = some o → held w = o

/-- A default open that opens what it selects, or had selected it before, keeps the agreement. -/
theorem HoldsSession.step (h : HoldsSession w) {call : WebCameraCall} (hok : OpensOrKeeps w call)
    (hs : webCameraStep w call = some w') : HoldsSession w' := by
  obtain ⟨⟨w₀, status⟩, hperform, rfl⟩ := Option.map_eq_some_iff.mp hs
  intro o' ho'
  show held w₀ = o'
  obtain ⟨hk, -⟩ | ⟨hnone, -⟩ | ⟨o, ho, -⟩ |
    ⟨device, capability, queried, opened, s, e, rfl, rfl, hdef, hr, hnot⟩ := perform_cases hperform
  · exact hk.held.trans (h o' (hk.session.symm.trans ho'))
  · cases hnone.symm.trans ho'
  · cases ho.session.symm.trans ho'
    exact ho.held
  · obtain hopens | ⟨hheld, -⟩ := hok s hdef hr.wasUsable
    · exact absurd hopens hnot
    · exact hr.held.trans (hheld.symm.trans (h o' (hr.session.symm.trans ho')))

/-- In every state that any calls reach from any construction, with any answers of the runtime and
the session: while the session is open, the held device, capability and configuration are those it
was opened with, unless a default open was rejected since, after its selection; then they are the
default selection of that device. A write that reaches the session is permitted by the held
capability, so by the session's own where no such open came between. An explicit open that fails,
and a default open that fails to select, change nothing; a default open that fails later leaves
the session as it was and holds the device's default selection.

So where every default open opens the session with what it selects, or had selected it before, the
held selection is the session's own and every write is permitted by the session's capability; and
a default open that fails leaves the selection as it was exactly if it had nothing else to
select. -/
theorem webcamera_agreement (hasSession : Bool) (index : Int64)
    (enumerated : CameraResult (List CameraDeviceInfo))
    (capabilities : CameraDeviceInfo → CameraResult CameraCapability)
    (calls : List WebCameraCall) (w : WebCamera)
    (hrun : run webCameraStep (.constructedAt hasSession index enumerated capabilities) calls =
      some w) :
    (∀ o, w.session = some o → held w = (lastReselection w.calls).getD o) ∧
    (∀ call w', webCameraStep w call = some w' → ∃ new, w'.writes = w.writes ++ new ∧
      ∀ v ∈ new, Permits w.capability v ∧
        ∀ o, w.session = some o → lastReselection w.calls = none → Permits o.capability v) ∧
    (∀ device configuration queried opened w' e,
      w.openWith device configuration queried opened = (w', .error e) → SameCamera w w') ∧
    (∀ device selected queried opened w' e,
      w.openDefault device selected queried opened = (w', .error e) →
      (SameCamera w w' ∨ w'.session = w.session ∧
        ∃ capability, selected = .ok capability ∧
          defaultSelection device capability = some (held w')) ∧
      (SameSelection w w' ↔ OpensOrKeeps w (.openDefault device selected queried opened))) ∧
    (Along webCameraStep OpensOrKeeps (.constructedAt hasSession index enumerated capabilities)
      calls →
      (∀ o, w.session = some o → held w = o) ∧
      ∀ call w', webCameraStep w call = some w' → ∃ new, w'.writes = w.writes ++ new ∧
        ∀ v ∈ new, ∀ o, w.session = some o → Permits o.capability v) := by
  have hclosed := constructedAt_session hasSession index enumerated capabilities
  have hinv : CameraInv w := run_invariant (fun _ _ _ h hs => h.step hs) (.closed hclosed) hrun
  have writes_permitted {call w'} (hs : webCameraStep w call = some w') {P : Prop}
      (hheld : ∀ o, w.session = some o → P → held w = o) :
      ∃ new, w'.writes = w.writes ++ new ∧ ∀ v ∈ new, Permits w.capability v ∧
        ∀ o, w.session = some o → P → Permits o.capability v := by
    obtain ⟨new, hnew, hpermits⟩ := step_writes hs
    refine ⟨new, hnew, fun v hv => ⟨hpermits v hv, fun o ho hp => ?_⟩⟩
    have hcap : w.capability = o.capability := congrArg Selection.capability (hheld o ho hp)
    exact hcap ▸ hpermits v hv
  refine ⟨hinv.agrees, fun call w' hs => writes_permitted hs fun o ho hnone => ?_,
    fun device configuration queried opened w' e h => ?_,
    fun device selected queried opened w' e h => ⟨?_, openDefault_sameSelection h⟩,
    fun hok => ?_⟩
  · rw [hinv.agrees o ho, hnone]
    rfl
  · obtain ⟨e', w₁, heq, hsame, -⟩ | ⟨w₁, o, heq, -⟩ :=
      openWith_cases w device configuration queried opened
    · cases h.symm.trans heq
      exact hsame
    · cases h.symm.trans heq
  · obtain ⟨e', w₁, heq, hsame, -⟩ | ⟨e', w₁, capability, s, hcap, hdef, heq, hsess, hheld, -⟩ |
      ⟨w₁, o, heq, -⟩ := openDefault_cases w device selected queried opened
    · cases h.symm.trans heq
      exact .inl hsame
    · cases h.symm.trans heq
      exact .inr ⟨hsess, capability, hcap, hheld ▸ hdef⟩
    · cases h.symm.trans heq
  · have hagrees : HoldsSession w := run_invariant_along (fun _ _ _ h ha hs => h.step ha hs)
      (fun o ho => by cases hclosed.symm.trans ho) hok hrun
    refine ⟨hagrees, fun call w' hs => ?_⟩
    obtain ⟨new, hnew, h⟩ := writes_permitted hs (P := True) fun o ho _ => hagrees o ho
    exact ⟨new, hnew, fun v hv o ho => (h v hv).2 o ho trivial⟩

/-- A device `id` with one profile, and a gain up to `maximum`. -/
def oneProfile (maximum : Int64) : CameraCapability where
  controls := [{ control := .gain, maximum := maximum, step := 1, supportsManual := true }]
  streamProfiles := [⟨⟨640, 480, 30, 1, .yuyv422⟩, [.yuyv422]⟩]

def usbDevice (id : String) : CameraDeviceInfo :=
  { backend := .video4Linux2, id := id, transportType := .usbUvc }

/-- A device is opened, and a gain is set. -/
def openAndSet : List WebCameraCall :=
  [.openDefault (usbDevice "a") (.ok (oneProfile 10)) (.ok (oneProfile 10)) (.ok ()),
    .setControl ⟨.gain, .manual, 7⟩ (.ok ())]

def openedAndSet : Option WebCamera :=
  run webCameraStep (.constructedAt true (-1) (.ok []) fun _ => .ok {}) openAndSet

/-- What the open of the first device holds. -/
def firstOpen : Selection :=
  ⟨usbDevice "a", oneProfile 10, ⟨⟨640, 480, 30, 1, .yuyv422⟩, .yuyv422, true⟩⟩

theorem openAndSet_along (w : WebCamera) (h : w.session = none) :
    Along webCameraStep OpensOrKeeps w openAndSet := by
  refine ⟨fun s hs _ => .inl ?_, fun _ _ => ⟨trivial, fun _ _ => trivial⟩⟩
  have hfirst : defaultSelection (usbDevice "a") (oneProfile 10) = some firstOpen := by
    decide +kernel
  cases hfirst.symm.trans hs
  exact ⟨h, by decide +kernel, ⟨_, rfl, by decide +kernel⟩, rfl⟩

theorem webcamera_agreement_open :
    ∃ w o, openedAndSet = some w ∧ w.session = some o ∧ held w = o ∧
      w.writes = [.control ⟨.gain, .manual, 7⟩] := by
  have hrun : openedAndSet = some (openedAndSet.get (by decide +kernel)) :=
    (Option.some_get _).symm
  obtain ⟨-, -, -, -, hagrees⟩ := webcamera_agreement _ _ _ _ openAndSet _ hrun
  have hsession : (openedAndSet.get (by decide +kernel)).session = some firstOpen := by
    decide +kernel
  exact ⟨_, _, hrun, hsession, (hagrees (openAndSet_along _ rfl)).1 _ hsession, by decide +kernel⟩

/-- A default open of a second device is rejected, and its selection is held beside the open
session: a gain that the open device does not have reaches it. -/
theorem openDefault_reselects :
    ∃ w w', run webCameraStep (.constructedAt true (-1) (.ok []) fun _ => .ok {}) openAndSet =
        some w ∧
      run webCameraStep w [.openDefault (usbDevice "b") (.ok (oneProfile 90)) (.ok (oneProfile 90))
        (.ok ()), .setControl ⟨.gain, .manual, 70⟩ (.ok ())] = some w' ∧
      (w'.calls.map Prod.snd)[1]? = some (.error WebCamera.alreadyOpen) ∧
      w'.session = w.session ∧ w.session.map Selection.device = some (usbDevice "a") ∧
      w'.selectedDevice = usbDevice "b" ∧
      w'.writes = [.control ⟨.gain, .manual, 7⟩, .control ⟨.gain, .manual, 70⟩] :=
  ⟨_, _, rfl, rfl, by decide +kernel, by decide +kernel, by decide +kernel, by decide +kernel,
    by decide +kernel⟩

end WSE.Proof.Tmr
