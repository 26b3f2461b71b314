import WapitiStew.Proof.Tmr.LibcameraRequests

/-!
# The requests of a libcamera backend

`Inv` ties the ledger to what the camera has: a request is pending when the camera
has it, had it when it was stopped, is being given it, or an exception has cut off
its way. `PhaseOk` is what the owner relies on at each place. A step of the owner
leaves the books alone (`Inv.moves`) or makes one entry in them; a request that the
camera returns was pending (`canReturn_pending`), so the callbacks take it out and
nothing else. What a step frees is empty of pending requests, or behind the barrier
of a successful stop (`Released`).
-/

namespace WSE.Proof.Tmr

open WSE.Framework WSE.Framework.Monitor WSE.Impl.Tmr WSE.Impl.Tmr.LibcameraCamera WSE.Spec.Tmr

/-- Requests of the ledger that are to be queued. -/
structure Spare (l : LibcameraRequests Nat) (rs : List Nat) : Prop where
  distinct : rs.Nodup
  owned : ∀ r ∈ rs, r ∈ l.owners
  idle : ∀ r ∈ rs, l.isPending r = false ∧ r ∉ waitingRequests l

def restOf : QueueCaller → List Nat
  | .start rest => rest
  | .read _ => []

/-- No one but the owner has the request. -/
structure Away (owners cameraQueue leftBehind lost : List Nat) (r : Nat) : Prop where
  owned : r ∈ owners
  camera : r ∉ cameraQueue
  left : r ∉ leftBehind
  lost : r ∉ lost

/-- New requests, which nothing but the owner knows. -/
structure Fresh (created : Nat) (leftBehind lost built : List Nat) : Prop where
  distinct : built.Nodup
  numbered : ∀ r ∈ built, r < created
  left : ∀ r ∈ built, r ∉ leftBehind
  lost : ∀ r ∈ built, r ∉ lost

/-- What the owner relies on. -/
def PhaseOk (s : LibcameraCamera) : LibcameraPhase → Prop
  | .idle | .connecting | .stopBegin _ | .destroyed => True
  | .startGuard => s.handle = true
  | .creating built =>
    s.handle = true ∧ s.nativeActive = false ∧ s.requests.outstanding = 0 ∧
      Fresh s.created s.leftBehind s.lost built
  | .startControls =>
    s.handle = true ∧ s.requests.outstanding = 0 ∧ waitingRequests s.requests = []
  | .startNative =>
    s.nativeActive = true ∧ s.requests.outstanding = 0 ∧ waitingRequests s.requests = []
  | .startQueue rest => s.nativeActive = true ∧ Spare s.requests rest
  | .marking q r => s.nativeActive = true ∧ Spare s.requests (r :: restOf q)
  | .handing q r taken =>
    s.nativeActive = true ∧ Spare s.requests (restOf q) ∧
      (taken = false → Away s.requests.owners s.cameraQueue s.leftBehind s.lost r)
  | .refused _ r => Away s.requests.owners s.cameraQueue s.leftBehind s.lost r
  | .waiting => s.nativeActive = true
  | .copying r | .requeueing r _ => s.nativeActive = true ∧ Spare s.requests [r]
  | .stopNative _ | .closeWait _ => s.streaming = false
  | .stopEnd _ => s.streaming = false ∧ s.nativeActive = false
  | .closing _ => s.streaming = false ∧ s.requests.outstanding = 0

structure Inv (s : LibcameraCamera) : Prop where
  sound : Sound s.requests
  noFault : s.requests.fault = false
  queued : ∀ r ∈ s.requests.owners, s.requests.isPending r = true ↔
    r ∈ s.cameraQueue ∨ r ∈ s.leftBehind ∨ beingQueued s.owner = some r ∨ r ∈ s.lost
  camera : ∀ r ∈ s.cameraQueue, r ∈ s.requests.owners
  lost : ∀ r ∈ s.lost, r ∉ s.cameraQueue ∧ r ∉ s.leftBehind
  numbered : ∀ r, r ∈ s.requests.owners ∨ r ∈ s.leftBehind ∨ r ∈ s.lost → r < s.created
  accepted : completions.Accepts s.log
  ring : completions.after s.log = waitingRequests s.requests
  inactive : s.nativeActive = false → s.cameraQueue = []
  closed : s.handle = false → s.nativeActive = false ∧ s.requests.owners = []
  streaming : s.streaming = true → s.nativeActive = true
  phase : PhaseOk s s.owner

/-- What exists may be destroyed. -/
def Released (s : LibcameraCamera) : Prop :=
  ∀ r ∈ requestObjects s, r ∉ s.cameraQueue ∧ (r ∈ s.leftBehind → s.disconnected = false)

/-- A step keeps the invariant, and destroys only what may be. -/
structure SafeStep (s s' : LibcameraCamera) : Prop where
  inv : Inv s'
  objects : requestObjects s ⊆ requestObjects s' ∨ Released s
  buffers : s.buffers ≠ none → s'.buffers ≠ s.buffers → s.cameraQueue = []

variable {s s' : LibcameraCamera}

/-! ## Moves of the owner -/

theorem inv_initial : Inv {} where
  sound := sound_empty
  noFault := rfl
  queued _ hr := absurd hr List.not_mem_nil
  camera _ hr := absurd hr List.not_mem_nil
  lost _ hr := absurd hr List.not_mem_nil
  numbered _ hr := by simp at hr
  accepted := accepts_nil _
  ring := rfl
  inactive _ := rfl
  closed _ := ⟨rfl, rfl⟩
  streaming h := absurd h Bool.false_ne_true
  phase := trivial

/-- The books stay as they are. -/
structure SameBooks (s s' : LibcameraCamera) : Prop where
  requests : s'.requests = s.requests
  cameraQueue : s'.cameraQueue = s.cameraQueue
  leftBehind : s'.leftBehind = s.leftBehind
  lost : s'.lost = s.lost
  created : s'.created = s.created
  log : s'.log = s.log ∨ ∃ r, s'.log = s.log ++ [.returned r]

theorem Inv.moves (h : Inv s) (hs : SameBooks s s')
    (hb : beingQueued s.owner = beingQueued s'.owner) (hi : s'.nativeActive = false →
      s.nativeActive = false) (hc : s'.handle = false → s.handle = false ∧ s'.nativeActive = false)
    (hst : s'.streaming = true → s'.nativeActive = true) (hp : PhaseOk s' s'.owner) : Inv s' where
  sound := by rw [hs.requests]; exact h.sound
  noFault := by rw [hs.requests]; exact h.noFault
  queued := by
    rw [hs.requests, hs.cameraQueue, hs.leftBehind, hs.lost, ← hb]
    exact h.queued
  camera := by rw [hs.requests, hs.cameraQueue]; exact h.camera
  lost := by rw [hs.lost, hs.cameraQueue, hs.leftBehind]; exact h.lost
  numbered := by rw [hs.requests, hs.leftBehind, hs.lost, hs.created]; exact h.numbered
  accepted := by
    obtain hl | ⟨r, hl⟩ := hs.log
    · rw [hl]; exact h.accepted
    · rw [hl]; exact accepts_snoc.mpr ⟨h.accepted, trivial⟩
  ring := by
    rw [hs.requests, ← h.ring]
    obtain hl | ⟨r, hl⟩ := hs.log
    · rw [hl]
    · rw [hl, after_append]; rfl
  inactive ha := by rw [hs.cameraQueue]; exact h.inactive (hi ha)
  closed hh := ⟨(hc hh).2, by rw [hs.requests]; exact (h.closed (hc hh).1).2⟩
  streaming := hst
  phase := hp

/-- What is kept when nothing is destroyed but what may be. -/
theorem SafeStep.of (hi : Inv s') (ho : s'.requests.owners = s.requests.owners)
    (hf : builtRequests s.owner = [] ∨ Released s) (hb : s'.buffers = s.buffers) :
    SafeStep s s' := by
  refine ⟨hi, hf.imp_left fun hf => ?_, fun _ hn => absurd hb hn⟩
  rw [requestObjects, requestObjects, hf, ho, List.append_nil]
  exact List.subset_append_left _ _

theorem Inv.movesTo (h : Inv s) (p : LibcameraPhase) (hb : beingQueued s.owner = beingQueued p)
    (hf : builtRequests s.owner = [] ∨ Released s) (hp : PhaseOk s p) :
    SafeStep s { s with owner := p } :=
  .of (h.moves ⟨rfl, rfl, rfl, rfl, rfl, .inl rfl⟩ hb id (fun hh => ⟨hh, (h.closed hh).1⟩)
    h.streaming hp) rfl hf rfl

/-- The owner has no request on its way to the camera, and none that the ledger does not own. -/
structure Calm (p : LibcameraPhase) : Prop where
  queue : beingQueued p = none
  built : builtRequests p = []

theorem calm_of {p : LibcameraPhase} (hs : s.owner = p) (hp : Calm p) : Calm s.owner := hs ▸ hp

theorem Inv.goes (h : Inv s) (hm : Calm s.owner) (p : LibcameraPhase) (hb : beingQueued p = none)
    (hp : PhaseOk s p) : SafeStep s { s with owner := p } :=
  h.movesTo p (hm.queue.trans hb.symm) (.inl hm.built) hp

theorem Inv.rollsBack (h : Inv s) (hm : Calm s.owner) (r : LibcameraResult) :
    SafeStep s (s.rollsBack r) :=
  h.goes hm _ rfl trivial

theorem Inv.returns (h : Inv s) (hm : Calm s.owner) (r : LibcameraResult) :
    SafeStep s (s.returns r) :=
  .of (h.moves ⟨rfl, rfl, rfl, rfl, rfl, .inr ⟨r, rfl⟩⟩ hm.queue id
    (fun hh => ⟨hh, (h.closed hh).1⟩) h.streaming trivial) rfl (.inl hm.built) rfl

/-! ## Calls -/

/-- With no handle there is nothing at the camera. -/
theorem cameraQueue_closed (h : Inv s) (hh : s.handle = false) : s.cameraQueue = [] :=
  h.inactive (h.closed hh).1

theorem safe_open (h : Inv s) (hs : s.owner = .idle) (a : OpenAnswer) : SafeStep s (s.open a) := by
  have hm : Calm s.owner := calm_of hs ⟨rfl, rfl⟩
  cases a with
  | failed code =>
    rw [LibcameraCamera.open]
    split
    · exact h.returns hm _
    · exact h.returns hm _
  | threw =>
    rw [LibcameraCamera.open]
    split
    · exact h.returns hm _
    · exact h.returns hm _
  | allocated buffers =>
    rw [LibcameraCamera.open]
    split
    · exact h.returns hm _
    · rename_i hh
      have hh : s.handle = false := Bool.eq_false_iff.mpr hh
      split
      · exact h.returns hm _
      · refine ⟨h.moves ⟨rfl, rfl, rfl, rfl, rfl, .inl rfl⟩ hm.queue id
          (fun h => absurd h.symm Bool.false_ne_true) h.streaming trivial, .inl ?_,
          fun _ _ => cameraQueue_closed h hh⟩
        rw [requestObjects, hm.built, List.append_nil]
        exact List.subset_append_left _ _

theorem safe_start (h : Inv s) (hs : s.owner = .idle) : SafeStep s s.start := by
  have hm : Calm s.owner := calm_of hs ⟨rfl, rfl⟩
  rw [LibcameraCamera.start]
  split
  · exact h.returns hm _
  · rename_i hh
    split
    · exact h.returns hm _
    · split
      · exact h.returns hm _
      · have hh : s.handle = true := by simpa using hh
        exact h.goes hm .startGuard rfl hh

theorem safe_readFrame (h : Inv s) (hs : s.owner = .idle) : SafeStep s s.readFrame := by
  have hm : Calm s.owner := calm_of hs ⟨rfl, rfl⟩
  rw [LibcameraCamera.readFrame]
  split
  · exact h.returns hm _
  · rename_i hst
    exact h.goes hm .waiting rfl (h.streaming (by simpa using hst))

theorem safe_close (h : Inv s) (hs : s.owner = .idle) : SafeStep s s.close := by
  have hm : Calm s.owner := calm_of hs ⟨rfl, rfl⟩
  rw [LibcameraCamera.close]
  split
  · exact h.returns hm _
  · exact h.goes hm _ rfl trivial

/-- The members go, when there is no handle any more. -/
theorem safe_destroy (h : Inv s) (hh : s.handle = false) (hf : builtRequests s.owner = []) :
    SafeStep s s.destroy := by
  have hn := (h.closed hh).2
  have hc := cameraQueue_closed h hh
  refine ⟨⟨sound_empty, rfl, fun _ hr => absurd hr List.not_mem_nil, ?_, h.lost, ?_, h.accepted,
    ?_, h.inactive, fun _ => ⟨(h.closed hh).1, rfl⟩, h.streaming, trivial⟩, .inl ?_,
    fun _ _ => hc⟩
  · show ∀ r ∈ s.cameraQueue, r ∈ []
    rw [hc]
    exact fun _ => id
  · refine fun r hr => h.numbered r (hr.imp_left fun hr => absurd hr List.not_mem_nil)
  · refine h.ring.trans (List.eq_nil_iff_forall_not_mem.mpr fun r hr => ?_)
    have := (h.sound.waits r hr).1
    rw [hn] at this
    exact List.not_mem_nil this
  · rw [requestObjects, hn, hf]
    exact List.nil_subset _

theorem safe_call (h : Inv s) (hs : s.owner = .idle) (c : LibcameraCall) :
    SafeStep s (s.call c) := by
  have hm : Calm s.owner := calm_of hs ⟨rfl, rfl⟩
  cases c with
  | «open» a => exact safe_open h hs a
  | start => exact safe_start h hs
  | readFrame => exact safe_readFrame h hs
  | stop => exact h.goes hm _ rfl trivial
  | close => exact safe_close h hs
  | destroy =>
    rw [LibcameraCamera.call]
    split
    · rename_i hh
      exact safe_destroy h (by simpa using hh) hm.built
    · exact h.goes hm _ rfl trivial

/-! ## `start` -/

/-- While nothing is pending, what exists may be destroyed. -/
theorem released_of_outstanding (h : Inv s) (h0 : s.requests.outstanding = 0)
    (hbuilt : ∀ r ∈ builtRequests s.owner, r ∉ s.cameraQueue ∧ r ∉ s.leftBehind) :
    Released s := by
  intro r hr
  have hp := isPending_of_outstanding h.sound h0 r
  obtain hr | hr := List.mem_append.mp hr
  · have hq := fun hx => Bool.false_ne_true (hp.symm.trans ((h.queued r hr).mpr hx))
    exact ⟨fun hx => hq (.inl hx), fun hx => absurd (.inr (.inl hx)) hq⟩
  · exact ⟨(hbuilt r hr).1, fun hx => absurd hx (hbuilt r hr).2⟩

theorem released_creating (h : Inv s) {built : List Nat} (hs : s.owner = .creating built) :
    Released s := by
  have hp := h.phase
  rw [hs] at hp
  refine released_of_outstanding h hp.2.2.1 fun r hr => ?_
  rw [hs] at hr
  rw [h.inactive hp.2.1]
  exact ⟨List.not_mem_nil, hp.2.2.2.left r hr⟩

theorem inv_prepare (h : Inv s) {built : List Nat} (hs : s.owner = .creating built) :
    Inv { s.record .discarded with
      requests := LibcameraRequests.prepare built, owner := .startControls } := by
  have hp := h.phase
  rw [hs] at hp
  obtain ⟨hh, ha, -, hf⟩ := hp
  have hc := h.inactive ha
  refine ⟨sound_prepare hf.distinct, rfl, fun r hr => ?_, ?_, h.lost, fun r hr => ?_,
    accepts_snoc.mpr ⟨h.accepted, trivial⟩, ?_, h.inactive,
    fun hn => (nomatch hh.symm.trans hn), h.streaming, hh, rfl, rfl⟩
  · refine iff_of_false (by rw [isPending_prepare]; exact Bool.false_ne_true) ?_
    rintro (hr' | hr' | hr' | hr')
    · have hr' : r ∈ s.cameraQueue := hr'
      rw [hc] at hr'
      exact List.not_mem_nil hr'
    · exact hf.left r hr hr'
    · cases hr'
    · exact hf.lost r hr hr'
  · show ∀ r ∈ s.cameraQueue, r ∈ built
    rw [hc]
    exact fun _ hr => absurd hr List.not_mem_nil
  · obtain hr | hr := hr
    · exact hf.numbered r hr
    · exact h.numbered r (.inr hr)
  · show completions.after (s.log ++ [.discarded]) = _
    rw [after_append]
    rfl

theorem safe_createRequests (h : Inv s) {built : List Nat} (hs : s.owner = .creating built)
    (a : LibcameraAnswer) : SafeStep s (s.createRequests built a) := by
  have hb : beingQueued s.owner = none := by rw [hs]; rfl
  have hrel := released_creating h hs
  have hp := h.phase
  rw [hs] at hp
  obtain ⟨hh, ha, h0, hf⟩ := hp
  unfold createRequests
  split
  · cases a with
    | succeeded =>
      have hnew := h.numbered s.created
      refine .of ⟨h.sound, h.noFault, ?_, h.camera, h.lost, fun r hr => ?_, h.accepted, h.ring,
        h.inactive, h.closed, h.streaming, hh, ha, h0, ?_⟩ rfl (.inr hrel) rfl
      · have hq := h.queued
        rw [hb] at hq
        exact hq
      · exact Nat.lt_succ_of_lt (h.numbered r hr)
      · refine ⟨?_, fun r hr => ?_, fun r hr => ?_, fun r hr => ?_⟩
        · refine List.nodup_append.mpr ⟨hf.distinct, List.nodup_singleton _, ?_⟩
          rintro r hr _ hn rfl
          exact Nat.lt_irrefl _ (List.mem_singleton.mp hn ▸ hf.numbered r hr)
        · obtain hr | hr := List.mem_append.mp hr
          · exact Nat.lt_succ_of_lt (hf.numbered r hr)
          · exact List.mem_singleton.mp hr ▸ Nat.lt_succ_self _
        · obtain hr | hr := List.mem_append.mp hr
          · exact hf.left r hr
          · rw [List.mem_singleton.mp hr]
            exact fun hx => Nat.lt_irrefl _ (hnew (.inr (.inl hx)))
        · obtain hr | hr := List.mem_append.mp hr
          · exact hf.lost r hr
          · rw [List.mem_singleton.mp hr]
            exact fun hx => Nat.lt_irrefl _ (hnew (.inr (.inr hx)))
    | failed => exact h.movesTo _ hb (.inr hrel) trivial
    | threw => exact h.movesTo _ hb (.inr hrel) trivial
  · split
    · exact ⟨inv_prepare h hs, .inr hrel, fun _ hn => absurd rfl hn⟩
    · exact h.movesTo _ hb (.inr hrel) trivial

/-- Nothing is pending or waits: all requests are to be queued. -/
theorem spare_owners (h : Inv s) (h0 : s.requests.outstanding = 0)
    (hw : waitingRequests s.requests = []) : Spare s.requests s.requests.owners := by
  refine ⟨h.sound.distinct, fun _ => id, fun r _ => ⟨isPending_of_outstanding h.sound h0 r, ?_⟩⟩
  rw [hw]
  exact List.not_mem_nil

theorem safe_startNative (h : Inv s) (hs : s.owner = .startNative) (a : LibcameraAnswer) :
    SafeStep s (s.startNative a) := by
  have hm : Calm s.owner := calm_of hs ⟨rfl, rfl⟩
  have hp := h.phase
  rw [hs] at hp
  obtain ⟨ha, h0, hw⟩ := hp
  have hspare := spare_owners h h0 hw
  cases a with
  | succeeded =>
    exact .of (h.moves ⟨rfl, rfl, rfl, rfl, rfl, .inl rfl⟩ hm.queue id
      (fun hh => ⟨hh, (h.closed hh).1⟩) (fun _ => ha) ⟨ha, hspare⟩) rfl (.inl hm.built) rfl
  | failed => exact h.rollsBack hm _
  | threw => exact h.rollsBack hm _

/-! ## `queueRequest` -/

/-- The owner has an idle request for itself. -/
theorem away_of_spare (h : Inv s) {rs : List Nat} (hp : Spare s.requests rs) {r : Nat}
    (hr : r ∈ rs) : Away s.requests.owners s.cameraQueue s.leftBehind s.lost r := by
  have hn : ¬s.requests.isPending r = true := by
    rw [(hp.idle r hr).1]
    exact Bool.false_ne_true
  rw [h.queued r (hp.owned r hr)] at hn
  exact ⟨hp.owned r hr, fun hx => hn (.inl hx), fun hx => hn (.inr (.inl hx)),
    fun hx => hn (.inr (.inr (.inr hx)))⟩

theorem safe_markRequest (h : Inv s) {q : QueueCaller} {r : Nat} (hs : s.owner = .marking q r) :
    SafeStep s (s.markRequest q r) := by
  have hm : Calm s.owner := calm_of hs ⟨rfl, rfl⟩
  have hp := h.phase
  rw [hs] at hp
  obtain ⟨ha, hsp⟩ := hp
  have hr := hsp.owned r List.mem_cons_self
  obtain ⟨hn, hw⟩ := hsp.idle r List.mem_cons_self
  have haway := away_of_spare h hsp List.mem_cons_self
  have hq := queued_eq hr hn
  have hpend := isPending_queued h.sound hr hn
  have hsound := h.sound.queued hr hn hw
  rw [hq] at hpend hsound
  rw [markRequest, hq]
  refine .of ⟨hsound, h.noFault, fun x hx => ?_, h.camera, h.lost, h.numbered, h.accepted, h.ring,
    h.inactive, h.closed, h.streaming, ha, ?_, fun _ => haway⟩ rfl (.inl hm.built) rfl
  · rw [hpend, Bool.or_eq_true, decide_eq_true_iff, h.queued x hx, hm.queue]
    constructor
    · rintro (rfl | hx | hx | hx | hx)
      · exact .inr (.inr (.inl rfl))
      · exact .inl hx
      · exact .inr (.inl hx)
      · cases hx
      · exact .inr (.inr (.inr hx))
    · rintro (hx | hx | hx | hx)
      · exact .inr (.inl hx)
      · exact .inr (.inr (.inl hx))
      · exact .inl (Option.some.inj hx).symm
      · exact .inr (.inr (.inr (.inr hx)))
  · have hdist := List.nodup_cons.mp hsp.distinct
    refine ⟨hdist.2, fun x hx => hsp.owned x (List.mem_cons_of_mem _ hx), fun x hx => ?_⟩
    have hidle := hsp.idle x (List.mem_cons_of_mem _ hx)
    refine ⟨?_, hidle.2⟩
    rw [hpend, hidle.1, decide_eq_false fun he : x = r => hdist.1 (he ▸ hx)]
    rfl

theorem safe_takes (h : Inv s) {q : QueueCaller} {r : Nat} (hs : s.owner = .handing q r false) :
    SafeStep s { s with cameraQueue := r :: s.cameraQueue, owner := .handing q r true } := by
  have hf : builtRequests s.owner = [] := by rw [hs]; rfl
  have hp := h.phase
  have hq := h.queued
  rw [hs] at hp hq
  obtain ⟨ha, hsp, haway⟩ := hp
  have haway := haway rfl
  refine .of ⟨h.sound, h.noFault, fun x hx => ?_, fun x hx => ?_, fun x hx => ?_, h.numbered,
    h.accepted, h.ring, fun hn => (nomatch ha.symm.trans hn), h.closed, h.streaming, ha, hsp,
    fun hn => (nomatch hn)⟩ rfl (.inl hf) rfl
  · rw [hq x hx, List.mem_cons]
    constructor
    · rintro (hx | hx | hx | hx)
      · exact .inl (.inr hx)
      · exact .inr (.inl hx)
      · exact .inl (.inl (Option.some.inj hx).symm)
      · exact .inr (.inr (.inr hx))
    · rintro ((rfl | hx) | hx | hx | hx)
      · exact .inr (.inr (.inl rfl))
      · exact .inl hx
      · exact .inr (.inl hx)
      · cases hx
      · exact .inr (.inr (.inr hx))
  · obtain rfl | hx := List.mem_cons.mp hx
    · exact haway.owned
    · exact h.camera x hx
  · refine ⟨fun hc => ?_, (h.lost x hx).2⟩
    obtain rfl | hc := List.mem_cons.mp hc
    · exact haway.lost hx
    · exact (h.lost x hx).1 hc

/-- An exception leaves `queueRequest`; the request stays queued in the ledger. -/
theorem safe_queueThrows (h : Inv s) {q : QueueCaller} {r : Nat} {taken : Bool}
    (hs : s.owner = .handing q r taken) :
    SafeStep s { s.rollsBack .threw with lost := if taken then s.lost else s.lost ++ [r] } := by
  have hf : builtRequests s.owner = [] := by rw [hs]; rfl
  have hp := h.phase
  have hq := h.queued
  rw [hs] at hp hq
  obtain ⟨-, -, haway⟩ := hp
  cases taken with
  | true => exact h.rollsBack (calm_of hs ⟨rfl, rfl⟩) _
  | false =>
    have haway := haway rfl
    refine .of ⟨h.sound, h.noFault, fun x hx => ?_, h.camera, fun x hx => ?_, fun x hx => ?_,
      h.accepted, h.ring, h.inactive, h.closed, h.streaming, trivial⟩ rfl (.inl hf) rfl
    · refine (hq x hx).trans ?_
      show _ ↔ x ∈ s.cameraQueue ∨ x ∈ s.leftBehind ∨ none = some x ∨ x ∈ s.lost ++ [r]
      rw [List.mem_append, List.mem_singleton]
      constructor
      · rintro (hx | hx | hx | hx)
        · exact .inl hx
        · exact .inr (.inl hx)
        · exact .inr (.inr (.inr (.inr (Option.some.inj hx).symm)))
        · exact .inr (.inr (.inr (.inl hx)))
      · rintro (hx | hx | hx | hx | rfl)
        · exact .inl hx
        · exact .inr (.inl hx)
        · cases hx
        · exact .inr (.inr (.inr hx))
        · exact .inr (.inr (.inl rfl))
    · obtain hx | hx := List.mem_append.mp hx
      · exact h.lost x hx
      · rw [List.mem_singleton.mp hx]
        exact ⟨haway.camera, haway.left⟩
    · obtain hx | hx | hx := hx
      · exact h.numbered x (.inl hx)
      · exact h.numbered x (.inr (.inl hx))
      · obtain hx | hx := List.mem_append.mp hx
        · exact h.numbered x (.inr (.inr hx))
        · exact h.numbered x (.inl (List.mem_singleton.mp hx ▸ haway.owned))

theorem safe_queueAnswers (h : Inv s) {q : QueueCaller} {r : Nat} {taken : Bool}
    (hs : s.owner = .handing q r taken) {a : LibcameraAnswer}
    (hstep : s.queueAnswers q r taken a = some s') : SafeStep s s' := by
  have hf : builtRequests s.owner = [] := by rw [hs]; rfl
  have hp := h.phase
  rw [hs] at hp
  obtain ⟨ha, hsp, haway⟩ := hp
  cases a with
  | succeeded =>
    cases taken with
    | false => cases hstep
    | true =>
      cases hstep
      have hm : Calm s.owner := calm_of hs ⟨rfl, rfl⟩
      cases q with
      | start rest => exact h.goes hm _ rfl ⟨ha, hsp⟩
      | read copied => exact h.returns hm _
  | failed =>
    cases taken with
    | true => cases hstep
    | false =>
      cases hstep
      exact h.movesTo _ (by rw [hs]; rfl) (.inl hf) (haway rfl)
  | threw =>
    cases hstep
    exact safe_queueThrows h hs

theorem safe_refused (h : Inv s) {q : QueueCaller} {r : Nat} (hs : s.owner = .refused q r) :
    SafeStep s ({ s with requests := s.requests.rejected r }.rollsBack (queueFailure q)) := by
  have hf : builtRequests s.owner = [] := by rw [hs]; rfl
  have hp := h.phase
  have hq := h.queued
  rw [hs] at hp hq
  have hpend : s.requests.isPending r = true := (hq r hp.owned).mpr (.inr (.inr (.inl rfl)))
  rw [rejected_eq h.sound hpend]
  refine .of ⟨h.sound.discharge hpend, h.noFault, fun x hx => ?_, h.camera, h.lost, h.numbered,
    h.accepted, h.ring, h.inactive, h.closed, h.streaming, trivial⟩ rfl (.inl hf) rfl
  refine (Bool.eq_iff_iff.mp (isPending_discharge h.sound hpend x)).trans ?_
  rw [Bool.and_eq_true, decide_eq_true_iff, hq x hx]
  show _ ↔ x ∈ s.cameraQueue ∨ x ∈ s.leftBehind ∨ none = some x ∨ x ∈ s.lost
  constructor
  · rintro ⟨hne, hx | hx | hx | hx⟩
    · exact .inl hx
    · exact .inr (.inl hx)
    · exact absurd (Option.some.inj hx).symm hne
    · exact .inr (.inr (.inr hx))
  · rintro (hx | hx | hx | hx)
    · exact ⟨fun he => hp.camera (he ▸ hx), .inl hx⟩
    · exact ⟨fun he => hp.left (he ▸ hx), .inr (.inl hx)⟩
    · cases hx
    · exact ⟨fun he => hp.lost (he ▸ hx), .inr (.inr (.inr hx))⟩

/-! ## `readFrame` -/

theorem safe_readReady (h : Inv s) (hs : s.owner = .waiting) (hstep : s.readReady = some s') :
    SafeStep s s' := by
  have hm : Calm s.owner := calm_of hs ⟨rfl, rfl⟩
  have ha := h.phase
  rw [hs] at ha
  rw [readReady] at hstep
  split at hstep
  · cases hstep
    exact h.returns hm _
  split at hstep
  · cases hstep
    exact h.rollsBack hm _
  split at hstep
  · cases hstep
    exact h.returns hm _
  rename_i he
  obtain ⟨r, hpop, hl⟩ := popped_pop h.sound (Bool.eq_false_iff.mpr he)
  rw [hpop] at hstep
  cases hstep
  have hw := h.ring.trans hl.waiting
  have hwait := h.sound.waits r (hl.waiting ▸ List.mem_cons_self)
  refine .of ⟨hl.sound, hl.fault.trans h.noFault, fun x hx => ?_, fun x hx => ?_, h.lost,
    fun x hx => ?_, accepts_snoc.mpr ⟨h.accepted, ?_⟩, ?_, h.inactive, fun hc => ?_, h.streaming,
    ha, ?_⟩ hl.owners (.inl hm.built) rfl
  · have hq := h.queued x (hl.owners ▸ hx)
    rw [hm.queue] at hq
    rw [← hl.isPending x] at hq
    exact hq
  · exact hl.owners ▸ h.camera x hx
  · exact h.numbered x (hx.imp_left fun hx => hl.owners ▸ hx)
  · show (completions.after s.log).head? = some r
    rw [hw]
    rfl
  · show completions.after (s.log ++ [.handed r]) = _
    rw [after_append]
    show (completions.after s.log).tail = _
    rw [hw]
    rfl
  · exact ⟨(h.closed hc).1, hl.owners.trans (h.closed hc).2⟩
  · have honce := h.sound.once
    rw [hl.waiting] at honce
    refine ⟨List.nodup_singleton r, fun x hx => ?_, fun x hx => ?_⟩
    · rw [List.mem_singleton.mp hx]
      exact hl.owners ▸ hwait.1
    · rw [List.mem_singleton.mp hx]
      exact ⟨(hl.isPending r).trans hwait.2, (List.nodup_cons.mp honce).1⟩

theorem safe_copied (h : Inv s) {r : Nat} (hs : s.owner = .copying r) (a : LibcameraAnswer) :
    SafeStep s (s.copied r a) := by
  have hm : Calm s.owner := calm_of hs ⟨rfl, rfl⟩
  have hp := h.phase
  rw [hs] at hp
  cases a with
  | succeeded => exact h.goes hm (.requeueing r .succeeded) rfl hp
  | failed => exact h.goes hm (.requeueing r (.failed .readFailed)) rfl hp
  | threw => exact h.rollsBack hm _

/-! ## `stopNative` and `close` -/

theorem safe_stopReturns (h : Inv s) (hm : Calm s.owner) (hst : s.streaming = false) (ok : Bool)
    (k : StopCaller) : SafeStep s (s.stopReturns ok k) := by
  cases k with
  | stop =>
    cases ok with
    | true => exact h.returns hm .succeeded
    | false => exact h.returns hm (.failed .backendFailure)
  | rollback r => exact h.returns hm r
  | close c => exact h.goes hm (.closeWait c) rfl hst

theorem safe_stopBegin (h : Inv s) {k : StopCaller} (hs : s.owner = .stopBegin k) :
    SafeStep s (s.stopBegin k) := by
  have hm : Calm s.owner := calm_of hs ⟨rfl, rfl⟩
  have hmoves {p : LibcameraPhase} (hp : beingQueued p = none)
      (hok : PhaseOk { s with streaming := false, owner := p } p) :
      SafeStep s { s with streaming := false, owner := p } :=
    .of (h.moves ⟨rfl, rfl, rfl, rfl, rfl, .inl rfl⟩ (hm.queue.trans hp.symm) id
      (fun hh => ⟨hh, (h.closed hh).1⟩) (fun hn => (nomatch hn)) hok) rfl (.inl hm.built) rfl
  rw [stopBegin]
  split
  · exact hmoves rfl rfl
  · rename_i ha
    exact hmoves rfl ⟨rfl, Bool.eq_false_iff.mpr ha⟩

theorem safe_stopNative (h : Inv s) {k : StopCaller} (hs : s.owner = .stopNative k)
    (a : LibcameraAnswer) : SafeStep s (s.stopNative k a) := by
  have hm : Calm s.owner := calm_of hs ⟨rfl, rfl⟩
  have hst := h.phase
  rw [hs] at hst
  unfold LibcameraCamera.stopNative
  split
  · refine .of ⟨h.sound, h.noFault, fun r hr => ?_, fun r hr => (nomatch hr), fun r hr => ?_,
      fun r hr => ?_, h.accepted, h.ring, fun _ => rfl, fun hc => ⟨rfl, (h.closed hc).2⟩,
      fun hn => (nomatch hst.symm.trans hn), hst, rfl⟩ rfl (.inl hm.built) rfl
    · refine (h.queued r hr).trans ?_
      rw [hm.queue]
      show _ ↔ r ∈ [] ∨ r ∈ s.leftBehind ++ s.cameraQueue ∨ none = some r ∨ r ∈ s.lost
      rw [List.mem_append]
      constructor
      · rintro (hr | hr | hr | hr)
        · exact .inr (.inl (.inr hr))
        · exact .inr (.inl (.inl hr))
        · cases hr
        · exact .inr (.inr (.inr hr))
      · rintro (hr | (hr | hr) | hr | hr)
        · cases hr
        · exact .inr (.inl hr)
        · exact .inl hr
        · cases hr
        · exact .inr (.inr (.inr hr))
    · refine ⟨List.not_mem_nil, fun hx => ?_⟩
      obtain hx | hx := List.mem_append.mp hx
      · exact (h.lost r hr).2 hx
      · exact (h.lost r hr).1 hx
    · obtain hr | hr | hr := hr
      · exact h.numbered r (.inl hr)
      · obtain hr | hr := List.mem_append.mp hr
        · exact h.numbered r (.inr (.inl hr))
        · exact h.numbered r (.inl (h.camera r hr))
      · exact h.numbered r (.inr (.inr hr))
  · exact safe_stopReturns h hm hst false k

/-- The ledger is cleared while the camera has nothing. -/
theorem inv_cleared (h : Inv s) (hc : s.cameraQueue = []) {p : LibcameraPhase}
    (hp : PhaseOk { s.record .discarded with requests := {}, owner := p } p) :
    Inv { s.record .discarded with requests := {}, owner := p } where
  sound := sound_empty
  noFault := rfl
  queued _ hr := nomatch hr
  camera r hr := by
    have hr : r ∈ s.cameraQueue := hr
    rw [hc] at hr
    exact absurd hr List.not_mem_nil
  lost := h.lost
  numbered r hr := h.numbered r (hr.imp_left fun hr => nomatch hr)
  accepted := accepts_snoc.mpr ⟨h.accepted, trivial⟩
  ring := by
    show completions.after (s.log ++ [.discarded]) = _
    rw [after_append]
    rfl
  inactive := h.inactive
  closed hh := ⟨(h.closed hh).1, rfl⟩
  streaming := h.streaming
  phase := hp

/-- Behind the barrier what exists may be destroyed: with nothing outstanding the camera has
returned it, and otherwise the camera is not disconnected. -/
theorem released_stopped (h : Inv s) (ha : s.nativeActive = false)
    (hf : builtRequests s.owner = []) (hd : s.disconnected = false ∨ s.requests.outstanding = 0) :
    Released s := by
  obtain hd | h0 := hd
  · refine fun r _ => ⟨?_, fun _ => hd⟩
    rw [h.inactive ha]
    exact List.not_mem_nil
  · refine released_of_outstanding h h0 fun r hr => ?_
    rw [hf] at hr
    exact absurd hr List.not_mem_nil

/-- Where the ledger is cleared, and where it stays. -/
theorem stopEnd_cases (s : LibcameraCamera) (k : StopCaller) :
    (s.disconnected = false ∨ s.requests.outstanding = 0) ∧
      s.stopEnd k = { s.record .discarded with requests := {} }.stopReturns true k ∨
    s.stopEnd k = s.stopReturns false k := by
  have hclear (t : LibcameraCamera) (h0 : t.requests.outstanding = 0) :
      t.clear = (true, { t.record .discarded with requests := {} }) := by
    rw [LibcameraCamera.clear, LibcameraRequests.clear, if_pos h0]
  rw [stopEnd, barrier]
  by_cases hd : s.disconnected = true
  · rw [if_pos hd]
    by_cases h0 : s.requests.outstanding = 0
    · refine .inl ⟨.inr h0, ?_⟩
      rw [hclear s h0]
    · refine .inr ?_
      rw [LibcameraCamera.clear, LibcameraRequests.clear, if_neg h0]
  · refine .inl ⟨.inl (Bool.eq_false_iff.mpr hd), ?_⟩
    rw [if_neg hd, hclear _ rfl]
    rfl

/-- The owner moves from a state in which what exists may be destroyed. -/
theorem SafeStep.trans_left {t : LibcameraCamera} (h : SafeStep t s') (hrel : Released s)
    (hb : t.buffers = s.buffers) (hc : t.cameraQueue = s.cameraQueue) : SafeStep s s' :=
  ⟨h.inv, .inr hrel, fun hn hne => hc ▸ h.buffers (hb ▸ hn) (hb ▸ hne)⟩

theorem safe_stopEnd (h : Inv s) {k : StopCaller} (hs : s.owner = .stopEnd k) :
    SafeStep s (s.stopEnd k) := by
  have hm : Calm s.owner := calm_of hs ⟨rfl, rfl⟩
  have hp := h.phase
  rw [hs] at hp
  obtain ⟨hst, ha⟩ := hp
  obtain ⟨hd, he⟩ | he := stopEnd_cases s k
  · have hinv := inv_cleared h (h.inactive ha) (p := s.owner) (by rw [hs]; exact ⟨hst, ha⟩)
    rw [he]
    exact (safe_stopReturns hinv hm hst true k).trans_left
      (released_stopped h ha hm.built hd) rfl rfl
  · rw [he]
    exact safe_stopReturns h hm hst false k

theorem safe_closing (h : Inv s) {c : CloseCaller} (hs : s.owner = .closing c) :
    SafeStep s (s.release.closeReturns c) := by
  have hm : Calm s.owner := calm_of hs ⟨rfl, rfl⟩
  have hp := h.phase
  rw [hs] at hp
  obtain ⟨hst, h0⟩ := hp
  have hrel : Released s := by
    refine released_of_outstanding h h0 fun r hr => ?_
    rw [hm.built] at hr
    exact absurd hr List.not_mem_nil
  have hc : s.cameraQueue = [] := List.eq_nil_iff_forall_not_mem.mpr fun r hr =>
    (hrel r (List.mem_append_left _ (h.camera r hr))).1 hr
  have hi := inv_cleared h hc (p := s.owner) (by rw [hs]; exact ⟨hst, rfl⟩)
  have hclear : s.clear.2 = { s.record .discarded with requests := {} } := by
    rw [LibcameraCamera.clear, LibcameraRequests.clear, if_pos h0]
  have hinv : Inv s.release := by
    rw [LibcameraCamera.release, hclear]
    refine ⟨hi.sound, hi.noFault, hi.queued, hi.camera, hi.lost, hi.numbered, hi.accepted, hi.ring,
      fun _ => hc, fun _ => ⟨rfl, rfl⟩, fun hn => (nomatch hst.symm.trans hn), ?_⟩
    show PhaseOk _ s.owner
    rw [hs]
    exact ⟨hst, rfl⟩
  have howner : s.release.owner = .closing c := by
    rw [LibcameraCamera.release, hclear]
    exact hs
  have hkept : SafeStep s.release (s.release.closeReturns c) := by
    cases c with
    | returns r => exact hinv.returns (calm_of howner ⟨rfl, rfl⟩) r
    | destroys => exact safe_destroy hinv rfl (calm_of howner ⟨rfl, rfl⟩).built
  exact ⟨hkept.inv, .inr hrel, fun _ _ => hc⟩

/-! ## The camera manager's thread -/

/-- The ledger knows a request that the camera can return. -/
theorem canReturn_pending (h : Inv s) {r : Nat} (hr : s.canReturn r = true) :
    s.requests.isPending r = true ∧ (r ∈ s.cameraQueue ∨ r ∈ s.leftBehind) := by
  rw [canReturn, Bool.and_eq_true, Bool.or_eq_true, Bool.and_eq_true, List.contains_iff_mem,
    List.contains_iff_mem, List.contains_iff_mem] at hr
  obtain ⟨-, hr | ⟨hr, ho⟩⟩ := hr
  · exact ⟨(h.queued r (h.camera r hr)).mpr (.inl hr), .inl hr⟩
  · exact ⟨(h.queued r ho).mpr (.inr (.inl hr)), .inr hr⟩

/-- What the camera returns is not on its way to it, nor lost. -/
theorem returned_apart (h : Inv s) {r : Nat} (hr : r ∈ s.cameraQueue ∨ r ∈ s.leftBehind) :
    beingQueued s.owner ≠ some r ∧ r ∉ s.lost := by
  have hp := h.phase
  constructor
  · intro hb
    have haway : Away s.requests.owners s.cameraQueue s.leftBehind s.lost r := by
      cases hs : s.owner with
      | handing q x taken =>
        rw [hs] at hb hp
        cases taken with
        | true => cases hb
        | false =>
          cases hb
          exact hp.2.2 rfl
      | refused q x =>
        rw [hs] at hb hp
        cases hb
        exact hp
      | idle | connecting | startGuard | creating | startControls | startNative | startQueue
      | marking | waiting | copying | requeueing | stopBegin | stopNative | stopEnd | closeWait
      | closing | destroyed =>
        rw [hs] at hb
        cases hb
    exact hr.elim haway.camera haway.left
  · exact fun hl => hr.elim (h.lost r hl).1 (h.lost r hl).2

/-- While a request can come back the owner relies on no more than its own requests. -/
theorem PhaseOk.returned (h : Inv s) {r : Nat} (hr : s.requests.isPending r = true)
    (hspare : ∀ {rs}, Spare s.requests rs → Spare s'.requests rs)
    (haway : ∀ {x}, Away s.requests.owners s.cameraQueue s.leftBehind s.lost x →
      Away s'.requests.owners s'.cameraQueue s'.leftBehind s'.lost x)
    (hh : s'.handle = s.handle) (ha : s'.nativeActive = s.nativeActive)
    (hst : s'.streaming = s.streaming) : PhaseOk s' s.owner := by
  have hout : s.requests.outstanding ≠ 0 := Nat.ne_of_gt (outstanding_pos h.sound hr)
  have hp := h.phase
  cases hs : s.owner with
  | creating => rw [hs] at hp; exact absurd hp.2.2.1 hout
  | startControls | startNative => rw [hs] at hp; exact absurd hp.2.1 hout
  | closing => rw [hs] at hp; exact absurd hp.2 hout
  | startGuard => rw [hs] at hp; exact hh.trans hp
  | startQueue | marking | copying | requeueing =>
    rw [hs] at hp
    exact ⟨ha.trans hp.1, hspare hp.2⟩
  | handing => rw [hs] at hp; exact ⟨ha.trans hp.1, hspare hp.2.1, fun hn => haway (hp.2.2 hn)⟩
  | refused => rw [hs] at hp; exact haway hp
  | waiting => rw [hs] at hp; exact ha.trans hp
  | stopNative | closeWait => rw [hs] at hp; exact hst.trans hp
  | stopEnd => rw [hs] at hp; exact ⟨hst.trans hp.1, ha.trans hp.2⟩
  | idle | connecting | stopBegin | destroyed => trivial

/-- A completion leaves the requests alone that are to be queued. -/
theorem Spare.completes {l l' : LibcameraRequests Nat} {r : Nat} {publish : Bool}
    (hl : Completed l l' r publish) (hr : l.isPending r = true) {rs : List Nat}
    (hp : Spare l rs) : Spare l' rs := by
  refine ⟨hp.distinct, fun x hx => hl.owners ▸ hp.owned x hx, fun x hx => ?_⟩
  obtain ⟨hn, hw⟩ := hp.idle x hx
  have hne : x ≠ r := fun he => by
    rw [he, hr] at hn
    cases hn
  rw [hl.isPending, hn, Bool.and_false, hl.waiting]
  refine ⟨rfl, ?_⟩
  split
  · exact fun hx => (List.mem_append.mp hx).elim hw fun hx => hne (List.mem_singleton.mp hx)
  · exact hw

theorem mem_filter_ne {xs : List Nat} {x r : Nat} : x ∈ xs.filter (· ≠ r) ↔ x ∈ xs ∧ x ≠ r := by
  rw [List.mem_filter, decide_eq_true_iff]

/-- The camera has returned a request, and the ledger has taken it out. -/
theorem inv_completes (h : Inv s) {r : Nat} (hr : s.canReturn r = true) {publish : Bool}
    {log : List LibcameraEvent} (callbackFailed : Bool) (hacc : completions.Accepts log)
    (hring : completions.after log =
      if publish then waitingRequests s.requests ++ [r] else waitingRequests s.requests) :
    Inv { s.giveBack r with requests := s.requests.complete r publish, callbackFailed, log } := by
  obtain ⟨hpend, hat⟩ := canReturn_pending h hr
  obtain ⟨hbe, hlost⟩ := returned_apart h hat
  have hl := completed_complete h.sound hpend publish
  have hgone {xs : List Nat} (x : Nat) (hx : x ∉ xs) : x ∉ xs.filter (· ≠ r) :=
    fun hm => hx (List.mem_of_mem_filter hm)
  refine ⟨hl.sound, hl.fault.trans h.noFault, fun x hx => ?_, fun x hx => ?_, fun x hx => ?_,
    fun x hx => ?_, hacc, hring.trans hl.waiting.symm, fun ha => ?_, fun hc => ?_, h.streaming,
    PhaseOk.returned (s := s) h hpend (fun hp => hp.completes hl hpend)
      (fun hp => ⟨hl.owners ▸ hp.owned, hgone _ hp.camera, hgone _ hp.left, hp.lost⟩) rfl rfl rfl⟩
  · show (s.requests.complete r publish).isPending x = true ↔
      x ∈ s.cameraQueue.filter (· ≠ r) ∨ x ∈ s.leftBehind.filter (· ≠ r) ∨
        beingQueued s.owner = some x ∨ x ∈ s.lost
    rw [hl.isPending, Bool.and_eq_true, decide_eq_true_iff, h.queued x (hl.owners ▸ hx),
      mem_filter_ne, mem_filter_ne]
    constructor
    · rintro ⟨hne, hx | hx | hx | hx⟩
      · exact .inl ⟨hx, hne⟩
      · exact .inr (.inl ⟨hx, hne⟩)
      · exact .inr (.inr (.inl hx))
      · exact .inr (.inr (.inr hx))
    · rintro (hx | hx | hx | hx)
      · exact ⟨hx.2, .inl hx.1⟩
      · exact ⟨hx.2, .inr (.inl hx.1)⟩
      · exact ⟨fun he => hbe (he ▸ hx), .inr (.inr (.inl hx))⟩
      · exact ⟨fun he => hlost (he ▸ hx), .inr (.inr (.inr hx))⟩
  · exact hl.owners ▸ h.camera x (List.mem_of_mem_filter hx)
  · exact ⟨hgone x (h.lost x hx).1, hgone x (h.lost x hx).2⟩
  · obtain hx | hx | hx := hx
    · exact h.numbered x (.inl (hl.owners ▸ hx))
    · exact h.numbered x (.inr (.inl (List.mem_of_mem_filter hx)))
    · exact h.numbered x (.inr (.inr hx))
  · show s.cameraQueue.filter _ = []
    rw [h.inactive ha]
    rfl
  · exact ⟨(h.closed hc).1, hl.owners.trans (h.closed hc).2⟩

theorem onRequestComplete_eq (s : LibcameraCamera) (r : Nat) (cancelled : Bool) :
    s.onRequestComplete r cancelled =
      { s with
        requests := s.requests.complete r (s.streaming && !cancelled)
        callbackFailed :=
          s.callbackFailed || (s.requests.complete r (s.streaming && !cancelled)).fault
        log := if s.streaming && !cancelled then s.log ++ [.completed r] else s.log } := by
  unfold onRequestComplete
  cases s.streaming && !cancelled with
  | true => rfl
  | false => rfl

theorem safe_completes (h : Inv s) {r : Nat} (hr : s.canReturn r = true) (cancelled : Bool) :
    SafeStep s ((s.giveBack r).onRequestComplete r cancelled) := by
  have hl := completed_complete h.sound (canReturn_pending h hr).1 (s.streaming && !cancelled)
  rw [onRequestComplete_eq]
  refine ⟨inv_completes h hr _ ?_ ?_, .inl fun x hx => ?_, fun _ hn => absurd rfl hn⟩
  · show completions.Accepts (if s.streaming && !cancelled then s.log ++ [.completed r] else s.log)
    split
    · exact accepts_snoc.mpr ⟨h.accepted, trivial⟩
    · exact h.accepted
  · show completions.after (if s.streaming && !cancelled then s.log ++ [.completed r] else s.log) =
      if s.streaming && !cancelled then _ else _
    split
    · rw [after_append, ← h.ring]
      rfl
    · exact h.ring
  · exact List.mem_append.mpr ((List.mem_append.mp hx).imp_left fun hx => hl.owners.symm ▸ hx)

theorem safe_completionThrows (h : Inv s) {r : Nat} (hr : s.canReturn r = true) :
    SafeStep s { s.giveBack r with callbackFailed := true, lost := s.lost ++ [r] } := by
  obtain ⟨hpend, hat⟩ := canReturn_pending h hr
  obtain ⟨hbe, -⟩ := returned_apart h hat
  have hown := owned_of_isPending h.sound hpend
  have hgone {xs : List Nat} (x : Nat) (hx : x ∉ xs) : x ∉ xs.filter (· ≠ r) :=
    fun hm => hx (List.mem_of_mem_filter hm)
  refine ⟨⟨h.sound, h.noFault, fun x hx => ?_, fun x hx => h.camera x (List.mem_of_mem_filter hx),
    fun x hx => ?_, fun x hx => ?_, h.accepted, h.ring, fun ha => ?_, h.closed, h.streaming,
    ?_⟩, .inl (List.Subset.refl _), fun _ hn => absurd rfl hn⟩
  · show s.requests.isPending x = true ↔ x ∈ s.cameraQueue.filter (· ≠ r) ∨
      x ∈ s.leftBehind.filter (· ≠ r) ∨ beingQueued s.owner = some x ∨ x ∈ s.lost ++ [r]
    rw [h.queued x hx, mem_filter_ne, mem_filter_ne, List.mem_append, List.mem_singleton]
    by_cases he : x = r
    · exact iff_of_true (he ▸ hat.imp_right .inl) (.inr (.inr (.inr (.inr he))))
    · simp only [ne_eq, he, not_false_eq_true, and_true, or_false]
  · obtain hx | hx := List.mem_append.mp hx
    · exact ⟨hgone x (h.lost x hx).1, hgone x (h.lost x hx).2⟩
    · exact ⟨fun hm => (mem_filter_ne.mp hm).2 (List.mem_singleton.mp hx),
        fun hm => (mem_filter_ne.mp hm).2 (List.mem_singleton.mp hx)⟩
  · obtain hx | hx | hx := hx
    · exact h.numbered x (.inl hx)
    · exact h.numbered x (.inr (.inl (List.mem_of_mem_filter hx)))
    · obtain hx | hx := List.mem_append.mp hx
      · exact h.numbered x (.inr (.inr hx))
      · exact h.numbered x (.inl (List.mem_singleton.mp hx ▸ hown))
  · show s.cameraQueue.filter _ = []
    rw [h.inactive ha]
    rfl
  · refine PhaseOk.returned (s := s) h hpend id (fun {x} hp => ?_) rfl rfl rfl
    refine ⟨hp.owned, hgone x hp.camera, hgone x hp.left, fun hx => ?_⟩
    obtain hx | hx := List.mem_append.mp hx
    · exact hp.lost hx
    · rw [List.mem_singleton.mp hx] at hp
      exact hat.elim hp.camera hp.left

/-! ## Steps and runs -/

theorem safe_connecting (h : Inv s) (hs : s.owner = .connecting) :
    SafeStep s ({ s with connected := true }.returns .succeeded) :=
  .of (h.moves ⟨rfl, rfl, rfl, rfl, rfl, .inr ⟨_, rfl⟩⟩ (by rw [hs]; rfl) id
    (fun hh => ⟨hh, (h.closed hh).1⟩) h.streaming trivial) rfl (.inl (by rw [hs]; rfl)) rfl

theorem safe_startGuard (h : Inv s) (hs : s.owner = .startGuard)
    (hg : ¬(s.nativeActive || s.requests.outstanding ≠ 0) = true) :
    SafeStep s { s with owner := .creating [] } := by
  have hh := h.phase
  rw [hs] at hh
  obtain ⟨ha, h0⟩ : s.nativeActive = false ∧ s.requests.outstanding = 0 := by simpa using hg
  refine h.goes (calm_of hs ⟨rfl, rfl⟩) (.creating []) rfl ⟨hh, ha, h0, ?_⟩
  exact ⟨List.nodup_nil, fun _ hr => (nomatch hr), fun _ hr => (nomatch hr),
    fun _ hr => (nomatch hr)⟩

theorem safe_startControls (h : Inv s) (hs : s.owner = .startControls) :
    SafeStep s { s with nativeActive := true, owner := .startNative } := by
  have hp := h.phase
  rw [hs] at hp
  obtain ⟨hh, h0, hw⟩ := hp
  exact .of (h.moves ⟨rfl, rfl, rfl, rfl, rfl, .inl rfl⟩ (by rw [hs]; rfl) (fun hn => nomatch hn)
    (fun hn => (nomatch hh.symm.trans hn)) (fun _ => rfl) ⟨rfl, h0, hw⟩) rfl
    (.inl (by rw [hs]; rfl)) rfl

theorem safe_ownerStep (h : Inv s) {a : LibcameraAnswer}
    (hstep : libcameraOwnerStep s a = some s') : SafeStep s s' := by
  have hp := h.phase
  unfold libcameraOwnerStep at hstep
  cases hs : s.owner with
  | idle | destroyed =>
    rw [hs] at hstep
    cases hstep
  | connecting =>
    simp only [hs] at hstep
    split at hstep <;> cases hstep
    · exact safe_connecting h hs
    · exact h.goes (calm_of hs ⟨rfl, rfl⟩) _ rfl trivial
  | startGuard =>
    simp only [hs] at hstep
    split at hstep <;> cases hstep
    · exact h.returns (calm_of hs ⟨rfl, rfl⟩) _
    · rename_i hg
      exact safe_startGuard h hs hg
  | creating built =>
    simp only [hs] at hstep
    cases hstep
    exact safe_createRequests h hs a
  | startControls =>
    simp only [hs] at hstep
    split at hstep <;> cases hstep
    · exact safe_startControls h hs
    · exact h.rollsBack (calm_of hs ⟨rfl, rfl⟩) _
  | startNative =>
    simp only [hs] at hstep
    cases hstep
    exact safe_startNative h hs a
  | startQueue rest =>
    rw [hs] at hp
    cases rest with
    | nil =>
      simp only [hs] at hstep
      cases hstep
      exact h.returns (calm_of hs ⟨rfl, rfl⟩) _
    | cons r rest =>
      simp only [hs] at hstep
      split at hstep <;> cases hstep
      · exact h.goes (calm_of hs ⟨rfl, rfl⟩) (.marking (.start rest) r) rfl hp
      · exact h.rollsBack (calm_of hs ⟨rfl, rfl⟩) _
  | marking q r =>
    simp only [hs] at hstep
    cases hstep
    exact safe_markRequest h hs
  | handing q r taken =>
    simp only [hs] at hstep
    exact safe_queueAnswers h hs hstep
  | refused q r =>
    simp only [hs] at hstep
    cases hstep
    exact safe_refused h hs
  | waiting =>
    simp only [hs] at hstep
    split at hstep
    · exact safe_readReady h hs hstep
    · split at hstep <;> cases hstep
      exact h.returns (calm_of hs ⟨rfl, rfl⟩) _
  | copying r =>
    simp only [hs] at hstep
    cases hstep
    exact safe_copied h hs a
  | requeueing r copied =>
    rw [hs] at hp
    simp only [hs] at hstep
    split at hstep <;> cases hstep
    · exact h.goes (calm_of hs ⟨rfl, rfl⟩) (.marking (.read copied) r) rfl hp
    · exact h.rollsBack (calm_of hs ⟨rfl, rfl⟩) _
  | stopBegin k =>
    simp only [hs] at hstep
    cases hstep
    exact safe_stopBegin h hs
  | stopNative k =>
    simp only [hs] at hstep
    cases hstep
    exact safe_stopNative h hs a
  | stopEnd k =>
    simp only [hs] at hstep
    cases hstep
    exact safe_stopEnd h hs
  | closeWait c =>
    rw [hs] at hp
    simp only [hs] at hstep
    split at hstep <;> cases hstep
    rename_i h0
    exact h.goes (calm_of hs ⟨rfl, rfl⟩) (.closing c) rfl ⟨hp, h0⟩
  | closing c =>
    simp only [hs] at hstep
    cases hstep
    exact safe_closing h hs

theorem safe_step (h : Inv s) {a : LibcameraAction} (hstep : libcameraStep s a = some s') :
    SafeStep s s' := by
  unfold libcameraStep at hstep
  cases a with
  | call c =>
    simp only at hstep
    split at hstep <;> cases hstep
    rename_i hs
    exact safe_call h hs c
  | owner a => exact safe_ownerStep h hstep
  | takes =>
    simp only at hstep
    split at hstep <;> cases hstep
    rename_i hs
    exact safe_takes h hs
  | completes r cancelled =>
    simp only at hstep
    split at hstep <;> cases hstep
    rename_i hr
    exact safe_completes h hr cancelled
  | completionThrows r =>
    simp only at hstep
    split at hstep <;> cases hstep
    rename_i hr
    exact safe_completionThrows h hr
  | disconnects =>
    simp only at hstep
    split at hstep <;> cases hstep
    exact ⟨h.moves ⟨rfl, rfl, rfl, rfl, rfl, .inl rfl⟩ rfl id (fun hh => ⟨hh, (h.closed hh).1⟩)
      h.streaming h.phase, .inl (List.Subset.refl _), fun _ hn => absurd rfl hn⟩

theorem inv_reachable (h : Reachable libcameraStep {} s) : Inv s :=
  h.invariant inv_initial fun _ _ _ h hs => (safe_step h hs).inv

/-! ## What holds of every run -/

/-- The request that `readFrame` holds is in no other place. -/
theorem held_idle (h : Inv s) {r : Nat} (hr : heldRequest s.owner = some r) :
    r ∈ s.requests.owners ∧ s.requests.isPending r = false ∧ r ∉ waitingRequests s.requests := by
  have hp := h.phase
  have hspare : ∃ rs, Spare s.requests (r :: rs) := by
    cases hs : s.owner with
    | copying x | requeueing x =>
      rw [hs] at hr hp
      cases hr
      exact ⟨_, hp.2⟩
    | marking q x =>
      rw [hs] at hr hp
      cases q with
      | start rest => cases hr
      | read copied =>
        cases hr
        exact ⟨_, hp.2⟩
    | idle | connecting | startGuard | creating | startControls | startNative | startQueue
    | handing | refused | waiting | stopBegin | stopNative | stopEnd | closeWait | closing
    | destroyed =>
      rw [hs] at hr
      cases hr
  obtain ⟨rs, hspare⟩ := hspare
  exact ⟨hspare.owned r List.mem_cons_self, hspare.idle r List.mem_cons_self⟩

theorem onePlace_of_inv (h : Inv s) (r : Nat) : ∃! p, InPlace s r p := by
  have hqueued : r ∈ queuedRequests s.requests → r ∉ waitingRequests s.requests :=
    fun hr => not_waiting_of_isPending h.sound ((mem_queuedRequests h.sound).mp hr)
  have hheld : heldRequest s.owner = some r →
      r ∉ queuedRequests s.requests ∧ r ∉ waitingRequests s.requests := by
    refine fun hr => ⟨fun hq => ?_, (held_idle h hr).2.2⟩
    have := (mem_queuedRequests h.sound).mp hq
    rw [(held_idle h hr).2.1] at this
    exact Bool.false_ne_true this
  by_cases hq : r ∈ queuedRequests s.requests
  · refine ⟨.queued, hq, fun p hp => ?_⟩
    cases p with
    | idle => exact absurd hq hp.1
    | queued => rfl
    | waiting => exact absurd hp (hqueued hq)
    | held => exact absurd hq (hheld hp).1
  by_cases hw : r ∈ waitingRequests s.requests
  · refine ⟨.waiting, hw, fun p hp => ?_⟩
    cases p with
    | idle => exact absurd hw hp.2.1
    | queued => exact absurd hp hq
    | waiting => rfl
    | held => exact absurd hw (hheld hp).2
  by_cases hr : heldRequest s.owner = some r
  · refine ⟨.held, hr, fun p hp => ?_⟩
    cases p with
    | idle => exact absurd hr hp.2.2
    | queued => exact absurd hp hq
    | waiting => exact absurd hp hw
    | held => rfl
  · refine ⟨.idle, ⟨hq, hw, hr⟩, fun p hp => ?_⟩
    cases p with
    | idle => rfl
    | queued => exact absurd hp hq
    | waiting => exact absurd hp hw
    | held => exact absurd hp hr

/-- What was completed since the ring was empty was handed over, or waits. -/
theorem completed_eq {pre part : List LibcameraEvent} (h : completions.Accepts (pre ++ part))
    (hpre : completions.after pre = []) (hpart : .discarded ∉ part) :
    completedRequests part = handedRequests part ++ completions.after (pre ++ part) := by
  induction part using List.reverseRecOn with
  | nil =>
    rw [List.append_nil, hpre]
    rfl
  | append_singleton part e ih =>
    rw [← List.append_assoc] at h ⊢
    obtain ⟨h, he⟩ := accepts_snoc.mp h
    have ih := ih h fun hm => hpart (List.mem_append_left _ hm)
    rw [after_append, completedRequests, handedRequests, List.filterMap_append,
      List.filterMap_append]
    change completedRequests part ++ _ = handedRequests part ++ _ ++ _
    rw [ih, List.append_assoc, List.append_assoc]
    congr 1
    cases e with
    | completed r => rfl
    | handed r =>
      obtain ⟨rest, hrest⟩ := List.head?_eq_some_iff.mp he
      show completions.after (pre ++ part) ++ [] =
        [r] ++ (completions.after (pre ++ part)).tail
      rw [hrest]
      exact List.append_nil _
    | discarded => exact absurd (List.mem_append_right part List.mem_cons_self) hpart
    | returned r => exact List.append_nil _

theorem inOrder_of_inv (h : Inv s) {pre part post : List LibcameraEvent}
    (hlog : s.log = pre ++ part ++ post) (hone : OneLedger pre part) :
    handedRequests part <+: completedRequests part := by
  have hacc := h.accepted
  rw [hlog] at hacc
  have hpre : completions.after pre = [] := by
    obtain rfl | ⟨p, rfl⟩ := hone.fresh
    · rfl
    · rw [after_append]
      rfl
  exact ⟨_, (completed_eq hacc.init hpre hone.kept).symm⟩

/-- The ledger of requests, over every run of the backend and its camera. -/
theorem libcamera_requests (h : Reachable libcameraStep {} s) : RequestProtocol s := by
  have hi := inv_reachable h
  refine ⟨fun r _ => onePlace_of_inv hi r, fun r hr => (held_idle hi hr).1, hi.sound.outstanding,
    fun r hr => ?_, hi.camera, room_of_sound hi.sound, hi.noFault,
    fun pre part post => inOrder_of_inv hi, fun a s' hstep r hr hn => ?_, fun a s' hstep => ?_⟩
  · rw [mem_queuedRequests hi.sound]
    exact hi.queued r hr
  · obtain hsub | hrel := (safe_step hi hstep).objects
    · exact absurd (hsub hr) hn
    · exact hrel r hr
  · exact (safe_step hi hstep).buffers

/-- The first request is completed before `queueRequest` of the camera answers, read and queued
again; then the camera is disconnected and stopped. -/
def disconnectedRun : List LibcameraAction :=
  [.call (.open (.allocated 2)), .owner .succeeded,
    .call .start, .owner .succeeded, .owner .succeeded, .owner .succeeded, .owner .succeeded,
    .owner .succeeded, .owner .succeeded,
    .owner .succeeded, .owner .succeeded, .takes, .completes 0 false, .owner .succeeded,
    .owner .succeeded, .owner .succeeded, .takes, .owner .succeeded, .owner .succeeded,
    .call .readFrame, .owner .succeeded, .owner .succeeded, .owner .succeeded, .owner .succeeded,
    .takes, .owner .succeeded,
    .disconnects, .call .stop, .owner .succeeded, .owner .succeeded, .owner .succeeded]

theorem libcamera_requests_disconnected : ∃ s, run libcameraStep {} disconnectedRun = some s ∧
    s.requests.outstanding = 2 ∧ s.leftBehind = [0, 1] ∧ handedRequests s.log = [0] ∧
    RequestProtocol s :=
  ⟨_, rfl, rfl, rfl, rfl, libcamera_requests ⟨disconnectedRun, rfl⟩⟩

end WSE.Proof.Tmr
