import WapitiStew.Framework.Lists
import WapitiStew.Spec.Wse.WorkerController

/-!
# Workers and their threads

`Sound` holds in every state, also where the creation of a thread has thrown: at most the
worker that was launched last exists, and the thread that the controller owns is its. It is
kept by `sound_step`.
-/

namespace WSE.Proof.Wse

open WSE.Framework WSE.Impl.Wse WSE.Spec.Wse

variable {s s' : WorkerController} {i w v : Nat} {c : WorkerCall} {r : ControllerResult}
  {ws ws' : List WorkerPhase}

/-- What the calls rely on: a stop that waits for a worker waits for the last of those that had been
launched when it was called, or all of them have ended. -/
structure CallOk (ws : List WorkerPhase) (c : WorkerCall) : Prop where
  launched : c.launched ≤ ws.length
  joins : ∀ w, c.phase = .stopJoin w → ∀ v < c.launched, v ≠ w → ws[v]? = some .ended

structure Sound (s : WorkerController) : Prop where
  latest : ∀ w, LiveWorker s w → w + 1 = s.workers.length ∧ s.running = true
  thread : ∀ w, s.thread = some w → w + 1 = s.workers.length
  calls : ∀ (i : Nat) (c : WorkerCall), s.calls[i]? = some c → CallOk s.workers c

/-- Workers that have ended stay so, and none goes. -/
structure Later (ws ws' : List WorkerPhase) : Prop where
  length : ws.length ≤ ws'.length
  ended : ∀ w : Nat, ws[w]? = some .ended → ws'[w]? = some .ended

theorem CallOk.later (h : CallOk ws c) (hl : Later ws ws') : CallOk ws' c :=
  ⟨Nat.le_trans h.launched hl.length, fun w hw v hv hne => hl.ended v (h.joins w hw v hv hne)⟩

/-- A call that does not wait in `stop`. -/
theorem CallOk.goes (h : CallOk ws c) {p : CallPhase} (hp : ∀ w, p ≠ .stopJoin w) :
    CallOk ws { c with phase := p } := ⟨h.launched, fun w hw => absurd hw (hp w)⟩

theorem hasEnded_iff : s.hasEnded w = true ↔ s.workers[w]? = some .ended := decide_eq_true_iff

theorem live_iff : LiveWorker s w ↔ w < s.workers.length ∧ s.workers[w]? ≠ some .ended := by
  rw [LiveWorker, Bool.eq_false_iff, ne_eq, hasEnded_iff]

theorem live_of_phase {p : WorkerPhase} (h : s.workers[w]? = some p) (hp : p ≠ .ended) :
    LiveWorker s w := by
  refine live_iff.mpr ⟨lt_of_getElem? h, fun he => hp ?_⟩
  exact Option.some.inj (h.symm.trans he)

theorem ended_of_not_live (hw : w < s.workers.length) (h : ¬LiveWorker s w) :
    s.workers[w]? = some .ended :=
  Classical.byContradiction fun hne => h (live_iff.mpr ⟨hw, hne⟩)

theorem later_append (ws : List WorkerPhase) (p : WorkerPhase) : Later ws (ws ++ [p]) :=
  ⟨by rw [List.length_append]; exact Nat.le_add_right _ _, fun _ h => getElem?_append_old p h⟩

/-- A worker that has not ended goes on. -/
theorem later_set {p q : WorkerPhase} (h : ws[w]? = some p) (hp : p ≠ .ended) :
    Later ws (ws.set w q) := by
  refine ⟨Nat.le_of_eq List.length_set.symm, fun v hv => ?_⟩
  have hne : w ≠ v := by
    rintro rfl
    exact hp (Option.some.inj (h.symm.trans hv))
  rw [List.getElem?_set_ne hne]
  exact hv

theorem body_of_inBody (h : s.inBody w = true) : s.workers[w]? = some .body := by
  simp only [WorkerController.inBody, Bool.and_eq_true, decide_eq_true_eq] at h
  exact h.1

theorem live_of_inBody (h : s.inBody w = true) : LiveWorker s w :=
  live_of_phase (body_of_inBody h) nofun

namespace Sound

theorem empty : Sound {} where
  latest _ h := absurd h.1 (Nat.not_lt_zero _)
  thread _ h := nomatch h
  calls _ _ h := nomatch h

/-- Workers from before the last one have ended. -/
theorem before (h : Sound s) (hv : v < s.workers.length) (hne : v + 1 ≠ s.workers.length) :
    s.workers[v]? = some .ended :=
  ended_of_not_live hv fun he => hne (h.latest v he).1

theorem goesTo {p : CallPhase} (h : Sound s) (hp : CallOk s.workers { c with phase := p }) :
    Sound (s.goesTo i c p) where
  latest := h.latest
  thread := h.thread
  calls j d hd := by
    obtain ⟨-, rfl⟩ | ⟨-, hd⟩ := getElem?_set_cases hd
    · exact hp
    · exact h.calls j d hd

theorem returns (h : Sound s) (hc : CallOk s.workers c) : Sound (s.returns i c r) :=
  goesTo (s := s.record _) ⟨h.latest, h.thread, h.calls⟩ (hc.goes fun _ => nofun)

theorem startFirst (h : Sound s) (hc : CallOk s.workers c) : Sound (s.startFirst i c) := by
  unfold WorkerController.startFirst
  split
  · exact h.returns hc
  · split
    · exact goesTo (s := { s with thread := none }) ⟨h.latest, nofun, h.calls⟩
        (hc.goes fun _ => nofun)
    · exact h.goesTo (hc.goes fun _ => nofun)

/-- A worker is launched while none exists. -/
theorem launches (h : Sound s) (hr : s.running = false) :
    Sound { s with stopRequested := false, running := true }.launch where
  latest w hw := by
    obtain ⟨hlt, he⟩ : w < (s.workers ++ [WorkerPhase.launched]).length ∧
      (s.workers ++ [WorkerPhase.launched])[w]? ≠ some .ended := live_iff.mp hw
    refine ⟨Classical.byContradiction fun hne => ?_, rfl⟩
    have hne : w + 1 ≠ (s.workers ++ [WorkerPhase.launched]).length := hne
    rw [List.length_append, List.length_singleton] at hlt hne
    have hlt : w < s.workers.length := by omega
    have hend : s.workers[w]? = some .ended := ended_of_not_live hlt fun hex =>
      absurd (hr.symm.trans (h.latest w hex).2) Bool.noConfusion
    exact he (getElem?_append_old _ hend)
  thread w hw := by
    cases hw
    show _ = (s.workers ++ [WorkerPhase.launched]).length
    rw [List.length_append]
    rfl
  calls j d hd := (h.calls j d hd).later (later_append _ _)

theorem startSecond (h : Sound s) (hc : CallOk s.workers c) (throws : Bool) :
    Sound (s.startSecond i c throws) := by
  unfold WorkerController.startSecond
  split
  · exact h.returns hc
  · next hrun =>
    have hr : s.running = false := by
      simp only [Bool.or_eq_true, not_or] at hrun
      exact Bool.eq_false_iff.mpr hrun.1
    split
    · refine returns (s := { s with stopRequested := false, running := true })
        ⟨fun w hw => ⟨(h.latest w hw).1, rfl⟩, h.thread, h.calls⟩ hc
    · exact (h.launches hr).returns (hc.later (later_append _ _))

theorem stopTaking (h : Sound s) (hc : CallOk s.workers c) : Sound (s.stopTaking i c) := by
  unfold WorkerController.stopTaking
  split
  · exact h.returns hc
  · next w ht =>
    split
    · exact h.returns hc
    · refine goesTo (s := { s.record (.waits i w) with thread := none })
        ⟨h.latest, nofun, h.calls⟩ ⟨hc.launched, fun v hv u hu hne => ?_⟩
      cases hv
      have hw := h.thread w ht
      have hle := hc.launched
      refine h.before (Nat.lt_of_lt_of_le hu hle) fun he => hne ?_
      omega

theorem proceed {throws : Bool} (h : Sound s) (hc : s.calls[i]? = some c)
    (hs : s.proceed i c throws = some s') : Sound s' := by
  have hok := h.calls i c hc
  have hrec : ∀ e, Sound (s.record e) := fun e => ⟨h.latest, h.thread, h.calls⟩
  unfold WorkerController.proceed at hs
  split at hs
  · exact Option.some.inj hs ▸ h.startFirst hok
  · obtain ⟨-, he⟩ := Option.ite_none_right_eq_some.mp hs
    cases he
    exact (hrec _).goesTo (hok.goes fun _ => nofun)
  · exact Option.some.inj hs ▸ h.startSecond hok throws
  · cases hs
    exact returns (s := s.requestStop i) ⟨h.latest, h.thread, h.calls⟩ hok
  · cases hs
    exact goesTo (s := s.requestStop i) ⟨h.latest, h.thread, h.calls⟩ (hok.goes fun _ => nofun)
  · exact Option.some.inj hs ▸ h.stopTaking hok
  · obtain ⟨-, he⟩ := Option.ite_none_right_eq_some.mp hs
    cases he
    exact (hrec _).returns hok
  · cases hs

theorem call (h : Sound s) (caller : Option Nat) (d : ControllerCall) :
    Sound (s.call caller d) := by
  have hnew : ∀ p, (∀ w, p ≠ .stopJoin w) → Sound { s.record (.called s.calls.length caller d) with
      calls := s.calls ++ [{ caller, launched := s.workers.length, phase := p }] } := by
    intro p hp
    refine ⟨h.latest, h.thread, fun j e he => ?_⟩
    obtain he | ⟨-, rfl⟩ := getElem?_append_cases he
    · exact h.calls j e he
    · exact ⟨Nat.le_refl _, fun w hw => absurd hw (hp w)⟩
  unfold WorkerController.call
  split
  · exact hnew _ fun _ => nofun
  · have ht := hnew (.returned (.started false)) fun _ => nofun
    exact ⟨ht.latest, ht.thread, ht.calls⟩
  · exact hnew _ fun _ => nofun
  · exact hnew _ fun _ => nofun

/-- The worker that exists goes on. -/
theorem works {p q : WorkerPhase} (h : Sound s) (hw : s.workers[w]? = some p) (hp : p ≠ .ended) :
    ∀ v, v < s.workers.length → (s.workers.set w q)[v]? ≠ some .ended →
      v + 1 = s.workers.length ∧ s.running = true := by
  intro v hv hne
  refine h.latest v (live_iff.mpr ⟨hv, fun he => hne ?_⟩)
  exact (later_set hw hp).ended v he

end Sound

theorem sound_step {a : WorkerAction} (h : Sound s) (hs : workerStep s a = some s') :
    Sound s' := by
  cases a with
  | call caller d =>
    cases caller with
    | none => exact Option.some.inj hs ▸ h.call none d
    | some w =>
      obtain ⟨-, he⟩ := Option.ite_none_right_eq_some.mp hs
      exact Option.some.inj he ▸ h.call (some w) d
  | proceed i throws =>
    obtain ⟨c, hc, hs⟩ := Option.bind_eq_some_iff.mp hs
    exact h.proceed hc hs
  | begins w =>
    obtain ⟨hw, he⟩ := Option.ite_none_right_eq_some.mp hs
    cases he
    refine ⟨fun v hv => ?_, fun v hv => ?_, fun j c hc => ?_⟩
    · obtain ⟨hlt, hne⟩ := live_iff.mp hv
      rw [List.length_set] at hlt
      exact List.length_set.symm ▸ h.works hw nofun v hlt hne
    · exact List.length_set.symm ▸ h.thread v hv
    · exact (h.calls j c hc).later (later_set hw nofun)
  | works w =>
    obtain ⟨-, he⟩ := Option.ite_none_right_eq_some.mp hs
    cases he
    exact ⟨h.latest, h.thread, h.calls⟩
  | ends w =>
    obtain ⟨hb, he⟩ := Option.ite_none_right_eq_some.mp hs
    cases he
    have hw := body_of_inBody hb
    refine ⟨fun v hv => ?_, fun v hv => ?_, fun j c hc => ?_⟩
    · obtain ⟨hlt, hne⟩ := live_iff.mp hv
      rw [List.length_set] at hlt
      have hlast := (h.works hw nofun v hlt hne).1
      have hlast' := (h.latest w (live_of_inBody hb)).1
      have hvw : v = w := by omega
      subst hvw
      exact absurd (List.getElem?_set_self hlt) hne
    · exact List.length_set.symm ▸ h.thread v hv
    · exact (h.calls j c hc).later (later_set hw nofun)

theorem sound (h : Reachable workerStep {} s) : Sound s :=
  h.invariant .empty fun _ _ _ hs ht => sound_step hs ht

end WSE.Proof.Wse
