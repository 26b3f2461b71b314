import WapitiStew.Proof.Tmr.SessionHistory

/-!
# The callback protocol

Histories that the monitor `callbacks` accepts keep to `HistoryProtocol`: each
part of it is a fact that holds after one event and is kept up to another, which
is then allowed or not (`Accepts.between`). With `Control` and `Recorded` along
every run this gives `session_protocol`.
-/

namespace WSE.Proof.Tmr

open WSE.Framework WSE.Framework.Monitor WSE.Impl.Tmr WSE.Spec.Tmr

/-! ## Accepted histories -/

section Histories

variable {log : List SessionEvent}

theorem producedFrames_snoc (log : List SessionEvent) (e : SessionEvent) :
    producedFrames (log ++ [e]) = producedFrames log ++ producedFrames [e] :=
  List.filterMap_append

theorem delivered_snoc (log : List SessionEvent) (e : SessionEvent) :
    delivered (log ++ [e]) = delivered log ++ delivered [e] :=
  List.filterMap_append

theorem producedFrames_eq (h : callbacks.Accepts log) :
    producedFrames log = List.range (callbacks.after log).produced := by
  induction log using List.reverseRecOn with
  | nil => rfl
  | append_singleton log e ih =>
    obtain ⟨h, he⟩ := accepts_snoc.mp h
    rw [producedFrames_snoc, after_append, ih h]
    cases e with
    | produced n =>
      obtain rfl : n = _ := he
      exact List.range_succ.symm
    | invoked d =>
      cases d with
      | frame | error => exact List.append_nil _
    | startReturned r =>
      cases r with
      | started | refused | failed | threw => exact List.append_nil _
    | run | returned | ended | stopReturned => exact List.append_nil _

/-- The frames delivered are below `next`, which is not above what was produced. -/
theorem delivered_sublist (h : callbacks.Accepts log) :
    (delivered log).Sublist (List.range (callbacks.after log).next) ∧
      (callbacks.after log).next ≤ (callbacks.after log).produced := by
  induction log using List.reverseRecOn with
  | nil => exact ⟨List.Sublist.refl _, Nat.le_refl _⟩
  | append_singleton log e ih =>
    obtain ⟨h, he⟩ := accepts_snoc.mp h
    obtain ⟨hsub, hle⟩ := ih h
    rw [delivered_snoc, after_append]
    have hnone (hd : delivered [e] = []) :
        (delivered log ++ delivered [e]).Sublist (List.range (callbacks.after log).next) := by
      rw [hd, List.append_nil]
      exact hsub
    cases e with
    | produced n =>
      obtain rfl : n = _ := he
      exact ⟨hnone rfl, Nat.le_succ_of_le hle⟩
    | invoked d =>
      cases d with
      | frame n =>
        obtain ⟨-, -, -, -, hn, hlt⟩ := he
        refine ⟨?_, hlt⟩
        show (delivered log ++ [n]).Sublist (List.range (n + 1))
        rw [List.range_succ]
        exact (hsub.trans (List.range_sublist.mpr hn)).append (List.Sublist.refl _)
      | error => exact ⟨hnone rfl, hle⟩
    | startReturned r =>
      cases r with
      | started | refused | failed | threw => exact ⟨hnone rfl, hle⟩
    | run | returned | ended | stopReturned => exact ⟨hnone rfl, hle⟩

/-- A callback runs until it returns. -/
theorem allReturned (h : callbacks.Accepts log) (hin : (callbacks.after log).inCall = false) :
    AllReturned log := by
  rintro pre d post rfl
  by_contra hnone
  have hmid : ∀ e ∈ post, ∀ t : SessionTrack, t.inCall = true → (t.step e).inCall = true := by
    intro e he t ht
    cases e with
    | returned threw => exact absurd ⟨threw, he⟩ hnone
    | invoked d => cases d <;> rfl
    | startReturned r => cases r <;> exact ht
    | run | produced | ended | stopReturned => exact ht
  have hafter : (callbacks.after (pre ++ [.invoked d] ++ post)).inCall = true := by
    refine after_induction (P := fun t : SessionTrack => t.inCall = true) ?_ hmid
    rw [after_append]
    cases d <;> rfl
  rw [List.append_assoc] at hafter
  exact Bool.false_ne_true (hin.symm.trans hafter)

/-- Only a new run takes back that a run is over, or stopped. -/
theorem over_kept {mid : List SessionEvent} (h : .run ∉ mid) :
    ∀ e ∈ mid, ∀ t : SessionTrack, t.finished = true → (t.step e).finished = true := by
  intro e he t ht
  cases e with
  | run => exact absurd he h
  | invoked d => cases d <;> first | exact ht | rfl
  | returned threw =>
    show (t.finished || threw) = true
    rw [ht, Bool.true_or]
  | startReturned r => cases r <;> exact ht
  | produced | ended | stopReturned => exact ht

theorem stopped_kept {mid : List SessionEvent} (h : .run ∉ mid) :
    ∀ e ∈ mid, ∀ t : SessionTrack, t.stopped = true → (t.step e).stopped = true := by
  intro e he t ht
  cases e with
  | run => exact absurd he h
  | invoked d => cases d <;> exact ht
  | startReturned r => cases r <;> exact ht
  | stopReturned => rfl
  | produced | returned | ended => exact ht

theorem live_kept {mid : List SessionEvent} (h : .ended ∉ mid)
    (hthrew : .startReturned .threw ∉ mid) :
    ∀ e ∈ mid, ∀ t : SessionTrack, t.live = true → (t.step e).live = true := by
  intro e he t ht
  cases e with
  | ended => exact absurd he h
  | startReturned r =>
    cases r with
    | threw => exact absurd he hthrew
    | started | refused | failed => exact ht
  | invoked d => cases d <;> exact ht
  | run => rfl
  | produced | returned | stopReturned => exact ht

theorem not_invoked_of_over {t : SessionTrack} {d : Delivery} (h : t.finished = true) :
    ¬t.allowed (.invoked d) :=
  fun ha => Bool.false_ne_true (ha.2.2.1.symm.trans h)

theorem historyProtocol (h : callbacks.Accepts log) : HistoryProtocol log where
  numbered := by rw [producedFrames_eq h, List.length_range]
  ordered := by
    obtain ⟨hsub, hle⟩ := delivered_sublist h
    rw [producedFrames_eq h]
    exact hsub.trans (List.range_sublist.mpr hle)
  stopped := by
    rintro pre post rfl
    refine ⟨allReturned h.init h.allowed.2, ?_⟩
    rintro mid d rest rfl
    by_contra hrun
    obtain ⟨t, ht, hd⟩ := h.between (P := fun t => t.stopped = true) rfl (stopped_kept hrun)
    exact Bool.false_ne_true (hd.2.2.2.1.symm.trans ht)
  noTimeout hin := by
    obtain ⟨pre, post, rfl⟩ := List.append_of_mem hin
    exact h.allowed.2.2.2.2 rfl
  lastDelivery := by
    rintro pre d mid e post rfl hrun
    refine ⟨?_, fun hthrew => ?_⟩
    · cases d with
      | frame n => exact ⟨n, rfl⟩
      | error code =>
        obtain ⟨t, ht, hd⟩ := h.between (P := fun t => t.finished = true) rfl (over_kept hrun)
        exact absurd hd (not_invoked_of_over ht)
    · obtain ⟨before, between, rfl⟩ := List.append_of_mem hthrew
      have h' : callbacks.Accepts ((pre ++ .invoked d :: before) ++
          .returned true :: (between ++ .invoked e :: post)) := by
        simpa only [List.append_assoc, List.cons_append] using h
      have hrun' : .run ∉ between := fun hin =>
        hrun (List.mem_append_right _ (List.mem_cons_of_mem _ hin))
      obtain ⟨t, ht, hd⟩ := h'.between (P := fun t => t.finished = true) (Bool.or_true _)
        (over_kept hrun')
      exact not_invoked_of_over ht hd
  oneRun := by
    rintro pre mid post rfl
    by_contra hnone
    rw [not_or] at hnone
    obtain ⟨t, ht, hrun⟩ := h.between (P := fun t => t.live = true) rfl
      (live_kept hnone.1 hnone.2)
    exact Bool.false_ne_true (hrun.1.symm.trans ht)

end Histories

/-! ## Runs of the session -/

variable {s s' : CameraSession}

theorem Control.refused (h : Control s) (hj : s.joinable = false) (empty : Bool) :
    s.start empty = s.startReturns .refused := by
  have halive : alive s.worker = true := by
    simp only [CameraSession.joinable, Bool.or_eq_false_iff, decide_eq_false_iff_not] at hj
    cases hw : s.worker with
    | none => exact absurd hw hj.2
    | finished => exact absurd hw hj.1
    | waiting | top | locking | locked | reading | unlocked | delivering | inCallback | ending =>
      rfl
  have hatt : s.attached = true := h.attached fun hw => by rw [hw] at halive; cases halive
  unfold CameraSession.start
  split
  · rfl
  · rw [hatt, h.active halive]
    rfl

/-- If the step is a `start` that fails or throws, it leaves no worker and no stream. -/
def FailsClean (s s' : CameraSession) : Prop :=
  ∀ r, s'.log = s.log ++ [.startReturned r] → r = .failed ∨ r = .threw →
    s'.worker = .none ∧ s'.attached = false ∧ s'.isStreaming = false

theorem failsClean_silent (hlog : s'.log = s.log) : FailsClean s s' := by
  intro r hr
  rw [hlog] at hr
  simp at hr

theorem failsClean_other {e : SessionEvent} (hlog : s'.log = s.log ++ [e])
    (he : e ≠ .startReturned .failed ∧ e ≠ .startReturned .threw) : FailsClean s s' := by
  intro r hr hbad
  rw [hlog] at hr
  obtain rfl : e = .startReturned r := by simpa using hr
  obtain rfl | rfl := hbad
  · exact absurd rfl he.1
  · exact absurd rfl he.2

theorem failsClean_clean (h : s'.worker = .none ∧ s'.attached = false ∧ s'.isStreaming = false) :
    FailsClean s s' := fun _ _ _ => h

theorem Control.ownerStep_failsClean (h : Control s) {a : OwnerAnswer}
    (hs : Impl.Tmr.ownerStep s a = some s') : FailsClean s s' := by
  unfold Impl.Tmr.ownerStep at hs
  have ho := h.owner
  split at hs
  · cases hs
  · cases hs
  all_goals
    rename_i hp
    rw [hp] at ho
  -- startReap
  · simp only [Option.ite_none_right_eq_some, Option.some.injEq] at hs
    obtain ⟨-, rfl⟩ := hs
    exact failsClean_silent rfl
  -- startCheck
  · split at hs
    · cases hs
      exact failsClean_other rfl (by decide)
    rename_i hcheck
    split at hs
    · cases hs
      simp only [Bool.or_eq_true, not_or, Bool.not_eq_true] at hcheck
      exact failsClean_clean ⟨ho.1, ho.2, hcheck.2⟩
    · cases hs
      exact failsClean_silent rfl
  -- startBackend
  · split at hs
    · cases hs
      exact failsClean_other rfl (by decide)
    · cases hs
      exact failsClean_clean ho
    · cases hs
      exact failsClean_silent rfl
  -- startThrew
  · cases hs
    exact failsClean_clean ⟨ho.1, ho.2, rfl⟩
  -- launching
  · split at hs
    · cases hs
      exact failsClean_silent rfl
    · cases hs
      exact failsClean_silent rfl
  -- launchStop
  · split at hs
    · cases hs
      exact failsClean_clean ⟨ho.1, rfl, rfl⟩
    · cases hs
      exact failsClean_silent rfl
    · cases hs
      exact failsClean_silent rfl
  -- launchClose
  · cases hs
    exact failsClean_clean ⟨ho.1, rfl, rfl⟩
  -- publishing
  · cases hs
    exact failsClean_other rfl (by decide)
  -- stopWaiting
  · split at hs
    · cases hs
      exact failsClean_silent rfl
    · simp only [Option.ite_none_right_eq_some, Option.some.injEq] at hs
      obtain ⟨-, rfl⟩ := hs
      exact failsClean_silent rfl
  -- stopBackend
  · dsimp only at hs
    split at hs
    · split at hs
      · cases hs
        exact failsClean_silent rfl
      · cases hs
        exact failsClean_silent rfl
      · cases hs
        exact failsClean_silent rfl
    · cases hs
      exact failsClean_silent rfl
  -- stopThrew
  · cases hs
    exact failsClean_silent rfl
  -- stopReap
  · simp only [Option.ite_none_right_eq_some, Option.some.injEq] at hs
    obtain ⟨-, rfl⟩ := hs
    exact failsClean_other rfl (by decide)
  -- closing
  · cases hs
    by_cases hb : s.present = true
    · rw [if_pos hb]
      exact failsClean_silent rfl
    · rw [if_neg hb]
      exact failsClean_silent rfl

theorem callbackStep_failsClean {d : Delivery} {p : CallbackPhase} {a : WorkerAnswer}
    (hs : callbackStep s d a p = some s') : FailsClean s s' := by
  unfold Impl.Tmr.callbackStep at hs
  split at hs
  · cases hs
  · split at hs
    · cases hs
      exact failsClean_silent rfl
    · simp only [Option.ite_none_right_eq_some, Option.some.injEq] at hs
      obtain ⟨-, rfl⟩ := hs
      exact failsClean_silent rfl
  · dsimp only at hs
    split at hs
    · cases hs
    split at hs
    · split at hs <;> cases hs <;> exact failsClean_silent rfl
    · cases hs
      exact failsClean_silent rfl
  · cases hs
    exact failsClean_silent rfl
  · cases hs
    by_cases hb : s.present = true
    · rw [if_pos hb]
      exact failsClean_silent rfl
    · rw [if_neg hb]
      exact failsClean_silent rfl

theorem workerStep_failsClean {a : WorkerAnswer} (hs : workerStep s a = some s') :
    FailsClean s s' := by
  unfold Impl.Tmr.workerStep at hs
  split at hs
  · cases hs
  · cases hs
  -- waiting
  · simp only [Option.ite_none_right_eq_some, Option.some.injEq] at hs
    obtain ⟨-, rfl⟩ := hs
    exact failsClean_silent rfl
  -- top
  · cases hs
    exact failsClean_silent rfl
  -- locking
  · simp only [Option.ite_none_right_eq_some, Option.some.injEq] at hs
    obtain ⟨-, rfl⟩ := hs
    exact failsClean_silent rfl
  -- locked
  · split at hs <;> cases hs <;> exact failsClean_silent rfl
  -- reading
  · cases hs
    cases a.read with
    | frame => exact failsClean_other rfl ⟨by simp, by simp⟩
    | failed | badAlloc | threw => exact failsClean_silent rfl
  -- unlocked
  · split at hs
    · cases hs
      exact failsClean_silent rfl
    split at hs <;> cases hs <;> exact failsClean_silent rfl
  -- delivering
  · split at hs
    · cases hs
      exact failsClean_silent rfl
    · cases hs
      exact failsClean_other rfl ⟨by simp, by simp⟩
  -- inCallback
  · exact callbackStep_failsClean hs
  -- ending
  · cases hs
    exact failsClean_other rfl (by decide)

theorem callbackCall_failsClean {c : CallbackCall} (hs : callbackCall s c = some s') :
    FailsClean s s' := by
  unfold Impl.Tmr.callbackCall at hs
  split at hs
  · cases c with
    | start =>
      dsimp only at hs
      split at hs <;> cases hs <;> exact failsClean_silent rfl
    | stop | close =>
      cases hs
      exact failsClean_silent rfl
    | «return» | throw =>
      cases hs
      exact failsClean_other rfl ⟨by simp, by simp⟩
  · cases hs

theorem Control.step_failsClean (h : Control s) {a : SessionAct}
    (hs : sessionStep s a = some s') : FailsClean s s' := by
  cases a with
  | start empty =>
    simp only [sessionStep, Option.ite_none_right_eq_some, Option.some.injEq] at hs
    obtain ⟨-, rfl⟩ := hs
    unfold CameraSession.start
    split
    · exact failsClean_other rfl (by decide)
    split
    · exact failsClean_other rfl (by decide)
    · exact failsClean_silent rfl
  | ending k =>
    simp only [sessionStep, Option.ite_none_right_eq_some, Option.some.injEq] at hs
    obtain ⟨-, rfl⟩ := hs
    exact failsClean_silent rfl
  | owner a => exact h.ownerStep_failsClean hs
  | worker a => exact workerStep_failsClean hs
  | callback c => exact callbackCall_failsClean hs
  | lost stillOpen =>
    cases hs
    exact failsClean_silent rfl

theorem sessionProtocol_of (hc : Control s) (hr : Recorded s) : SessionProtocol s where
  history := historyProtocol hr.accepts
  refused := hc.refused
  restarted := hc.restarted
  failedStart _ _ r hs := hc.step_failsClean hs r
  exclusive := hc.exclusive

/-- In every run of the owner, the worker and the user code in callbacks, whatever the backend
answers, the session keeps to the callback protocol. -/
theorem session_protocol (present isOpen isStreaming : Bool) (acts : List SessionAct)
    (hrun : run sessionStep { present := present, isOpen := isOpen, isStreaming := isStreaming }
      acts = some s) : SessionProtocol s := by
  have hstep (t : CameraSession) (a : SessionAct) (t' : CameraSession)
      (h : Control t ∧ Recorded t) (hs : sessionStep t a = some t') : Control t' ∧ Recorded t' :=
    ⟨h.1.step hs, h.2.step h.1 hs⟩
  obtain ⟨hc, hr⟩ := run_invariant hstep
    ⟨control_initial present isOpen isStreaming, recorded_initial present isOpen isStreaming⟩ hrun
  exact sessionProtocol_of hc hr

/-- A run with a frame, a timeout and an error, stopped from outside. -/
def stoppedRun : List SessionAct :=
  [.start false, .owner {}, .owner {}, .owner {}, .owner {}, .owner {},
    .worker {}, .worker {}, .worker {}, .worker {}, .worker {}, .worker {}, .worker {},
    .callback .return,
    .worker {}, .worker {}, .worker {}, .worker { read := .failed .timedOut }, .worker {},
    .worker {}, .worker {}, .worker {}, .worker { read := .failed .deviceDisconnected }, .worker {},
    .worker {}, .callback .start, .callback .return,
    .ending .stop, .owner {}, .owner {}, .worker {}, .owner {}]

theorem session_protocol_stopped :
    ∃ s, run sessionStep { present := true, isOpen := true, isStreaming := false } stoppedRun =
        some s ∧
      s.log = [.run, .startReturned .started, .produced 0, .invoked (.frame 0), .returned false,
        .invoked (.error .deviceDisconnected), .returned false, .ended, .stopReturned] ∧
      SessionProtocol s := by
  refine ⟨Option.get _ (by decide +kernel), (Option.some_get _).symm, by decide +kernel, ?_⟩
  exact session_protocol true true false stoppedRun (Option.some_get _).symm

/-- The callback has called `close`, and its `stop` is done; then the owner calls `stop`. -/
def closingRun : List SessionAct :=
  [.start false, .owner {}, .owner {}, .owner {}, .owner {}, .owner {},
    .worker {}, .worker {}, .worker {}, .worker {}, .worker {}, .worker {}, .worker {},
    .callback .close, .worker {}, .worker { backend := .failed }, .ending .stop, .owner {}]

/-- A `close` in the callback closes the backend without its mutex, while the owner stops it. -/
theorem close_overlaps_stop :
    ∃ s, run sessionStep { present := true, isOpen := true, isStreaming := false } closingRun =
        some s ∧
      ownerUses s.owner = true ∧ (workerUses s.worker || callbackCloses s.worker) = true := by
  exact ⟨Option.get _ (by decide +kernel), (Option.some_get _).symm, by decide +kernel,
    by decide +kernel⟩

end WSE.Proof.Tmr
