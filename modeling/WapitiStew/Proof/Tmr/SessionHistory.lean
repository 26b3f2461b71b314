import WapitiStew.Proof.Tmr.SessionControl

/-!
# The history of a camera session

`Recorded` ties the session to what the monitor `callbacks` knows after its
history, and says that the monitor has allowed every event of it. Most steps record
nothing and move a worker that stays where it is for the monitor
(`Recorded.silent`); the others record one event (`Recorded.records`).
-/

namespace WSE.Proof.Tmr

open WSE.Framework WSE.Impl.Tmr WSE.Spec.Tmr

/-- A callback runs. -/
def invoking : WorkerPhase → Bool
  | .inCallback _ _ => true
  | _ => false

/-- The run has its callback state, and no thread yet. -/
def launching : OwnerPhase → Bool
  | .launching | .launchStop | .launchClose => true
  | _ => false

/-- The worker has nothing to deliver any more, the callback it is in apart. -/
def spent : WorkerPhase → Bool
  | .none | .ending | .finished | .inCallback (.error _) _ => true
  | _ => false

/-- The run has a worker, or is about to get one. -/
def live (s : CameraSession) : Bool := alive s.worker || launching s.owner

/-- No delivery is left in the run. -/
def isOver (s : CameraSession) : Prop := spent s.worker = true ∧ launching s.owner = false

/-- What the worker holds may be delivered. -/
def Pending (t : SessionTrack) : WorkerPhase → Prop
  | .unlocked (.frame n) | .delivering (.frame n) => t.next ≤ n ∧ n < t.produced
  | .delivering (.error code) => code ≠ .timedOut
  | _ => True

/-- What the monitor knows is so. -/
structure Tracks (t : SessionTrack) (s : CameraSession) : Prop where
  produced : t.produced = s.produced
  next : t.next ≤ t.produced
  inCall : t.inCall = invoking s.worker
  live : t.live = live s
  finished : t.finished = true → isOver s
  stopped : t.stopped = true → t.live = false
  pending : Pending t s.worker

structure Recorded (s : CameraSession) : Prop where
  accepts : callbacks.Accepts s.log
  tracks : Tracks (callbacks.after s.log) s

theorem recorded_initial (present isOpen isStreaming : Bool) :
    Recorded { present := present, isOpen := isOpen, isStreaming := isStreaming } :=
  ⟨callbacks.accepts_nil, rfl, Nat.le_refl _, rfl, rfl, fun h => absurd h Bool.false_ne_true,
    fun h => absurd h Bool.false_ne_true, trivial⟩

variable {s s' : CameraSession}

/-- A step that records nothing. -/
theorem Recorded.silent (h : Recorded s) (hlog : s'.log = s.log) (hp : s'.produced = s.produced)
    (hin : invoking s'.worker = invoking s.worker) (hlive : live s' = live s)
    (hover : isOver s → isOver s')
    (hpend : Pending (callbacks.after s.log) s'.worker) : Recorded s' := by
  have ht := h.tracks
  refine ⟨by rw [hlog]; exact h.accepts, ?_⟩
  rw [hlog]
  exact ⟨ht.produced.trans hp.symm, ht.next, ht.inCall.trans hin.symm, ht.live.trans hlive.symm,
    fun h1 => hover (ht.finished h1), ht.stopped, hpend⟩

/-- A step that records an event which is allowed. -/
theorem Recorded.records (h : Recorded s) {e : SessionEvent} (hlog : s'.log = s.log ++ [e])
    (hok : SessionTrack.allowed (callbacks.after s.log) e)
    (ht : Tracks ((callbacks.after s.log).step e) s') : Recorded s' := by
  refine ⟨?_, ?_⟩
  · rw [hlog]
    exact Monitor.accepts_snoc.mpr ⟨h.accepts, hok⟩
  · rw [hlog, Monitor.after_append]
    exact ht

/-! ## Steps of the owner -/

/-- The owner moves, for the monitor not at all. -/
theorem Recorded.ownerMoves (h : Recorded s) (hw : s'.worker = s.worker) (hlog : s'.log = s.log)
    (hp : s'.produced = s.produced) (hl : launching s'.owner = launching s.owner) :
    Recorded s' := by
  refine h.silent hlog hp (by rw [hw]) (by simp only [live, hw, hl]) ?_
    (by rw [hw]; exact h.tracks.pending)
  simp only [isOver, hw, hl, imp_self]

/-- A `start` ends: with a worker, or without one and by an exception. -/
theorem Recorded.startReturns (h : Recorded s) {r : StartResult} (hw : s'.worker = s.worker)
    (hlog : s'.log = s.log ++ [.startReturned r]) (hp : s'.produced = s.produced)
    (hl : launching s'.owner = false)
    (hr : launching s.owner = false ∧ r ≠ .threw ∨ alive s.worker = false ∧ r = .threw) :
    Recorded s' := by
  have ht := h.tracks
  refine h.records hlog trivial ?_
  have hover : isOver s → isOver s' := fun h1 => ⟨by rw [hw]; exact h1.1, hl⟩
  have hpend : Pending (callbacks.after s.log) s'.worker := by
    rw [hw]
    exact ht.pending
  obtain ⟨hn, hr⟩ | ⟨hn, rfl⟩ := hr
  · have hsame : (callbacks.after s.log).step (.startReturned r) = callbacks.after s.log := by
      cases r with
      | threw => exact absurd rfl hr
      | started | refused | failed => rfl
    rw [hsame]
    refine ⟨ht.produced.trans hp.symm, ht.next, ?_, ?_, fun h1 => hover (ht.finished h1), ht.stopped,
      hpend⟩
    · rw [hw]
      exact ht.inCall
    · rw [ht.live]
      simp only [live, hw, hl, hn]
  · refine ⟨ht.produced.trans hp.symm, ht.next, ?_, ?_, fun h1 => hover (ht.finished h1),
      fun _ => rfl, hpend⟩
    · rw [hw]
      exact ht.inCall
    · show false = live s'
      simp only [live, hw, hl, hn, Bool.or_self]

/-- The owner joins a worker that has ended. -/
theorem Recorded.reaps (h : Recorded s) (hj : s.joinable = true) (hw : s'.worker = .none)
    (hlog : s'.log = s.log ∨ s'.log = s.log ++ [.stopReturned]) (hp : s'.produced = s.produced)
    (hn : launching s.owner = false) (hn' : launching s'.owner = false) : Recorded s' := by
  have ht := h.tracks
  have hlive : live s = false := by simp only [live, joinable_not_alive hj, hn, Bool.or_self]
  have hlive' : live s' = false := by
    simp only [live, hw, hn', alive, Bool.or_self]
  have hin : invoking s.worker = false := by
    simp only [CameraSession.joinable, Bool.or_eq_true, decide_eq_true_eq] at hj
    obtain hj | hj := hj <;> rw [hj] <;> rfl
  have hin' : invoking s'.worker = false := by rw [hw]; rfl
  have hover : isOver s' := ⟨by rw [hw]; rfl, hn'⟩
  obtain hlog | hlog := hlog
  · exact h.silent hlog hp (hin'.trans hin.symm) (hlive'.trans hlive.symm) (fun _ => hover)
      (by rw [hw]; trivial)
  · refine h.records hlog ⟨ht.live.trans hlive, ht.inCall.trans hin⟩ ?_
    exact ⟨ht.produced.trans hp.symm, ht.next, (ht.inCall.trans hin).trans hin'.symm,
      (ht.live.trans hlive).trans hlive'.symm, fun _ => hover, fun _ => ht.live.trans hlive,
      by rw [hw]; trivial⟩

/-- The callback state is installed, and a new run begins. -/
theorem Recorded.installs (h : Recorded s) (hw : s.worker = .none)
    (hn : launching s.owner = false) : Recorded s.install := by
  have ht := h.tracks
  have hlive : live s = false := by simp only [live, hw, hn, alive, Bool.or_self]
  have hin : invoking s.worker = false := by rw [hw]; rfl
  refine h.records rfl ⟨ht.live.trans hlive, ht.inCall.trans hin⟩ ?_
  refine ⟨ht.produced, ht.next, ht.inCall, ?_, fun h1 => absurd h1 Bool.false_ne_true,
    fun h1 => absurd h1 Bool.false_ne_true, ?_⟩
  · show true = (alive s.worker || true)
    rw [Bool.or_true]
  · show Pending _ s.worker
    rw [hw]
    trivial

/-- The thread is launched. -/
theorem Recorded.launches (h : Recorded s) (hw : s.worker = .none)
    (hp : s.owner = .launching) :
    Recorded { s with worker := .waiting, owner := .publishing } := by
  refine h.silent rfl rfl (by rw [hw]; rfl) ?_ (fun h1 => ?_) trivial
  · simp only [live, hw, hp]
    rfl
  · have := h1.2
    rw [hp] at this
    cases this

theorem Recorded.ownerStep (h : Recorded s) (hc : Control s) {a : OwnerAnswer}
    (hs : ownerStep s a = some s') : Recorded s' := by
  unfold Impl.Tmr.ownerStep at hs
  have ho := hc.owner
  split at hs
  · cases hs
  · cases hs
  all_goals
    rename_i hp
    rw [hp] at ho
  -- startReap
  · simp only [Option.ite_none_right_eq_some, Option.some.injEq] at hs
    obtain ⟨hj, rfl⟩ := hs
    exact h.reaps hj rfl (.inl rfl) rfl (by rw [hp]; rfl) rfl
  -- startCheck
  · have hn : launching s.owner = false := by rw [hp]; rfl
    have ha : alive s.worker = false := by rw [ho.1]; rfl
    split at hs
    · cases hs
      exact h.startReturns rfl rfl rfl rfl (.inl ⟨hn, by decide⟩)
    split at hs
    · cases hs
      exact h.startReturns rfl rfl rfl rfl (.inr ⟨ha, rfl⟩)
    · cases hs
      exact h.ownerMoves rfl rfl rfl hn.symm
  -- startBackend
  · have hn : launching s.owner = false := by rw [hp]; rfl
    split at hs
    · cases hs
      exact h.installs ho.1 hn
    · cases hs
      exact h.startReturns rfl rfl rfl rfl (.inl ⟨hn, by decide⟩)
    · cases hs
      exact h.ownerMoves rfl rfl rfl hn.symm
  -- startThrew
  · cases hs
    exact h.startReturns rfl rfl rfl rfl (.inr ⟨by rw [ho.1]; rfl, rfl⟩)
  -- launching
  · split at hs
    · cases hs
      exact h.launches ho.1 hp
    · cases hs
      exact h.ownerMoves rfl rfl rfl (by rw [hp]; rfl)
  -- launchStop
  · split at hs
    · cases hs
      exact h.startReturns rfl rfl rfl rfl (.inr ⟨by rw [ho.1]; rfl, rfl⟩)
    · cases hs
      exact h.ownerMoves rfl rfl rfl (by rw [hp]; rfl)
    · cases hs
      exact h.ownerMoves rfl rfl rfl (by rw [hp]; rfl)
  -- launchClose
  · cases hs
    exact h.startReturns rfl rfl rfl rfl (.inr ⟨by rw [ho.1]; rfl, rfl⟩)
  -- publishing
  · cases hs
    exact h.startReturns rfl rfl rfl rfl (.inl ⟨by rw [hp]; rfl, by decide⟩)
  -- stopWaiting
  · split at hs
    · cases hs
      exact h.ownerMoves rfl rfl rfl (by rw [hp]; rfl)
    · simp only [Option.ite_none_right_eq_some, Option.some.injEq] at hs
      obtain ⟨-, rfl⟩ := hs
      exact h.ownerMoves rfl rfl rfl (by rw [hp]; rfl)
  -- stopBackend
  · dsimp only at hs
    split at hs
    · split at hs
      · cases hs
        exact h.ownerMoves rfl rfl rfl (by rw [hp]; rfl)
      · cases hs
        exact h.ownerMoves rfl rfl rfl (by rw [hp]; rfl)
      · cases hs
        exact h.ownerMoves rfl rfl rfl (by rw [hp]; rfl)
    · cases hs
      exact h.ownerMoves rfl rfl rfl (by rw [hp]; rfl)
  -- stopThrew
  · cases hs
    exact h.ownerMoves rfl rfl rfl (by rw [hp]; rfl)
  -- stopReap
  · rename_i k threw
    simp only [Option.ite_none_right_eq_some, Option.some.injEq] at hs
    obtain ⟨hj, rfl⟩ := hs
    refine h.reaps hj rfl (.inr rfl) rfl (by rw [hp]; rfl) ?_
    show launching (if k = .stop then .idle else .closing k) = false
    split <;> rfl
  -- closing
  · rename_i k
    cases hs
    have hidle : launching (if k = .destroy then .destroyed else .idle) = false := by
      split <;> rfl
    by_cases hb : s.present = true
    · rw [if_pos hb]
      exact h.ownerMoves rfl rfl rfl (hidle.trans (by rw [hp]; rfl))
    · rw [if_neg hb]
      exact h.ownerMoves rfl rfl rfl (hidle.trans (by rw [hp]; rfl))

/-! ## Steps of the worker -/

theorem Control.not_launching (h : Control s) (ha : alive s.worker = true) :
    launching s.owner = false := by
  have hok := h.owner
  cases hp : s.owner with
  | launching | launchStop | launchClose =>
    rw [hp] at hok
    rw [hok.1] at ha
    cases ha
  | idle | startReap | startCheck | startBackend | startThrew | publishing | stopWaiting
  | stopBackend | stopThrew | stopReap | closing | destroyed => rfl

/-- A worker that is neither spent nor stopped may deliver. -/
theorem Recorded.open (h : Recorded s) (ha : alive s.worker = true)
    (hsp : spent s.worker = false) :
    (callbacks.after s.log).live = true ∧ (callbacks.after s.log).finished = false ∧
      (callbacks.after s.log).stopped = false := by
  have ht := h.tracks
  have hlive : (callbacks.after s.log).live = true := by
    rw [ht.live]
    simp only [live, ha, Bool.true_or]
  refine ⟨hlive, ?_, ?_⟩
  · cases ho : (callbacks.after s.log).finished with
    | false => rfl
    | true => exact absurd (hsp.symm.trans (ht.finished ho).1) Bool.false_ne_true
  · cases ho : (callbacks.after s.log).stopped with
    | false => rfl
    | true => exact absurd ((ht.stopped ho).symm.trans hlive) Bool.false_ne_true

/-- The worker moves, and the run stays as it is for the monitor. -/
theorem Recorded.workerMoves (h : Recorded s) (ha : alive s'.worker = alive s.worker)
    (ho : s'.owner = s.owner) (hlog : s'.log = s.log) (hp : s'.produced = s.produced)
    (hin : invoking s'.worker = invoking s.worker)
    (hsp : spent s.worker = true → spent s'.worker = true)
    (hpend : Pending (callbacks.after s.log) s'.worker) : Recorded s' := by
  refine h.silent hlog hp hin (by simp only [live, ha, ho]) (fun h1 => ⟨hsp h1.1, ?_⟩) hpend
  rw [ho]
  exact h1.2

theorem Recorded.callbackStep (h : Recorded s) {d : Delivery} {p : CallbackPhase}
    {a : WorkerAnswer} (hw : s.worker = .inCallback d p)
    (hs : callbackStep s d a p = some s') : Recorded s' := by
  have hmove (p' : CallbackPhase) (hw' : s'.worker = .inCallback d p') (ho : s'.owner = s.owner)
      (hlog : s'.log = s.log) (hp : s'.produced = s.produced) : Recorded s' := by
    refine h.workerMoves ?_ ho hlog hp ?_ (fun hsp => ?_) (by rw [hw']; trivial)
    · rw [hw, hw']
      rfl
    · rw [hw, hw']
      rfl
    · rw [hw] at hsp
      rw [hw']
      cases d with
      | frame => cases hsp
      | error => rfl
  unfold Impl.Tmr.callbackStep at hs
  split at hs
  · cases hs
  · split at hs
    · cases hs
      exact hmove _ rfl rfl rfl rfl
    · simp only [Option.ite_none_right_eq_some, Option.some.injEq] at hs
      obtain ⟨-, rfl⟩ := hs
      exact hmove _ rfl rfl rfl rfl
  · dsimp only at hs
    split at hs
    · cases hs
    split at hs
    · split at hs
      · cases hs
        exact hmove _ rfl rfl rfl rfl
      · cases hs
        exact hmove _ rfl rfl rfl rfl
      · cases hs
        exact hmove _ rfl rfl rfl rfl
    · cases hs
      exact hmove _ rfl rfl rfl rfl
  · cases hs
    exact hmove _ rfl rfl rfl rfl
  · dsimp only at hs
    cases hb : s.present with
    | true =>
      rw [hb] at hs
      cases hs
      exact hmove _ rfl rfl rfl rfl
    | false =>
      rw [hb] at hs
      cases hs
      exact hmove _ rfl rfl rfl rfl

theorem Recorded.readReturns (h : Recorded s) (hw : s.worker = .reading)
    (r : ReadResult) : Recorded (readReturns s r) := by
  have ht := h.tracks
  have hmove (w : WorkerPhase) (ha : alive w = true) (hin : invoking w = false)
      (hpend : Pending (callbacks.after s.log) w) :
      Recorded { s with mutex := none, worker := w } := by
    refine h.workerMoves (ha.trans (by rw [hw]; rfl)) rfl rfl rfl (hin.trans (by rw [hw]; rfl))
      (fun hsp => ?_) hpend
    rw [hw] at hsp
    cases hsp
  cases r with
  | failed code => exact hmove _ rfl rfl trivial
  | badAlloc => exact hmove (.delivering (.error .resourceExhausted)) rfl rfl (fun he => by cases he)
  | threw => exact hmove (.delivering (.error .backendFailure)) rfl rfl (fun he => by cases he)
  | frame =>
    have hrun : running s.worker = true := by rw [hw]; rfl
    refine h.records rfl ht.produced.symm ⟨?_, ?_, ?_, ?_, fun ho => ?_, ht.stopped, ?_⟩
    · show s.produced + 1 = s.produced + 1
      rfl
    · show (callbacks.after s.log).next ≤ s.produced + 1
      have := ht.next
      rw [ht.produced] at this
      omega
    · exact ht.inCall.trans (by rw [hw]; rfl)
    · refine ht.live.trans ?_
      simp only [live, alive_of_running hrun, Bool.true_or]
      rfl
    · have := (ht.finished ho).1
      rw [hw] at this
      cases this
    · show (callbacks.after s.log).next ≤ s.produced ∧ s.produced < s.produced + 1
      have := ht.next
      rw [ht.produced] at this
      omega

/-- The worker delivers what it holds. -/
theorem Recorded.invokes (h : Recorded s) (hc : Control s) {d : Delivery}
    (hw : s.worker = .delivering d) :
    Recorded { s.record (.invoked d) with worker := .inCallback d .user } := by
  have ht := h.tracks
  have hp := ht.pending
  rw [hw] at hp
  have ha : alive s.worker = true := by rw [hw]; rfl
  obtain ⟨hlive, hover, hstop⟩ := h.open ha (by rw [hw]; rfl)
  have hin : (callbacks.after s.log).inCall = false := ht.inCall.trans (by rw [hw]; rfl)
  have hlive' : live { s.record (.invoked d) with worker := .inCallback d .user } = true := by
    simp only [live, alive, Bool.true_or]
  cases d with
  | frame n =>
    refine h.records rfl ⟨hlive, hin, hover, hstop, hp⟩ ⟨ht.produced, hp.2, rfl,
      hlive.trans hlive'.symm, fun ho => ?_, ht.stopped, trivial⟩
    exact absurd (hover.symm.trans ho) Bool.false_ne_true
  | error code =>
    refine h.records rfl ⟨hlive, hin, hover, hstop, hp⟩ ⟨ht.produced, ht.next, rfl,
      hlive.trans hlive'.symm, fun _ => ⟨rfl, ?_⟩, ht.stopped, trivial⟩
    exact hc.not_launching ha

/-- The callback ends. -/
theorem Recorded.callbackReturns (h : Recorded s) (hc : Control s) {d : Delivery}
    (hw : s.worker = .inCallback d .user) (threw : Bool) :
    Recorded (callbackReturns s d threw) := by
  have ht := h.tracks
  have ha : alive s.worker = true := by rw [hw]; rfl
  have hin : (callbacks.after s.log).inCall = true := ht.inCall.trans (by rw [hw]; rfl)
  have hlaunch := hc.not_launching ha
  have hlive : (callbacks.after s.log).live = true := by
    rw [ht.live]
    simp only [live, ha, Bool.true_or]
  cases d with
  | error code =>
    exact h.records rfl hin ⟨ht.produced, ht.next, rfl, hlive, fun _ => ⟨rfl, hlaunch⟩,
      ht.stopped, trivial⟩
  | frame n =>
    cases threw with
    | true =>
      exact h.records rfl hin ⟨ht.produced, ht.next, rfl, hlive, fun _ => ⟨rfl, hlaunch⟩,
        ht.stopped, trivial⟩
    | false =>
      refine h.records rfl hin ⟨ht.produced, ht.next, rfl, hlive, fun ho => ?_, ht.stopped,
        trivial⟩
      have ho : ((callbacks.after s.log).finished || false) = true := ho
      rw [Bool.or_false] at ho
      have := (ht.finished ho).1
      rw [hw] at this
      cases this

/-- The worker ends. -/
theorem Recorded.ends (h : Recorded s) (hc : Control s) (hw : s.worker = .ending) :
    Recorded { s.record .ended with worker := .finished, active := false } := by
  have ht := h.tracks
  have hin : (callbacks.after s.log).inCall = false := ht.inCall.trans (by rw [hw]; rfl)
  have hlaunch := hc.not_launching (by rw [hw]; rfl)
  refine h.records rfl hin ⟨ht.produced, ht.next, hin, ?_, fun _ => ⟨rfl, hlaunch⟩,
    fun _ => rfl, trivial⟩
  show false = (false || launching s.owner)
  rw [hlaunch]
  rfl

theorem Recorded.workerStep (h : Recorded s) (hc : Control s) {a : WorkerAnswer}
    (hs : workerStep s a = some s') : Recorded s' := by
  have hmove (hsp : spent s.worker = false) (ha : alive s'.worker = alive s.worker)
      (ho : s'.owner = s.owner) (hlog : s'.log = s.log) (hp : s'.produced = s.produced)
      (hin : invoking s'.worker = invoking s.worker)
      (hpend : Pending (callbacks.after s.log) s'.worker) : Recorded s' :=
    h.workerMoves ha ho hlog hp hin (fun h1 => absurd (hsp.symm.trans h1) Bool.false_ne_true) hpend
  have hpend := h.tracks.pending
  unfold Impl.Tmr.workerStep at hs
  split at hs
  · cases hs
  · cases hs
  all_goals
    rename_i hw
    rw [hw] at hpend
  -- waiting
  · simp only [Option.ite_none_right_eq_some, Option.some.injEq] at hs
    obtain ⟨-, rfl⟩ := hs
    exact hmove (by rw [hw]; rfl) (by rw [hw]; rfl) rfl rfl rfl (by rw [hw]; rfl) trivial
  -- top
  · cases hs
    have hnext (b : Bool) : Recorded { s with worker := if b then .ending else .locking } := by
      refine h.workerMoves ?_ rfl rfl rfl ?_ (fun hsp => ?_) ?_
      · rw [hw]
        cases b <;> rfl
      · rw [hw]
        cases b <;> rfl
      · rw [hw] at hsp
        cases hsp
      · cases b <;> trivial
    exact hnext s.stop
  -- locking
  · simp only [Option.ite_none_right_eq_some, Option.some.injEq] at hs
    obtain ⟨-, rfl⟩ := hs
    exact hmove (by rw [hw]; rfl) (by rw [hw]; rfl) rfl rfl rfl (by rw [hw]; rfl) trivial
  -- locked
  · split at hs
    · cases hs
      exact hmove (by rw [hw]; rfl) (by rw [hw]; rfl) rfl rfl rfl (by rw [hw]; rfl) trivial
    · cases hs
      exact hmove (by rw [hw]; rfl) (by rw [hw]; rfl) rfl rfl rfl (by rw [hw]; rfl) trivial
  -- reading
  · cases hs
    exact h.readReturns hw a.read
  -- unlocked
  · rename_i d
    split at hs
    · cases hs
      exact hmove (by rw [hw]; rfl) (by rw [hw]; rfl) rfl rfl rfl (by rw [hw]; rfl) trivial
    split at hs
    · cases hs
      exact hmove (by rw [hw]; rfl) (by rw [hw]; rfl) rfl rfl rfl (by rw [hw]; rfl) trivial
    · rename_i hd
      cases hs
      refine hmove (by rw [hw]; rfl) (by rw [hw]; rfl) rfl rfl rfl (by rw [hw]; rfl) ?_
      cases d with
      | frame n => exact hpend
      | error code => exact fun hcode => hd (by rw [hcode])
  -- delivering
  · split at hs
    · cases hs
      exact hmove (by rw [hw]; rfl) (by rw [hw]; rfl) rfl rfl rfl (by rw [hw]; rfl) trivial
    · cases hs
      exact h.invokes hc hw
  -- inCallback
  · exact h.callbackStep hw hs
  -- ending
  · cases hs
    exact h.ends hc hw

theorem Recorded.callbackCall (h : Recorded s) (hc : Control s) {c : CallbackCall}
    (hs : callbackCall s c = some s') : Recorded s' := by
  unfold Impl.Tmr.callbackCall at hs
  split at hs
  · rename_i d hw
    have hatt : s.attached = true := hc.attached fun hn => by rw [hw] at hn; cases hn
    have hstop (close : Bool) : Recorded { s.requestStop with
        worker := .inCallback d (.stopWaiting close s.attached) } := by
      refine h.workerMoves (by rw [hw]; rfl) rfl rfl rfl (by rw [hw]; rfl) (fun hsp => ?_) trivial
      rw [hw] at hsp
      cases d with
      | frame => cases hsp
      | error => rfl
    cases c with
    | start =>
      rw [if_pos hatt] at hs
      cases hs
      exact h
    | stop =>
      cases hs
      exact hstop false
    | close =>
      cases hs
      exact hstop true
    | «return» =>
      cases hs
      exact h.callbackReturns hc hw false
    | throw =>
      cases hs
      exact h.callbackReturns hc hw true
  · cases hs

theorem Recorded.start (h : Recorded s) (hi : s.owner = .idle) (empty : Bool) :
    Recorded (s.start empty) := by
  have hn : launching s.owner = false := by rw [hi]; rfl
  unfold CameraSession.start
  split
  · exact h.startReturns rfl rfl rfl rfl (.inl ⟨hn, by decide⟩)
  split
  · exact h.startReturns rfl rfl rfl rfl (.inl ⟨hn, by decide⟩)
  · exact h.ownerMoves rfl rfl rfl hn.symm

theorem Recorded.step (h : Recorded s) (hc : Control s) {a : SessionAct}
    (hs : sessionStep s a = some s') : Recorded s' := by
  cases a with
  | start empty =>
    simp only [sessionStep, Option.ite_none_right_eq_some, Option.some.injEq] at hs
    obtain ⟨hi, rfl⟩ := hs
    exact h.start hi empty
  | ending k =>
    simp only [sessionStep, Option.ite_none_right_eq_some, Option.some.injEq] at hs
    obtain ⟨hi, rfl⟩ := hs
    exact h.ownerMoves rfl rfl rfl (by rw [hi]; rfl)
  | owner a => exact h.ownerStep hc hs
  | worker a => exact h.workerStep hc hs
  | callback c => exact h.callbackCall hc hs
  | lost stillOpen =>
    cases hs
    exact h.ownerMoves rfl rfl rfl rfl

end WSE.Proof.Tmr
