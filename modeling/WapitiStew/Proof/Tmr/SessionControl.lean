import WapitiStew.Spec.Tmr.CameraSession

/-!
# Who is where in a camera session

`Control` says, for each place of the owner, where the worker may be and whether
the callback state is installed, and who holds the backend mutex. Steps of the
owner keep it while they leave the worker alone, reap it or launch it
(`Control.ownerMoves`, `Control.reaps`); steps of the worker keep it because the
owner is then in no place that excludes a worker (`Control.workerMoves`).
-/

namespace WSE.Proof.Tmr

open WSE.Framework WSE.Impl.Tmr WSE.Spec.Tmr

def alive : WorkerPhase → Bool
  | .none | .finished => false
  | _ => true

def workerHolds : WorkerPhase → Bool
  | .locked | .reading | .inCallback _ (.stopBackend _ _) | .inCallback _ (.stopThrew _ _) => true
  | _ => false

def ownerHolds : OwnerPhase → Bool
  | .stopBackend _ locks | .stopThrew _ locks => locks
  | _ => false

/-- A `stop` in the callback has found the callback state. -/
def callbackLocks : WorkerPhase → Bool
  | .inCallback _ (.stopWaiting _ locks) | .inCallback _ (.stopBackend _ locks)
  | .inCallback _ (.stopThrew _ locks) => locks
  | _ => true

def OwnerOk (s : CameraSession) : OwnerPhase → Prop
  | .idle | .destroyed | .stopReap _ _ => True
  | .startReap => alive s.worker = false
  | .startCheck | .startThrew | .closing _ => s.worker = .none ∧ s.attached = false
  | .startBackend => s.worker = .none ∧ s.attached = false ∧ s.isStreaming = false
  | .launching | .launchStop | .launchClose =>
    s.worker = .none ∧ s.attached = true ∧ s.active = true ∧ s.published = false
  | .publishing => s.worker = .waiting ∧ s.attached = true ∧ s.published = false
  | .stopWaiting _ locks | .stopBackend _ locks | .stopThrew _ locks =>
    locks = s.attached ∧ (s.attached = true → s.stop = true)

theorem OwnerOk.lost {s : CameraSession} {p : OwnerPhase} (h : OwnerOk s p) (stillOpen : Bool) :
    OwnerOk { s with isStreaming := false, isOpen := s.isOpen && stillOpen } p := by
  cases p with
  | startBackend => exact ⟨h.1, h.2.1, rfl⟩
  | idle | destroyed | stopReap | startReap | startCheck | startThrew | closing | launching
  | launchStop | launchClose | publishing | stopWaiting | stopBackend | stopThrew => exact h

structure Control (s : CameraSession) : Prop where
  owner : OwnerOk s s.owner
  attached : s.worker ≠ .none → s.attached = true
  active : alive s.worker = true → s.active = true
  locks : callbackLocks s.worker = true
  workerMutex : s.mutex = some .worker ↔ workerHolds s.worker = true
  ownerMutex : s.mutex = some .owner ↔ ownerHolds s.owner = true
  restarted : s.restarted = false

theorem control_initial (present isOpen isStreaming : Bool) :
    Control { present := present, isOpen := isOpen, isStreaming := isStreaming } where
  owner := trivial
  attached h := absurd rfl h
  active h := absurd h Bool.false_ne_true
  locks := rfl
  workerMutex := by simp [workerHolds]
  ownerMutex := by simp [ownerHolds]
  restarted := rfl

variable {s s' : CameraSession}

/-! ## Steps of the owner -/

/-- The owner moves and leaves the worker alone. -/
theorem Control.ownerMoves (h : Control s) (ho : OwnerOk s' s'.owner)
    (hw : s'.worker = s.worker) (ha : s'.attached = s.attached) (hact : s'.active = s.active)
    (hr : s'.restarted = s.restarted)
    (hwm : s'.mutex = some .worker ↔ s.mutex = some .worker)
    (hom : s'.mutex = some .owner ↔ ownerHolds s'.owner = true) : Control s' where
  owner := ho
  attached := by rw [hw, ha]; exact h.attached
  active := by rw [hw, hact]; exact h.active
  locks := by rw [hw]; exact h.locks
  workerMutex := by rw [hwm, hw]; exact h.workerMutex
  ownerMutex := hom
  restarted := hr.trans h.restarted

/-- The owner has no worker, before and after. -/
theorem Control.ownerAlone (h : Control s) (ho : OwnerOk s' s'.owner) (hw : s.worker = .none)
    (hw' : s'.worker = .none) (hr : s'.restarted = s.restarted)
    (hm : s'.mutex = s.mutex ∨ s'.mutex = none) (hn : ownerHolds s.owner = false)
    (hn' : ownerHolds s'.owner = false) : Control s' := by
  have hwm : s.mutex ≠ some .worker := fun hm => by
    have := h.workerMutex.mp hm
    rw [hw] at this
    cases this
  have hom : s.mutex ≠ some .owner := fun hm =>
    Bool.false_ne_true (hn.symm.trans (h.ownerMutex.mp hm))
  have hm' (p : Party) (hp : s.mutex ≠ some p) : s'.mutex ≠ some p := by
    obtain hm | hm := hm
    · rwa [hm]
    · rw [hm]
      exact fun h => by cases h
  refine ⟨ho, fun h => absurd hw' h, fun h => ?_, by rw [hw']; rfl, ?_, ?_, hr.trans h.restarted⟩
  · rw [hw'] at h
    cases h
  · rw [hw']
    exact iff_of_false (hm' _ hwm) Bool.false_ne_true
  · rw [hn']
    exact iff_of_false (hm' _ hom) Bool.false_ne_true

/-- A worker that has ended does not hold the mutex. -/
theorem joinable_not_holds (h : s.joinable = true) : workerHolds s.worker = false := by
  unfold CameraSession.joinable at h
  cases hw : s.worker with
  | none | finished => rfl
  | waiting | top | locking | locked | reading | unlocked | delivering | inCallback | ending =>
    rw [hw] at h
    cases h

theorem joinable_not_alive (h : s.joinable = true) : alive s.worker = false := by
  unfold CameraSession.joinable at h
  cases hw : s.worker with
  | none | finished => rfl
  | waiting | top | locking | locked | reading | unlocked | delivering | inCallback | ending =>
    rw [hw] at h
    cases h

/-- The owner joins a worker that has ended. -/
theorem Control.reaps (h : Control s) (hj : s.joinable = true) (ho : OwnerOk s' s'.owner)
    (hw' : s'.worker = .none) (hr : s'.restarted = s.restarted) (hm : s'.mutex = s.mutex)
    (hn : ownerHolds s.owner = false) (hn' : ownerHolds s'.owner = false) : Control s' := by
  have hwm : s.mutex ≠ some .worker := fun hm =>
    Bool.false_ne_true ((joinable_not_holds hj).symm.trans (h.workerMutex.mp hm))
  have hom : s.mutex ≠ some .owner := fun hm =>
    Bool.false_ne_true (hn.symm.trans (h.ownerMutex.mp hm))
  refine ⟨ho, fun h => absurd hw' h, fun h => ?_, by rw [hw']; rfl, ?_, ?_, hr.trans h.restarted⟩
  · rw [hw'] at h
    cases h
  · rw [hm, hw']
    exact iff_of_false hwm Bool.false_ne_true
  · rw [hm, hn']
    exact iff_of_false hom Bool.false_ne_true

theorem Control.notHolding (h : Control s) (hn : ownerHolds s.owner = false) :
    s.mutex ≠ some .owner := fun hm => Bool.false_ne_true (hn.symm.trans (h.ownerMutex.mp hm))

/-- The owner releases the mutex, if it has taken it. -/
theorem Control.released (h : Control s) {locks : Bool} (hn : ownerHolds s.owner = locks) :
    ((if locks then none else s.mutex) = some .worker ↔ s.mutex = some .worker) ∧
      (if locks then none else s.mutex) ≠ some .owner := by
  cases locks with
  | false => exact ⟨Iff.rfl, h.notHolding hn⟩
  | true =>
    have hm := h.ownerMutex.mpr hn
    rw [hm]
    exact ⟨by simp, by simp⟩

theorem Control.start (h : Control s) (hi : s.owner = .idle) (empty : Bool) :
    Control (s.start empty) := by
  have hn : ownerHolds s.owner = false := by rw [hi]; rfl
  have hom := iff_of_false (h.notHolding hn) Bool.false_ne_true
  unfold CameraSession.start
  split
  · exact h.ownerMoves trivial rfl rfl rfl rfl Iff.rfl hom
  split
  · exact h.ownerMoves trivial rfl rfl rfl rfl Iff.rfl hom
  · rename_i hact
    refine h.ownerMoves ?_ rfl rfl rfl rfl Iff.rfl hom
    show alive s.worker = false
    cases halive : alive s.worker with
    | false => rfl
    | true =>
      have hatt := h.attached fun hw => by rw [hw] at halive; cases halive
      rw [hatt, h.active halive] at hact
      exact absurd rfl hact

theorem Control.ending (h : Control s) (hi : s.owner = .idle) (k : Ending) :
    Control { s.requestStop with owner := .stopWaiting k s.attached } := by
  have hn : ownerHolds s.owner = false := by rw [hi]; rfl
  refine h.ownerMoves ⟨rfl, fun ha => ?_⟩ rfl rfl rfl rfl Iff.rfl
    (iff_of_false (h.notHolding hn) Bool.false_ne_true)
  show (if s.attached then true else s.stop) = true
  rw [show s.attached = true from ha]
  rfl

/-- The thread is launched, and its worker waits. -/
theorem Control.launches (h : Control s) (hp : s.owner = .launching) :
    Control { s with worker := .waiting, owner := .publishing } := by
  have ho := h.owner
  rw [hp] at ho
  obtain ⟨hw, hatt, hact, hpub⟩ := ho
  have hwm : s.mutex ≠ some .worker := fun hm => by
    have := h.workerMutex.mp hm
    rw [hw] at this
    cases this
  exact ⟨⟨rfl, hatt, hpub⟩, fun _ => hatt, fun _ => hact, rfl,
    iff_of_false hwm Bool.false_ne_true,
    iff_of_false (h.notHolding (by rw [hp]; rfl)) Bool.false_ne_true, h.restarted⟩

theorem Control.ownerStep (h : Control s) {a : OwnerAnswer} (hs : ownerStep s a = some s') :
    Control s' := by
  unfold Impl.Tmr.ownerStep at hs
  have ho := h.owner
  split at hs
  · cases hs
  · cases hs
  -- startReap
  · rename_i hp
    simp only [Option.ite_none_right_eq_some, Option.some.injEq] at hs
    obtain ⟨hj, rfl⟩ := hs
    exact h.reaps hj ⟨rfl, rfl⟩ rfl rfl rfl (by rw [hp]; rfl) rfl
  -- startCheck
  · rename_i hp
    rw [hp] at ho
    have hn : ownerHolds s.owner = false := by rw [hp]; rfl
    split at hs
    · cases hs
      exact h.ownerAlone trivial ho.1 ho.1 rfl (.inl rfl) hn rfl
    rename_i hcheck
    split at hs
    · cases hs
      exact h.ownerAlone trivial ho.1 ho.1 rfl (.inl rfl) hn rfl
    · cases hs
      simp only [Bool.or_eq_true, not_or, Bool.not_eq_true] at hcheck
      exact h.ownerAlone ⟨ho.1, ho.2, hcheck.2⟩ ho.1 ho.1 rfl (.inl rfl) hn rfl
  -- startBackend
  · rename_i hp
    rw [hp] at ho
    have hn : ownerHolds s.owner = false := by rw [hp]; rfl
    split at hs
    · cases hs
      exact h.ownerAlone ⟨ho.1, rfl, rfl, rfl⟩ ho.1 ho.1 rfl (.inr rfl) hn rfl
    · cases hs
      exact h.ownerAlone trivial ho.1 ho.1 rfl (.inl rfl) hn rfl
    · cases hs
      exact h.ownerAlone ⟨ho.1, ho.2.1⟩ ho.1 ho.1 rfl (.inl rfl) hn rfl
  -- startThrew
  · rename_i hp
    rw [hp] at ho
    cases hs
    exact h.ownerAlone trivial ho.1 ho.1 rfl (.inl rfl) (by rw [hp]; rfl) rfl
  -- launching
  · rename_i hp
    rw [hp] at ho
    have hn : ownerHolds s.owner = false := by rw [hp]; rfl
    split at hs
    · cases hs
      exact h.launches hp
    · cases hs
      exact h.ownerAlone ho ho.1 ho.1 rfl (.inl rfl) hn rfl
  -- launchStop
  · rename_i hp
    rw [hp] at ho
    have hn : ownerHolds s.owner = false := by rw [hp]; rfl
    split at hs
    · cases hs
      exact h.ownerAlone trivial ho.1 ho.1 rfl (.inl rfl) hn rfl
    · cases hs
      exact h.ownerAlone ho ho.1 ho.1 rfl (.inl rfl) hn rfl
    · cases hs
      exact h.ownerAlone ho ho.1 ho.1 rfl (.inl rfl) hn rfl
  -- launchClose
  · rename_i hp
    rw [hp] at ho
    cases hs
    exact h.ownerAlone trivial ho.1 ho.1 rfl (.inl rfl) (by rw [hp]; rfl) rfl
  -- publishing
  · rename_i hp
    cases hs
    exact h.ownerMoves trivial rfl rfl rfl rfl Iff.rfl
      (iff_of_false (h.notHolding (by rw [hp]; rfl)) Bool.false_ne_true)
  -- stopWaiting
  · rename_i k locks hp
    rw [hp] at ho
    have hn := h.notHolding (by rw [hp]; rfl)
    split at hs
    · rename_i hl
      cases hs
      refine h.ownerMoves ho rfl rfl rfl rfl Iff.rfl (iff_of_false hn ?_)
      show ¬locks = true
      simpa using hl
    · rename_i hl
      simp only [Option.ite_none_right_eq_some, Option.some.injEq] at hs
      obtain ⟨hm, rfl⟩ := hs
      refine h.ownerMoves ho rfl rfl rfl rfl ?_ ?_
      · rw [hm]
        simp
      · show some Party.owner = some .owner ↔ locks = true
        simpa using hl
  -- stopBackend
  · rename_i k locks hp
    rw [hp] at ho
    obtain ⟨hwm, hom⟩ := h.released (show ownerHolds s.owner = locks by rw [hp]; rfl)
    have hom := iff_of_false hom Bool.false_ne_true
    dsimp only at hs
    split at hs
    · split at hs
      · cases hs
        exact h.ownerMoves trivial rfl rfl rfl rfl hwm hom
      · cases hs
        exact h.ownerMoves trivial rfl rfl rfl rfl hwm hom
      · cases hs
        refine h.ownerMoves ho rfl rfl rfl rfl Iff.rfl ?_
        rw [h.ownerMutex, hp]
        rfl
    · cases hs
      exact h.ownerMoves trivial rfl rfl rfl rfl hwm hom
  -- stopThrew
  · rename_i k locks hp
    obtain ⟨hwm, hom⟩ := h.released (show ownerHolds s.owner = locks by rw [hp]; rfl)
    cases hs
    exact h.ownerMoves trivial rfl rfl rfl rfl hwm (iff_of_false hom Bool.false_ne_true)
  -- stopReap
  · rename_i k threw hp
    simp only [Option.ite_none_right_eq_some, Option.some.injEq] at hs
    obtain ⟨hj, rfl⟩ := hs
    have hn : ownerHolds s.owner = false := by rw [hp]; rfl
    refine h.reaps hj ?_ rfl rfl rfl hn ?_
    · show OwnerOk _ (if k = .stop then .idle else .closing k)
      split
      · trivial
      · exact ⟨rfl, rfl⟩
    · show ownerHolds (if k = .stop then .idle else .closing k) = false
      split <;> rfl
  -- closing
  · rename_i k hp
    rw [hp] at ho
    have hn : ownerHolds s.owner = false := by rw [hp]; rfl
    cases hs
    have hidle (t : CameraSession) :
        OwnerOk t (if k = .destroy then .destroyed else .idle) := by split <;> trivial
    have hidle' : ownerHolds (if k = .destroy then .destroyed else .idle) = false := by
      split <;> rfl
    by_cases hb : s.present = true
    · rw [if_pos hb]
      exact h.ownerAlone (hidle _) ho.1 ho.1 rfl (.inl rfl) hn hidle'
    · rw [if_neg hb]
      exact h.ownerAlone (hidle _) ho.1 ho.1 rfl (.inl rfl) hn hidle'

/-! ## Steps of the worker -/

/-- The worker moves; it does not while its thread is not released. -/
theorem Control.workerMoves (h : Control s) (ha : alive s.worker = true)
    (hpub : s.worker = .waiting → s.published = true) (ho : s'.owner = s.owner)
    (hatt : s'.attached = s.attached) (hstop : s'.stop = s.stop ∨ s'.stop = true)
    (hact : alive s'.worker = true → s'.active = s.active) (hl : callbackLocks s'.worker = true)
    (hwm : s'.mutex = some .worker ↔ workerHolds s'.worker = true)
    (hom : s'.mutex = some .owner ↔ s.mutex = some .owner)
    (hr : s'.restarted = s.restarted) : Control s' where
  owner := by
    have hstop' : s.stop = true → s'.stop = true := fun h1 =>
      hstop.elim (fun h2 => h2.trans h1) id
    have hok := h.owner
    rw [ho]
    cases hp : s.owner with
    | idle | destroyed | stopReap => trivial
    | startReap =>
      rw [hp] at hok
      exact absurd (hok.symm.trans ha) Bool.false_ne_true
    | startCheck | startThrew | closing | startBackend | launching | launchStop | launchClose =>
      rw [hp] at hok
      rw [hok.1] at ha
      cases ha
    | publishing =>
      rw [hp] at hok
      exact absurd (hok.2.2.symm.trans (hpub hok.1)) Bool.false_ne_true
    | stopWaiting | stopBackend | stopThrew =>
      rw [hp] at hok
      exact ⟨hok.1.trans hatt.symm, fun h1 => hstop' (hok.2 (hatt.symm.trans h1))⟩
  attached _ := hatt.trans (h.attached fun hw => by rw [hw] at ha; cases ha)
  active h1 := (hact h1).trans (h.active ha)
  locks := hl
  workerMutex := hwm
  ownerMutex := by rw [hom, ho]; exact h.ownerMutex
  restarted := hr.trans h.restarted

/-- What the worker does to the mutex: it leaves it alone, takes it or releases it. -/
def MutexMove (s s' : CameraSession) : Prop :=
  (s'.mutex = s.mutex ∧ workerHolds s'.worker = workerHolds s.worker) ∨
  (s.mutex = none ∧ s'.mutex = some .worker ∧ workerHolds s'.worker = true) ∨
  (workerHolds s.worker = true ∧ s'.mutex = none ∧ workerHolds s'.worker = false)

theorem Control.worker_iff (h : Control s) (hm : MutexMove s s') :
    s'.mutex = some .worker ↔ workerHolds s'.worker = true := by
  obtain ⟨hm, hh⟩ | ⟨-, hm, hh⟩ | ⟨-, hm, hh⟩ := hm
  · rw [hm, hh]
    exact h.workerMutex
  · exact iff_of_true hm hh
  · rw [hm, hh]
    simp

theorem Control.owner_iff (h : Control s) (hm : MutexMove s s') :
    s'.mutex = some .owner ↔ s.mutex = some .owner := by
  obtain ⟨hm, -⟩ | ⟨hn, hm, -⟩ | ⟨hh, hm, -⟩ := hm
  · rw [hm]
  · rw [hn, hm]
    simp
  · rw [hm, h.workerMutex.mpr hh]
    simp

/-- The worker runs, past its wait. -/
def running : WorkerPhase → Bool
  | .none | .waiting | .finished => false
  | _ => true

theorem alive_of_running {w : WorkerPhase} (h : running w = true) : alive w = true := by
  cases w with
  | none | waiting | finished => cases h
  | top | locking | locked | reading | unlocked | delivering | inCallback | ending => rfl

/-- A running worker goes on. -/
theorem Control.loops (h : Control s) (hrun : running s.worker = true) (ho : s'.owner = s.owner)
    (hatt : s'.attached = s.attached) (hstop : s'.stop = s.stop)
    (hact : alive s'.worker = true → s'.active = s.active) (hl : callbackLocks s'.worker = true)
    (hm : MutexMove s s') (hr : s'.restarted = s.restarted) : Control s' :=
  h.workerMoves (alive_of_running hrun) (fun hw => by rw [hw] at hrun; cases hrun) ho hatt
    (.inl hstop) hact hl (h.worker_iff hm) (h.owner_iff hm) hr

theorem Control.callbackStep (h : Control s) {d : Delivery} {p : CallbackPhase} {a : WorkerAnswer}
    (hw : s.worker = .inCallback d p) (hs : callbackStep s d a p = some s') : Control s' := by
  have hrun : running s.worker = true := by rw [hw]; rfl
  have hatt : s.attached = true := h.attached fun hn => by rw [hw] at hn; cases hn
  have hl := h.locks
  rw [hw] at hl
  unfold Impl.Tmr.callbackStep at hs
  split at hs
  · cases hs
  -- stopWaiting
  · rename_i close locks
    obtain rfl : locks = true := hl
    simp only [Bool.not_true, Bool.false_eq_true, if_false, Option.ite_none_right_eq_some,
      Option.some.injEq] at hs
    obtain ⟨hm, rfl⟩ := hs
    exact h.loops hrun rfl rfl rfl (fun _ => rfl) rfl (.inr (.inl ⟨hm, rfl, rfl⟩)) rfl
  -- stopBackend
  · rename_i close locks
    obtain rfl : locks = true := hl
    have hholds : workerHolds s.worker = true := by rw [hw]; rfl
    have hnext (c : Bool) : workerHolds (.inCallback d (if c then .closing else .user)) = false ∧
        callbackLocks (.inCallback d (if c then .closing else .user)) = true := by
      cases c <;> exact ⟨rfl, rfl⟩
    obtain ⟨hh, hl'⟩ := hnext close
    have hown : ¬(!s.attached) = true := by simp [hatt]
    rw [if_neg hown] at hs
    split at hs
    · split at hs
      · cases hs
        exact h.loops hrun rfl rfl rfl (fun _ => rfl) hl' (.inr (.inr ⟨hholds, rfl, hh⟩)) rfl
      · cases hs
        exact h.loops hrun rfl rfl rfl (fun _ => rfl) hl' (.inr (.inr ⟨hholds, rfl, hh⟩)) rfl
      · cases hs
        exact h.loops hrun rfl rfl rfl (fun _ => rfl) rfl (.inl ⟨rfl, by rw [hw]; rfl⟩) rfl
    · cases hs
      exact h.loops hrun rfl rfl rfl (fun _ => rfl) hl' (.inr (.inr ⟨hholds, rfl, hh⟩)) rfl
  -- stopThrew
  · rename_i close locks
    obtain rfl : locks = true := hl
    cases hs
    refine h.loops hrun rfl rfl rfl (fun _ => rfl) ?_ (.inr (.inr ⟨by rw [hw]; rfl, rfl, ?_⟩)) rfl
    · cases close <;> rfl
    · cases close <;> rfl
  -- closing
  · cases hs
    by_cases hb : s.present = true
    · rw [if_pos hb]
      exact h.loops hrun rfl rfl rfl (fun _ => rfl) rfl (.inl ⟨rfl, by rw [hw]; rfl⟩) rfl
    · rw [if_neg hb]
      exact h.loops hrun rfl rfl rfl (fun _ => rfl) rfl (.inl ⟨rfl, by rw [hw]; rfl⟩) rfl

theorem Control.workerStep (h : Control s) {a : WorkerAnswer} (hs : workerStep s a = some s') :
    Control s' := by
  unfold Impl.Tmr.workerStep at hs
  split at hs
  · cases hs
  · cases hs
  -- waiting
  · rename_i hw
    simp only [Option.ite_none_right_eq_some, Option.some.injEq] at hs
    obtain ⟨hpub, rfl⟩ := hs
    have hm : MutexMove s { s with worker := .top } := .inl ⟨rfl, by rw [hw]; rfl⟩
    exact h.workerMoves (by rw [hw]; rfl) (fun _ => hpub) rfl rfl (.inl rfl) (fun _ => rfl) rfl
      (h.worker_iff hm) (h.owner_iff hm) rfl
  all_goals rename_i hw
  -- top
  · cases hs
    refine h.loops (by rw [hw]; rfl) rfl rfl rfl (fun _ => rfl) ?_ (.inl ⟨rfl, ?_⟩) rfl
    · cases s.stop <;> rfl
    · rw [hw]
      cases s.stop <;> rfl
  -- locking
  · simp only [Option.ite_none_right_eq_some, Option.some.injEq] at hs
    obtain ⟨hm, rfl⟩ := hs
    exact h.loops (by rw [hw]; rfl) rfl rfl rfl (fun _ => rfl) rfl
      (.inr (.inl ⟨hm, rfl, rfl⟩)) rfl
  -- locked
  · have hrun : running s.worker = true := by rw [hw]; rfl
    split at hs
    · cases hs
      exact h.loops hrun rfl rfl rfl (fun _ => rfl) rfl
        (.inr (.inr ⟨by rw [hw]; rfl, rfl, rfl⟩)) rfl
    · cases hs
      exact h.loops hrun rfl rfl rfl (fun _ => rfl) rfl (.inl ⟨rfl, by rw [hw]; rfl⟩) rfl
  -- reading
  · have hrun : running s.worker = true := by rw [hw]; rfl
    have hh : workerHolds s.worker = true := by rw [hw]; rfl
    cases hs
    cases a.read with
    | frame | failed | badAlloc | threw =>
      exact h.loops hrun rfl rfl rfl (fun _ => rfl) rfl (.inr (.inr ⟨hh, rfl, rfl⟩)) rfl
  -- unlocked
  · have hrun : running s.worker = true := by rw [hw]; rfl
    split at hs
    · cases hs
      exact h.loops hrun rfl rfl rfl (fun _ => rfl) rfl (.inl ⟨rfl, by rw [hw]; rfl⟩) rfl
    split at hs
    · cases hs
      exact h.loops hrun rfl rfl rfl (fun _ => rfl) rfl (.inl ⟨rfl, by rw [hw]; rfl⟩) rfl
    · cases hs
      exact h.loops hrun rfl rfl rfl (fun _ => rfl) rfl (.inl ⟨rfl, by rw [hw]; rfl⟩) rfl
  -- delivering
  · have hrun : running s.worker = true := by rw [hw]; rfl
    split at hs
    · cases hs
      exact h.loops hrun rfl rfl rfl (fun _ => rfl) rfl (.inl ⟨rfl, by rw [hw]; rfl⟩) rfl
    · cases hs
      exact h.loops hrun rfl rfl rfl (fun _ => rfl) rfl (.inl ⟨rfl, by rw [hw]; rfl⟩) rfl
  -- inCallback
  · exact h.callbackStep hw hs
  -- ending
  · cases hs
    exact h.loops (by rw [hw]; rfl) rfl rfl rfl (fun ha => absurd ha Bool.false_ne_true) rfl
      (.inl ⟨rfl, by rw [hw]; rfl⟩) rfl

theorem Control.callbackCall (h : Control s) {c : CallbackCall}
    (hs : callbackCall s c = some s') : Control s' := by
  unfold Impl.Tmr.callbackCall at hs
  split at hs
  · rename_i d hw
    have hrun : running s.worker = true := by rw [hw]; rfl
    have hatt : s.attached = true := h.attached fun hn => by rw [hw] at hn; cases hn
    have hstop (close : Bool) : Control { s.requestStop with
        worker := .inCallback d (.stopWaiting close s.attached) } := by
      have hm : MutexMove s { s.requestStop with
          worker := .inCallback d (.stopWaiting close s.attached) } := .inl ⟨rfl, by rw [hw]; rfl⟩
      refine h.workerMoves (alive_of_running hrun) (fun hn => by rw [hw] at hn; cases hn) rfl rfl
        (.inr ?_) (fun _ => rfl) hatt (h.worker_iff hm) (h.owner_iff hm) rfl
      show (if s.attached then true else s.stop) = true
      rw [hatt]
      rfl
    have hret (threw : Bool) : Control (callbackReturns s d threw) := by
      refine h.loops hrun rfl rfl rfl (fun _ => rfl) ?_ (.inl ⟨rfl, ?_⟩) rfl
      · cases d <;> cases threw <;> rfl
      · rw [hw]
        cases d <;> cases threw <;> rfl
    cases c with
    | start =>
      rw [if_pos hatt] at hs
      cases hs
      exact h
    | stop =>
      cases hs
      exact hstop false
    | close =>
      cases hs
      exact hstop true
    | «return» =>
      cases hs
      exact hret false
    | throw =>
      cases hs
      exact hret true
  · cases hs

theorem Control.step (h : Control s) {a : SessionAct} (hs : sessionStep s a = some s') :
    Control s' := by
  cases a with
  | start empty =>
    simp only [sessionStep, Option.ite_none_right_eq_some, Option.some.injEq] at hs
    obtain ⟨hi, rfl⟩ := hs
    exact h.start hi empty
  | ending k =>
    simp only [sessionStep, Option.ite_none_right_eq_some, Option.some.injEq] at hs
    obtain ⟨hi, rfl⟩ := hs
    exact h.ending hi k
  | owner a => exact h.ownerStep hs
  | worker a => exact h.workerStep hs
  | callback c => exact h.callbackCall hs
  | lost stillOpen =>
    cases hs
    exact h.ownerMoves (h.owner.lost stillOpen) rfl rfl rfl rfl Iff.rfl h.ownerMutex

/-! ## The backend is used by one party at a time -/

theorem workerHolds_of_uses {w : WorkerPhase} (h : workerUses w = true) : workerHolds w = true := by
  cases w with
  | reading => rfl
  | inCallback d p =>
    cases p with
    | stopBackend | stopThrew => rfl
    | user | stopWaiting | closing => cases h
  | none | waiting | top | locking | locked | unlocked | delivering | ending | finished => cases h

theorem Control.exclusive (h : Control s) (ho : ownerUses s.owner = true) :
    workerUses s.worker = false := by
  cases hu : workerUses s.worker with
  | false => rfl
  | true =>
    have hm := h.workerMutex.mpr (workerHolds_of_uses hu)
    have hne : s.worker ≠ .none := fun hn => by
      rw [hn] at hu
      cases hu
    have hok := h.owner
    cases hp : s.owner with
    | stopBackend k locks | stopThrew k locks =>
      rw [hp] at hok
      have hl : ownerHolds s.owner = true := by
        rw [hp]
        exact hok.1.trans (h.attached hne)
      have := hm.symm.trans (h.ownerMutex.mpr hl)
      cases this
    | startCheck | startBackend | startThrew | launchStop | launchClose | closing =>
      rw [hp] at hok
      exact absurd hok.1 hne
    | idle | startReap | launching | publishing | stopWaiting | stopReap | destroyed =>
      rw [hp] at ho
      cases ho

end WSE.Proof.Tmr
