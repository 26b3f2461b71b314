import WapitiStew.Proof.Wse.WorkerController

/-!
# The running flag and the threads

Every thread that was created is in one place (`Owned`), so none is joined twice. While no
creation of a thread throws, the running flag is set exactly while a worker exists, and a
`start` that nobody interferes with succeeds when none does (`truthful`). A thread that
could not be created leaves the flag set for good (`truthful_broken`).
-/

namespace WSE.Proof.Wse

open WSE.Framework WSE.Impl.Wse WSE.Spec.Wse

variable {s s' : WorkerController} {i w : Nat} {c : WorkerCall} {r : ControllerResult}

/-! ## Threads -/

/-- The thread that a call joins. -/
def joining : CallPhase → Option Nat
  | .startJoin w | .stopJoin w => some w
  | _ => none

def handles (thread : Option Nat) (calls : List WorkerCall) (joined : List Nat) : List Nat :=
  thread.toList ++ calls.filterMap (fun c => joining c.phase) ++ joined

theorem joinedWorkers_snoc (log : List WorkerEvent) (e : WorkerEvent) :
    joinedWorkers (log ++ [e]) = joinedWorkers log ++ joinedWorkers [e] := List.filterMap_append

/-- Every thread that was created is owned by the controller or by a call, or was joined. -/
structure Owned (thread : Option Nat) (created : Nat) (calls : List WorkerCall)
    (joined : List Nat) : Prop where
  once : (handles thread calls joined).Nodup
  known : ∀ w ∈ handles thread calls joined, w < created

section Owned

variable {thread thread' : Option Nat} {created : Nat} {calls : List WorkerCall}
  {joined joined' : List Nat}

/-- A call goes on, and takes or gives up a thread. -/
theorem Owned.goesTo {p : CallPhase} (h : Owned thread created calls joined)
    (hc : calls[i]? = some c)
    (hp : (thread'.toList ++ (joining p).toList ++ joined').Perm
      (thread.toList ++ (joining c.phase).toList ++ joined)) :
    Owned thread' created (calls.set i { c with phase := p }) joined' := by
  have hnew := filterMap_set_perm (fun c : WorkerCall => joining c.phase) hc { c with phase := p }
  have hold := filterMap_perm (fun c : WorkerCall => joining c.phase) hc
  have hrest : ∀ a b c d : List Nat, (a ++ (b ++ c) ++ d).Perm (a ++ b ++ d ++ c) := by
    intro a b c d
    rw [← List.append_assoc, List.append_assoc, List.append_assoc (a ++ b)]
    exact List.perm_append_comm.append_left _
  have hperm : (handles thread' (calls.set i { c with phase := p }) joined').Perm
      (handles thread calls joined) := by
    refine ((hnew.append_left _).append_right _).trans ((hrest _ _ _ _).trans ?_)
    exact (hp.append_right _).trans
      ((hrest _ _ _ _).symm.trans ((hold.append_left _).append_right _).symm)
  exact ⟨hperm.nodup_iff.mpr h.once, fun w hw => h.known w (hperm.mem_iff.mp hw)⟩

theorem Owned.goesOn {p : CallPhase} (h : Owned thread created calls joined)
    (hc : calls[i]? = some c) (hp : joining p = joining c.phase) :
    Owned thread created (calls.set i { c with phase := p }) joined :=
  h.goesTo hc (by rw [hp])

/-- A call takes the thread of the controller. -/
theorem Owned.takes {p : CallPhase} (h : Owned (some w) created calls joined)
    (hc : calls[i]? = some c) (hp : joining p = some w) (hno : joining c.phase = none) :
    Owned none created (calls.set i { c with phase := p }) joined :=
  h.goesTo hc (by rw [hp, hno]; exact .refl _)

/-- A call has joined its thread. -/
theorem Owned.joins {p : CallPhase} (h : Owned thread created calls joined)
    (hc : calls[i]? = some c) (hp : joining p = none) (hw : joining c.phase = some w) :
    Owned thread created (calls.set i { c with phase := p }) (joined ++ [w]) := by
  refine h.goesTo hc ?_
  rw [hp, hw, Option.toList_none, List.append_nil, List.append_assoc]
  exact List.perm_append_comm.append_left _

theorem Owned.launches (h : Owned none created calls joined) :
    Owned (some created) (created + 1) calls joined := by
  refine ⟨List.nodup_cons.mpr ⟨fun hm => ?_, h.once⟩, fun w hw => ?_⟩
  · exact Nat.lt_irrefl _ (h.known _ hm)
  · obtain rfl | hw := List.mem_cons.mp hw
    · exact Nat.lt_succ_self _
    · exact Nat.lt_succ_of_lt (h.known w hw)

/-- A call begins. -/
theorem Owned.called (h : Owned thread created calls joined) (hc : joining c.phase = none) :
    Owned thread created (calls ++ [c]) joined := by
  have hsame : handles thread (calls ++ [c]) joined = handles thread calls joined := by
    rw [handles, List.filterMap_append, List.filterMap_cons, hc]
    simp only [List.filterMap_nil, List.append_nil]
    rfl
  exact ⟨hsame ▸ h.once, hsame ▸ h.known⟩

end Owned

def OwnedBy (s : WorkerController) : Prop :=
  Owned s.thread s.workers.length s.calls (joinedWorkers s.log)

/-- An event that joins nothing. -/
theorem OwnedBy.record (h : OwnedBy s) {e : WorkerEvent} (he : joinedWorkers [e] = []) :
    OwnedBy (s.record e) := by
  unfold OwnedBy
  rwa [show joinedWorkers (s.record e).log = joinedWorkers s.log by
    rw [WorkerController.record, joinedWorkers_snoc, he, List.append_nil]]

/-- A call that joins nothing returns. -/
theorem OwnedBy.returns (h : OwnedBy s) (hc : s.calls[i]? = some c)
    (hj : joining c.phase = none) : OwnedBy (s.returns i c r) :=
  Owned.goesOn (h.record (e := .returned i r) rfl) hc hj.symm

theorem owned_startFirst (h : OwnedBy s) (hc : s.calls[i]? = some c)
    (hj : joining c.phase = none) : OwnedBy (s.startFirst i c) := by
  unfold WorkerController.startFirst
  split
  · exact h.returns hc hj
  · split
    · next w ht =>
      have h : Owned (some w) s.workers.length s.calls (joinedWorkers s.log) := ht ▸ h
      exact h.takes hc rfl hj
    · exact Owned.goesOn h hc hj.symm

theorem owned_startSecond (h : OwnedBy s) (hc : s.calls[i]? = some c)
    (hj : joining c.phase = none) (throws : Bool) : OwnedBy (s.startSecond i c throws) := by
  unfold WorkerController.startSecond
  split
  · exact h.returns hc hj
  · next hrun =>
    have ht : s.thread = none := by
      simp only [Bool.or_eq_true, not_or] at hrun
      exact Option.not_isSome_iff_eq_none.mp hrun.2
    split
    · have hset : OwnedBy { s with stopRequested := false, running := true } := h
      exact hset.returns hc hj
    · have hno : Owned none s.workers.length s.calls (joinedWorkers s.log) := ht ▸ h
      have hlaunched : OwnedBy { s with stopRequested := false, running := true }.launch := by
        have hrec : joinedWorkers (s.log ++ [.launched s.workers.length]) =
            joinedWorkers s.log := by
          rw [joinedWorkers_snoc]
          exact List.append_nil _
        show Owned (some s.workers.length) (s.workers ++ [WorkerPhase.launched]).length s.calls
          (joinedWorkers (s.log ++ [.launched s.workers.length]))
        rw [hrec, List.length_append]
        exact hno.launches
      exact hlaunched.returns hc hj

theorem owned_stopTaking (h : OwnedBy s) (hc : s.calls[i]? = some c)
    (hj : joining c.phase = none) : OwnedBy (s.stopTaking i c) := by
  unfold WorkerController.stopTaking
  split
  · exact h.returns hc hj
  · next w ht =>
    split
    · exact h.returns hc hj
    · have hwaits := h.record (e := .waits i w) rfl
      have hwaits : Owned (some w) s.workers.length s.calls
        (joinedWorkers (s.record (.waits i w)).log) := ht ▸ hwaits
      exact hwaits.takes hc rfl hj

/-- A call has joined its thread, and goes on. -/
theorem OwnedBy.joins {p : CallPhase} (h : OwnedBy s) (hc : s.calls[i]? = some c)
    (hp : joining p = none) (hw : joining c.phase = some w) :
    OwnedBy ((s.record (.joined w)).goesTo i c p) := by
  have hlog : joinedWorkers (s.log ++ [.joined w]) = joinedWorkers s.log ++ [w] :=
    joinedWorkers_snoc _ _
  show Owned s.thread s.workers.length (s.calls.set i { c with phase := p })
    (joinedWorkers (s.log ++ [.joined w]))
  rw [hlog]
  exact Owned.joins h hc hp hw

theorem owned_proceed {throws : Bool} (h : OwnedBy s) (hc : s.calls[i]? = some c)
    (hp : s.proceed i c throws = some s') : OwnedBy s' := by
  unfold WorkerController.proceed at hp
  split at hp
  · next hph => exact Option.some.inj hp ▸ owned_startFirst h hc (by rw [hph]; rfl)
  · next w hph =>
    obtain ⟨-, he⟩ := Option.ite_none_right_eq_some.mp hp
    exact Option.some.inj he ▸ h.joins hc rfl (by rw [hph]; rfl)
  · next hph => exact Option.some.inj hp ▸ owned_startSecond h hc (by rw [hph]; rfl) throws
  · next hph =>
    have hrec : OwnedBy (s.requestStop i) := h.record (e := .requested i) rfl
    exact Option.some.inj hp ▸ hrec.returns hc (by rw [hph]; rfl)
  · next hph =>
    have hrec : OwnedBy (s.requestStop i) := h.record (e := .requested i) rfl
    exact Option.some.inj hp ▸ Owned.goesOn hrec hc (by rw [hph]; rfl)
  · next hph => exact Option.some.inj hp ▸ owned_stopTaking h hc (by rw [hph]; rfl)
  · next w hph =>
    obtain ⟨-, he⟩ := Option.ite_none_right_eq_some.mp hp
    have hjoined : OwnedBy ((s.record (.joined w)).goesTo i c (.returned .done)) :=
      h.joins hc rfl (by rw [hph]; rfl)
    have hret := hjoined.record (e := .returned i .done) rfl
    exact Option.some.inj he ▸ hret
  · cases hp

theorem owned_call (h : OwnedBy s) (caller : Option Nat) (d : ControllerCall) :
    OwnedBy (s.call caller d) := by
  have hnew : ∀ p, joining p = none → OwnedBy { s.record (.called s.calls.length caller d) with
      calls := s.calls ++ [{ caller, launched := s.workers.length, phase := p }] } :=
    fun p hp => Owned.called (h.record (e := .called s.calls.length caller d) rfl) hp
  unfold WorkerController.call
  split
  · exact hnew _ rfl
  · exact (hnew (.returned (.started false)) rfl).record rfl
  · exact hnew _ rfl
  · exact hnew _ rfl

theorem owned_step {a : WorkerAction} (h : OwnedBy s) (hs : workerStep s a = some s') :
    OwnedBy s' := by
  have hset : ∀ w (p : WorkerPhase), Owned s.thread (s.workers.set w p).length s.calls
      (joinedWorkers s.log) := by
    intro w p
    rw [List.length_set]
    exact h
  cases a with
  | call caller d =>
    cases caller with
    | none => exact Option.some.inj hs ▸ owned_call h none d
    | some w =>
      obtain ⟨-, he⟩ := Option.ite_none_right_eq_some.mp hs
      exact Option.some.inj he ▸ owned_call h (some w) d
  | proceed i throws =>
    obtain ⟨c, hc, hp⟩ := Option.bind_eq_some_iff.mp hs
    exact owned_proceed h hc hp
  | begins w =>
    obtain ⟨-, he⟩ := Option.ite_none_right_eq_some.mp hs
    cases he
    exact hset w .body
  | works w =>
    obtain ⟨-, he⟩ := Option.ite_none_right_eq_some.mp hs
    cases he
    exact h.record rfl
  | ends w =>
    obtain ⟨-, he⟩ := Option.ite_none_right_eq_some.mp hs
    cases he
    have hrec := h.record (e := .ended w) rfl
    unfold OwnedBy
    rw [show (s.workers.set w WorkerPhase.ended).length = s.workers.length from List.length_set]
    exact hrec

/-! ## The running flag -/

/-- The flag is set only while a worker exists. -/
def FlagTrue (s : WorkerController) : Prop := s.running = true → ∃ w, LiveWorker s w

theorem FlagTrue.same (h : FlagTrue s) (hr : s'.running = s.running)
    (hw : s'.workers = s.workers) : FlagTrue s' := by
  intro hrun
  obtain ⟨w, hlive⟩ := h (hr ▸ hrun)
  refine ⟨w, live_iff.mpr ?_⟩
  rw [hw]
  exact live_iff.mp hlive

/-- Only the second region of `start` changes the flag. -/
theorem proceed_same {throws : Bool} (hph : c.phase ≠ .startSecond)
    (hp : s.proceed i c throws = some s') :
    s'.running = s.running ∧ s'.workers = s.workers := by
  unfold WorkerController.proceed at hp
  split at hp
  · cases hp
    unfold WorkerController.startFirst
    split
    · exact ⟨rfl, rfl⟩
    · split <;> exact ⟨rfl, rfl⟩
  · obtain ⟨-, he⟩ := Option.ite_none_right_eq_some.mp hp
    cases he
    exact ⟨rfl, rfl⟩
  · next h => exact absurd h hph
  · cases hp
    exact ⟨rfl, rfl⟩
  · cases hp
    exact ⟨rfl, rfl⟩
  · cases hp
    unfold WorkerController.stopTaking
    split
    · exact ⟨rfl, rfl⟩
    · split <;> exact ⟨rfl, rfl⟩
  · obtain ⟨-, he⟩ := Option.ite_none_right_eq_some.mp hp
    cases he
    exact ⟨rfl, rfl⟩
  · cases hp

theorem live_launch (s : WorkerController) : LiveWorker s.launch s.workers.length :=
  live_of_phase (p := .launched) List.getElem?_concat_length nofun

theorem flag_startSecond {throws : Bool} (h : FlagTrue s)
    (hok : s.running = false → s.thread = none → throws = false) :
    FlagTrue (s.startSecond i c throws) := by
  unfold WorkerController.startSecond
  split
  · exact h.same rfl rfl
  · next hc =>
    obtain ⟨hr, ht⟩ : s.running = false ∧ s.thread = none := by simpa using hc
    rw [hok hr ht]
    intro _
    exact ⟨_, live_launch { s with stopRequested := false, running := true }⟩

theorem call_same (s : WorkerController) (caller : Option Nat) (d : ControllerCall) :
    (s.call caller d).running = s.running ∧ (s.call caller d).workers = s.workers := by
  unfold WorkerController.call
  split <;> exact ⟨rfl, rfl⟩

theorem flag_step {a : WorkerAction} (h : FlagTrue s) (hok : CreatesThread s a)
    (hs : workerStep s a = some s') : FlagTrue s' := by
  cases a with
  | call caller d =>
    obtain ⟨hr, hw⟩ := call_same s caller d
    cases caller with
    | none => exact Option.some.inj hs ▸ h.same hr hw
    | some w =>
      obtain ⟨-, he⟩ := Option.ite_none_right_eq_some.mp hs
      exact Option.some.inj he ▸ h.same hr hw
  | proceed i throws =>
    obtain ⟨c, hc, hp⟩ := Option.bind_eq_some_iff.mp hs
    by_cases hph : c.phase = .startSecond
    · have hsecond : s.proceed i c throws = some (s.startSecond i c throws) := by
        rw [WorkerController.proceed, hph]
      cases hsecond.symm.trans hp
      exact flag_startSecond h (hok c hc hph)
    · obtain ⟨hr, hw⟩ := proceed_same hph hp
      exact h.same hr hw
  | begins w =>
    obtain ⟨hw, he⟩ := Option.ite_none_right_eq_some.mp hs
    cases he
    intro _
    exact ⟨w, live_of_phase (p := .body) (List.getElem?_set_self (lt_of_getElem? hw)) nofun⟩
  | works w =>
    obtain ⟨-, he⟩ := Option.ite_none_right_eq_some.mp hs
    exact Option.some.inj he ▸ h.same rfl rfl
  | ends w =>
    obtain ⟨-, he⟩ := Option.ite_none_right_eq_some.mp hs
    cases he
    nofun

/-! ## Starting again -/

theorem proceed_step {throws : Bool} (hc : s.calls[i]? = some c) :
    workerStep s (.proceed i throws) = s.proceed i c throws := by
  rw [workerStep, hc]
  rfl

/-- The first region of a `start` while nothing runs. -/
theorem first_goes (hr : s.running = false) (hc : s.calls[i]? = some c)
    (hph : c.phase = .startFirst) :
    workerStep s (.proceed i false) = some (match s.thread with
      | some w => { s with thread := none }.goesTo i c (.startJoin w)
      | none => s.goesTo i c .startSecond) := by
  rw [proceed_step hc, WorkerController.proceed, hph]
  show some (s.startFirst i c) = _
  exact congrArg some (if_neg (Bool.eq_false_iff.mp hr))

/-- The join of a `start` whose old worker has ended. -/
theorem join_goes (hw : s.hasEnded w = true) (hc : s.calls[i]? = some c)
    (hph : c.phase = .startJoin w) :
    workerStep s (.proceed i false) = some ((s.record (.joined w)).goesTo i c .startSecond) := by
  rw [proceed_step hc, WorkerController.proceed, hph]
  exact if_pos hw

/-- The second region of a `start` whose thread can be created. -/
theorem second_launches (hr : s.running = false) (ht : s.thread = none)
    (hc : s.calls[i]? = some c) (hph : c.phase = .startSecond) :
    ∃ s', workerStep s (.proceed i false) = some s' ∧ LiveWorker s' s.workers.length ∧
      .returned i (.started true) ∈ s'.log := by
  have hsecond : s.startSecond i c false =
      { s with stopRequested := false, running := true }.launch.returns i c (.started true) := by
    rw [WorkerController.startSecond, hr, ht]
    rfl
  refine ⟨{ s with stopRequested := false, running := true }.launch.returns i c (.started true), ?_,
    live_launch { s with stopRequested := false, running := true }, ?_⟩
  · rw [proceed_step hc, WorkerController.proceed, hph]
    exact congrArg some hsecond
  · exact List.mem_append_right _ (List.mem_singleton_self _)

theorem start_alone (h : Sound s) (hr : s.running = false) (hno : ∀ w, ¬LiveWorker s w) :
    ∃ s', run workerStep s (startAlone s) = some s' ∧ LiveWorker s' s.workers.length ∧
      .returned s.calls.length (.started true) ∈ s'.log := by
  have hcalled : (s.call none (.start true)).calls[s.calls.length]? =
      some ⟨none, s.workers.length, .startFirst⟩ := List.getElem?_concat_length
  have hlen := lt_of_getElem? hcalled
  have hfirst := first_goes (s := s.call none (.start true)) hr hcalled rfl
  cases ht : s.thread with
  | none =>
    rw [show (s.call none (.start true)).thread = none from ht] at hfirst
    obtain ⟨s', hs', hlive⟩ := second_launches (i := s.calls.length)
      (s := (s.call none (.start true)).goesTo s.calls.length
        ⟨none, s.workers.length, .startFirst⟩ .startSecond)
      hr ht (List.getElem?_set_self hlen) rfl
    refine ⟨s', ?_, hlive⟩
    rw [startAlone, ht]
    exact run_cons.mpr ⟨_, rfl, run_cons.mpr ⟨_, hfirst, run_cons.mpr ⟨_, hs', rfl⟩⟩⟩
  | some w =>
    have hw : w + 1 = s.workers.length := h.thread w ht
    have hended : s.hasEnded w = true := hasEnded_iff.mpr (ended_of_not_live (by omega) (hno w))
    rw [show (s.call none (.start true)).thread = some w from ht] at hfirst
    have hjoin := join_goes (i := s.calls.length) (w := w)
      (s := { s.call none (.start true) with thread := none }.goesTo s.calls.length
        ⟨none, s.workers.length, .startFirst⟩ (.startJoin w))
      hended (List.getElem?_set_self hlen) rfl
    obtain ⟨s', hs', hlive⟩ := second_launches (i := s.calls.length)
      (c := ⟨none, s.workers.length, .startSecond⟩)
      (s := ({ s.call none (.start true) with thread := none }.goesTo s.calls.length
        ⟨none, s.workers.length, .startFirst⟩ (.startJoin w)).record (.joined w) |>.goesTo
          s.calls.length ⟨none, s.workers.length, .startJoin w⟩ .startSecond)
      hr rfl (List.getElem?_set_self (Nat.lt_of_lt_of_eq hlen List.length_set.symm)) rfl
    refine ⟨s', ?_, hlive⟩
    rw [startAlone, ht]
    exact run_cons.mpr ⟨_, rfl, run_cons.mpr ⟨_, hfirst, run_cons.mpr ⟨_, hjoin,
      run_cons.mpr ⟨_, hs', rfl⟩⟩⟩⟩

/-! ## Every run -/

theorem truthful_of (h : Sound s) (ho : OwnedBy s) (hf : FlagTrue s) : Truthful s where
  running := ⟨hf, fun ⟨w, hw⟩ => (h.latest w hw).2⟩
  one w w' hw hw' := by
    have := (h.latest w hw).1
    have := (h.latest w' hw').1
    omega
  joined := (List.nodup_append.mp ho.once).2.1
  starts hno := start_alone h (Bool.eq_false_iff.mpr fun hr => (hf hr).elim hno) hno

theorem truthful {as : List WorkerAction} (hr : run workerStep {} as = some s)
    (hok : Along workerStep CreatesThread {} as) : Truthful s := by
  have hstep : ∀ s a s', Sound s ∧ OwnedBy s ∧ FlagTrue s → CreatesThread s a →
      workerStep s a = some s' → Sound s' ∧ OwnedBy s' ∧ FlagTrue s' :=
    fun _ _ _ ⟨hs, ho, hf⟩ ha ht => ⟨sound_step hs ht, owned_step ho ht, flag_step hf ha ht⟩
  have howned : OwnedBy {} := ⟨List.nodup_nil, fun _ hw => nomatch hw⟩
  obtain ⟨hs, ho, hf⟩ := run_invariant_along hstep ⟨.empty, howned, nofun⟩ hok hr
  exact truthful_of hs ho hf

/-- The worker ends, the next `start` joins it, a stop joins the next worker. -/
def restartedWorker : List WorkerAction :=
  [.call none (.start true), .proceed 0 false, .proceed 0 false, .begins 0, .works 0,
    .call (some 0) .stop, .proceed 1 false, .proceed 1 false, .ends 0,
    .call none (.start true), .proceed 2 false, .proceed 2 false, .proceed 2 false,
    .call none .stop, .proceed 3 false, .proceed 3 false, .begins 1, .ends 1, .proceed 3 false]

theorem restartedWorker_along : Along workerStep CreatesThread {} restartedWorker :=
  along_of_forall (by simp [restartedWorker, CreatesThread]) _

theorem truthful_restarted : ∃ s, run workerStep {} restartedWorker = some s ∧
    joinedWorkers s.log = [0, 1] ∧ Truthful s :=
  ⟨_, rfl, rfl, truthful rfl restartedWorker_along⟩

/-- The creation of the thread throws. -/
def failedStart : List WorkerAction :=
  [.call none (.start true), .proceed 0 false, .proceed 0 true]

theorem truthful_broken : ∃ s, run workerStep {} failedStart = some s ∧ s.isRunning = true ∧
    (∀ w, ¬LiveWorker s w) ∧ ¬Truthful s := by
  refine ⟨_, rfl, rfl, fun w hw => absurd hw.1 (Nat.not_lt_zero w), fun h => ?_⟩
  obtain ⟨w, hw⟩ := h.running.mp rfl
  exact absurd hw.1 (Nat.not_lt_zero w)

end WSE.Proof.Wse
