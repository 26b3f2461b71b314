import Mathlib.Algebra.GroupWithZero.Nat
import Mathlib.Data.List.Perm.Subperm
import WapitiStew.Proof.Tmr.CameraOwnerTasks

/-!
# The owner thread and its callers

`Sleeps` says what a thread that waits for the condition waits for. While a call is under
way some thread can go on (`some_proceeds`), and a step of a caller or of the owner
lowers `effort`, so that the threads come to rest; where they rest every call has returned.
-/

namespace WSE.Proof.Tmr

open WSE.Framework WSE.Impl.Tmr WSE.Spec.Tmr

variable {σ ε α : Type*} {object : σ} {s s' : CameraOwnerThread σ ε α} {cur : Option Nat}
  {i : Nat} {v w : Invocation σ ε α}

/-! ## Who waits for what -/

structure Sleeps (s : CameraOwnerThread σ ε α) : Prop where
  once : s.sleepers.Nodup
  owner : .owner ∈ s.sleepers → s.task = none ∧ s.stop = false
  callers : ∀ i, .caller i ∈ s.sleepers → ∃ v, s.invocations[i]? = some v ∧
    (v.phase = .waitsFree ∧ s.task ≠ none ∨ v.phase = .waitsDone ∧ s.task = some v.address)

namespace Sleeps

/-- All wake up. -/
theorem none (h : s.sleepers = []) : Sleeps s where
  once := h ▸ List.nodup_nil
  owner hm := by
    rw [h] at hm
    cases hm
  callers i hm := by
    rw [h] at hm
    cases hm

/-- A caller that does not wait goes on, and waits or not. -/
theorem caller {w : Invocation σ ε α} (h : Sleeps s) (hi : .caller i ∉ s.sleepers)
    (ht : s'.task = s.task) (hstop : s'.stop = s.stop)
    (hinv : s'.invocations = s.invocations.set i w) (hlt : i < s.invocations.length)
    (hs : s'.sleepers = s.sleepers ∨ s'.sleepers = .caller i :: s.sleepers ∧
      (w.phase = .waitsFree ∧ s.task ≠ Option.none ∨
        w.phase = .waitsDone ∧ s.task = some w.address)) : Sleeps s' := by
  have hold : ∀ j, .caller j ∈ s.sleepers → ∃ v, s'.invocations[j]? = some v ∧
      (v.phase = .waitsFree ∧ s'.task ≠ Option.none ∨
        v.phase = .waitsDone ∧ s'.task = some v.address) := by
    intro j hj
    have hne : i ≠ j := by
      rintro rfl
      exact hi hj
    rw [hinv, ht, List.getElem?_set_ne hne]
    exact h.callers j hj
  obtain hs | ⟨hs, hw⟩ := hs
  · exact ⟨hs ▸ h.once, fun hm => ht ▸ hstop ▸ h.owner (hs ▸ hm), fun j hj => hold j (hs ▸ hj)⟩
  · refine ⟨?_, fun hm => ?_, fun j hj => ?_⟩
    · rw [hs]
      exact List.nodup_cons.mpr ⟨hi, h.once⟩
    · rw [hs] at hm
      rw [ht, hstop]
      exact h.owner ((List.mem_cons.mp hm).resolve_left nofun)
    · rw [hs] at hj
      obtain hj | hj := List.mem_cons.mp hj
      · cases hj
        rw [hinv, ht]
        exact ⟨w, List.getElem?_set_self hlt, hw⟩
      · exact hold j hj

theorem submit (h : Sleeps s) (hv : s.invocations[i]? = some v)
    (hi : .caller i ∉ s.sleepers) : Sleeps (s.submit i v) := by
  have hlt := lt_of_getElem? hv
  unfold CameraOwnerThread.submit
  split
  · refine ⟨List.pairwise_singleton _ _, fun hm => ?_, fun j hj => ?_⟩
    · cases List.mem_singleton.mp hm
    · cases List.mem_singleton.mp hj
      exact ⟨_, List.getElem?_set_self hlt, .inr ⟨rfl, rfl⟩⟩
  · next ht => exact h.caller hi rfl rfl rfl hlt (.inr ⟨rfl, .inl ⟨rfl, ht⟩⟩)

theorem finish (h : Sleeps s) (hv : s.invocations[i]? = some v) (hph : v.phase = .waitsDone)
    (hi : .caller i ∉ s.sleepers) (hs : s.finish i v = some s') : Sleeps s' := by
  have hlt := lt_of_getElem? hv
  unfold CameraOwnerThread.finish at hs
  split at hs
  · next ht =>
    cases hs
    have hsame : s.invocations = s.invocations.set i v := by
      rw [← (List.getElem?_eq_some_iff.mp hv).2, List.set_getElem_self]
    exact h.caller hi rfl rfl hsame hlt (.inr ⟨rfl, .inr ⟨hph, ht⟩⟩)
  · obtain ⟨r, -, rfl⟩ := Option.map_eq_some_iff.mp hs
    exact h.caller hi rfl rfl rfl hlt (.inl rfl)

theorem callerStep (h : Sleeps s) (hs : s.callerStep i = some s') : Sleeps s' := by
  unfold CameraOwnerThread.callerStep at hs
  split at hs
  · cases hs
  next hi =>
    have hi : .caller i ∉ s.sleepers := by simpa using hi
    obtain ⟨v, hv, hs⟩ := Option.bind_eq_some_iff.mp hs
    split at hs
    · exact Option.some.inj hs ▸ h.submit hv hi
    · exact Option.some.inj hs ▸ h.submit hv hi
    · next hph => exact h.finish hv hph hi hs
    · cases hs

/-- The waiting callers are not concerned by a change of the outcome of an invocation. -/
theorem runTask (h : Sleeps s) (hv : s.invocations[i]? = some v) : Sleeps (s.runTask i v) := by
  have hlt := lt_of_getElem? hv
  refine ⟨h.once, h.owner, fun j hj => ?_⟩
  obtain ⟨w, hw, hwait⟩ := h.callers j hj
  by_cases hij : i = j
  · subst hij
    cases hv.symm.trans hw
    exact ⟨_, List.getElem?_set_self hlt, hwait⟩
  · exact ⟨w, (List.getElem?_set_ne hij).trans hw, hwait⟩

theorem ownerStep (h : Sleeps s) (hs : s.ownerStep = some s') : Sleeps s' := by
  unfold CameraOwnerThread.ownerStep at hs
  split at hs
  · split at hs
    · cases hs
    next hi =>
      have hi : .owner ∉ s.sleepers := by simpa using hi
      split at hs
      · cases hs
        exact ⟨h.once, h.owner, h.callers⟩
      next hstop =>
        split at hs
        · next ht =>
          cases hs
          refine ⟨List.nodup_cons.mpr ⟨hi, h.once⟩, fun _ => ⟨ht, Bool.eq_false_iff.mpr hstop⟩,
            fun j hj => h.callers j ((List.mem_cons.mp hj).resolve_left nofun)⟩
        · obtain ⟨i, -, rfl⟩ := Option.map_eq_some_iff.mp hs
          exact ⟨h.once, h.owner, h.callers⟩
  · obtain ⟨i, -, hs⟩ := Option.bind_eq_some_iff.mp hs
    obtain ⟨v, hv, rfl⟩ := Option.map_eq_some_iff.mp hs
    exact h.runTask hv
  · cases hs
    exact .none rfl
  · cases hs

theorem step {a : OwnerThreadAction σ ε α} (h : Sleeps s) (hs : cameraOwnerStep s a = some s') :
    Sleeps s' := by
  cases a with
  | call address f =>
    simp only [cameraOwnerStep, CameraOwnerThread.call] at hs
    split at hs
    · cases hs
    · cases hs
      refine ⟨h.once, h.owner, fun j hj => ?_⟩
      obtain ⟨v, hv, hwait⟩ := h.callers j hj
      exact ⟨v, getElem?_append_old _ hv, hwait⟩
  | caller i => exact h.callerStep hs
  | owner => exact h.ownerStep hs
  | wakes w =>
    simp only [cameraOwnerStep, Option.ite_none_right_eq_some, Option.some.injEq] at hs
    obtain ⟨-, rfl⟩ := hs
    exact ⟨h.once.erase w, fun hm => h.owner (List.mem_of_mem_erase hm),
      fun j hj => h.callers j (List.mem_of_mem_erase hj)⟩
  | destroy =>
    simp only [cameraOwnerStep, Option.ite_none_right_eq_some, Option.some.injEq] at hs
    obtain ⟨-, rfl⟩ := hs
    exact .none rfl

end Sleeps

/-! ## Some thread can go on -/

theorem exists_active (h : s.unused = false) :
    ∃ (i : Nat) (v : Invocation σ ε α), s.invocations[i]? = some v ∧ v.active = true := by
  obtain ⟨v, hv, hact⟩ := List.all_eq_false.mp h
  obtain ⟨i, hi⟩ := List.getElem?_of_mem hv
  exact ⟨i, v, hi, by simpa using hact⟩

/-- The owner goes on when a task is stored. -/
theorem owner_proceeds {address : Nat} (h : Served object s cur) (hw : Sleeps s)
    (ht : s.task = some address) (hstop : s.stop = false) : s.ownerStep.isSome = true := by
  obtain ⟨i, v, -, hv, rfl, hi⟩ := h.taskAt_current ht
  have hawake : s.sleepers.contains .owner = false := by
    refine Bool.eq_false_iff.mpr fun hm => ?_
    have := (hw.owner (List.contains_iff_mem.mp hm)).1
    cases this.symm.trans ht
  unfold CameraOwnerThread.ownerStep
  cases ho : s.owner with
  | waits =>
    simp only [hawake, hstop, ht, hi]
    rfl
  | running a =>
    cases (h.slot.task_of_running ho).symm.trans ht
    simp only [hi, Option.bind_some, hv]
    rfl
  | finishing => rfl
  | ended => exact absurd (hstop.symm.trans (h.finished ho)) Bool.noConfusion

/-- A caller goes on when no task is stored. -/
theorem caller_proceeds (h : Served object s cur) (hw : Sleeps s) (ht : s.task = none)
    (hv : s.invocations[i]? = some v) (hact : v.active = true) :
    (s.callerStep i).isSome = true := by
  have hawake : s.sleepers.contains (.caller i) = false := by
    refine Bool.eq_false_iff.mpr fun hm => ?_
    obtain ⟨w, -, hw | hw⟩ := hw.callers i (List.contains_iff_mem.mp hm)
    · exact hw.2 ht
    · cases ht.symm.trans hw.2
  unfold CameraOwnerThread.callerStep
  simp only [hawake, hv, Option.bind_some]
  cases hph : v.phase with
  | entering | waitsFree => rfl
  | waitsDone =>
    obtain rfl := h.slot.free_of_task ht
    have hout := (h.settled i v hv nofun).after hph
    simp only [CameraOwnerThread.finish, ht, reduceCtorEq, if_false, Option.isSome_map]
    exact hout
  | returned =>
    rw [Invocation.active, hph] at hact
    cases hact

theorem some_proceeds (h : Served object s cur) (hw : Sleeps s) (hu : s.unused = false) :
    ∃ a : OwnerThreadAction σ ε α, a.proceeds ∧ (cameraOwnerStep s a).isSome := by
  obtain ⟨i, v, hv, hact⟩ := exists_active hu
  have hstop := Bool.eq_false_iff.mpr (h.not_stopped hv hact)
  cases ht : s.task with
  | none => exact ⟨.caller i, rfl, caller_proceeds h hw ht hv hact⟩
  | some address => exact ⟨.owner, rfl, owner_proceeds h hw ht hstop⟩

/-! ## The threads come to rest -/

/-- How far a caller still has to go. -/
def phaseDistance : CallerPhase → Nat
  | .entering => 6
  | .waitsFree => 5
  | .waitsDone => 1
  | .returned => 0

def distance (v : Invocation σ ε α) : Nat := phaseDistance v.phase

def ownerDistance (s : CameraOwnerThread σ ε α) : Nat :=
  match s.owner with
  | .waits => if s.task.isSome then 4 else 1
  | .running _ => 3
  | .finishing => 2
  | .ended => 0

def totalDistance (s : CameraOwnerThread σ ε α) : Nat :=
  (s.invocations.map distance).sum + ownerDistance s

/-- The callers and the owner. -/
def threads (s : CameraOwnerThread σ ε α) : Nat := s.invocations.length + 1

/-- A bound on the steps that the threads can still make. -/
def effort (s : CameraOwnerThread σ ε α) : Nat :=
  totalDistance s * (threads s + 1) + (threads s - s.sleepers.length)

theorem sleepers_length (h : Sleeps s) : s.sleepers.length ≤ threads s := by
  have hsub : s.sleepers ⊆ .owner :: (List.range s.invocations.length).map .caller := by
    intro w hw
    cases w with
    | owner => exact List.mem_cons_self
    | caller i =>
      obtain ⟨v, hv, -⟩ := h.callers i hw
      have hlt := lt_of_getElem? hv
      exact List.mem_cons_of_mem _ (List.mem_map_of_mem (List.mem_range.mpr hlt))
  have hle := (h.once.subperm hsub).length_le
  simpa [threads] using hle

/-- A thread gets further. -/
theorem effort_of_further (hn : threads s' = threads s) (hd : totalDistance s' < totalDistance s) :
    effort s' < effort s := by
  have hmul : (totalDistance s' + 1) * (threads s + 1) ≤ totalDistance s * (threads s + 1) :=
    Nat.mul_le_mul_right _ hd
  rw [Nat.add_mul] at hmul
  unfold effort
  rw [hn]
  omega

/-- A thread waits. -/
theorem effort_of_sleep {w : Sleeper} (h : Sleeps s') (hn : threads s' = threads s)
    (hd : totalDistance s' = totalDistance s) (hs : s'.sleepers = w :: s.sleepers) :
    effort s' < effort s := by
  have hle := sleepers_length h
  rw [hs, List.length_cons, hn] at hle
  unfold effort
  rw [hn, hd, hs, List.length_cons]
  omega

theorem sum_set {vs : List (Invocation σ ε α)} (hv : vs[i]? = some v) :
    ((vs.set i w).map distance).sum + distance v = (vs.map distance).sum + distance w := by
  induction vs generalizing i with
  | nil => cases hv
  | cons x vs ih =>
    cases i with
    | zero =>
      cases hv
      simp only [List.set_cons_zero, List.map_cons, List.sum_cons]
      omega
    | succ i =>
      have := ih hv
      simp only [List.set_cons_succ, List.map_cons, List.sum_cons]
      omega

theorem submit_effort (h : Sleeps (s.submit i v)) (hsl : Served object s cur)
    (hv : s.invocations[i]? = some v) (hph : v.phase = .entering ∨ v.phase = .waitsFree) :
    effort (s.submit i v) < effort s := by
  have hact := active_of_waiting hph
  have hd : 5 ≤ distance v ∧ (v.phase = .entering → distance v = 6) ∧
      (v.phase = .waitsFree → distance v = 5) := by
    obtain hph | hph := hph
    all_goals
      rw [distance, hph]
      decide
  revert h
  unfold CameraOwnerThread.submit
  split
  · next ht =>
    intro _
    have ho : s.owner = .waits := by
      cases hsl.slot with
      | free _ ho => exact ho.resolve_right fun he => hsl.not_stopped hv hact (hsl.finished he)
      | stored _ _ _ ho => exact ho
      | runs _ _ h3 | ran _ _ h3 => cases ht.symm.trans h3
    refine effort_of_further (by simp [threads, CameraOwnerThread.sleeps,
      CameraOwnerThread.setInvocation, CameraOwnerThread.notifyAll, CameraOwnerThread.record]) ?_
    have hsum := sum_set (w := { v with phase := .waitsDone }) hv
    have hw : distance { v with phase := .waitsDone } = 1 := rfl
    have hold : ownerDistance s = 1 := by
      rw [ownerDistance, ho, ht]
      rfl
    have hnew : ownerDistance ((({ s.record (.submitted i) with
        task := some v.address }.notifyAll).setInvocation i
          { v with phase := .waitsDone }).sleeps (.caller i)) = 4 := by
      show (match s.owner with
        | .waits => if (some v.address).isSome then 4 else 1
        | .running _ => 3
        | .finishing => 2
        | .ended => 0) = 4
      rw [ho]
      rfl
    unfold totalDistance
    rw [hnew, hold]
    show ((s.invocations.set i { v with phase := .waitsDone }).map distance).sum + 4 < _
    omega
  · intro h
    have hsum := sum_set (w := { v with phase := .waitsFree }) hv
    have hw : distance { v with phase := .waitsFree } = 5 := rfl
    have hn : threads ((s.setInvocation i { v with phase := .waitsFree }).sleeps (.caller i)) =
        threads s := by
      simp [threads, CameraOwnerThread.sleeps, CameraOwnerThread.setInvocation]
    have htotal : totalDistance
        ((s.setInvocation i { v with phase := .waitsFree }).sleeps (.caller i)) + distance v =
        totalDistance s + 5 := by
      show ((s.invocations.set i { v with phase := .waitsFree }).map distance).sum +
        ownerDistance s + distance v = (s.invocations.map distance).sum + ownerDistance s + 5
      omega
    obtain hph | hph := hph
    · exact effort_of_further hn (by have := hd.2.1 hph; omega)
    · exact effort_of_sleep h hn (by have := hd.2.2 hph; omega) rfl

theorem finish_effort (h : Sleeps s') (hv : s.invocations[i]? = some v)
    (hph : v.phase = .waitsDone) (hs : s.finish i v = some s') : effort s' < effort s := by
  unfold CameraOwnerThread.finish at hs
  split at hs
  · cases hs
    exact effort_of_sleep h rfl rfl rfl
  · obtain ⟨r, -, rfl⟩ := Option.map_eq_some_iff.mp hs
    have hsum := sum_set (w := { v with phase := .returned }) hv
    have hold : distance v = 1 := by
      rw [distance, hph]
      rfl
    have hw : distance { v with phase := .returned } = 0 := rfl
    refine effort_of_further (by simp [threads, CameraOwnerThread.setInvocation,
      CameraOwnerThread.record]) ?_
    show ((s.invocations.set i { v with phase := .returned }).map distance).sum +
      ownerDistance s < (s.invocations.map distance).sum + ownerDistance s
    omega

theorem callerStep_effort (h : Sleeps s') (hsl : Served object s cur)
    (hs : s.callerStep i = some s') : effort s' < effort s := by
  unfold CameraOwnerThread.callerStep at hs
  split at hs
  · cases hs
  obtain ⟨v, hv, hs⟩ := Option.bind_eq_some_iff.mp hs
  split at hs
  · next hph =>
    cases hs
    exact submit_effort h hsl hv (.inl hph)
  · next hph =>
    cases hs
    exact submit_effort h hsl hv (.inr hph)
  · next hph => exact finish_effort h hv hph hs
  · cases hs

/-- The owner gets further while the callers stay where they are. -/
theorem effort_of_owner (hinv : s'.invocations.map (·.phase) = s.invocations.map (·.phase))
    (hd : ownerDistance s' < ownerDistance s) : effort s' < effort s := by
  have hlen := congrArg List.length hinv
  rw [List.length_map, List.length_map] at hlen
  have hsum : s'.invocations.map distance = s.invocations.map distance := by
    have := congrArg (List.map phaseDistance) hinv
    rwa [List.map_map, List.map_map] at this
  refine effort_of_further (congrArg (· + 1) hlen) ?_
  unfold totalDistance
  rw [hsum]
  omega

theorem ownerStep_effort (h : Sleeps s') (hs : s.ownerStep = some s') : effort s' < effort s := by
  unfold CameraOwnerThread.ownerStep at hs
  split at hs
  · next ho =>
    have hwaits : ownerDistance s = if s.task.isSome then 4 else 1 := by
      rw [ownerDistance, ho]
    split at hs
    · cases hs
    split at hs
    · cases hs
      refine effort_of_owner rfl ?_
      show 0 < _
      rw [hwaits]
      split <;> decide
    · split at hs
      · cases hs
        exact effort_of_sleep h rfl rfl rfl
      · next address ht =>
        obtain ⟨i, -, rfl⟩ := Option.map_eq_some_iff.mp hs
        refine effort_of_owner rfl ?_
        rw [hwaits, ht]
        show 3 < 4
        decide
  · next address ho =>
    obtain ⟨i, -, hs⟩ := Option.bind_eq_some_iff.mp hs
    obtain ⟨v, hv, rfl⟩ := Option.map_eq_some_iff.mp hs
    refine effort_of_owner (map_set_same hv rfl) ?_
    show 2 < ownerDistance s
    rw [ownerDistance, ho]
    exact Nat.lt_succ_self 2
  · next ho =>
    cases hs
    refine effort_of_owner rfl ?_
    show 1 < ownerDistance s
    rw [ownerDistance, ho]
    exact Nat.lt_succ_self 1
  · cases hs

theorem proceeds_effort {a : OwnerThreadAction σ ε α} (h : Sleeps s) (hsl : Served object s cur)
    (ha : a.proceeds = true) (hs : cameraOwnerStep s a = some s') : effort s' < effort s := by
  cases a with
  | caller i => exact callerStep_effort (h.step hs) hsl hs
  | owner => exact ownerStep_effort (h.step hs) hs
  | call | wakes | destroy => cases ha

theorem proceeds_rest {as : List (OwnerThreadAction σ ε α)} (h : Sleeps s)
    (hsl : Served object s cur) (hr : run cameraOwnerStep s as = some s')
    (ha : ∀ a ∈ as, a.proceeds = true) : as.length ≤ effort s := by
  induction as generalizing s cur with
  | nil => exact Nat.zero_le _
  | cons a as ih =>
    obtain ⟨t, ht, hr⟩ := run_cons.mp hr
    obtain ⟨ha, has⟩ := List.forall_mem_cons.mp ha
    obtain ⟨cur', hsl'⟩ := hsl.step ht
    have hlt := proceeds_effort h hsl ha ht
    exact Nat.lt_of_le_of_lt (ih (h.step ht) hsl' hr has) hlt

/-! ## Every run -/

theorem served_init (object : σ) : Served (ε := ε) (α := α) object { object } none where
  accepts := Monitor.accepts_nil _
  functions := rfl
  sameObject := rfl
  slot := .free rfl (.inl rfl) rfl rfl
  distinct _ _ _ _ hv := nomatch hv
  settled _ _ hv := nomatch hv
  outcomes _ _ _ hv := nomatch hv
  known _ hi := nomatch hi
  stopped := nofun
  finished := nofun

/-- What has returned has run. -/
theorem returned_begun {log : List (OwnerEvent σ ε α)} {r : Except ε α}
    (h : (ownerService object).Accepts log) (hr : .returned i r ∈ log) : i ∈ begunTasks log := by
  obtain ⟨pre, post, rfl⟩ := List.append_of_mem hr
  have hmem := (begun_of_outcome h.init).2 i r h.allowed
  rw [begunTasks, List.filterMap_append]
  exact List.mem_append_left _ hmem

theorem camera_owner_thread (hr : Reachable cameraOwnerStep { object } s) :
    OwnerThreadContract object s := by
  have hstep : ∀ (s : CameraOwnerThread σ ε α) a s', (∃ cur, Served object s cur) ∧ Sleeps s →
      cameraOwnerStep s a = some s' → (∃ cur, Served object s' cur) ∧ Sleeps s' :=
    fun _ _ _ ⟨⟨_, h⟩, hw⟩ hs => ⟨h.step hs, hw.step hs⟩
  obtain ⟨⟨cur, h⟩, hw⟩ := hr.invariant ⟨⟨none, served_init object⟩, .none rfl⟩ hstep
  exact {
    serves := h.accepts
    once := fun i r hm => (begunTasks_nodup h.accepts).count.trans
      (if_pos (returned_begun h.accepts hm))
    atMostOnce := begunTasks_nodup h.accepts
    proceeds := some_proceeds h hw
    rests := ⟨effort s, fun as s' hrun ha => proceeds_rest hw h hrun ha⟩ }

/-- Counts up and returns the old count. -/
def countUp : CameraTask Nat String Nat := fun n => (.ok n, n + 1)

/-- The second caller refills the slot before the first one looks at it again; a third call has the
address of the first. The second task throws. -/
def crossingCallers : List (OwnerThreadAction Nat String Nat) :=
  [.call 100 countUp, .call 200 fun n => (.error "busy", n), .caller 0, .caller 1, .owner, .owner,
    .owner, .caller 1, .caller 0, .call 100 countUp, .caller 2, .owner, .owner, .owner, .caller 2,
    .caller 1]

theorem camera_owner_thread_crossing :
    ∃ s, run cameraOwnerStep { object := 0 } crossingCallers = some s ∧
      begunTasks s.log = [0, 1] ∧ OwnerThreadContract 0 s :=
  ⟨_, rfl, rfl, camera_owner_thread ⟨crossingCallers, rfl⟩⟩

end WSE.Proof.Tmr
