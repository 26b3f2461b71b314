import WapitiStew.Framework.Transition
import WapitiStew.Spec.Oui.D3D12Fence

/-!
# A successful wait, and what is left behind by one that timed out

The values in the queue ascend from the one the fence has reached (`Ascends`), and the work that
was submitted is the work that was executed and the work in the queue, in order. While a wait goes
on that found nothing of an earlier one the event is raised for no value below its own
(`PhaseOk`), so that it is over when the fence is there; and a value that was queued last is
reached when the queue is empty (`drained`), which is what a read-back and a wait for the idle GPU
need.

A wait that times out leaves the event registered. The next one is woken by that
(`fence_waits_broken`).
-/

namespace WSE.Proof.Oui

open WSE.Framework WSE.Impl.Oui WSE.Spec.Oui

/-! ## The queue -/

def queuedWork (queue : List QueueEntry) : List Nat :=
  queue.filterMap fun
    | .work id => some id
    | _ => none

def queuedValues (queue : List QueueEntry) : List Nat :=
  queue.filterMap fun
    | .signal value => some value
    | _ => none

theorem queuedWork_append (queue : List QueueEntry) (e : QueueEntry) :
    queuedWork (queue ++ [e]) = queuedWork queue ++ queuedWork [e] := List.filterMap_append

theorem queuedValues_append (queue : List QueueEntry) (e : QueueEntry) :
    queuedValues (queue ++ [e]) = queuedValues queue ++ queuedValues [e] := List.filterMap_append

/-- The values of the queue ascend from the one that was reached to the last one. -/
def Ascends (completed last : Nat) (queue : List QueueEntry) : Prop :=
  (completed :: queuedValues queue).Pairwise (· < ·) ∧
    ∀ value ∈ completed :: queuedValues queue, value ≤ last

/-- The value is the last in the queue, or all that was queued has been done. -/
def Ends (value : Nat) (queue : List QueueEntry) : Prop :=
  ∀ e ∈ queue.getLast?, e = .signal value

variable {completed last value : Nat} {queue : List QueueEntry}

theorem Ascends.work (h : Ascends completed last queue) (id : Nat) :
    Ascends completed last (queue ++ [.work id]) := by
  rw [Ascends, queuedValues_append, show queuedValues [.work id] = [] from rfl, List.append_nil]
  exact h

theorem Ascends.signal (h : Ascends completed last queue) :
    Ascends completed (last + 1) (queue ++ [.signal (last + 1)]) := by
  obtain ⟨hp, hl⟩ := h
  rw [Ascends, queuedValues_append, show queuedValues [.signal (last + 1)] = [last + 1] from rfl,
    ← List.cons_append]
  refine ⟨List.pairwise_append.mpr ⟨hp, List.pairwise_singleton _ _, fun a ha b hb => ?_⟩,
    fun v hv => ?_⟩
  · rw [List.mem_singleton.mp hb]
    exact Nat.lt_succ_of_le (hl a ha)
  · obtain hv | hv := List.mem_append.mp hv
    · exact Nat.le_succ_of_le (hl v hv)
    · exact Nat.le_of_eq (List.mem_singleton.mp hv)

theorem Ascends.later (h : Ascends completed last queue) : Ascends completed (last + 1) queue :=
  ⟨h.1, fun v hv => Nat.le_succ_of_le (h.2 v hv)⟩

theorem Ascends.worked {id : Nat} (h : Ascends completed last (.work id :: queue)) :
    Ascends completed last queue := h

theorem Ascends.reached (h : Ascends completed last (.signal value :: queue)) :
    Ascends value last queue :=
  ⟨(List.pairwise_cons.mp h.1).2, fun v hv => h.2 v (List.mem_cons_of_mem _ hv)⟩

theorem Ends.push (value : Nat) (queue : List QueueEntry) :
    Ends value (queue ++ [.signal value]) := by
  intro e he
  rw [List.getLast?_concat] at he
  exact (Option.some.inj he).symm

theorem Ends.tail {e : QueueEntry} (h : Ends value (e :: queue)) : Ends value queue := by
  intro f hf
  refine h f ?_
  cases queue with
  | nil => cases hf
  | cons g rest => rwa [List.getLast?_cons_cons]

/-- The last value has been reached when the queue is empty. -/
theorem drained (h : Ascends completed last queue) (he : Ends value queue)
    (hv : value ≤ completed) : queue = [] := by
  cases hq : queue.getLast? with
  | none => exact List.getLast?_eq_none_iff.mp hq
  | some e =>
    rw [he e hq] at hq
    have hmem : .signal value ∈ queue := List.mem_of_getLast? hq
    have hval : value ∈ queuedValues queue := List.mem_filterMap.mpr ⟨_, hmem, rfl⟩
    exact absurd ((List.pairwise_cons.mp h.1).1 value hval) (Nat.not_lt.mpr hv)

/-! ## The invariant -/

/-- What the books know of the work of a waiter. -/
def Awaits (value : Nat) (queue : List QueueEntry) (b : FenceBooks) : FenceWaiter → Prop
  | .readTexture work => work ∈ b.submitted ∧ Ends value queue
  | .idle | .leave _ => Ends value queue
  | .waitFence | .shutdown _ => True

/-- The event is raised only for values that end the wait. -/
structure Undisturbed (value : Nat) (g : D3D12Gpu) : Prop where
  event : g.event = true → value ≤ g.completedValue
  registered : ∀ v ∈ g.registered, value ≤ v

def PhaseOk (g : D3D12Gpu) (b : FenceBooks) : D3D12Phase → Prop
  | .signalling (.submit _ work) => work ∈ b.submitted
  | .retaining (.submit _ work) value => work ∈ b.submitted ∧ Ends value g.queue
  | .checking w | .registering w => Awaits w.value g.queue b w.waiter
  | .waiting w => Awaits w.value g.queue b w.waiter ∧ Undisturbed w.value g
  | .collecting w => Awaits w.value g.queue b w.waiter ∧ w.value ≤ g.completedValue
  | .copying work => work ∈ b.executed
  | _ => True

def fenceBooks (log : List FenceEvent) : FenceBooks := fenceWaits.after log

structure Core (s : D3D12Fence) : Prop where
  accepts : fenceWaits.Accepts s.log
  completed : (fenceBooks s.log).completed = s.gpu.completedValue
  submitted :
    (fenceBooks s.log).submitted = (fenceBooks s.log).executed ++ queuedWork s.gpu.queue
  ascends : Ascends s.gpu.completedValue s.lastFenceValue s.gpu.queue

structure FenceInv (s : D3D12Fence) : Prop extends Core s where
  phase : PhaseOk s.gpu (fenceBooks s.log) s.phase

theorem fenceBooks_snoc (log : List FenceEvent) (e : FenceEvent) :
    fenceBooks (log ++ [e]) = fenceWaits.next (fenceBooks log) e :=
  fenceWaits.after_append log [e]

variable {s s' : D3D12Fence}

/-- What was submitted has been executed when the last value has been reached. -/
theorem Core.executed (h : Core s) (he : Ends value s.gpu.queue)
    (hv : value ≤ s.gpu.completedValue) :
    (fenceBooks s.log).submitted = (fenceBooks s.log).executed := by
  have hsub := h.submitted
  rw [drained h.ascends he hv] at hsub
  exact hsub.trans (List.append_nil _)

theorem Core.goes {p : D3D12Phase} (h : Core s) (hp : PhaseOk s.gpu (fenceBooks s.log) p) :
    FenceInv (s.goes p) := ⟨⟨h.accepts, h.completed, h.submitted, h.ascends⟩, hp⟩

theorem Core.closes (h : Core s) (failure : Option RendererError) :
    FenceInv (s.closes failure) := ⟨⟨h.accepts, h.completed, h.submitted, h.ascends⟩, trivial⟩

theorem Core.collects (h : Core s) : Core s.collectCompletedSubmissions :=
  ⟨h.accepts, h.completed, h.submitted, h.ascends⟩

/-- An event that the books do not count. -/
theorem Core.record {e : FenceEvent} (h : Core s) (ha : fenceWaits.allowed (fenceBooks s.log) e)
    (hb : ∀ b, fenceWaits.next b e = b) :
    Core (s.record e) ∧ fenceBooks (s.record e).log = fenceBooks s.log := by
  have hbooks : fenceBooks (s.record e).log = fenceBooks s.log :=
    (fenceBooks_snoc s.log e).trans (hb _)
  refine ⟨⟨Monitor.accepts_snoc.mpr ⟨h.accepts, ha⟩, ?_, ?_, h.ascends⟩, hbooks⟩
  · rw [hbooks]
    exact h.completed
  · rw [hbooks]
    exact h.submitted

theorem Core.returns (h : Core s) (r : D3D12Result) : FenceInv (s.returns r) :=
  (h.record (e := .returned r) trivial fun _ => rfl).1.goes (p := .idle) trivial

/-! ## The calls -/

theorem call_inv (h : FenceInv s) (c : D3D12Call) (hs : s.call c = some s') : FenceInv s' := by
  cases c with
  | initializeWith generation =>
    simp only [D3D12Fence.call] at hs
    split at hs
    · cases hs
      exact h.toCore.returns _
    · split at hs
      · cases hs
        exact h.toCore.returns _
      · cases hs
        exact ⟨⟨h.accepts, h.completed, h.submitted, h.ascends⟩, trivial⟩
  | waitFence fence timeoutMs =>
    simp only [D3D12Fence.call] at hs
    split at hs
    · cases hs
      exact h.toCore.returns _
    · cases hs
      exact h.toCore.goes trivial
  | submit | presentSurface | readTexture _ =>
    simp only [D3D12Fence.call] at hs
    split at hs
    · cases hs
      exact h.toCore.goes trivial
    · cases hs
      exact h.toCore.returns _
  | waitForGpuIdle =>
    simp only [D3D12Fence.call] at hs
    split at hs
    · cases hs
      exact h.toCore.goes trivial
    · cases hs
  | shutdown =>
    simp only [D3D12Fence.call] at hs
    split at hs
    · cases hs
      exact h.toCore.goes trivial
    · cases hs
      exact h.toCore.closes _

theorem submitFails_inv (h : Core s) (caller : Submitter) (e : RendererError) :
    FenceInv (s.submitFails caller e) := by
  cases caller with
  | command => exact h.returns _
  | readTexture _ => exact h.returns _

theorem signalFails_inv (h : Core s) (hr : Int) (k : Signaller) : FenceInv (s.signalFails hr k) := by
  cases k with
  | submit caller _ => exact submitFails_inv h caller _
  | present | idle => exact h.returns _
  | leave failure | shutdown failure => exact h.closes failure

theorem waitFails_inv (h : Core s) (e : RendererError) (w : FenceWaiter) :
    FenceInv (s.waitFails e w) := by
  cases w with
  | waitFence | idle | readTexture _ => exact h.returns _
  | leave failure | shutdown failure => exact h.closes failure

theorem queues_core (h : Core s) :
    Core s.queues ∧ s.works ∈ (fenceBooks s.queues.log).submitted := by
  have hbooks := fenceBooks_snoc s.log (.submitted s.works)
  refine ⟨⟨Monitor.accepts_snoc.mpr ⟨h.accepts, trivial⟩, ?_, ?_, h.ascends.work s.works⟩, ?_⟩
  · show (fenceBooks (s.log ++ [.submitted s.works])).completed = _
    rw [hbooks]
    exact h.completed
  · show (fenceBooks (s.log ++ [.submitted s.works])).submitted =
      (fenceBooks (s.log ++ [.submitted s.works])).executed ++
        queuedWork (s.gpu.queue ++ [.work s.works])
    rw [hbooks, queuedWork_append, ← List.append_assoc]
    exact congrArg (· ++ [s.works]) h.submitted
  · show s.works ∈ (fenceBooks (s.log ++ [.submitted s.works])).submitted
    rw [hbooks]
    exact List.mem_append_right _ (List.mem_singleton_self _)

theorem signal_inv (h : FenceInv s) {k : Signaller} (hp : s.phase = .signalling k)
    (hlast : s.lastFenceValue + 1 < 2 ^ 64) (hr : Int) : FenceInv (s.signal k hr) := by
  have hphase := h.phase
  rw [hp] at hphase
  have hvalue : (s.lastFenceValue + 1) % 2 ^ 64 = s.lastFenceValue + 1 := Nat.mod_eq_of_lt hlast
  rw [D3D12Fence.signal, hvalue]
  split
  · exact signalFails_inv (s := { s with lastFenceValue := s.lastFenceValue + 1 })
      ⟨h.accepts, h.completed, h.submitted, h.ascends.later⟩ hr k
  · have hends := Ends.push (s.lastFenceValue + 1) s.gpu.queue
    refine ⟨⟨h.accepts, h.completed, ?_, h.ascends.signal⟩, ?_⟩
    · show _ = _ ++ queuedWork (s.gpu.queue ++ [.signal (s.lastFenceValue + 1)])
      rw [queuedWork_append]
      exact h.submitted.trans (congrArg _ (List.append_nil _).symm)
    · cases k with
      | submit caller work => exact ⟨hphase, hends⟩
      | present | shutdown _ => trivial
      | idle | leave _ => exact hends

theorem retain_inv (h : FenceInv s) {k : Signaller} (hp : s.phase = .retaining k value) :
    FenceInv (s.retain k value) := by
  have hphase := h.phase
  rw [hp] at hphase
  have hcore : ∀ pending, Core { s with pendingSubmissions := pending }.collectCompletedSubmissions :=
    fun _ => Core.collects ⟨h.accepts, h.completed, h.submitted, h.ascends⟩
  cases k with
  | submit caller work =>
    cases caller with
    | command => exact (hcore _).returns _
    | readTexture timeoutMs => exact (hcore _).goes hphase
  | present | idle | leave _ | shutdown _ => exact (hcore _).returns _

/-! ## The wait -/

theorem check_inv (h : FenceInv s) {w : FenceWait} (hp : s.phase = .checking w) :
    FenceInv (s.check w) := by
  have hphase := h.phase
  rw [hp] at hphase
  refine h.toCore.goes ?_
  split
  · next hv => exact ⟨hphase, hv⟩
  · exact hphase

/-- The wait begins, and nothing is left behind by an earlier one. -/
theorem setEventOnCompletion_inv (h : FenceInv s) {w : FenceWait} (hp : s.phase = .registering w)
    {hr : Int} (halone : AloneIn s hr (.registering w)) :
    FenceInv (s.setEventOnCompletion w hr) := by
  have hphase := h.phase
  rw [hp] at hphase
  rw [D3D12Fence.setEventOnCompletion]
  split
  · exact waitFails_inv h.toCore _ _
  · rename_i hpassed
    obtain ⟨hevent, hreg⟩ := halone (Bool.eq_false_iff.mpr hpassed)
    refine ⟨⟨h.accepts, h.completed, h.submitted, h.ascends⟩, hphase,
      ⟨fun he => ?_, fun v hv => ?_⟩⟩
    · exact absurd (hevent.symm.trans he) Bool.noConfusion
    · obtain hv | hv := List.mem_append.mp hv
      · exact hreg v hv
      · exact Nat.le_of_eq (List.mem_singleton.mp hv).symm

theorem waitForSingleObject_inv (h : FenceInv s) {w : FenceWait} (hp : s.phase = .waiting w)
    (r : WaitAnswer) (hs : s.waitForSingleObject w r = some s') : FenceInv s' := by
  have hphase := h.phase
  rw [hp] at hphase
  obtain ⟨hw, hun⟩ := hphase
  cases r with
  | object =>
    simp only [D3D12Fence.waitForSingleObject] at hs
    split at hs
    · next he =>
      cases hs
      exact ⟨⟨h.accepts, h.completed, h.submitted, h.ascends⟩, hw, hun.event he⟩
    · cases hs
  | timeout =>
    simp only [D3D12Fence.waitForSingleObject] at hs
    split at hs
    · cases hs
      exact waitFails_inv h.toCore _ _
    · cases hs
  | failed hr =>
    cases hs
    exact waitFails_inv h.toCore _ _

theorem waitSucceeds_inv (h : FenceInv s) {w : FenceWait} (hp : s.phase = .collecting w) :
    FenceInv (s.waitSucceeds w) := by
  have hphase := h.phase
  rw [hp] at hphase
  obtain ⟨hw, hv⟩ := hphase
  have hcollected := h.toCore.collects
  have hallowed : w.value ≤ (fenceBooks s.log).completed := Nat.le_trans hv (Nat.le_of_eq h.completed.symm)
  obtain ⟨hcore, hbooks⟩ := hcollected.record (e := .waited w.value) hallowed fun _ => rfl
  have hidle : Ends w.value s.gpu.queue →
      Core ((s.collectCompletedSubmissions.record (.waited w.value)).record .idled) := by
    intro he
    refine (hcore.record (e := .idled) ?_ fun _ => rfl).1
    show (fenceBooks _).submitted ⊆ (fenceBooks _).executed
    rw [hcore.executed he hv]
    exact List.Subset.refl _
  obtain ⟨waiter, v, timeoutMs⟩ := w
  cases waiter with
  | waitFence => exact hcore.returns _
  | readTexture work =>
    obtain ⟨hwork, he⟩ := hw
    refine hcore.goes ?_
    show work ∈ (fenceBooks _).executed
    rw [← hcore.executed he hv, hbooks]
    exact hwork
  | idle => exact (hidle hw).returns _
  | leave failure => exact (hidle hw).closes failure
  | shutdown failure => exact hcore.closes failure

theorem copy_inv (h : FenceInv s) {work : Nat} (hp : s.phase = .copying work) (hr : Int) :
    FenceInv (s.copy work hr) := by
  have hphase := h.phase
  rw [hp] at hphase
  rw [D3D12Fence.copy]
  split
  · exact h.toCore.returns _
  · exact (h.toCore.record (e := .copied work) hphase fun _ => rfl).1.returns _

theorem release_inv (h : Core s) (failure : Option RendererError) : FenceInv (s.release failure) := by
  have hbooks := fenceBooks_snoc s.log .released
  have hcore : Core { s.record .released with
      initialized := false, handleGeneration := 0, lastFenceValue := 0, pendingSubmissions := [],
      gpu := {} } := by
    refine ⟨Monitor.accepts_snoc.mpr ⟨h.accepts, trivial⟩, ?_, ?_, ?_⟩
    · show (fenceBooks (s.log ++ [.released])).completed = 0
      rw [hbooks]
      rfl
    · show (fenceBooks (s.log ++ [.released])).submitted =
        (fenceBooks (s.log ++ [.released])).executed ++ []
      rw [hbooks]
      rfl
    · exact ⟨List.pairwise_singleton _ _, fun v hv => Nat.le_of_eq (List.mem_singleton.mp hv)⟩
  exact hcore.returns _

/-! ## The GPU -/

theorem Awaits.later {q q' : List QueueEntry} {b b' : FenceBooks} {w : FenceWaiter}
    (h : Awaits value q b w) (hsub : b'.submitted = b.submitted) (he : Ends value q → Ends value q') :
    Awaits value q' b' w := by
  cases w with
  | readTexture work => exact ⟨hsub ▸ h.1, he h.2⟩
  | idle | leave _ => exact he h
  | waitFence | shutdown _ => trivial

/-- What a phase knows is kept while the GPU goes on. -/
theorem PhaseOk.later {g g' : D3D12Gpu} {b b' : FenceBooks} {p : D3D12Phase} (h : PhaseOk g b p)
    (hsub : b'.submitted = b.submitted) (hex : b.executed ⊆ b'.executed)
    (he : ∀ v, Ends v g.queue → Ends v g'.queue) (hc : g.completedValue ≤ g'.completedValue)
    (hun : ∀ v, Undisturbed v g → Undisturbed v g') : PhaseOk g' b' p := by
  cases p with
  | signalling k =>
    cases k with
    | submit _ work =>
      show work ∈ b'.submitted
      rw [hsub]
      exact h
    | present | idle | leave _ | shutdown _ => trivial
  | retaining k v =>
    cases k with
    | submit _ work => exact ⟨hsub ▸ h.1, he v h.2⟩
    | present | idle | leave _ | shutdown _ => trivial
  | checking w | registering w => exact Awaits.later h hsub (he _)
  | waiting w => exact ⟨Awaits.later h.1 hsub (he _), hun _ h.2⟩
  | collecting w => exact ⟨Awaits.later h.1 hsub (he _), Nat.le_trans h.2 hc⟩
  | copying work => exact hex h
  | idle | initializing | recording _ | presenting | closing _ => trivial

theorem executes_inv (h : FenceInv s) (hs : s.executes = some s') : FenceInv s' := by
  have hsub := h.submitted
  have hasc := h.ascends
  unfold D3D12Fence.executes at hs
  split at hs
  · cases hs
  · next id rest hq =>
    cases hs
    have hbooks := fenceBooks_snoc s.log (.executed id)
    rw [hq] at hsub hasc
    refine ⟨⟨Monitor.accepts_snoc.mpr ⟨h.accepts, trivial⟩, ?_, ?_, hasc.worked⟩, ?_⟩
    · show (fenceBooks (s.log ++ [.executed id])).completed = _
      rw [hbooks]
      exact h.completed
    · show (fenceBooks (s.log ++ [.executed id])).submitted =
        (fenceBooks (s.log ++ [.executed id])).executed ++ queuedWork rest
      rw [hbooks]
      exact hsub.trans (List.append_assoc _ [id] _).symm
    · show PhaseOk _ (fenceBooks (s.log ++ [.executed id])) s.phase
      rw [hbooks]
      refine h.phase.later rfl (List.subset_append_left _ _) (fun v hv => ?_) (Nat.le_refl _)
        fun v hv => ⟨hv.event, hv.registered⟩
      rw [hq] at hv
      exact hv.tail
  · next value rest hq =>
    cases hs
    have hbooks := fenceBooks_snoc s.log (.reached value)
    rw [hq] at hsub hasc
    have hlt : s.gpu.completedValue < value :=
      (List.pairwise_cons.mp hasc.1).1 value (List.mem_cons_self ..)
    refine ⟨⟨Monitor.accepts_snoc.mpr ⟨h.accepts, trivial⟩, ?_, ?_, hasc.reached⟩, ?_⟩
    · show (fenceBooks (s.log ++ [.reached value])).completed = value
      rw [hbooks]
      rfl
    · show (fenceBooks (s.log ++ [.reached value])).submitted =
        (fenceBooks (s.log ++ [.reached value])).executed ++ queuedWork rest
      rw [hbooks]
      exact hsub
    · show PhaseOk _ (fenceBooks (s.log ++ [.reached value])) s.phase
      rw [hbooks]
      refine h.phase.later rfl (List.Subset.refl _) (fun v hv => ?_) (Nat.le_of_lt hlt)
        fun v hv => ⟨fun he => Nat.le_trans (hv.event he) (Nat.le_of_lt hlt), hv.registered⟩
      rw [hq] at hv
      exact hv.tail

theorem raises_inv (h : FenceInv s) (hs : s.raises value = some s') : FenceInv s' := by
  unfold D3D12Fence.raises at hs
  split at hs
  · next hv =>
    cases hs
    refine ⟨⟨h.accepts, h.completed, h.submitted, h.ascends⟩, ?_⟩
    refine h.phase.later rfl (List.Subset.refl _) (fun _ => id) (Nat.le_refl _) fun v hun => ?_
    exact ⟨fun _ => Nat.le_trans (hun.registered value hv.1) hv.2,
      fun r hr => hun.registered r (List.mem_of_mem_erase hr)⟩
  · cases hs

/-! ## The runs -/

theorem fence_step {a : D3D12Action} (h : FenceInv s) (ha : WaitsAlone s a)
    (hs : d3d12Step s a = some s') : FenceInv s' := by
  cases a with
  | executes => exact executes_inv h hs
  | raises value => exact raises_inv h hs
  | call c =>
    simp only [d3d12Step] at hs
    split at hs
    · exact call_inv h c hs
    · cases hs
  | refuse e =>
    simp only [d3d12Step] at hs
    split at hs
    · cases hs
      exact h.toCore.returns _
    · cases hs
      exact submitFails_inv h.toCore _ _
    · cases hs
      exact h.toCore.returns _
    · cases hs
  | abandon e =>
    simp only [d3d12Step] at hs
    split at hs
    · cases hs
      exact h.toCore.closes _
    · cases hs
  | pipeline failure =>
    simp only [d3d12Step] at hs
    split at hs
    · cases hs
      cases failure with
      | none =>
        exact Core.returns (s := { s with initialized := true })
          ⟨h.accepts, h.completed, h.submitted, h.ascends⟩ _
      | some e => exact h.toCore.goes trivial
    · cases hs
  | answer hr =>
    unfold WaitsAlone at ha
    simp only [d3d12Step] at hs
    split at hs
    · next caller hp =>
      cases hs
      unfold D3D12Fence.closeList
      split
      · exact submitFails_inv h.toCore _ _
      · obtain ⟨hcore, hwork⟩ := queues_core h.toCore
        exact hcore.goes hwork
    · cases hs
      unfold D3D12Fence.present
      split
      · exact h.toCore.returns _
      · exact (queues_core h.toCore).1.goes trivial
    · next k hp =>
      cases hs
      rw [hp] at ha
      exact signal_inv h hp ha hr
    · next w hp =>
      cases hs
      rw [hp] at ha
      exact setEventOnCompletion_inv h hp ha
    · next work hp =>
      cases hs
      exact copy_inv h hp hr
    · cases hs
  | waits r =>
    simp only [d3d12Step] at hs
    split at hs
    · next w hp => exact waitForSingleObject_inv h hp r hs
    · cases hs
  | proceed =>
    simp only [d3d12Step] at hs
    split at hs
    · next k value hp =>
      cases hs
      exact retain_inv h hp
    · next w hp =>
      cases hs
      exact check_inv h hp
    · next w hp =>
      cases hs
      exact waitSucceeds_inv h hp
    · next failure hp =>
      cases hs
      exact release_inv h.toCore failure
    · cases hs
  | leaves =>
    simp only [d3d12Step] at hs
    split at hs
    · split at hs
      · cases hs
        exact h.toCore.goes trivial
      · cases hs
    · cases hs

theorem fence_init : FenceInv {} := by
  refine ⟨⟨Monitor.accepts_nil _, rfl, rfl, List.pairwise_singleton _ _, fun v hv => ?_⟩, trivial⟩
  exact Nat.le_of_eq (List.mem_singleton.mp hv)

theorem fence_waits (as : List D3D12Action) (hr : run d3d12Step {} as = some s)
    (hok : Along d3d12Step WaitsAlone {} as) : fenceWaits.Accepts s.log :=
  (run_invariant_along (fun _ _ _ h ha hs => fence_step h ha hs) fence_init hok hr).accepts

/-- A read-back that waits for its copy, and a wait for the idle GPU. -/
def readBack : List D3D12Action :=
  [.call (.initializeWith 1), .pipeline none, .call (.readTexture 100), .answer 0, .answer 0,
    .proceed, .proceed, .answer 0, .executes, .executes, .raises 1, .waits .object, .proceed,
    .answer 0, .call .waitForGpuIdle, .answer 0, .executes, .proceed, .proceed]

/-- The wait for the first command times out; the second one is over when the first command is, and
the frame is copied before its own command has been executed. -/
def staleWake : List D3D12Action :=
  [.call (.initializeWith 1), .pipeline none, .call .submit, .answer 0, .answer 0, .proceed,
    .call (.waitFence ⟨1, 1⟩ 0), .proceed, .answer 0, .waits .timeout,
    .call (.readTexture 100), .answer 0, .answer 0, .proceed, .proceed, .answer 0,
    .executes, .executes, .raises 1, .waits .object, .proceed, .answer 0]

theorem fence_waits_readBack : ∃ s, run d3d12Step {} readBack = some s ∧
    .copied 0 ∈ s.log ∧ .idled ∈ s.log ∧ fenceWaits.Accepts s.log :=
  ⟨_, rfl, by decide, by decide, fence_waits readBack rfl (by decide)⟩

theorem fence_waits_broken : ∃ s, run d3d12Step {} staleWake = some s ∧
    .waited 2 ∈ s.log ∧ s.gpu.completedValue = 1 ∧ .copied 1 ∈ s.log ∧ .executed 1 ∉ s.log ∧
    ¬fenceWaits.Accepts s.log := by
  refine ⟨_, rfl, by decide, rfl, by decide, by decide, fun h => ?_⟩
  have hwait : 2 ≤ 1 := h
    [.returned (.status (.ok ())), .submitted 0, .returned (.fence (.ok ⟨1, 1⟩)),
      .returned (.status (.error timedOutError)), .submitted 1, .executed 0, .reached 1]
    (.waited 2) _ rfl
  exact absurd hwait (by decide)

end WSE.Proof.Oui
