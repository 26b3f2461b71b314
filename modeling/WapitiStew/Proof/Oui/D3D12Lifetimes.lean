import WapitiStew.Proof.Oui.D3D12Fence
import WapitiStew.Spec.Oui.D3D12Resources

/-!
# Who holds the work of the queue

Each outstanding work is held by the submission under way, or by a pending one whose value stands
behind it in the queue (`Signals`). The values ascend, so that one that was reached has nothing
outstanding before it (`Signals.lt`), and what is collected is not in use (`Lifetimes.collects`).
-/

namespace WSE.Proof.Oui

open WSE.Framework WSE.Impl.Oui WSE.Spec.Oui

/-! ## Values that stand behind a work -/

/-- The value stands in the queue, and the work does not follow it. -/
def Signals (id value : Nat) (queue : List QueueEntry) : Prop :=
  ∃ pre post, queue = pre ++ .signal value :: post ∧ id ∉ queuedWork post

namespace Signals

variable {id value other completed last : Nat} {queue : List QueueEntry}

theorem push (h : Signals id value queue) {e : QueueEntry} (he : id ∉ queuedWork [e]) :
    Signals id value (queue ++ [e]) := by
  obtain ⟨pre, post, rfl, hid⟩ := h
  refine ⟨pre, post ++ [e], by rw [List.append_assoc, List.cons_append], ?_⟩
  rw [queuedWork_append]
  exact fun hm => (List.mem_append.mp hm).elim hid he

theorem last_signal (id value : Nat) (queue : List QueueEntry) :
    Signals id value (queue ++ [.signal value]) := ⟨queue, [], rfl, fun h => nomatch h⟩

theorem worked (h : Signals id value (.work other :: queue)) : Signals id value queue := by
  obtain ⟨pre, post, hq, hid⟩ := h
  cases pre with
  | nil => cases hq
  | cons e pre =>
    obtain ⟨rfl, rfl⟩ := List.cons.inj hq
    exact ⟨pre, post, rfl, hid⟩

/-- A work that is still queued has not been passed by the value that was reached. -/
theorem reached (h : Signals id value (.signal other :: queue)) (hid : id ∈ queuedWork queue) :
    Signals id value queue := by
  obtain ⟨pre, post, hq, hpost⟩ := h
  cases pre with
  | nil =>
    obtain ⟨-, rfl⟩ := List.cons.inj hq
    exact absurd hid hpost
  | cons e pre =>
    obtain ⟨rfl, rfl⟩ := List.cons.inj hq
    exact ⟨pre, post, rfl, hpost⟩

/-- The value has not been reached. -/
theorem lt (h : Signals id value queue) (ha : Ascends completed last queue) : completed < value := by
  obtain ⟨pre, post, rfl, -⟩ := h
  refine (List.pairwise_cons.mp ha.1).1 value (List.mem_filterMap.mpr ⟨.signal value, ?_, rfl⟩)
  exact List.mem_append_right _ List.mem_cons_self

end Signals

/-! ## What is outstanding -/

def workBooks (f : D3D12Fence) : WorkBooks := outstandingWork.after f.log

theorem workBooks_record (f : D3D12Fence) (e : FenceEvent) :
    workBooks (f.record e) = outstandingWork.next (workBooks f) e :=
  outstandingWork.after_snoc f.log e

/-- The work is held by a submission that is pending, or as `K` says. -/
def Kept (f : D3D12Fence) (K : Nat → Prop) (id : Nat) : Prop :=
  (∃ p ∈ f.pendingSubmissions, p.work = some id ∧ Signals id p.fenceValue f.gpu.queue) ∨ K id

/-- Who holds the outstanding works. -/
structure Lifetimes (f : D3D12Fence) (works : Table RecordedWork) (K : Nat → Prop) : Prop where
  queued : (workBooks f).queued = queuedWork f.gpu.queue
  ascends : Ascends f.gpu.completedValue f.lastFenceValue f.gpu.queue
  started : f.initialized = false → (workBooks f).outstanding = []
  fresh : ∀ id ∈ (workBooks f).outstanding, id < f.works
  known : ∀ id ∈ (workBooks f).outstanding, ∃ w, works id = some w ∧ w.uses ⊆ w.retained
  kept : ∀ id ∈ (workBooks f).outstanding, Kept f K id

namespace Lifetimes

variable {f : D3D12Fence} {works : Table RecordedWork} {K K' : Nat → Prop}

theorem mono (h : Lifetimes f works K) (hK : ∀ id ∈ (workBooks f).outstanding, K id → K' id) :
    Lifetimes f works K' :=
  { h with kept := fun id hid => (h.kept id hid).imp_right (hK id hid) }

theorem goes (h : Lifetimes f works K) (p : D3D12Phase) : Lifetimes (f.goes p) works K :=
  ⟨h.queued, h.ascends, h.started, h.fresh, h.known, h.kept⟩

/-- An event that the books do not count. -/
theorem record (h : Lifetimes f works K) {e : FenceEvent}
    (he : ∀ b, outstandingWork.next b e = b) : Lifetimes (f.record e) works K := by
  have hb : workBooks (f.record e) = workBooks f := (workBooks_record f e).trans (he _)
  refine ⟨?_, h.ascends, ?_, ?_, ?_, ?_⟩ <;> rw [hb]
  exacts [h.queued, h.started, h.fresh, h.known, h.kept]

theorem returns (h : Lifetimes f works K) (r : D3D12Result) : Lifetimes (f.returns r) works K :=
  (h.record (e := .returned r) fun _ => rfl).goes .idle

/-- With nothing outstanding it does not matter what is held. -/
theorem idle (h : Lifetimes f works K) (ho : (workBooks f).outstanding = []) :
    Lifetimes f works K' := h.mono fun id hid => by rw [ho] at hid; exact nomatch hid

theorem closes (h : Lifetimes f works K) (ho : (workBooks f).outstanding = [])
    (failure : Option RendererError) : Lifetimes (f.closes failure) works K' :=
  ⟨h.queued, h.ascends, h.started, h.fresh, h.known, fun id hid => by
    rw [show workBooks (f.closes failure) = workBooks f from rfl, ho] at hid
    exact nomatch hid⟩

/-- What is collected is not in use. -/
theorem collects (h : Lifetimes f works K) : Lifetimes f.collectCompletedSubmissions works K := by
  refine ⟨h.queued, h.ascends, h.started, h.fresh, h.known, fun id hid => ?_⟩
  obtain ⟨p, hp, hwork, hs⟩ | hK := h.kept id hid
  · have hlt : f.gpu.completedValue < p.fenceValue := hs.lt h.ascends
    have hkeep : (!decide (p.fenceValue ≤ f.gpu.completedValue)) = true := by
      rw [decide_eq_false (Nat.not_le.mpr hlt), Bool.not_false]
    exact .inl ⟨p, List.mem_filter.mpr ⟨hp, hkeep⟩, hwork, hs⟩
  · exact .inr hK

/-- A list is executed, and held by its caller. -/
theorem queues (h : Lifetimes f works K) (hi : f.initialized = true) {w : RecordedWork}
    (hw : w.uses ⊆ w.retained) :
    Lifetimes f.queues (works.set f.works (some w)) fun id => id = f.works ∨ K id := by
  have hb : workBooks f.queues =
      ⟨(workBooks f).queued ++ [f.works], (workBooks f).executed⟩ := workBooks_record f _
  have ho : ∀ id ∈ (workBooks f.queues).outstanding,
      id = f.works ∨ id ∈ (workBooks f).outstanding ∧ id ≠ f.works := by
    intro id hid
    by_cases he : id = f.works
    · exact .inl he
    · rw [hb] at hid
      simp only [WorkBooks.outstanding, List.mem_append, List.mem_singleton, he, or_false] at hid
      exact .inr ⟨List.mem_append.mpr hid, he⟩
  refine ⟨?_, h.ascends.work _, ?_, ?_, ?_, ?_⟩
  · rw [hb, h.queued]
    show queuedWork f.gpu.queue ++ [f.works] = queuedWork (f.gpu.queue ++ [.work f.works])
    rw [queuedWork_append]
    rfl
  · exact fun hn => nomatch hi.symm.trans hn
  · intro id hid
    obtain rfl | ⟨hid, -⟩ := ho id hid
    · exact Nat.lt_succ_self _
    · exact Nat.lt_succ_of_lt (h.fresh id hid)
  · intro id hid
    obtain rfl | ⟨hid, hne⟩ := ho id hid
    · exact ⟨w, Table.set_same, hw⟩
    · obtain ⟨v, hv, hu⟩ := h.known id hid
      exact ⟨v, (Table.set_ne hne).trans hv, hu⟩
  · intro id hid
    obtain rfl | ⟨hid, hne⟩ := ho id hid
    · exact .inr (.inl rfl)
    · obtain ⟨p, hp, hwork, hs⟩ | hK := h.kept id hid
      · exact .inl ⟨p, hp, hwork, hs.push fun hm => hne (List.mem_singleton.mp hm)⟩
      · exact .inr (.inr hK)

/-- The next value is queued behind all that is outstanding. -/
theorem signals (h : Lifetimes f works K) (p : D3D12Phase) :
    Lifetimes { f with
      lastFenceValue := f.lastFenceValue + 1, gpu := f.gpu.push (.signal (f.lastFenceValue + 1))
      phase := p } works K := by
  refine ⟨?_, h.ascends.signal, h.started, h.fresh, h.known, fun id hid => ?_⟩
  · refine h.queued.trans ?_
    show _ = queuedWork (f.gpu.queue ++ [.signal (f.lastFenceValue + 1)])
    rw [queuedWork_append, show queuedWork [.signal (f.lastFenceValue + 1)] = [] from rfl,
      List.append_nil]
  · obtain ⟨q, hq, hwork, hs⟩ | hK := h.kept id hid
    · exact .inl ⟨q, hq, hwork, hs.push fun hm => nomatch hm⟩
    · exact .inr hK

/-- The submission is kept, and what has been reached is not. -/
theorem retains {work value : Nat}
    (h : Lifetimes f works fun id => id = work ∧ Signals id value f.gpu.queue) :
    Lifetimes { f with pendingSubmissions :=
      f.pendingSubmissions ++ [PendingSubmission.mk value (some work)] }.collectCompletedSubmissions
      works K := by
  have hkept : Lifetimes { f with pendingSubmissions :=
      f.pendingSubmissions ++ [PendingSubmission.mk value (some work)] } works K := by
    refine ⟨h.queued, h.ascends, h.started, h.fresh, h.known, fun id hid => ?_⟩
    obtain ⟨p, hp, hwork, hs⟩ | ⟨rfl, hs⟩ := h.kept id hid
    · exact .inl ⟨p, List.mem_append_left _ hp, hwork, hs⟩
    · have hmem : PendingSubmission.mk value (some id) ∈
          f.pendingSubmissions ++ [PendingSubmission.mk value (some id)] :=
        List.mem_append_right _ (List.mem_singleton_self _)
      exact .inl ⟨_, hmem, rfl, hs⟩
  exact hkept.collects

end Lifetimes

section Gpu

variable {f f' : D3D12Fence} {works : Table RecordedWork} {K K' : Nat → Prop}

theorem executes_frame (hs : f.executes = some f') :
    f'.phase = f.phase ∧ f'.pendingSubmissions = f.pendingSubmissions ∧
      f'.initialized = f.initialized ∧ f'.works = f.works ∧ f'.lastFenceValue = f.lastFenceValue := by
  simp only [D3D12Fence.executes] at hs
  split at hs <;> cases hs <;> exact ⟨rfl, rfl, rfl, rfl, rfl⟩

theorem executes_cases (hs : f.executes = some f') :
    (∃ work, f.gpu.queue = .work work :: f'.gpu.queue ∧
      f'.gpu.completedValue = f.gpu.completedValue ∧
      workBooks f' = outstandingWork.next (workBooks f) (.executed work)) ∨
    ∃ value, f.gpu.queue = .signal value :: f'.gpu.queue ∧ f'.gpu.completedValue = value ∧
      workBooks f' = outstandingWork.next (workBooks f) (.reached value) := by
  simp only [D3D12Fence.executes] at hs
  split at hs
  · cases hs
  · rename_i work rest hqueue
    cases hs
    exact .inl ⟨work, hqueue, rfl, workBooks_record f (.executed work)⟩
  · rename_i value rest hqueue
    cases hs
    exact .inr ⟨value, hqueue, rfl, workBooks_record f (.reached value)⟩

/-- What is outstanding after the GPU has gone on was outstanding, and is still before the values
that it was before. -/
theorem executes_outstanding (hq : (workBooks f).queued = queuedWork f.gpu.queue)
    (hs : f.executes = some f') : ∀ id ∈ (workBooks f').outstanding,
      id ∈ (workBooks f).outstanding ∧
        ∀ value, Signals id value f.gpu.queue → Signals id value f'.gpu.queue := by
  intro id hid
  obtain ⟨work, hqueue, -, hb⟩ | ⟨value, hqueue, -, hb⟩ := executes_cases hs
  · rw [hqueue] at hq
    have hqueued : (workBooks f).queued = work :: queuedWork f'.gpu.queue := hq
    refine ⟨?_, fun value hv => Signals.worked (hqueue ▸ hv)⟩
    rw [hb] at hid
    simp only [outstandingWork, hqueued, WorkBooks.outstanding, List.tail_cons, List.mem_append,
      List.mem_singleton] at hid
    rw [WorkBooks.outstanding, hqueued, List.mem_append, List.mem_cons]
    tauto
  · rw [hqueue] at hq
    have hqueued : (workBooks f).queued = queuedWork f'.gpu.queue := hq
    rw [hb] at hid
    simp only [outstandingWork, WorkBooks.outstanding, List.append_nil] at hid
    exact ⟨List.mem_append_left _ hid, fun v hv => Signals.reached (hqueue ▸ hv) (hqueued ▸ hid)⟩

theorem executes_nil (hq : (workBooks f).queued = queuedWork f.gpu.queue)
    (hs : f.executes = some f') (ho : (workBooks f).outstanding = []) :
    (workBooks f').outstanding = [] := by
  refine List.eq_nil_iff_forall_not_mem.mpr fun id hid => ?_
  have hmem := (executes_outstanding hq hs id hid).1
  rw [ho] at hmem
  exact nomatch hmem

theorem Lifetimes.executes (h : Lifetimes f works K) (hs : f.executes = some f')
    (hK : ∀ id ∈ (workBooks f').outstanding, K id → K' id) : Lifetimes f' works K' := by
  have ho := executes_outstanding h.queued hs
  obtain ⟨-, hp, hi, hw, hl⟩ := executes_frame hs
  refine ⟨?_, ?_, fun hn => executes_nil h.queued hs (h.started (hi ▸ hn)),
    fun id hid => hw ▸ h.fresh id (ho id hid).1, fun id hid => h.known id (ho id hid).1,
    fun id hid => ?_⟩
  · obtain ⟨work, hqueue, -, hb⟩ | ⟨value, hqueue, -, hb⟩ := executes_cases hs
    · rw [hb]
      show (workBooks f).queued.tail = _
      rw [h.queued, hqueue]
      rfl
    · rw [hb]
      show (workBooks f).queued = _
      rw [h.queued, hqueue]
      rfl
  · obtain ⟨work, hqueue, hc, -⟩ | ⟨value, hqueue, hc, -⟩ := executes_cases hs
    · rw [hc, hl]
      exact (hqueue ▸ h.ascends).worked
    · rw [hc, hl]
      exact (hqueue ▸ h.ascends).reached
  · obtain ⟨hid', hsig⟩ := ho id hid
    obtain ⟨p, hmem, hwork, hv⟩ | hk := h.kept id hid'
    · exact .inl ⟨p, hp ▸ hmem, hwork, hsig _ hv⟩
    · exact .inr (hK id hid hk)

/-- The event is raised or set up; nothing else is. -/
theorem raises_frame {value : Nat} (hs : f.raises value = some f') :
    ∃ event registered, f' =
      { f with gpu := { f.gpu with event := event, registered := registered } } := by
  simp only [D3D12Fence.raises] at hs
  split at hs
  · cases hs
    exact ⟨_, _, rfl⟩
  · cases hs

end Gpu

end WSE.Proof.Oui
