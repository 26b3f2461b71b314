import WapitiStew.Proof.Log.LogAccounting

/-!
# What the barriers of the asynchronous log promise

`Flushed` says what a barrier that is done, a `stop` on its way and a call that
returned have flushed. A step keeps it, unless it is a `stop` that fails to allocate
its barrier while a flush is owed (`Flushed.step`): such a `stop` lets the writer end
without a flush, and the next one reports success (`stop_unflushed`).
-/

namespace WSE.Proof.Log

open WSE.Framework WSE.Impl.Log WSE.Spec.Log

variable {s s' : LogState} {endLine : Bytes}

/-- A `stop` is past its barrier. -/
def PastBarrier (barriers : Nat → Option LogError) : Control → Prop
  | .stopBarrierDone _ _ | .stopJoin _ _ | .stopRelease _ _ => True
  | .stopWait b _ => (barriers b).isSome = true
  | _ => False

/-- Nothing is going to be accepted, and no flush is going to come for it. -/
def Quiet (s : LogState) : Prop := s.isRunning = false ∨ PastBarrier s.barriers s.control

/-- The result that a `stop` is going to return. -/
def stopResult : Control → Option (LogStatus × Nat)
  | .stopBarrierDone r n | .stopJoin r n | .stopRelease r n => some (r, n)
  | _ => none

def ReturnOk (r : Return) : Prop :=
  r.call ≠ .configure → r.result = .returned .success → Delivered r.events r.accepted

structure Flushed (s : LogState) : Prop where
  quiet : Quiet s → s.writerFailed = true ∨ Covered s
  waited : ∀ b n e, awaits s.control = some (b, n) → s.barriers b = some e → e.ok = true →
    n ≤ flushedTo s.events
  stopped : ∀ n, stopResult s.control = some (.success, n) → n ≤ flushedTo s.events
  returned : ∀ r ∈ s.returned, ReturnOk r

theorem flushed_initial : Flushed .initial where
  quiet _ := .inr le_rfl
  waited _ _ _ h := by cases h
  stopped _ h := by cases h
  returned r h := by cases h

/-- The calls stay where they are, and the writer at most adds to what it did. -/
theorem Flushed.same (h : Flushed s) (hc : s'.control = s.control)
    (hb : s'.barriers = s.barriers) (hr : s'.isRunning = s.isRunning)
    (ha : Quiet s → s'.accepted = s.accepted) (hf : s.writerFailed = true → s'.writerFailed = true)
    (hev : flushedTo s.events ≤ flushedTo s'.events) (hret : s'.returned = s.returned) :
    Flushed s' := by
  refine ⟨fun hq => ?_, fun b n e hbn he hok => ?_, fun n hn => ?_, ?_⟩
  · have hq : Quiet s := by
      unfold Quiet at *
      rw [hc, hr, hb] at hq
      exact hq
    obtain h | h := h.quiet hq
    · exact .inl (hf h)
    · refine .inr ?_
      unfold Covered at *
      rw [ha hq]
      exact Nat.le_trans h hev
  · rw [hc] at hbn
    rw [hb] at he
    exact Nat.le_trans (h.waited b n e hbn he hok) hev
  · rw [hc] at hn
    exact Nat.le_trans (h.stopped n hn) hev
  · rw [hret]
    exact h.returned

/-! ## Producers and the writer -/

theorem PastBarrier.closed {barriers : Nat → Option LogError} {c : Control}
    (h : PastBarrier barriers c) : closed c = true := by
  cases c with
  | stopWait | stopBarrierDone | stopJoin | stopRelease => rfl
  | free | configureWait | flushEntered | flushWait | stopEntered | stopClosed => exact h.elim

/-- Nothing is accepted while the runtime is quiet. -/
theorem Quiet.closed (h : Quiet s) (hs : Shape s) : s.isAccepting = false := by
  obtain hr | hc := h
  · exact (hs.down hr).1
  · exact hs.closes hc.closed

theorem Flushed.tryAppend (h : Flushed s) (hs : Shape s) (r : AsyncLogRecord)
    (reentrant throws : Bool) : Flushed (tryAppend endLine s r reentrant throws).1 := by
  obtain ⟨ha, -, -, heq⟩ | ⟨_, _, _, _, _, heq, -⟩ := tryAppend_cases endLine s r reentrant throws
  · rw [heq]
    refine h.same rfl rfl rfl (fun hq => ?_) id le_rfl rfl
    exact absurd ((hq.closed hs).symm.trans ha) Bool.false_ne_true
  · rw [heq]
    exact h.same rfl rfl rfl (fun _ => rfl) id le_rfl rfl

theorem RecordEnd.keeps {r : AsyncLogRecord} {skip failed : Bool} {e : LogError}
    {more : List Event} (h : RecordEnd s r skip failed e more) (hf : s.writerFailed = true) :
    failed = true := by
  cases h with
  | skipped | written | flushed => exact hf
  | failed => rfl

theorem Flushed.finishRecord (h : Flushed s) (r : AsyncLogRecord) (skip : Bool)
    (env : WriterEnv) : Flushed (finishRecord s r skip env) := by
  obtain ⟨_, _, more, hend, heq⟩ := finishRecord_cases s r skip env
  rw [heq]
  exact h.same rfl rfl rfl (fun _ => rfl) hend.keeps (flushedTo_append _ more) rfl

/-- Before a good flush of a writer that has not failed, everything completed is flushed. -/
theorem flushedTo_flushed {events : List Event} (h : (track events).failed = false) :
    (track events).handled ≤ flushedTo (events ++ [.flushed]) := by
  rw [flushedTo, track_append]
  simp only [List.foldl_cons, List.foldl_nil, Track.next, h]
  exact le_max_right _ _

theorem Flushed.finishBarrier (h : Flushed s) (hs : Shape s) (hacc : Accounting s) {b : Nat}
    {skip : Bool} (hw : s.worker = .delivering (.barrier b) skip) (env : WriterEnv)
    (copies : Bool) : Flushed (finishBarrier s b env copies) := by
  obtain ⟨failed, e, error, event, hend, heq⟩ := finishBarrier_cases s b env copies
  obtain ⟨n, after, hbn, hq, hlast, hn⟩ := hs.delivers hw
  have hrun : s.isRunning = true := hs.running fun ha => by rw [hw] at ha; cases ha
  -- The records behind the barrier are all that is not completed.
  have hhandled : s.accepted = (track s.events).handled + after.length := by
    have hh := congrArg List.length hacc.history
    have hp : recordsOf (pipeline s) = after := by
      rw [pipeline, hw, hq, recordsOf_append, recordsOf_records]
      rfl
    rw [List.length_append, pending, List.length_map, hp, ← handled_track] at hh
    exact hacc.accepted.trans hh.symm
  rw [heq]
  refine ⟨fun hquiet => ?_, fun b' m e' hb' he' hok => ?_, fun m hm => ?_, h.returned⟩
  · obtain hr | hc := hquiet
    · exact absurd (hr.symm.trans hrun) Bool.false_ne_true
    · have hclosed : closed s.control = true := hc.closed
      rw [hlast hclosed, List.length_nil, Nat.add_zero] at hhandled
      cases hend with
      | failed => exact .inl rfl
      | flushed hok =>
        cases hf : s.writerFailed with
        | true => exact .inl rfl
        | false =>
          have hf' := hacc.failed.symm.trans hf
          exact .inr (Nat.le_trans (Nat.le_of_eq hhandled) (flushedTo_flushed hf'))
  · have hm : some (b, n) = some (b', m) := hbn.symm.trans hb'
    cases hm
    have he : error = e' := by
      have hupd : Function.update s.barriers b (some error) b = some e' := he'
      rw [Function.update_self] at hupd
      exact Option.some.inj hupd
    subst he
    cases hend with
    | failed he hbad => exact absurd (hbad.symm.trans hok) Bool.false_ne_true
    | flushed hfail =>
      have hf : s.writerFailed = false := by
        cases hf : s.writerFailed with
        | false => rfl
        | true => exact absurd ((hacc.lastError hf).symm.trans (hfail hok hf)) Bool.false_ne_true
      have hf' := hacc.failed.symm.trans hf
      exact Nat.le_trans (by omega) (flushedTo_flushed hf')
  · exact Nat.le_trans (h.stopped m hm) (flushedTo_append _ _)

/-! ## Control calls -/

/-- A control call goes on; the writer does nothing. -/
theorem Flushed.move (h : Flushed s) (hev : s'.events = s.events) (ha : s'.accepted = s.accepted)
    (hf : s'.writerFailed = s.writerFailed)
    (hq : Quiet s' → Quiet s ∨ s.writerFailed = true ∨ Covered s)
    (hw : ∀ b n e, awaits s'.control = some (b, n) → s'.barriers b = some e → e.ok = true →
      n ≤ flushedTo s.events)
    (hst : ∀ n, stopResult s'.control = some (.success, n) → n ≤ flushedTo s.events)
    (hret : ∀ r ∈ s'.returned, ReturnOk r) : Flushed s' := by
  refine ⟨fun hquiet => ?_, ?_, ?_, hret⟩
  · unfold Covered
    rw [hf, hev, ha]
    obtain hq | hq := hq hquiet
    · exact h.quiet hq
    · exact hq
  · rw [hev]
    exact hw
  · rw [hev]
    exact hst

theorem returnOk_append {rs : List Return} {r : Return} (h : ∀ r ∈ rs, ReturnOk r)
    (hr : ReturnOk r) : ∀ x ∈ rs ++ [r], ReturnOk x := by
  intro x hx
  obtain hx | hx := List.mem_append.mp hx
  · exact h x hx
  · exact List.mem_singleton.mp hx ▸ hr

theorem Flushed.return (h : Flushed s) {call : Call} {r : CallResult} {n : Nat}
    (hr : ReturnOk ⟨call, r, n, s.events⟩) : Flushed (s.return call r n) :=
  h.move rfl rfl rfl .inl h.waited h.stopped (returnOk_append h.returned hr)

/-- A failure promises nothing. -/
theorem returnOk_failure {call : Call} {e : LogError} {he : e.ok = false} {n : Nat}
    {events : List Event} : ReturnOk ⟨call, .returned (.failure e he), n, events⟩ := by
  intro _ h
  cases h

theorem returnOk_configure {r : CallResult} {n : Nat} {events : List Event} :
    ReturnOk ⟨.configure, r, n, events⟩ := fun h => absurd rfl h

/-- The control call ends where its result promises no more than what was flushed. -/
theorem Flushed.finish (h : Flushed s) (hacc : Accounting s) {call : Call} {r : CallResult}
    {n : Nat} (hr : r = .returned .success → n ≤ flushedTo s.events) :
    Flushed (s.finish call r n) := by
  refine h.move rfl rfl rfl (fun hq => ?_) (fun b n e hb => by cases hb) (fun n hn => by cases hn)
    (returnOk_append h.returned fun _ hs => delivered_of_orderly hacc.orderly (hr hs))
  obtain hq | hq := hq
  · exact .inl (.inl hq)
  · exact hq.elim

/-- A barrier that is queued is not done. -/
theorem Flushed.pushBarrier (h : Flushed s) (hs : Shape s) {c : Control} {n : Nat}
    (hr : s.isRunning = true) (hb : awaits c = some (s.nextBarrier, n)) :
    Flushed (pushBarrier s c) := by
  have hfresh := hs.fresh s.nextBarrier le_rfl
  refine h.move rfl rfl rfl (fun hq => ?_) (fun b m e hbm he => ?_) (fun m hm => ?_) h.returned
  · obtain hq | hq := hq
    · exact absurd (hq.symm.trans hr) Bool.false_ne_true
    · change PastBarrier s.barriers c at hq
      cases c with
      | stopWait b m =>
        cases hb
        have hd : (s.barriers s.nextBarrier).isSome = true := hq
        exact absurd hd (by rw [hfresh]; decide)
      | stopBarrierDone | stopJoin | stopRelease => cases hb
      | free | configureWait | flushEntered | flushWait | stopEntered | stopClosed => exact hq.elim
  · have hm : some (s.nextBarrier, n) = some (b, m) := hb.symm.trans hbm
    cases hm
    exact absurd (hfresh.symm.trans he) (by simp)
  · change stopResult c = _ at hm
    cases c with
    | stopBarrierDone | stopJoin | stopRelease => cases hb
    | free | configureWait | flushEntered | flushWait | stopEntered | stopClosed | stopWait =>
      cases hm

theorem Flushed.configureLocked (h : Flushed s) (hs : Shape s)
    (candidate : AsyncLogSettings) (env : ConfigureEnv) :
    Flushed (configureLocked s candidate env) := by
  unfold Impl.Log.configureLocked
  split
  · exact h.return returnOk_configure
  split
  · exact (h.return returnOk_configure).same rfl rfl rfl (fun _ => rfl) id le_rfl rfl
  · have hfresh := hs.fresh s.nextBarrier le_rfl
    refine h.move rfl rfl rfl (fun hq => ?_) (fun b m e hbm he => ?_) (fun m hm => by cases hm)
      h.returned
    · obtain hq | hq := hq
      · exact absurd hq.symm Bool.false_ne_true
      · exact hq.elim
    · cases hbm
      exact absurd (hfresh.symm.trans he) (by simp)

theorem Flushed.configureDone (h : Flushed s) (hs : Shape s) {candidate : AsyncLogSettings}
    {b : Nat} (hc : s.control = .configureWait candidate b) :
    Flushed (configureDone s candidate) := by
  have hr : s.isRunning = true := by
    have hb := hs.barrier
    unfold BarrierOk at hb
    rw [hc] at hb
    exact hb.1
  refine ⟨fun hq => ?_, fun b n e hb => (by cases hb), fun n hn => (by cases hn),
    returnOk_append h.returned returnOk_configure⟩
  obtain hq | hq := hq
  · exact absurd (hq.symm.trans hr) Bool.false_ne_true
  · exact hq.elim

theorem toStatus_success {e : LogError} (h : e.toStatus = .success) : e.ok = true := by
  unfold LogError.toStatus at h
  split at h
  · cases h
  · rename_i hok
    simpa using hok

/-- A runtime that is not running reports success only where everything is flushed. -/
theorem Flushed.barrierStopped (h : Flushed s) (hr : s.isRunning = false)
    (hb : barrierStopped s = .returned .success) : s.accepted ≤ flushedTo s.events := by
  obtain hf | hc := h.quiet (.inl hr)
  · unfold Impl.Log.barrierStopped at hb
    rw [hf] at hb
    split at hb
    · contradiction
    split at hb <;> cases hb
  · exact hc

theorem Flushed.flushBarrier (h : Flushed s) (hs : Shape s) (hacc : Accounting s) {n : Nat}
    (hc : s.control = .flushEntered n) (allocates : Bool) :
    Flushed (flushBarrier s n allocates) := by
  have hn : n ≤ s.accepted := hs.before_of hc
  unfold Impl.Log.flushBarrier
  split
  · exact h.finish hacc fun hr => by cases hr
  split
  · rename_i hr
    have hr : s.isRunning = false := by simpa using hr
    exact h.finish hacc fun hb => Nat.le_trans hn (h.barrierStopped hr hb)
  · rename_i hr
    exact h.pushBarrier hs (by simpa using hr) rfl

theorem stopStatus_success {r : CallResult} (h : stopStatus r = .success) :
    r = .returned .success := by
  cases r with
  | returned r => exact congrArg _ h
  | threw => cases h

theorem Flushed.stopBarrier (h : Flushed s) (hs : Shape s) {n : Nat}
    (hc : s.control = .stopClosed n) {allocates : Bool}
    (hok : StopsFlushed s (.control allocates)) : Flushed (stopBarrier s n allocates) := by
  have hn : n ≤ s.accepted := hs.before_of hc
  have hnone : awaits s.control = none := by rw [hc]; rfl
  unfold Impl.Log.stopBarrier
  split
  · rename_i ha
    -- The barrier is not allocated: the writer is going to end without a flush.
    have hok : s.isRunning = true → s.writerFailed = true ∨ Covered s := by
      have ha : allocates = false := by simpa using ha
      subst ha
      exact hok ⟨n, hc⟩
    refine h.move rfl rfl rfl (fun _ => ?_) (fun b m e hb => by cases hb) (fun m hm => ?_)
      h.returned
    · cases hr : s.isRunning with
      | false => exact .inl (.inl hr)
      | true => exact .inr (hok hr)
    · cases hm
  split
  · rename_i hr
    have hr : s.isRunning = false := by simpa using hr
    refine h.move rfl rfl rfl (fun _ => .inl (.inl hr)) (fun b m e hb => by cases hb)
      (fun m hm => ?_) h.returned
    obtain ⟨hsucc, rfl⟩ := Prod.mk.inj (Option.some.inj hm)
    exact Nat.le_trans hn (h.barrierStopped hr (stopStatus_success hsucc))
  · rename_i hr
    exact h.pushBarrier hs (by simpa using hr) rfl

theorem Flushed.controlStep (h : Flushed s) (hs : Shape s) (hacc : Accounting s)
    {allocates : Bool} (hok : StopsFlushed s (.control allocates))
    (hstep : controlStep s allocates = some s') : Flushed s' := by
  unfold Impl.Log.controlStep at hstep
  split at hstep
  · cases hstep
  · rename_i candidate b hc
    split at hstep
    · cases hstep
      exact h.configureDone hs hc
    · cases hstep
  · rename_i n hc
    cases hstep
    exact h.flushBarrier hs hacc hc allocates
  · rename_i b n hc
    obtain ⟨e, he, rfl⟩ := Option.map_eq_some_iff.mp hstep
    refine h.finish hacc fun hr => ?_
    exact h.waited b n e (by rw [hc]; rfl) he (toStatus_success (CallResult.returned.inj hr))
  · rename_i n hc
    cases hstep
    refine h.move rfl rfl rfl (fun hq => ?_) (fun b m e hb => by cases hb)
      (fun m hm => by cases hm) h.returned
    obtain hq | hq := hq
    · exact .inl (.inl hq)
    · exact hq.elim
  · rename_i n hc
    cases hstep
    exact h.stopBarrier hs hc hok
  · rename_i b n hc
    obtain ⟨e, he, rfl⟩ := Option.map_eq_some_iff.mp hstep
    refine h.move rfl rfl rfl (fun _ => .inl (.inr ?_)) (fun b m e hb => by cases hb)
      (fun m hm => ?_) h.returned
    · rw [hc]
      show (s.barriers b).isSome = true
      rw [he]
      rfl
    · obtain ⟨hsucc, rfl⟩ := Prod.mk.inj (Option.some.inj hm)
      exact h.waited b n e (by rw [hc]; rfl) he (toStatus_success hsucc)
  · rename_i r n hc
    cases hstep
    refine h.move rfl rfl rfl (fun _ => .inl (.inr (by rw [hc]; trivial)))
      (fun b m e hb => by cases hb) (fun m hm => h.stopped m (by rw [hc]; exact hm)) h.returned
  · rename_i r n hc
    split at hstep
    · cases hstep
      refine h.move rfl rfl rfl (fun _ => .inl (.inr (by rw [hc]; trivial)))
        (fun b m e hb => by cases hb) (fun m hm => h.stopped m (by rw [hc]; exact hm)) h.returned
    · cases hstep
  · rename_i r n hc
    cases hstep
    have hres : CallResult.returned r = .returned .success → n ≤ flushedTo s.events :=
      fun hr => h.stopped n (by rw [hc, CallResult.returned.inj hr]; rfl)
    exact h.move rfl rfl rfl (fun _ => .inl (.inr (by rw [hc]; trivial)))
      (fun b m e hb => by cases hb) (fun m hm => by cases hm)
      (returnOk_append h.returned fun _ hr => delivered_of_orderly hacc.orderly (hres hr))

theorem Flushed.enterControl (h : Flushed s) {call : Call} {c : Control} {reentrant : Bool}
    (hb : awaits c = none) (hr : stopResult c = none) (hp : ∀ bs, ¬PastBarrier bs c)
    (hs : enterControl s call c reentrant = some s') : Flushed s' := by
  unfold Impl.Log.enterControl at hs
  split at hs
  · cases hs
    exact h.return returnOk_failure
  split at hs
  · cases hs
    refine h.move rfl rfl rfl (fun hq => ?_) (fun b n e hbn => ?_) (fun n hn => ?_) h.returned
    · obtain hq | hq := hq
      · exact .inl (.inl hq)
      · exact absurd hq (hp _)
    · exact absurd (hb.symm.trans hbn) (by simp)
    · exact absurd (hr.symm.trans hn) (by simp)
  · cases hs

theorem Flushed.step (h : Flushed s) (hinv : LogInv s) {a : LogAct} (hok : StopsFlushed s a)
    (hs : logStep endLine s a = some s') : Flushed s' := by
  obtain ⟨hsh, hacc⟩ := hinv
  cases a with
  | tryAppend r reentrant throws =>
    simp only [logStep, Option.ite_none_left_eq_some, Option.some.injEq] at hs
    rw [← hs.2]
    exact h.tryAppend hsh r reentrant throws
  | appendCatch =>
    simp only [logStep, Option.ite_none_right_eq_some, Option.some.injEq] at hs
    rw [← hs.2]
    exact h.same rfl rfl rfl (fun _ => rfl) id le_rfl rfl
  | pop =>
    simp only [logStep, Option.ite_none_right_eq_some] at hs
    obtain ⟨e, queue, skip, -, rfl, -⟩ := popEntry_cases hs.2
    exact h.same rfl rfl rfl (fun _ => rfl) id le_rfl rfl
  | deliver env copies =>
    simp only [logStep] at hs
    split at hs
    · cases hs
      exact h.finishRecord _ _ env
    · rename_i hw
      cases hs
      exact h.finishBarrier hsh hacc hw env copies
    · cases hs
  | exit =>
    simp only [logStep, Option.ite_none_right_eq_some, Option.some.injEq] at hs
    obtain ⟨-, rfl⟩ := hs
    exact h.same rfl rfl rfl (fun _ => rfl) id le_rfl rfl
  | configure candidate reentrant env =>
    simp only [logStep, Option.ite_none_left_eq_some, Impl.Log.configure] at hs
    obtain ⟨-, hs⟩ := hs
    split at hs
    · cases hs
      exact h.return returnOk_configure
    · split at hs
      · cases hs
        exact h.configureLocked hsh candidate env
      · cases hs
  | flush reentrant =>
    simp only [logStep, Option.ite_none_left_eq_some] at hs
    exact h.enterControl rfl rfl (fun _ => id) hs.2
  | stop reentrant =>
    simp only [logStep, Option.ite_none_left_eq_some] at hs
    exact h.enterControl rfl rfl (fun _ => id) hs.2
  | control allocates => exact h.controlStep hsh hacc hok hs

/-! ## Settings -/

/-- Only a `configure` whose barrier is done and the end of a `stop` change the settings. -/
theorem settings_step {a : LogAct} (hs : logStep endLine s a = some s') :
    s'.settings = s.settings ∨
      (∃ candidate b, s.control = .configureWait candidate b ∧ (s.barriers b).isSome = true) ∨
      ∃ r n, s.control = .stopRelease r n := by
  cases a with
  | tryAppend r reentrant throws =>
    simp only [logStep, Option.ite_none_left_eq_some, Option.some.injEq] at hs
    rw [← hs.2]
    obtain ⟨-, -, -, heq⟩ | ⟨_, _, _, _, _, heq, -⟩ := tryAppend_cases endLine s r reentrant throws
    · exact .inl (by rw [heq]; rfl)
    · exact .inl (by rw [heq])
  | appendCatch =>
    simp only [logStep, Option.ite_none_right_eq_some, Option.some.injEq] at hs
    exact .inl (by rw [← hs.2]; rfl)
  | pop =>
    simp only [logStep, Option.ite_none_right_eq_some] at hs
    obtain ⟨e, queue, skip, -, rfl, -⟩ := popEntry_cases hs.2
    exact .inl rfl
  | deliver env copies =>
    simp only [logStep] at hs
    split at hs
    · rename_i r skip _
      cases hs
      obtain ⟨_, _, _, -, heq⟩ := finishRecord_cases s r skip env
      exact .inl (by rw [heq])
    · rename_i b _ _
      cases hs
      obtain ⟨_, _, _, _, -, heq⟩ := finishBarrier_cases s b env copies
      exact .inl (by rw [heq])
    · cases hs
  | exit =>
    simp only [logStep, Option.ite_none_right_eq_some, Option.some.injEq] at hs
    exact .inl (by rw [← hs.2])
  | configure candidate reentrant env =>
    simp only [logStep, Option.ite_none_left_eq_some, Impl.Log.configure] at hs
    obtain ⟨-, hs⟩ := hs
    split at hs
    · cases hs
      exact .inl rfl
    · simp only [Option.ite_none_right_eq_some, Option.some.injEq] at hs
      obtain ⟨-, rfl⟩ := hs
      unfold configureLocked
      split
      · exact .inl rfl
      split <;> exact .inl rfl
  | flush reentrant | stop reentrant =>
    simp only [logStep, Option.ite_none_left_eq_some, enterControl] at hs
    obtain ⟨-, hs⟩ := hs
    split at hs
    · cases hs
      exact .inl rfl
    · simp only [Option.ite_none_right_eq_some, Option.some.injEq] at hs
      exact .inl (by rw [← hs.2])
  | control allocates =>
    simp only [logStep, controlStep] at hs
    split at hs
    · cases hs
    · rename_i candidate b hc
      simp only [Option.ite_none_right_eq_some, Option.some.injEq] at hs
      exact .inr (.inl ⟨candidate, b, hc, hs.1⟩)
    · cases hs
      unfold flushBarrier
      split
      · exact .inl rfl
      split <;> exact .inl rfl
    · obtain ⟨e, he, rfl⟩ := Option.map_eq_some_iff.mp hs
      exact .inl rfl
    · cases hs
      exact .inl rfl
    · cases hs
      unfold stopBarrier
      split
      · exact .inl rfl
      split <;> exact .inl rfl
    · obtain ⟨e, he, rfl⟩ := Option.map_eq_some_iff.mp hs
      exact .inl rfl
    · cases hs
      exact .inl rfl
    · simp only [Option.ite_none_right_eq_some, Option.some.injEq] at hs
      exact .inl (by rw [← hs.2])
    · rename_i r n hc
      exact .inr (.inr ⟨r, n, hc⟩)

/-- The settings change only when nothing is queued or in flight. -/
theorem LogInv.settings (h : LogInv s) {a : LogAct} (hs : logStep endLine s a = some s')
    (hne : s'.settings ≠ s.settings) : pipeline s = [] := by
  obtain heq | ⟨candidate, b, hc, hd⟩ | ⟨r, n, hc⟩ := settings_step hs
  · exact absurd heq hne
  · exact h.1.configureDone_empty hc hd
  · obtain ⟨hw, hq⟩ := h.1.release_empty hc
    rw [pipeline, hw, hq]
    rfl

/-- What a `configure` that fails leaves alone. -/
structure Untouched (s s' : LogState) : Prop where
  settings : s'.settings = s.settings
  file : s'.file = s.file
  worker : s'.worker = s.worker
  queue : s'.queue = s.queue
  isRunning : s'.isRunning = s.isRunning
  isAccepting : s'.isAccepting = s.isAccepting
  writerFailed : s'.writerFailed = s.writerFailed
  lastError : s'.lastError = s.lastError
  history : s'.history = s.history
  events : s'.events = s.events

/-- A `configure` that does not wait for its barrier fails and leaves the runtime alone. -/
theorem configure_cases {candidate : AsyncLogSettings} {reentrant : Bool} {env : ConfigureEnv}
    (hs : configure s candidate reentrant env = some s') :
    (s'.control = .configureWait candidate s.nextBarrier ∧ s'.returned = s.returned) ∨
      (∃ e he, s'.returned =
        s.returned ++ [⟨.configure, .returned (.failure e he), s.accepted, s.events⟩]) ∧
      Untouched s s' := by
  unfold configure at hs
  split at hs
  · rename_i r hr
    cases hs
    refine .inr ⟨?_, ⟨rfl, rfl, rfl, rfl, rfl, rfl, rfl, rfl, rfl, rfl⟩⟩
    cases r with
    | failure e he => exact ⟨e, he, rfl⟩
    | success =>
      -- What is returned before the locks is a failure.
      unfold prepareCandidate at hr
      split at hr
      · cases hr
      split at hr
      · cases hr
      split at hr
      · cases hr
      · cases hr
      · cases hr
      · split at hr <;> cases hr
  · simp only [Option.ite_none_right_eq_some, Option.some.injEq] at hs
    obtain ⟨-, rfl⟩ := hs
    unfold configureLocked
    split
    · exact .inr ⟨⟨_, rfl, rfl⟩, ⟨rfl, rfl, rfl, rfl, rfl, rfl, rfl, rfl, rfl, rfl⟩⟩
    split
    · exact .inr ⟨⟨_, rfl, rfl⟩, ⟨rfl, rfl, rfl, rfl, rfl, rfl, rfl, rfl, rfl, rfl⟩⟩
    · exact .inl ⟨rfl, rfl⟩

def FlushInv (s : LogState) : Prop := LogInv s ∧ Flushed s

theorem FlushInv.step (h : FlushInv s) {a : LogAct} (hok : StopsFlushed s a)
    (hs : logStep endLine s a = some s') : FlushInv s' :=
  ⟨h.1.step hs, h.2.step h.1 hok hs⟩

/-- In every run where no `stop` fails to allocate its barrier while a flush is owed
(`StopsFlushed`): when a `flush` or a `stop` reports success, the records accepted before it since
the last `configure` have been written and flushed after that; the settings change only when
nothing is queued or in flight, and each record is delivered under the settings in force at its
acceptance; a `configure` that fails leaves the runtime as it was. -/
theorem log_barrier_law (endLine : Bytes) (acts : List LogAct) (s : LogState)
    (hrun : run (logStep endLine) .initial acts = some s)
    (hok : Along (logStep endLine) StopsFlushed .initial acts) :
    (∀ r ∈ s.returned, r.call ≠ .configure → r.result = .returned .success →
      Delivered r.events r.accepted) ∧
    handled s.events ++ pending s = s.history ∧
    (∀ a s', logStep endLine s a = some s' → s'.settings ≠ s.settings → pipeline s = []) ∧
    (∀ candidate reentrant env s',
      logStep endLine s (.configure candidate reentrant env) = some s' →
      (s'.control = .configureWait candidate s.nextBarrier ∧ s'.returned = s.returned) ∨
      (∃ e he, s'.returned =
        s.returned ++ [⟨.configure, .returned (.failure e he), s.accepted, s.events⟩]) ∧
      Untouched s s') ∧
    (∀ candidate b allocates s', s.control = .configureWait candidate b →
      logStep endLine s (.control allocates) = some s' → s' = configureDone s candidate) := by
  obtain ⟨hinv, hflushed⟩ : FlushInv s :=
    run_invariant_along (fun _ _ _ h hok hs => h.step hok hs)
      ⟨⟨shape_initial, accounting_initial⟩, flushed_initial⟩ hok hrun
  refine ⟨hflushed.returned, hinv.2.history, fun a s' hs hne => hinv.settings hs hne,
    fun candidate reentrant env s' hs => ?_, fun candidate b allocates s' hc hs => ?_⟩
  · simp only [logStep, Option.ite_none_left_eq_some] at hs
    exact configure_cases hs.2
  · simp only [logStep, controlStep, hc, Option.ite_none_right_eq_some, Option.some.injEq] at hs
    exact hs.2.symm

/-- A runtime with one sink and one record, which is stopped. -/
def stopOnce (allocates : Bool) : List LogAct :=
  [.configure { sinks := [some 0] } false {}, .pop, .deliver {} true, .control true,
    .tryAppend {} false false, .stop false, .control true, .control allocates, .pop,
    .deliver {} true]

/-- The barrier of a `stop` is delivered. -/
def stopFlushed : List LogAct :=
  stopOnce true ++ [.pop, .deliver {} true, .control true, .control true, .exit, .control true,
    .control true]

/-- The barrier of a `stop` is not allocated, and `stop` is called again. -/
def stopTwice : List LogAct :=
  stopOnce false ++ [.control true, .exit, .control true, .control true, .stop false, .control true,
    .control true, .control true, .control true, .control true]

def stoppedFlushed : Option LogState := run (logStep [0x0a]) .initial stopFlushed

def stoppedTwice : Option LogState := run (logStep [0x0a]) .initial stopTwice

theorem log_barrier_law_stop :
    ∃ s, stoppedFlushed = some s ∧ ∃ r ∈ s.returned,
      r.call = .stop ∧ r.accepted = 1 ∧ Delivered r.events r.accepted := by
  have hrun : stoppedFlushed = some (stoppedFlushed.get (by decide +kernel)) :=
    (Option.some_get _).symm
  have hok : Along (logStep [0x0a]) StopsFlushed .initial stopFlushed :=
    along_of_forall (by simp [stopFlushed, stopOnce, StopsFlushed]) _
  have hstop : ∃ r ∈ (stoppedFlushed.get (by decide +kernel)).returned,
      r.call = .stop ∧ r.accepted = 1 ∧ r.result = .returned .success := by decide +kernel
  obtain ⟨r, hr, hcall, haccepted, hresult⟩ := hstop
  have hdelivered := (log_barrier_law _ stopFlushed _ hrun hok).1 r hr (by rw [hcall]; decide)
  exact ⟨_, hrun, r, hr, hcall, haccepted, hdelivered hresult⟩

/-- A second `stop` reports success for a record that was written and never flushed. -/
theorem stop_unflushed :
    ∃ s, stoppedTwice = some s ∧ ∃ r ∈ s.returned,
      r.call = .stop ∧ r.result = .returned .success ∧ ¬Delivered r.events r.accepted := by
  have hrun : stoppedTwice = some (stoppedTwice.get (by decide +kernel)) :=
    (Option.some_get _).symm
  have hstop : ∃ r ∈ (stoppedTwice.get (by decide +kernel)).returned,
      r.call = .stop ∧ r.result = .returned .success ∧ r.accepted = 1 ∧
        r.events = [.flushed, .configured, .written {} { sinks := [some 0] }] := by decide +kernel
  obtain ⟨r, hr, hcall, hresult, haccepted, hevents⟩ := hstop
  refine ⟨_, hrun, r, hr, hcall, hresult, fun h => ?_⟩
  rw [haccepted, hevents] at h
  obtain ⟨pre, post, heq, p, _, _, q, rfl, -⟩ := h 0 (by decide) (by decide)
  -- The flush comes first, and a record that was written cannot come before it.
  cases p with
  | nil => cases heq
  | cons e p =>
    cases p with
    | nil => cases heq
    | cons e' p =>
      cases p with
      | nil =>
        have hflush := (List.cons.inj (List.cons.inj (List.cons.inj heq).2).2).2
        exact absurd hflush.symm (by simp)
      | cons e'' p =>
        have hlong := (List.cons.inj (List.cons.inj (List.cons.inj heq).2).2).2
        exact absurd hlong.symm (by simp)

end WSE.Proof.Log
