import WapitiStew.Proof.Log.LogShape

/-!
# Every accepted record is accounted for

`Accounting` equates the records accepted, with the settings in force at
acceptance, with those the writer has completed followed by those in the
pipeline; it holds in every reachable state (`Accounting.step`,
`reachable_log`). `log_accounting` reads the counters, the order of delivery and
what follows a failure from it.
-/

namespace WSE.Proof.Log

open WSE.Framework WSE.Impl.Log WSE.Spec.Log

/-- The records that are not completed, with the settings in force. -/
def pending (s : LogState) : List (AsyncLogRecord × AsyncLogSettings) :=
  (recordsOf (pipeline s)).map fun r => (r, s.settings)

structure Accounting (s : LogState) : Prop where
  history : handled s.events ++ pending s = s.history
  completed : s.completed = (handled s.events).length
  queued : s.queued = (recordsOf s.queue).length
  accepted : s.accepted = s.history.length
  capacity : s.queued ≤ s.settings.queueCapacity
  orderly : Orderly s.events
  failed : s.writerFailed = (track s.events).failed
  lastError : s.writerFailed = true → s.lastError.ok = false
  lost : (track s.events).lost ≤ s.dropped
  skip : ∀ r skip, s.worker = .delivering (.record r) skip → skip = s.writerFailed

theorem accounting_initial : Accounting .initial where
  history := rfl
  completed := rfl
  queued := rfl
  accepted := rfl
  capacity := Nat.zero_le _
  orderly := writer.accepts_nil
  failed := rfl
  lastError h := absurd h Bool.false_ne_true
  lost := le_rfl
  skip _ _ h := by cases h

variable {s s' : LogState} {endLine : Bytes}

/-- No record moves, and the writer does nothing. -/
structure SameRecords (s s' : LogState) : Prop where
  pipeline : recordsOf (pipeline s') = recordsOf (pipeline s)
  queue : recordsOf s'.queue = recordsOf s.queue
  settings : s'.settings = s.settings
  history : s'.history = s.history
  events : s'.events = s.events
  completed : s'.completed = s.completed
  queued : s'.queued = s.queued
  accepted : s'.accepted = s.accepted
  failed : s'.writerFailed = s.writerFailed

theorem Accounting.same (h : Accounting s) (e : SameRecords s s')
    (hl : s.writerFailed = true → s'.lastError = s.lastError) (hd : s.dropped ≤ s'.dropped)
    (hs : ∀ r skip, s'.worker = .delivering (.record r) skip → skip = s.writerFailed) :
    Accounting s' where
  history := by
    rw [pending, e.pipeline, e.settings, e.events, e.history]
    exact h.history
  completed := by rw [e.completed, e.events]; exact h.completed
  queued := by rw [e.queued, e.queue]; exact h.queued
  accepted := by rw [e.accepted, e.history]; exact h.accepted
  capacity := by rw [e.queued, e.settings]; exact h.capacity
  orderly := by rw [e.events]; exact h.orderly
  failed := by rw [e.failed, e.events]; exact h.failed
  lastError hf := by
    rw [e.failed] at hf
    rw [hl hf]
    exact h.lastError hf
  lost := by rw [e.events]; exact Nat.le_trans h.lost hd
  skip r skip hw := by rw [e.failed]; exact hs r skip hw

theorem Accounting.tryAppend (h : Accounting s) (r : AsyncLogRecord) (reentrant throws : Bool) :
    Accounting (tryAppend endLine s r reentrant throws).1 := by
  obtain ⟨-, -, hq, heq⟩ | ⟨_, _, _, _, _, heq, hd, hl, -⟩ :=
    tryAppend_cases endLine s r reentrant throws
  · rw [heq]
    refine ⟨?_, h.completed, ?_, ?_, hq, h.orderly, h.failed, h.lastError, h.lost, h.skip⟩
    · show _ ++ (recordsOf (pipeline (accept s r))).map (fun r => (r, s.settings)) =
        s.history ++ [(r, s.settings)]
      rw [pipeline_accept, recordsOf_append, recordsOf_records, List.map_append,
        ← List.append_assoc]
      exact congrArg (· ++ _) h.history
    · show s.queued + 1 = (recordsOf (s.queue ++ records [r])).length
      rw [recordsOf_append, recordsOf_records, List.length_append, h.queued]
      rfl
    · show s.accepted + 1 = (s.history ++ [_]).length
      rw [List.length_append, h.accepted]
      rfl
  · rw [heq]
    exact h.same ⟨rfl, rfl, rfl, rfl, rfl, rfl, rfl, rfl, rfl⟩ hl hd h.skip

theorem Accounting.appendCatch (h : Accounting s) : Accounting (appendCatch s).1 :=
  h.same ⟨rfl, rfl, rfl, rfl, rfl, rfl, rfl, rfl, rfl⟩ (fun hf => if_pos hf) (Nat.le_succ _) h.skip

theorem Accounting.pop (h : Accounting s) (hw : s.worker = .idle) (hs : popEntry s = some s') :
    Accounting s' := by
  obtain ⟨e, queue, skip, hq, rfl, hskip⟩ := popEntry_cases hs
  have hp : recordsOf s.queue = recordsOf [e] ++ recordsOf queue := by
    rw [hq, ← recordsOf_append]
    rfl
  have hn : (if e.isRecord then s.queued - 1 else s.queued) = (recordsOf queue).length := by
    rw [h.queued, hp, List.length_append]
    cases e with
    | record r => exact Nat.add_sub_cancel_left 1 _
    | barrier b => exact Nat.zero_add _
  refine ⟨?_, h.completed, hn, h.accepted, ?_, h.orderly, h.failed, h.lastError, h.lost,
    fun r sk hsk => ?_⟩
  · rw [← h.history]
    simp only [pending, pipeline, hw, hq, inFlight]
    rfl
  · show (if e.isRecord then s.queued - 1 else s.queued) ≤ _
    refine Nat.le_trans ?_ h.capacity
    split
    · exact Nat.sub_le _ _
    · exact le_rfl
  · cases hsk
    exact hskip

/-! ## The writer -/

/-- The record in delivery comes first among those not completed. -/
theorem pending_delivering {r : AsyncLogRecord} {skip : Bool}
    (hw : s.worker = .delivering (.record r) skip) :
    pending s = (r, s.settings) :: (recordsOf s.queue).map fun r => (r, s.settings) := by
  rw [pending, pipeline, hw]
  rfl

/-- What the events of a delivery are, after events whose writer has failed or not. -/
theorem RecordEnd.events {r : AsyncLogRecord} {skip failed : Bool} {e : LogError}
    {more : List Event} (h : RecordEnd s r skip failed e more) (ho : Orderly s.events)
    (hf : s.writerFailed = (track s.events).failed) (hskip : skip = s.writerFailed) :
    handled more = [(r, s.settings)] ∧ Orderly (s.events ++ more) ∧
      failed = (track (s.events ++ more)).failed ∧
      (track (s.events ++ more)).lost =
        (track s.events).lost + if skip || failed then 1 else 0 := by
  have hf' : (track s.events).failed = skip := (hskip.trans hf).symm
  cases h with
  | skipped =>
    refine ⟨rfl, Monitor.accepts_snoc.mpr ⟨ho, hf'⟩, ?_, ?_⟩
    · rw [track_append]
      exact hf
    · rw [track_append]
      rfl
  | written =>
    refine ⟨rfl, Monitor.accepts_snoc.mpr ⟨ho, hf'⟩, ?_, ?_⟩
    · rw [track_append]
      exact hf
    · rw [track_append, ← hskip]
      rfl
  | flushed =>
    have h1 : Orderly (s.events ++ [.written r s.settings]) := Monitor.accepts_snoc.mpr ⟨ho, hf'⟩
    have h2 : Orderly (s.events ++ [.written r s.settings] ++ [.flushed]) :=
      Monitor.accepts_snoc.mpr ⟨h1, trivial⟩
    rw [List.append_assoc] at h2
    refine ⟨rfl, h2, ?_, ?_⟩
    · rw [track_append]
      exact hf
    · rw [track_append, ← hskip]
      rfl
  | failed he =>
    refine ⟨rfl, Monitor.accepts_snoc.mpr ⟨ho, hf'⟩, ?_, ?_⟩
    · rw [track_append]
      rfl
    · rw [track_append]
      rfl

theorem RecordEnd.lastError {r : AsyncLogRecord} {skip failed : Bool} {e : LogError}
    {more : List Event} (h : RecordEnd s r skip failed e more)
    (hl : s.writerFailed = true → s.lastError.ok = false) : failed = true → e.ok = false := by
  cases h with
  | skipped | written | flushed => exact hl
  | failed he => exact fun _ => he

theorem Accounting.finishRecord (h : Accounting s) {r : AsyncLogRecord} {skip : Bool}
    (hw : s.worker = .delivering (.record r) skip) (env : WriterEnv) :
    Accounting (finishRecord s r skip env) := by
  obtain ⟨failed, e, more, hend, heq⟩ := finishRecord_cases s r skip env
  obtain ⟨hmore, ho, hf, hlost⟩ := hend.events h.orderly h.failed (h.skip r skip hw)
  rw [heq]
  refine ⟨?_, ?_, h.queued, h.accepted, h.capacity, ho, hf, hend.lastError h.lastError, ?_,
    fun r skip hw => by cases hw⟩
  · rw [← h.history, pending_delivering hw]
    show handled (s.events ++ more) ++ (recordsOf s.queue).map _ = _
    rw [handled_append, hmore, List.append_assoc]
    rfl
  · show s.completed + 1 = (handled (s.events ++ more)).length
    rw [handled_append, hmore, List.length_append, h.completed]
    rfl
  · show (track (s.events ++ more)).lost ≤ if skip || failed then s.dropped + 1 else s.dropped
    rw [hlost]
    split
    · exact Nat.succ_le_succ h.lost
    · exact h.lost

theorem BarrierEnd.events {failed : Bool} {e error : LogError} {event : Event}
    (h : BarrierEnd s failed e error event)
    (hf : s.writerFailed = (track s.events).failed) :
    handled [event] = [] ∧ (track s.events).allowed event ∧
      failed = (track (s.events ++ [event])).failed ∧
      (track (s.events ++ [event])).lost = (track s.events).lost := by
  rw [track_append]
  cases h with
  | flushed => exact ⟨rfl, trivial, hf, rfl⟩
  | failed => exact ⟨rfl, trivial, rfl, rfl⟩

theorem BarrierEnd.lastError {failed : Bool} {e error : LogError} {event : Event}
    (h : BarrierEnd s failed e error event)
    (hl : s.writerFailed = true → s.lastError.ok = false) : failed = true → e.ok = false := by
  cases h with
  | flushed => exact hl
  | failed he => exact fun _ => he

theorem Accounting.finishBarrier (h : Accounting s) {b : Nat} {skip : Bool}
    (hw : s.worker = .delivering (.barrier b) skip) (env : WriterEnv) (copies : Bool) :
    Accounting (finishBarrier s b env copies) := by
  obtain ⟨failed, e, error, event, hend, heq⟩ := finishBarrier_cases s b env copies
  obtain ⟨hev, hallowed, hf, hlost⟩ := hend.events h.failed
  rw [heq]
  refine ⟨?_, ?_, h.queued, h.accepted, h.capacity, Monitor.accepts_snoc.mpr ⟨h.orderly, hallowed⟩, hf,
    hend.lastError h.lastError, ?_, fun r skip hw => by cases hw⟩
  · show handled (s.events ++ [event]) ++ (recordsOf s.queue).map _ = s.history
    rw [handled_append, hev, List.append_nil, ← h.history, pending, pipeline, hw]
    rfl
  · show s.completed = (handled (s.events ++ [event])).length
    rw [handled_append, hev, List.append_nil]
    exact h.completed
  · show (track (s.events ++ [event])).lost ≤ s.dropped
    rw [hlost]
    exact h.lost

/-! ## Control calls -/

theorem Accounting.return (h : Accounting s) (call : Call) (r : CallResult) (n : Nat) :
    Accounting (s.return call r n) :=
  h.same ⟨rfl, rfl, rfl, rfl, rfl, rfl, rfl, rfl, rfl⟩ (fun _ => rfl) le_rfl h.skip

theorem Accounting.pushBarrier (h : Accounting s) (c : Control) : Accounting (pushBarrier s c) := by
  have hb : recordsOf [.barrier s.nextBarrier] = [] := rfl
  refine h.same ⟨?_, ?_, rfl, rfl, rfl, rfl, rfl, rfl, rfl⟩ (fun _ => rfl) le_rfl h.skip
  · show recordsOf (inFlight s.worker ++ (s.queue ++ [_])) = recordsOf (inFlight s.worker ++ s.queue)
    simp only [recordsOf_append, hb, List.append_nil]
  · show recordsOf (s.queue ++ [_]) = recordsOf s.queue
    simp only [recordsOf_append, hb, List.append_nil]

theorem Accounting.configureLocked (h : Accounting s) (hs : Shape s)
    (candidate : AsyncLogSettings) (env : ConfigureEnv) :
    Accounting (configureLocked s candidate env) := by
  unfold Impl.Log.configureLocked
  split
  · exact h.return _ _ _
  split
  · exact h.same ⟨rfl, rfl, rfl, rfl, rfl, rfl, rfl, rfl, rfl⟩ (fun _ => rfl) le_rfl h.skip
  · have hstart : Accounting { s with
        worker := if s.isRunning then s.worker else .idle
        stopping := if s.isRunning then s.stopping else false
        isRunning := true, isAccepting := false } := by
      cases hr : s.isRunning with
      | true =>
        exact h.same ⟨rfl, rfl, rfl, rfl, rfl, rfl, rfl, rfl, rfl⟩ (fun _ => rfl) le_rfl h.skip
      | false =>
        have hw := (hs.down hr).2.1
        refine h.same ⟨?_, rfl, rfl, rfl, rfl, rfl, rfl, rfl, rfl⟩ (fun _ => rfl) le_rfl
          (fun r skip hw => by cases hw)
        rw [pipeline, pipeline, hw]
        rfl
    exact hstart.pushBarrier _

/-- With an empty pipeline the settings may change, and every accepted record is completed. -/
theorem Accounting.settled (h : Accounting s) (hp : pipeline s = []) :
    handled s.events = s.history ∧ s.queued = 0 := by
  have hq : s.queue = [] := (List.append_eq_nil_iff.mp hp).2
  constructor
  · have hh := h.history
    rw [pending, hp] at hh
    exact (List.append_nil _).symm.trans hh
  · rw [h.queued, hq]
    rfl

theorem Accounting.configureDone (h : Accounting s) (hp : pipeline s = [])
    (candidate : AsyncLogSettings) : Accounting (configureDone s candidate) := by
  obtain ⟨hhistory, hqueued⟩ := h.settled hp
  have hev : handled [.configured] = [] := rfl
  refine ⟨?_, ?_, h.queued, h.accepted, ?_, Monitor.accepts_snoc.mpr ⟨h.orderly, trivial⟩, ?_,
    fun h => absurd h Bool.false_ne_true, ?_, fun r skip hw => ?_⟩
  · show handled (s.events ++ [_]) ++ (recordsOf (pipeline s)).map _ = s.history
    rw [handled_append, hev, hp, List.append_nil, hhistory]
    exact List.append_nil _
  · show s.completed = (handled (s.events ++ [_])).length
    rw [handled_append, hev, List.append_nil]
    exact h.completed
  · exact hqueued ▸ Nat.zero_le _
  · show false = (track (s.events ++ [_])).failed
    rw [track_append]
    rfl
  · show (track (s.events ++ [_])).lost ≤ s.dropped
    rw [track_append]
    exact h.lost
  · -- The worker is idle, since nothing is in flight.
    have hw : s.worker = .delivering (.record r) skip := hw
    rw [pipeline, hw] at hp
    cases hp

theorem Accounting.stopRelease (h : Accounting s) (hw : s.worker = .absent) (hq : s.queue = [])
    (r : LogStatus) (n : Nat) : Accounting (stopRelease s r n) := by
  have hp : pipeline s = [] := by rw [pipeline, hw, hq]; rfl
  obtain ⟨hhistory, -⟩ := h.settled hp
  refine ⟨?_, h.completed, h.queued, h.accepted, h.capacity, h.orderly, h.failed, h.lastError,
    h.lost, fun r skip hw' => ?_⟩
  · show handled s.events ++ (recordsOf (pipeline s)).map _ = s.history
    rw [hp, hhistory]
    exact List.append_nil _
  · exact absurd (hw.symm.trans hw') (by simp)

theorem Accounting.controlStep (h : Accounting s) (hsh : Shape s) {allocates : Bool}
    (hs : controlStep s allocates = some s') : Accounting s' := by
  -- Most places only change what the control call remembers.
  have stay (t : LogState) (e : SameRecords s t) (hl : t.lastError = s.lastError)
      (hd : t.dropped = s.dropped) (hw : t.worker = s.worker) : Accounting t :=
    h.same e (fun _ => hl) (Nat.le_of_eq hd.symm) (hw ▸ h.skip)
  unfold Impl.Log.controlStep at hs
  split at hs
  · cases hs
  · rename_i candidate b hc
    split at hs
    · rename_i hd
      cases hs
      exact h.configureDone (hsh.configureDone_empty hc hd) candidate
    · cases hs
  · cases hs
    unfold Impl.Log.flushBarrier
    split
    · exact stay _ ⟨rfl, rfl, rfl, rfl, rfl, rfl, rfl, rfl, rfl⟩ rfl rfl rfl
    split
    · exact stay _ ⟨rfl, rfl, rfl, rfl, rfl, rfl, rfl, rfl, rfl⟩ rfl rfl rfl
    · exact h.pushBarrier _
  · obtain ⟨e, he, rfl⟩ := Option.map_eq_some_iff.mp hs
    exact stay _ ⟨rfl, rfl, rfl, rfl, rfl, rfl, rfl, rfl, rfl⟩ rfl rfl rfl
  · cases hs
    exact stay _ ⟨rfl, rfl, rfl, rfl, rfl, rfl, rfl, rfl, rfl⟩ rfl rfl rfl
  · cases hs
    unfold Impl.Log.stopBarrier
    split
    · exact stay _ ⟨rfl, rfl, rfl, rfl, rfl, rfl, rfl, rfl, rfl⟩ rfl rfl rfl
    split
    · exact stay _ ⟨rfl, rfl, rfl, rfl, rfl, rfl, rfl, rfl, rfl⟩ rfl rfl rfl
    · exact h.pushBarrier _
  · obtain ⟨e, he, rfl⟩ := Option.map_eq_some_iff.mp hs
    exact stay _ ⟨rfl, rfl, rfl, rfl, rfl, rfl, rfl, rfl, rfl⟩ rfl rfl rfl
  · cases hs
    exact stay _ ⟨rfl, rfl, rfl, rfl, rfl, rfl, rfl, rfl, rfl⟩ rfl rfl rfl
  · rename_i r n hc
    split at hs
    · rename_i hw
      cases hs
      refine h.same ⟨?_, rfl, rfl, rfl, rfl, rfl, rfl, rfl, rfl⟩ (fun _ => rfl) le_rfl
        (fun r skip hw => by cases hw)
      obtain hw | hw := hw
      · rw [pipeline, pipeline, hw]
        rfl
      · rw [pipeline, pipeline, hw]
    · cases hs
  · rename_i r n hc
    cases hs
    obtain ⟨hw, hq⟩ := hsh.release_empty hc
    exact h.stopRelease hw hq r n

theorem Accounting.enterControl (h : Accounting s) {call : Call} {c : Control} {reentrant : Bool}
    (hs : enterControl s call c reentrant = some s') : Accounting s' := by
  unfold Impl.Log.enterControl at hs
  split at hs
  · cases hs
    exact h.return _ _ _
  split at hs
  · cases hs
    exact h.same ⟨rfl, rfl, rfl, rfl, rfl, rfl, rfl, rfl, rfl⟩ (fun _ => rfl) le_rfl h.skip
  · cases hs

theorem Accounting.step (h : Accounting s) (hsh : Shape s) {a : LogAct}
    (hs : logStep endLine s a = some s') : Accounting s' := by
  cases a with
  | tryAppend r reentrant throws =>
    simp only [logStep, Option.ite_none_left_eq_some, Option.some.injEq] at hs
    rw [← hs.2]
    exact h.tryAppend r reentrant throws
  | appendCatch =>
    simp only [logStep, Option.ite_none_right_eq_some, Option.some.injEq] at hs
    rw [← hs.2]
    exact h.appendCatch
  | pop =>
    simp only [logStep, Option.ite_none_right_eq_some] at hs
    exact h.pop hs.1 hs.2
  | deliver env copies =>
    simp only [logStep] at hs
    split at hs
    · rename_i hw
      cases hs
      exact h.finishRecord hw env
    · rename_i hw
      cases hs
      exact h.finishBarrier hw env copies
    · cases hs
  | exit =>
    simp only [logStep, Option.ite_none_right_eq_some, Option.some.injEq] at hs
    obtain ⟨⟨hw, -⟩, rfl⟩ := hs
    refine h.same ⟨?_, rfl, rfl, rfl, rfl, rfl, rfl, rfl, rfl⟩ (fun _ => rfl) le_rfl
      (fun r skip hw => by cases hw)
    rw [pipeline, pipeline, hw]
    rfl
  | configure candidate reentrant env =>
    simp only [logStep, Option.ite_none_left_eq_some, Impl.Log.configure] at hs
    obtain ⟨-, hs⟩ := hs
    split at hs
    · cases hs
      exact h.return _ _ _
    · split at hs
      · cases hs
        exact h.configureLocked hsh candidate env
      · cases hs
  | flush reentrant =>
    simp only [logStep, Option.ite_none_left_eq_some] at hs
    exact h.enterControl hs.2
  | stop reentrant =>
    simp only [logStep, Option.ite_none_left_eq_some] at hs
    exact h.enterControl hs.2
  | control allocates => exact h.controlStep hsh hs

/-- What holds in every reachable state. -/
def LogInv (s : LogState) : Prop := Shape s ∧ Accounting s

theorem LogInv.step (h : LogInv s) {a : LogAct} (hs : logStep endLine s a = some s') :
    LogInv s' := ⟨h.1.step hs, h.2.step h.1 hs⟩

theorem reachable_log (h : Reachable (logStep endLine) .initial s) : LogInv s :=
  h.invariant ⟨shape_initial, accounting_initial⟩ fun _ _ _ h hs => h.step hs

/-- A record that follows a failure is written only after a `configure`. -/
theorem configured_between {pre mid post : List Event} {f : Event} {r : AsyncLogRecord}
    {settings : AsyncLogSettings} (ho : Orderly (pre ++ f :: (mid ++ .written r settings :: post)))
    (hf : isFailure f = true) : .configured ∈ mid := by
  have hallowed : (track (pre ++ f :: mid)).failed = false :=
    ho (pre ++ f :: mid) (.written r settings) post (by simp)
  by_contra hc
  have hfailed := (track_failed _).mpr ⟨pre, f, mid, rfl, hf, hc⟩
  exact Bool.false_ne_true (hallowed.symm.trans hfailed)

/-- A record is skipped only after a failure without a `configure` since. -/
theorem failed_before {pre post : List Event} {r : AsyncLogRecord} {settings : AsyncLogSettings}
    (ho : Orderly (pre ++ .skipped r settings :: post)) : FailedAfter pre :=
  (track_failed pre).mp ho.allowed

/-- In every state that any interleaving of producers, writer and control calls reaches: each
accepted record is completed, queued or in flight; the queue holds no more records than its
capacity; the writer completes records in the order of acceptance, each once, and those it does
not write are counted as dropped; it skips records exactly while it has failed, and then the
last error is not empty. -/
theorem log_accounting (endLine : Bytes) (acts : List LogAct) (s : LogState)
    (hrun : run (logStep endLine) .initial acts = some s) :
    s.accepted = s.completed + s.queued + (recordsOf (inFlight s.worker)).length ∧
    (recordsOf (inFlight s.worker)).length ≤ 1 ∧
    s.queued = (recordsOf s.queue).length ∧ s.queued ≤ s.settings.queueCapacity ∧
    s.accepted = s.history.length ∧ s.completed = (handled s.events).length ∧
    handled s.events <+: s.history ∧ (track s.events).lost ≤ s.dropped ∧
    (∀ pre r settings post, s.events = pre ++ .skipped r settings :: post → FailedAfter pre) ∧
    (∀ pre f mid r settings post, s.events = pre ++ f :: (mid ++ .written r settings :: post) →
      isFailure f = true → .configured ∈ mid) ∧
    (s.writerFailed = true ↔ FailedAfter s.events) ∧
    (FailedAfter s.events → s.lastError.ok = false) := by
  obtain ⟨-, h⟩ := reachable_log ⟨acts, hrun⟩
  have hfailed : s.writerFailed = true ↔ FailedAfter s.events := by
    rw [h.failed]
    exact track_failed s.events
  refine ⟨?_, ?_, h.queued, h.capacity, h.accepted, h.completed, ⟨_, h.history⟩, h.lost,
    fun pre r settings post hev => failed_before (hev ▸ h.orderly),
    fun pre f mid r settings post hev hf => ?_, hfailed,
    fun hf => h.lastError (hfailed.mpr hf)⟩
  · have hlen := congrArg List.length h.history
    rw [List.length_append, pending, List.length_map, pipeline, recordsOf_append,
      List.length_append] at hlen
    rw [h.accepted, h.completed, h.queued]
    omega
  · cases s.worker with
    | delivering e skip =>
      cases e with
      | record r => exact le_rfl
      | barrier b => exact Nat.zero_le 1
    | absent | idle | exited => exact Nat.zero_le 1
  · exact configured_between (hev ▸ h.orderly) hf

/-- A runtime with one sink, and three records, of which the second one fails. -/
def failingSink : List LogAct :=
  [.configure { sinks := [some 0] } false {}, .pop, .deliver {} true, .control true,
    .tryAppend {} false false, .tryAppend {} false false, .pop, .deliver {} true, .pop,
    .tryAppend {} false false, .deliver { sinkWrite := fun _ => .threw } true, .pop,
    .deliver {} true]

def failedSink : Option LogState := run (logStep [0x0a]) .initial failingSink

theorem log_accounting_failed :
    ∃ s, failedSink = some s ∧ s.accepted = 3 ∧ s.completed = 3 ∧ s.lastError.ok = false := by
  have hrun : failedSink = some (failedSink.get (by decide +kernel)) := (Option.some_get _).symm
  obtain ⟨-, -, -, -, -, -, -, -, -, -, hfailed, herror⟩ := log_accounting _ failingSink _ hrun
  exact ⟨_, hrun, by decide +kernel, by decide +kernel, herror (hfailed.mp (by decide +kernel))⟩

end WSE.Proof.Log
