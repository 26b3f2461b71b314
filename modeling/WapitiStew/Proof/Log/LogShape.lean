import WapitiStew.Spec.Log.AsyncLogRuntime

/-!
# Who is where in the asynchronous log

What the history says of failures and of records that are written, in small steps; then `Shape`,
which says, for each place of the control call, where the writer is, whether
records are accepted, and where the barrier stands in the pipeline: a `configure`
and a `stop` wait for the last entry, a `flush` for any entry. Every step keeps it
(`Shape.step`); so settings are only replaced and released when the pipeline is
empty (`Shape.configureDone_empty`, `Shape.release_empty`).
-/

namespace WSE.Proof.Log

open WSE.Framework WSE.Impl.Log WSE.Spec.Log

@[simp] theorem track_nil : track [] = {} := rfl

@[simp] theorem track_append (events more : List Event) :
    track (events ++ more) = more.foldl Track.next (track events) := writer.after_append events more

@[simp] theorem handled_append (events more : List Event) :
    handled (events ++ more) = handled events ++ handled more := by
  simp only [handled, List.filterMap_append]

theorem handled_track (events : List Event) :
    (track events).handled = (handled events).length := by
  induction events using List.reverseRecOn with
  | nil => rfl
  | append_singleton events e ih =>
    rw [track_append, handled_append, List.length_append, ← ih]
    cases e <;> rfl

theorem configuredAt_le (events : List Event) :
    (track events).configuredAt ≤ (track events).handled ∧
      (track events).flushedThrough ≤ (track events).handled := by
  induction events using List.reverseRecOn with
  | nil => decide
  | append_singleton events e ih =>
    obtain ⟨hc, hf⟩ := ih
    rw [track_append]
    cases e with
    | written | failed | skipped =>
      exact ⟨Nat.le_succ_of_le hc, Nat.le_succ_of_le hf⟩
    | flushed =>
      refine ⟨hc, ?_⟩
      simp only [List.foldl_cons, List.foldl_nil, Track.next]
      split
      · exact hf
      · exact le_rfl
    | flushFailed => exact ⟨hc, hf⟩
    | configured => exact ⟨le_rfl, hf⟩

/-- What was flushed stays flushed. -/
theorem flushedTo_append (events more : List Event) :
    flushedTo events ≤ flushedTo (events ++ more) := by
  induction more using List.reverseRecOn with
  | nil => rw [List.append_nil]
  | append_singleton more e ih =>
    refine Nat.le_trans ih ?_
    obtain ⟨hc, hf⟩ := configuredAt_le (events ++ more)
    rw [← List.append_assoc, flushedTo, flushedTo, track_append _ [e]]
    simp only [List.foldl_cons, List.foldl_nil]
    cases e with
    | written | failed | skipped | flushFailed => exact le_rfl
    | configured =>
      simp only [Track.next]
      omega
    | flushed =>
      simp only [Track.next]
      split <;> omega

/-! ## Failures -/

theorem not_failedAfter_nil : ¬FailedAfter [] := by
  rintro ⟨pre, f, post, h, -⟩
  exact absurd h.symm (by simp)

theorem failedAfter_snoc (events : List Event) (e : Event) :
    FailedAfter (events ++ [e]) ↔
      isFailure e = true ∨ FailedAfter events ∧ e ≠ .configured := by
  constructor
  · rintro ⟨pre, f, post, h, hf, hc⟩
    obtain ⟨rfl, rfl, rfl⟩ | ⟨post, rfl, rfl⟩ := snoc_split h
    · exact .inl hf
    · obtain ⟨hpost, he⟩ := not_or.mp (mt List.mem_append.mpr hc)
      exact .inr ⟨⟨pre, f, post, rfl, hf, hpost⟩, fun h => he (by simp [h])⟩
  · rintro (he | ⟨⟨pre, f, post, rfl, hf, hc⟩, he⟩)
    · exact ⟨events, e, [], rfl, he, List.not_mem_nil⟩
    · refine ⟨pre, f, post ++ [e], by simp, hf, fun h => ?_⟩
      obtain h | h := List.mem_append.mp h
      · exact hc h
      · exact he (List.mem_singleton.mp h).symm

theorem track_failed (events : List Event) :
    (track events).failed = true ↔ FailedAfter events := by
  induction events using List.reverseRecOn with
  | nil => exact iff_of_false Bool.false_ne_true not_failedAfter_nil
  | append_singleton events e ih =>
    rw [failedAfter_snoc, ← ih, track_append]
    cases e <;> simp [Track.next, isFailure]

/-! ## Delivery -/

theorem writtenIn_append {events : List Event} {k : Nat} (h : WrittenIn events k)
    (more : List Event) : WrittenIn (events ++ more) k := by
  obtain ⟨pre, r, settings, post, rfl, hk⟩ := h
  exact ⟨pre, r, settings, post ++ more, by simp, hk⟩

/-- While the writer has not failed, every record since the last `configure` is written. -/
theorem written_of_orderly {events : List Event} (h : Orderly events)
    (hf : (track events).failed = false) {k : Nat} (hc : (track events).configuredAt ≤ k)
    (hk : k < (track events).handled) : WrittenIn events k := by
  induction events using List.reverseRecOn with
  | nil => exact absurd hk (Nat.not_lt_zero k)
  | append_singleton events e ih =>
    obtain ⟨ho, he⟩ := Monitor.accepts_snoc.mp h
    rw [track_append] at hf hc hk
    cases e with
    | written r settings =>
      obtain hk | rfl := Nat.lt_succ_iff_lt_or_eq.mp hk
      · exact writtenIn_append (ih ho hf hc hk) _
      · exact ⟨events, r, settings, [], rfl, (handled_track events).symm⟩
    | failed | flushFailed => exact absurd hf (by simp [Track.next])
    | skipped => exact absurd (hf.symm.trans he) Bool.false_ne_true
    | flushed => exact writtenIn_append (ih ho hf hc hk) _
    | configured => exact absurd hc (Nat.not_le.mpr hk)

theorem flushed_of_orderly {events : List Event} (h : Orderly events) {k : Nat}
    (hc : (track events).configuredAt ≤ k) (hk : k < (track events).flushedThrough) :
    ∃ pre post, events = pre ++ .flushed :: post ∧ WrittenIn pre k := by
  induction events using List.reverseRecOn with
  | nil => exact absurd hk (Nat.not_lt_zero k)
  | append_singleton events e ih =>
    obtain ⟨ho, -⟩ := Monitor.accepts_snoc.mp h
    rw [track_append] at hc hk
    -- Only a flush moves `flushedThrough`, and a `configure` only raises `configuredAt`.
    have old (hc : (track events).configuredAt ≤ k) (hk : k < (track events).flushedThrough) :
        ∃ pre post, events ++ [e] = pre ++ .flushed :: post ∧ WrittenIn pre k := by
      obtain ⟨pre, post, hs, hw⟩ := ih ho hc hk
      exact ⟨pre, post ++ [e], by simp [hs], hw⟩
    cases e with
    | written | failed | skipped | flushFailed => exact old hc hk
    | configured => exact old (Nat.le_trans (configuredAt_le events).1 hc) hk
    | flushed =>
      cases hf : (track events).failed with
      | true => exact old hc (by simpa [Track.next, hf] using hk)
      | false =>
        have hk : k < (track events).handled := by simpa [Track.next, hf] using hk
        exact ⟨events, [], rfl, written_of_orderly ho hf hc hk⟩

theorem delivered_of_orderly {events : List Event} (h : Orderly events) {n : Nat}
    (hn : n ≤ flushedTo events) : Delivered events n := by
  intro k hc hk
  have hk : k < (track events).flushedThrough := by
    unfold flushedTo at hn
    omega
  exact flushed_of_orderly h hc hk

/-! ## The shape -/

section

/-- The worker is in its loop. -/
def serving : Worker → Bool
  | .idle | .delivering _ _ => true
  | .absent | .exited => false

/-- The places of a control call where no record is accepted. -/
def closed : Control → Bool
  | .free | .flushEntered _ | .flushWait _ _ | .stopEntered _ => false
  | .configureWait _ _ | .stopClosed _ | .stopWait _ _ | .stopBarrierDone _ _ | .stopJoin _ _
  | .stopRelease _ _ => true

/-- The barrier that the control call waits for, and the records that it has to cover. -/
def awaits : Control → Option (Nat × Nat)
  | .configureWait _ b => some (b, 0)
  | .flushWait b n | .stopWait b n => some (b, n)
  | _ => none

/-- The records accepted before the control call. -/
def covers : Control → Nat
  | .free | .configureWait _ _ => 0
  | .flushEntered n | .flushWait _ n | .stopEntered n | .stopClosed n | .stopWait _ n
  | .stopBarrierDone _ n | .stopJoin _ n | .stopRelease _ n => n

/-- Where the worker of a running runtime is. -/
def WorkerOk (s : LogState) : Control → Prop
  | .stopJoin _ _ => serving s.worker = true ∨ s.worker = .exited ∧ s.queue = []
  | .stopRelease _ _ => s.worker = .absent ∧ s.queue = []
  | _ => serving s.worker = true ∧ s.stopping = false

def records (rs : List AsyncLogRecord) : List Entry := rs.map .record

/-- A call waits for barrier `b`, which is in the pipeline or done. -/
def Waiting (s : LogState) (b n : Nat) (last : Bool) : Prop :=
  (s.barriers b = none ∧ ∃ before after,
    pipeline s = records before ++ .barrier b :: records after ∧
      (last = true → after = []) ∧ n + after.length ≤ s.accepted) ∨
  ((s.barriers b).isSome = true ∧ ∃ rs, pipeline s = records rs ∧ (last = true → rs = []))

def BarrierOk (s : LogState) : Prop :=
  match awaits s.control with
  | none => ∃ rs, pipeline s = records rs
  | some (b, n) => s.isRunning = true ∧ Waiting s b n (closed s.control)

structure Shape (s : LogState) : Prop where
  closes : closed s.control = true → s.isAccepting = false
  down : s.isRunning = false → s.isAccepting = false ∧ s.worker = .absent ∧ s.queue = []
  up : s.isRunning = true → WorkerOk s s.control
  barrier : BarrierOk s
  issued : ∀ b n, awaits s.control = some (b, n) → b < s.nextBarrier
  fresh : ∀ b, s.nextBarrier ≤ b → s.barriers b = none
  before : covers s.control ≤ s.accepted

theorem Shape.up_of {s : LogState} {c : Control} (h : Shape s) (hc : s.control = c)
    (hr : s.isRunning = true) : WorkerOk s c := hc ▸ h.up hr

theorem Shape.before_of {s : LogState} {c : Control} (h : Shape s) (hc : s.control = c) :
    covers c ≤ s.accepted := hc ▸ h.before

theorem shape_initial : Shape .initial where
  closes h := absurd h Bool.false_ne_true
  down _ := ⟨rfl, rfl, rfl⟩
  up h := absurd h Bool.false_ne_true
  barrier := ⟨[], rfl⟩
  issued _ _ h := by cases h
  fresh _ _ := rfl
  before := le_rfl

/-! ### The pipeline -/

@[simp] theorem records_append (rs more : List AsyncLogRecord) :
    records (rs ++ more) = records rs ++ records more := List.map_append

@[simp] theorem recordsOf_append (es more : List Entry) :
    recordsOf (es ++ more) = recordsOf es ++ recordsOf more := List.filterMap_append

@[simp] theorem recordsOf_records (rs : List AsyncLogRecord) : recordsOf (records rs) = rs := by
  induction rs with
  | nil => rfl
  | cons r rs ih => exact congrArg (r :: ·) ih

theorem barrier_notMem_records (b : Nat) (rs : List AsyncLogRecord) :
    .barrier b ∉ records rs := by
  simp [records]

/-- A barrier at the head is the only one there is. -/
theorem records_barrier_head {before after : List AsyncLogRecord} {b b' : Nat}
    {queue : List Entry}
    (h : .barrier b :: queue = records before ++ .barrier b' :: records after) :
    before = [] ∧ b = b' ∧ queue = records after := by
  cases before with
  | nil =>
    obtain ⟨hb, hq⟩ := List.cons.inj h
    exact ⟨rfl, Entry.barrier.inj hb, hq⟩
  | cons r before => exact absurd (List.cons.inj h).1 (by simp)

/-- A record at the head comes off, and leaves a barrier where it is. -/
theorem records_record_head {before after : List AsyncLogRecord} {r : AsyncLogRecord} {b : Nat}
    {queue : List Entry}
    (h : .record r :: queue = records before ++ .barrier b :: records after) :
    ∃ before', queue = records before' ++ .barrier b :: records after := by
  cases before with
  | nil => exact absurd (List.cons.inj h).1 (by simp)
  | cons r before => exact ⟨before, (List.cons.inj h).2⟩

theorem records_tail {r : AsyncLogRecord} {rs : List AsyncLogRecord} {queue : List Entry}
    (h : .record r :: queue = records rs) : ∃ rs', rs = r :: rs' ∧ queue = records rs' := by
  cases rs with
  | nil => exact absurd h (by simp [records])
  | cons r' rs =>
    obtain ⟨hr, hq⟩ := List.cons.inj h
    exact ⟨rs, by rw [Entry.record.inj hr], hq⟩

/-! ### Producers -/

variable {s s' : LogState} {endLine : Bytes}

/-- Nothing that the control calls look at changes. -/
structure SameCalls (s s' : LogState) : Prop where
  control : s'.control = s.control
  isAccepting : s'.isAccepting = s.isAccepting
  isRunning : s'.isRunning = s.isRunning
  stopping : s'.stopping = s.stopping ∨ s.isRunning = false
  barriers : s'.barriers = s.barriers
  nextBarrier : s'.nextBarrier = s.nextBarrier
  accepted : s'.accepted = s.accepted

theorem BarrierOk.same (h : BarrierOk s) (e : SameCalls s s') (hp : pipeline s' = pipeline s) :
    BarrierOk s' := by
  unfold BarrierOk Waiting at *
  rw [e.control, e.isRunning, e.barriers, e.accepted, hp]
  exact h

/-- Nothing that `Shape` speaks of changes. -/
theorem Shape.same (h : Shape s) (e : SameCalls s s') (hw : s'.worker = s.worker)
    (hq : s'.queue = s.queue) : Shape s' := by
  have hp : pipeline s' = pipeline s := by rw [pipeline, hw, hq, pipeline]
  refine ⟨?_, ?_, fun hr => ?_, h.barrier.same e hp, ?_, ?_, ?_⟩
  · rw [e.control, e.isAccepting]
    exact h.closes
  · rw [e.isRunning, e.isAccepting, hw, hq]
    exact h.down
  · rw [e.isRunning] at hr
    have hs : s'.stopping = s.stopping :=
      e.stopping.resolve_right fun h => Bool.false_ne_true (h.symm.trans hr)
    have hu := h.up hr
    rw [e.control]
    unfold WorkerOk at *
    rw [hw, hq, hs]
    exact hu
  · rw [e.control, e.nextBarrier]
    exact h.issued
  · rw [e.nextBarrier, e.barriers]
    exact h.fresh
  · rw [e.control, e.accepted]
    exact h.before

/-- A runtime that accepts records is running, and no call has closed it. -/
theorem Shape.accepting (h : Shape s) (ha : s.isAccepting = true) :
    s.isRunning = true ∧ closed s.control = false := by
  constructor
  · cases hr : s.isRunning with
    | true => rfl
    | false => exact absurd ((h.down hr).1.symm.trans ha) Bool.false_ne_true
  · cases hc : closed s.control with
    | false => rfl
    | true => exact absurd ((h.closes hc).symm.trans ha) Bool.false_ne_true

theorem WorkerOk.of_open (h : WorkerOk s s.control) (hc : closed s.control = false) :
    serving s.worker = true ∧ s.stopping = false := by
  revert h hc
  cases s.control with
  | free | flushEntered | flushWait | stopEntered => exact fun h _ => h
  | configureWait | stopClosed | stopWait | stopBarrierDone | stopJoin | stopRelease =>
    exact fun _ hc => absurd hc.symm Bool.false_ne_true

theorem WorkerOk.of_serving {c : Control} (hw : serving s.worker = true) (hs : s.stopping = false)
    (hc : closed c = false) : WorkerOk s c := by
  cases c with
  | free | flushEntered | flushWait | stopEntered => exact ⟨hw, hs⟩
  | configureWait | stopClosed | stopWait | stopBarrierDone | stopJoin | stopRelease =>
    exact absurd hc.symm Bool.false_ne_true

/-- The state after a record is accepted. -/
def accept (s : LogState) (r : AsyncLogRecord) : LogState :=
  { s with
    queue := s.queue ++ [.record r]
    queued := s.queued + 1
    accepted := s.accepted + 1
    history := s.history ++ [(r, s.settings)] }

theorem pipeline_accept (s : LogState) (r : AsyncLogRecord) :
    pipeline (accept s r) = pipeline s ++ records [r] :=
  (List.append_assoc _ _ _).symm

theorem Shape.accept (h : Shape s) (ha : s.isAccepting = true) (r : AsyncLogRecord) :
    Shape (accept s r) := by
  obtain ⟨hrun, hopen⟩ := h.accepting ha
  obtain ⟨hw, hs⟩ := (h.up hrun).of_open hopen
  refine ⟨h.closes, fun hr => ?_, fun _ => WorkerOk.of_serving hw hs hopen, ?_, h.issued,
    h.fresh, Nat.le_succ_of_le h.before⟩
  · exact absurd (hr.symm.trans hrun) Bool.false_ne_true
  · have hb := h.barrier
    unfold BarrierOk at *
    show match awaits s.control with | none => _ | some (b, n) => _
    split at hb
    · obtain ⟨rs, hrs⟩ := hb
      exact ⟨rs ++ [r], by rw [pipeline_accept, hrs, records_append]⟩
    · rename_i b n _
      refine ⟨hrun, ?_⟩
      show Waiting _ b n (closed s.control)
      rw [hopen] at hb ⊢
      obtain ⟨-, ⟨hbn, before, after, hpl, -, hle⟩ | ⟨hdone, rs, hrs, -⟩⟩ := hb
      · refine .inl ⟨hbn, before, after ++ [r], ?_, fun h => absurd h Bool.false_ne_true, ?_⟩
        · rw [pipeline_accept, hpl, records_append, List.append_assoc, List.cons_append]
        · rw [List.length_append, List.length_singleton]
          exact Nat.succ_le_succ hle
      · refine .inr ⟨hdone, rs ++ [r], ?_, fun h => absurd h Bool.false_ne_true⟩
        rw [pipeline_accept, hrs, records_append]

/-- `tryAppend` accepts the record or leaves the calls, the writer and the queue alone. -/
theorem tryAppend_cases (endLine : Bytes) (s : LogState) (r : AsyncLogRecord)
    (reentrant throws : Bool) :
    (s.isAccepting = true ∧ s.writerFailed = false ∧ s.queued < s.settings.queueCapacity ∧
      tryAppend endLine s r reentrant throws = (accept s r, some .accepted)) ∨
    ∃ dropped filtered catching lastError result,
      tryAppend endLine s r reentrant throws =
        ({ s with
            dropped := dropped, filtered := filtered, catching := catching,
            lastError := lastError }, result) ∧
      s.dropped ≤ dropped ∧ (s.writerFailed = true → lastError = s.lastError) ∧
      result ≠ some .accepted := by
  unfold tryAppend
  by_cases hr : reentrant = true
  · rw [if_pos hr]
    refine .inr ⟨_, s.filtered, s.catching, _, _, rfl, Nat.le_succ _, fun hf => ?_, by decide⟩
    rw [if_pos hf]
  rw [if_neg hr]
  by_cases ha : (!s.isAccepting) = true
  · rw [if_pos ha]
    exact .inr ⟨_, _, _, _, _, rfl, le_rfl, fun _ => rfl, by decide⟩
  rw [if_neg ha]
  by_cases he : (!enabled s.settings r.tag r.verbosity r.level) = true
  · rw [if_pos he]
    exact .inr ⟨s.dropped, _, s.catching, s.lastError, _, rfl, le_rfl, fun _ => rfl, by decide⟩
  rw [if_neg he]
  by_cases hf : s.writerFailed = true
  · rw [if_pos hf]
    exact .inr ⟨_, s.filtered, s.catching, s.lastError, _, rfl, Nat.le_succ _, fun _ => rfl,
      by decide⟩
  rw [if_neg hf]
  by_cases hv : (!validRecord endLine r s.settings) = true
  · rw [if_pos hv]
    exact .inr ⟨_, s.filtered, s.catching, _, _, rfl, Nat.le_succ _, fun h => absurd h hf,
      by decide⟩
  rw [if_neg hv]
  by_cases hc : s.queued ≥ s.settings.queueCapacity
  · rw [if_pos hc]
    exact .inr ⟨_, s.filtered, s.catching, _, _, rfl, Nat.le_succ _, fun h => absurd h hf,
      by decide⟩
  rw [if_neg hc]
  by_cases ht : throws = true
  · rw [if_pos ht]
    exact .inr ⟨s.dropped, s.filtered, _, s.lastError, _, rfl, le_rfl, fun _ => rfl, by decide⟩
  · rw [if_neg ht]
    exact .inl ⟨by simpa using ha, by simpa using hf, Nat.not_le.mp hc, rfl⟩

theorem Shape.tryAppend (h : Shape s) (r : AsyncLogRecord) (reentrant throws : Bool) :
    Shape (tryAppend endLine s r reentrant throws).1 := by
  obtain ⟨ha, -, -, heq⟩ | ⟨_, _, _, _, _, heq, -⟩ := tryAppend_cases endLine s r reentrant throws
  · rw [heq]
    exact h.accept ha r
  · rw [heq]
    exact h.same ⟨rfl, rfl, rfl, .inl rfl, rfl, rfl, rfl⟩ rfl rfl

/-! ### The writer -/

theorem Shape.running (h : Shape s) (hw : s.worker ≠ .absent) : s.isRunning = true := by
  cases hr : s.isRunning with
  | true => rfl
  | false => exact absurd (h.down hr).2.1 hw

/-- A serving worker may go on to anything that serves. -/
theorem WorkerOk.serve {c : Control} (h : WorkerOk s c) (hw : serving s.worker = true)
    (hw' : serving s'.worker = true) (hs : s'.stopping = s.stopping) : WorkerOk s' c := by
  cases c with
  | stopJoin => exact .inl hw'
  | stopRelease => exact absurd (by rw [h.1]; decide) (Bool.eq_false_iff.not.mpr (not_not.mpr hw))
  | free | configureWait | flushEntered | flushWait | stopEntered | stopClosed | stopWait
  | stopBarrierDone => exact ⟨hw', hs.trans h.2⟩

/-- The worker goes on, and the pipeline stays. -/
theorem Shape.work (h : Shape s) (e : SameCalls s s') (hw : serving s.worker = true)
    (hw' : serving s'.worker = true) (hs : s'.stopping = s.stopping) (hb : BarrierOk s') :
    Shape s' := by
  have hr : s.isRunning = true := h.running fun ha => by rw [ha] at hw; exact absurd hw (by decide)
  refine ⟨?_, fun hr' => ?_, fun _ => ?_, hb, ?_, ?_, ?_⟩
  · rw [e.control, e.isAccepting]
    exact h.closes
  · exact absurd (hr'.symm.trans (e.isRunning.trans hr)) Bool.false_ne_true
  · rw [e.control]
    exact (h.up hr).serve hw hw' hs
  · rw [e.control, e.nextBarrier]
    exact h.issued
  · rw [e.nextBarrier, e.barriers]
    exact h.fresh
  · rw [e.control, e.accepted]
    exact h.before

/-- The writer takes the first entry, and whether it skips it. -/
theorem popEntry_cases (h : popEntry s = some s') :
    ∃ e queue skip, s.queue = e :: queue ∧
      s' = { s with
        queue := queue, worker := .delivering e skip
        queued := if e.isRecord then s.queued - 1 else s.queued } ∧
      skip = (e.isRecord && s.writerFailed) := by
  unfold popEntry at h
  split at h
  · cases h
  · rename_i r queue heq
    cases h
    exact ⟨.record r, queue, _, heq, rfl, rfl⟩
  · rename_i b queue heq
    cases h
    exact ⟨.barrier b, queue, _, heq, rfl, rfl⟩

theorem Shape.pop (h : Shape s) (hw : s.worker = .idle) (hs : popEntry s = some s') :
    Shape s' := by
  obtain ⟨e, queue, skip, hq, rfl, -⟩ := popEntry_cases hs
  have hsame : SameCalls s { s with
      queue := queue, worker := .delivering e skip
      queued := if e.isRecord then s.queued - 1 else s.queued } :=
    ⟨rfl, rfl, rfl, .inl rfl, rfl, rfl, rfl⟩
  refine h.work hsame (by rw [hw]; rfl) rfl rfl (h.barrier.same hsame ?_)
  rw [pipeline, pipeline, hw, hq]
  rfl

/-- The record at the head leaves the pipeline. -/
theorem BarrierOk.tail (h : BarrierOk s) (e : SameCalls s s') {r : AsyncLogRecord}
    (hp : pipeline s = .record r :: pipeline s') : BarrierOk s' := by
  unfold BarrierOk Waiting at *
  rw [e.control, e.isRunning, e.barriers, e.accepted]
  split at h
  · obtain ⟨rs, hrs⟩ := h
    obtain ⟨rs', -, hrs'⟩ := records_tail (hp.symm.trans hrs)
    exact ⟨rs', hrs'⟩
  · obtain ⟨hr, ⟨hbn, before, after, hpl, hlast, hle⟩ | ⟨hdone, rs, hrs, hlast⟩⟩ := h
    · obtain ⟨before', hb'⟩ := records_record_head (hp.symm.trans hpl)
      exact ⟨hr, .inl ⟨hbn, before', after, hb', hlast, hle⟩⟩
    · obtain ⟨rs', rfl, hrs'⟩ := records_tail (hp.symm.trans hrs)
      exact ⟨hr, .inr ⟨hdone, rs', hrs', fun hl => absurd (hlast hl) (List.cons_ne_nil _ _)⟩⟩

/-- The end of the delivery of a record. -/
inductive RecordEnd (s : LogState) (r : AsyncLogRecord) : Bool → Bool → LogError → List Event → Prop
  | skipped : RecordEnd s r true s.writerFailed s.lastError [.skipped r s.settings]
  | written : RecordEnd s r false s.writerFailed s.lastError [.written r s.settings]
  | flushed : RecordEnd s r false s.writerFailed s.lastError [.written r s.settings, .flushed]
  | failed {e : LogError} (he : e.ok = false) :
    RecordEnd s r false true e [.failed r s.settings]

theorem noteError_ok {e : LogError} (h : e.ok = true) : s.noteError e = s := if_pos h

theorem noteError_failed {e : LogError} (h : e.ok = false) :
    s.noteError e = { s with lastError := e, writerFailed := true } :=
  if_neg (by rw [h]; decide)

theorem finishRecord_cases (s : LogState) (r : AsyncLogRecord) (skip : Bool) (env : WriterEnv) :
    ∃ failed lastError events, RecordEnd s r skip failed lastError events ∧
      finishRecord s r skip env = { s with
        worker := .idle, lastError := lastError, writerFailed := failed
        completed := s.completed + 1
        dropped := if skip || failed then s.dropped + 1 else s.dropped
        events := s.events ++ events } := by
  cases skip with
  | true => exact ⟨_, _, _, .skipped, rfl⟩
  | false =>
    simp only [finishRecord, Bool.false_eq_true, if_false, Bool.false_or]
    generalize deliveryStatus env (write s.settings env) = result
    cases hok : result.error.ok with
    | true =>
      rw [noteError_ok hok]
      cases s.settings.flushEachRecord with
      | true => exact ⟨_, _, _, .flushed, rfl⟩
      | false => exact ⟨_, _, _, .written, rfl⟩
    | false =>
      rw [noteError_failed hok]
      exact ⟨_, _, _, .failed hok, rfl⟩

/-- The end of a flush for a barrier, which is given `error`. -/
inductive BarrierEnd (s : LogState) : Bool → LogError → LogError → Event → Prop
  | flushed {error : LogError} (h : error.ok = true → s.writerFailed = true → s.lastError.ok = true) :
    BarrierEnd s s.writerFailed s.lastError error .flushed
  | failed {e error : LogError} (he : e.ok = false) (h : error.ok = false) :
    BarrierEnd s true e error .flushFailed

theorem barrierError_ok {copies : Bool} (h : (barrierError s copies).ok = true)
    (hf : s.writerFailed = true) : s.lastError.ok = true := by
  unfold barrierError at h
  rw [hf] at h
  cases copies with
  | true => exact h
  | false => exact absurd h Bool.false_ne_true

theorem finishBarrier_cases (s : LogState) (b : Nat) (env : WriterEnv) (copies : Bool) :
    ∃ failed lastError error event, BarrierEnd s failed lastError error event ∧
      finishBarrier s b env copies = { s with
        worker := .idle, lastError := lastError, writerFailed := failed
        barriers := Function.update s.barriers b (some error)
        events := s.events ++ [event] } := by
  unfold finishBarrier
  generalize deliveryStatus env (.returned (flushSinks s.settings env)) = result
  cases hok : result.error.ok with
  | true =>
    simp only [noteError_ok hok, hok, if_true]
    exact ⟨_, _, _, _, .flushed barrierError_ok, rfl⟩
  | false =>
    simp only [noteError_failed hok, hok, Bool.false_eq_true, if_false]
    refine ⟨_, _, _, _, .failed hok ?_, rfl⟩
    cases copies with
    | true => exact hok
    | false => rfl

theorem Shape.finishRecord (h : Shape s) {r : AsyncLogRecord} {skip : Bool}
    (hw : s.worker = .delivering (.record r) skip) (env : WriterEnv) :
    Shape (finishRecord s r skip env) := by
  obtain ⟨_, _, _, -, heq⟩ := finishRecord_cases s r skip env
  have hsame : SameCalls s (Impl.Log.finishRecord s r skip env) := by
    rw [heq]
    exact ⟨rfl, rfl, rfl, .inl rfl, rfl, rfl, rfl⟩
  have hp : pipeline s = .record r :: pipeline (Impl.Log.finishRecord s r skip env) := by
    rw [heq, pipeline, hw]
    rfl
  refine h.work hsame (by rw [hw]; rfl) ?_ ?_ (h.barrier.tail hsame hp)
  · rw [heq]
    rfl
  · rw [heq]

/-- The barrier that the writer delivers is the one that the call waits for. -/
theorem Shape.delivers (h : Shape s) {b : Nat} {skip : Bool}
    (hw : s.worker = .delivering (.barrier b) skip) :
    ∃ n after, awaits s.control = some (b, n) ∧ s.queue = records after ∧
      (closed s.control = true → after = []) ∧ n + after.length ≤ s.accepted := by
  have hp : pipeline s = .barrier b :: s.queue := by
    rw [pipeline, hw]
    rfl
  have hb := h.barrier
  unfold BarrierOk at hb
  split at hb
  · obtain ⟨rs, hrs⟩ := hb
    exact absurd (hrs ▸ hp ▸ List.mem_cons_self) (barrier_notMem_records b rs)
  · rename_i b' n heq
    obtain ⟨-, ⟨-, before, after, hpl, hlast, hle⟩ | ⟨-, rs, hrs, -⟩⟩ := hb
    · obtain ⟨rfl, rfl, hq⟩ := records_barrier_head (hp.symm.trans hpl)
      exact ⟨n, after, heq, hq, hlast, hle⟩
    · exact absurd (hrs ▸ hp ▸ List.mem_cons_self) (barrier_notMem_records b rs)

theorem Shape.finishBarrier (h : Shape s) {b : Nat} {skip : Bool}
    (hw : s.worker = .delivering (.barrier b) skip) (env : WriterEnv) (copies : Bool) :
    Shape (finishBarrier s b env copies) := by
  obtain ⟨_, _, error, _, -, heq⟩ := finishBarrier_cases s b env copies
  rw [heq]
  obtain ⟨n, after, ha, hq, hlast, -⟩ := h.delivers hw
  have hr : s.isRunning = true := h.running fun ha => by rw [hw] at ha; cases ha
  refine ⟨h.closes, fun hr' => ?_, fun _ => ?_, ?_, h.issued, fun b' hb' => ?_, h.before⟩
  · exact absurd (hr'.symm.trans hr) Bool.false_ne_true
  · exact (h.up hr).serve (by rw [hw]; rfl) rfl rfl
  · unfold BarrierOk
    show match awaits s.control with | none => _ | some (b, n) => _
    rw [ha]
    refine ⟨hr, .inr ⟨?_, after, hq, hlast⟩⟩
    show (Function.update s.barriers b (some error) b).isSome = true
    rw [Function.update_self]
    rfl
  · show Function.update s.barriers b (some error) b' = none
    have hne : b' ≠ b := fun he => absurd (h.issued b n ha) (Nat.not_lt.mpr (he ▸ hb'))
    rw [Function.update_of_ne hne]
    exact h.fresh b' hb'

theorem Shape.exit (h : Shape s) (hw : s.worker = .idle) (hq : s.queue = [])
    (hs : s.stopping = true) : Shape { s with worker := .exited } := by
  have hr : s.isRunning = true := h.running fun ha => by rw [hw] at ha; cases ha
  refine ⟨h.closes, fun hr' => ?_, fun _ => ?_, ?_, h.issued, h.fresh, h.before⟩
  · exact absurd (hr'.symm.trans hr) Bool.false_ne_true
  · -- Only a `stop` that joins has told the writer to stop.
    have hu := h.up hr
    show WorkerOk { s with worker := .exited } s.control
    cases hc : s.control with
    | stopJoin => exact .inr ⟨rfl, hq⟩
    | stopRelease =>
      rw [hc] at hu
      exact absurd (hw.symm.trans hu.1) (by decide)
    | free | configureWait | flushEntered | flushWait | stopEntered | stopClosed | stopWait
    | stopBarrierDone =>
      rw [hc] at hu
      exact absurd (hs.symm.trans hu.2) (by decide)
  · refine h.barrier.same ⟨rfl, rfl, rfl, .inl rfl, rfl, rfl, rfl⟩ ?_
    rw [pipeline, pipeline, hw]
    rfl

/-! ### Control calls -/

theorem Shape.return (h : Shape s) (call : Call) (r : CallResult) (n : Nat) :
    Shape (s.return call r n) := h.same ⟨rfl, rfl, rfl, .inl rfl, rfl, rfl, rfl⟩ rfl rfl

/-- The control call goes to a place where it waits for no barrier. -/
theorem Shape.move (h : Shape s) {c : Control} (hc : closed c = true → s.isAccepting = false)
    (hw : s.isRunning = true → WorkerOk s c) (hb : awaits c = none)
    (hp : ∃ rs, pipeline s = records rs) (hn : covers c ≤ s.accepted) :
    Shape { s with control := c } := by
  refine ⟨hc, h.down, fun hr => ?_, ?_, fun b n ha => ?_, h.fresh, hn⟩
  · have hu := hw hr
    cases c <;> exact hu
  · unfold BarrierOk
    show match awaits c with | none => _ | some (b, n) => _
    rw [hb]
    exact hp
  · exact absurd (hb.symm.trans ha) (by simp)

theorem Shape.finish (h : Shape s) (hw : s.isRunning = true → WorkerOk s .free)
    (hp : ∃ rs, pipeline s = records rs) (call : Call) (r : CallResult) (n : Nat) :
    Shape (s.finish call r n) :=
  (h.return call r n).move (fun h => absurd h Bool.false_ne_true) hw rfl hp (Nat.zero_le _)

/-- Without a barrier to wait for, the pipeline holds records only. -/
theorem Shape.records (h : Shape s) (ha : awaits s.control = none) :
    ∃ rs, pipeline s = records rs := by
  have hb := h.barrier
  unfold BarrierOk at hb
  rw [ha] at hb
  exact hb

/-- A barrier that is done has left the pipeline. -/
theorem Shape.done (h : Shape s) {b n : Nat} (ha : awaits s.control = some (b, n))
    (hd : (s.barriers b).isSome = true) :
    ∃ rs, pipeline s = Log.records rs ∧ (closed s.control = true → rs = []) := by
  have hb := h.barrier
  unfold BarrierOk at hb
  rw [ha] at hb
  obtain ⟨-, ⟨hn, -⟩ | ⟨-, hrs⟩⟩ := hb
  · exact absurd hd (by rw [hn]; decide)
  · exact hrs

theorem Shape.enter (h : Shape s) (hf : s.control = .free) {c : Control} (hc : closed c = false)
    (hb : awaits c = none) (hn : covers c ≤ s.accepted) : Shape { s with control := c } := by
  refine h.move (fun h => absurd (hc.symm.trans h) Bool.false_ne_true) (fun hr => ?_) hb
    (h.records (by rw [hf]; rfl)) hn
  have hu := h.up_of hf hr
  exact WorkerOk.of_serving hu.1 hu.2 hc

/-- A barrier joins the end of the pipeline. -/
theorem Shape.pushBarrier (h : Shape s) {c : Control} {n : Nat} (hr : s.isRunning = true)
    (ha : awaits s.control = none) (hc : closed c = true → s.isAccepting = false)
    (hw : WorkerOk s c) (hb : awaits c = some (s.nextBarrier, n)) (hn : n ≤ s.accepted)
    (hcov : covers c ≤ s.accepted) : Shape (pushBarrier s c) := by
  obtain ⟨rs, hrs⟩ := h.records ha
  refine ⟨hc, fun hr' => ?_, fun _ => ?_, ?_, fun b m hbm => ?_, fun b hb' => ?_, hcov⟩
  · exact absurd (hr'.symm.trans hr) Bool.false_ne_true
  · show WorkerOk (Impl.Log.pushBarrier s c) c
    cases c with
    | stopJoin | stopRelease => exact absurd hb (by simp [awaits])
    | free | configureWait | flushEntered | flushWait | stopEntered | stopClosed | stopWait
    | stopBarrierDone => exact hw
  · unfold BarrierOk
    show match awaits c with | none => _ | some (b, n) => _
    rw [hb]
    refine ⟨hr, .inl ⟨h.fresh _ le_rfl, rs, [], ?_, fun _ => rfl, hn⟩⟩
    show inFlight s.worker ++ (s.queue ++ [.barrier s.nextBarrier]) = _
    rw [← List.append_assoc]
    exact congrArg (· ++ _) hrs
  · have hbm : some (s.nextBarrier, n) = some (b, m) := hb.symm.trans hbm
    cases hbm
    exact Nat.lt_succ_self _
  · exact h.fresh b (Nat.le_of_succ_le hb')

theorem Shape.configureLocked (h : Shape s) (hf : s.control = .free)
    (candidate : AsyncLogSettings) (env : ConfigureEnv) :
    Shape (configureLocked s candidate env) := by
  unfold Impl.Log.configureLocked
  split
  · exact h.return _ _ _
  split
  · rename_i hr
    have hr : s.isRunning = false := by
      cases hr' : s.isRunning with
      | true => rw [hr'] at hr; exact absurd hr Bool.false_ne_true
      | false => rfl
    exact h.same ⟨rfl, rfl, rfl, .inr hr, rfl, rfl, rfl⟩ rfl rfl
  · -- The worker runs, as before or from now on, and nothing is accepted.
    have hs : Shape { s with
        worker := if s.isRunning then s.worker else .idle
        stopping := if s.isRunning then s.stopping else false
        isRunning := true, isAccepting := false } := by
      refine ⟨fun _ => rfl, fun h => absurd h.symm Bool.false_ne_true, fun _ => ?_, ?_, h.issued,
        h.fresh, h.before⟩
      · show WorkerOk _ s.control
        rw [hf]
        cases hr : s.isRunning with
        | true =>
          have hu := h.up_of hf hr
          exact hu
        | false => exact ⟨rfl, rfl⟩
      · obtain ⟨rs, hrs⟩ := h.records (by rw [hf]; rfl)
        unfold BarrierOk
        show match awaits s.control with | none => _ | some (b, n) => _
        rw [hf]
        cases hr : s.isRunning with
        | true => exact ⟨rs, hrs⟩
        | false => exact ⟨[], (h.down hr).2.2⟩
    exact hs.pushBarrier rfl (by show awaits s.control = none; rw [hf]; rfl) (fun _ => rfl)
      (hs.up_of (c := .free) hf rfl) rfl (Nat.zero_le _) (Nat.zero_le _)

theorem Shape.configure (h : Shape s) {candidate : AsyncLogSettings} {reentrant : Bool}
    {env : ConfigureEnv} (hs : configure s candidate reentrant env = some s') : Shape s' := by
  unfold Impl.Log.configure at hs
  split at hs
  · cases hs
    exact h.return _ _ _
  · split at hs
    · rename_i hf
      cases hs
      exact h.configureLocked hf candidate env
    · cases hs

/-- `configure` replaces the settings when the pipeline is empty. -/
theorem Shape.configureDone_empty (h : Shape s) {candidate : AsyncLogSettings} {b : Nat}
    (hc : s.control = .configureWait candidate b) (hd : (s.barriers b).isSome = true) :
    pipeline s = [] := by
  obtain ⟨rs, hrs, hlast⟩ := h.done (by rw [hc]; rfl) hd
  rw [hrs, hlast (by rw [hc]; rfl)]
  rfl

theorem Shape.configureDone (h : Shape s) {candidate : AsyncLogSettings} {b : Nat}
    (hc : s.control = .configureWait candidate b) (hd : (s.barriers b).isSome = true) :
    Shape (configureDone s candidate) := by
  have hb := h.barrier
  unfold BarrierOk at hb
  rw [hc] at hb
  refine ⟨fun h => absurd h Bool.false_ne_true, fun hr => ?_, fun hr => ?_,
    ⟨[], h.configureDone_empty hc hd⟩, fun _ _ ha => (by cases ha), h.fresh, Nat.zero_le _⟩
  · exact absurd (hr.symm.trans hb.1) Bool.false_ne_true
  · have hu := h.up_of hc hr
    exact hu

theorem Shape.flushBarrier (h : Shape s) {n : Nat} (hc : s.control = .flushEntered n)
    (allocates : Bool) : Shape (flushBarrier s n allocates) := by
  have hrecords := h.records (by rw [hc]; rfl)
  have hn := h.before_of hc
  have hw := h.up_of hc
  unfold Impl.Log.flushBarrier
  split
  · exact h.finish hw hrecords _ _ _
  split
  · exact h.finish hw hrecords _ _ _
  · rename_i hr
    have hr : s.isRunning = true := by simpa using hr
    exact h.pushBarrier hr (by rw [hc]; rfl) (fun h => absurd h Bool.false_ne_true) (hw hr) rfl hn hn

theorem Shape.stopBarrier (h : Shape s) {n : Nat} (hc : s.control = .stopClosed n)
    (allocates : Bool) : Shape (stopBarrier s n allocates) := by
  have hrecords := h.records (by rw [hc]; rfl)
  have hn := h.before_of hc
  have hw := h.up_of hc
  have hcl : s.isAccepting = false := h.closes (by rw [hc]; rfl)
  unfold Impl.Log.stopBarrier
  split
  · exact h.move (fun _ => hcl) hw rfl hrecords hn
  split
  · exact h.move (fun _ => hcl) hw rfl hrecords hn
  · rename_i hr
    have hr : s.isRunning = true := by simpa using hr
    exact h.pushBarrier hr (by rw [hc]; rfl) (fun _ => hcl) (hw hr) rfl hn hn

/-- The writer that is joined has left nothing. -/
theorem Shape.joined (h : Shape s) {r : LogStatus} {n : Nat} (hc : s.control = .stopJoin r n)
    (hw : s.worker = .exited ∨ s.worker = .absent) : s.queue = [] := by
  cases hr : s.isRunning with
  | false => exact (h.down hr).2.2
  | true =>
    have hu := h.up_of hc hr
    obtain hserving | ⟨-, hq⟩ := hu
    · obtain hw | hw := hw <;> exact absurd hserving (by rw [hw]; decide)
    · exact hq

/-- `stop` releases the settings when the pipeline is empty. -/
theorem Shape.release_empty (h : Shape s) {r : LogStatus} {n : Nat}
    (hc : s.control = .stopRelease r n) : s.worker = .absent ∧ s.queue = [] := by
  cases hr : s.isRunning with
  | false => exact (h.down hr).2
  | true =>
    exact h.up_of hc hr

theorem Shape.controlStep (h : Shape s) {allocates : Bool}
    (hs : controlStep s allocates = some s') : Shape s' := by
  unfold Impl.Log.controlStep at hs
  split at hs
  · cases hs
  -- configure
  · rename_i candidate b hc
    split at hs
    · rename_i hd
      cases hs
      exact h.configureDone hc hd
    · cases hs
  -- flush
  · rename_i n hc
    cases hs
    exact h.flushBarrier hc allocates
  · rename_i b n hc
    obtain ⟨e, he, rfl⟩ := Option.map_eq_some_iff.mp hs
    obtain ⟨rs, hrs, -⟩ := h.done (by rw [hc]; rfl) (by rw [he]; rfl)
    have hw := h.up_of hc
    exact h.finish hw ⟨rs, hrs⟩ _ _ _
  -- stop
  · rename_i n hc
    cases hs
    have hcl : Shape { s with isAccepting := false } :=
      ⟨fun _ => rfl, fun hr => ⟨rfl, (h.down hr).2⟩, h.up, h.barrier, h.issued, h.fresh, h.before⟩
    have hw := h.up_of hc
    have hn := h.before_of hc
    exact hcl.move (fun _ => rfl) hw rfl (h.records (by rw [hc]; rfl)) hn
  · rename_i n hc
    cases hs
    exact h.stopBarrier hc allocates
  · rename_i b n hc
    obtain ⟨e, he, rfl⟩ := Option.map_eq_some_iff.mp hs
    obtain ⟨rs, hrs, -⟩ := h.done (by rw [hc]; rfl) (by rw [he]; rfl)
    have hcl := h.closes (by rw [hc]; rfl)
    have hw := h.up_of hc
    have hn := h.before_of hc
    exact h.move (fun _ => hcl) hw rfl ⟨rs, hrs⟩ hn
  · rename_i r n hc
    cases hs
    have hcl := h.closes (by rw [hc]; rfl)
    have hw := h.up_of hc
    have hn := h.before_of hc
    exact ⟨fun _ => hcl, h.down, fun hr => .inl (hw hr).1, h.records (by rw [hc]; rfl),
      fun _ _ ha => (by cases ha), h.fresh, hn⟩
  · rename_i r n hc
    split at hs
    · rename_i hw
      cases hs
      have hcl := h.closes (by rw [hc]; rfl)
      have hq := h.joined hc hw
      have hn := h.before_of hc
      exact ⟨fun _ => hcl, fun _ => ⟨hcl, rfl, hq⟩, fun _ => ⟨rfl, hq⟩, ⟨[], hq⟩,
        fun _ _ ha => (by cases ha), h.fresh, hn⟩
    · cases hs
  · rename_i r n hc
    cases hs
    have hcl := h.closes (by rw [hc]; rfl)
    obtain ⟨hw, hq⟩ := h.release_empty hc
    refine ⟨fun h => absurd h Bool.false_ne_true, fun _ => ⟨hcl, hw, hq⟩,
      fun h => absurd h Bool.false_ne_true, ⟨[], ?_⟩, fun _ _ ha => (by cases ha), h.fresh,
      Nat.zero_le _⟩
    show inFlight s.worker ++ s.queue = []
    rw [hw, hq]
    rfl

theorem Shape.enterControl (h : Shape s) {call : Call} {c : Control} {reentrant : Bool}
    (hc : closed c = false) (hb : awaits c = none) (hn : covers c ≤ s.accepted)
    (hs : enterControl s call c reentrant = some s') : Shape s' := by
  unfold Impl.Log.enterControl at hs
  split at hs
  · cases hs
    exact h.return _ _ _
  split at hs
  · rename_i hf
    cases hs
    exact h.enter hf hc hb hn
  · cases hs

theorem Shape.step (h : Shape s) {a : LogAct} (hs : logStep endLine s a = some s') :
    Shape s' := by
  cases a with
  | tryAppend r reentrant throws =>
    simp only [logStep, Option.ite_none_left_eq_some, Option.some.injEq] at hs
    rw [← hs.2]
    exact h.tryAppend r reentrant throws
  | appendCatch =>
    simp only [logStep, Option.ite_none_right_eq_some, Option.some.injEq] at hs
    rw [← hs.2]
    exact h.same ⟨rfl, rfl, rfl, .inl rfl, rfl, rfl, rfl⟩ rfl rfl
  | pop =>
    simp only [logStep, Option.ite_none_right_eq_some] at hs
    exact h.pop hs.1 hs.2
  | deliver env copies =>
    simp only [logStep] at hs
    split at hs
    · rename_i hw
      cases hs
      exact h.finishRecord hw env
    · rename_i hw
      cases hs
      exact h.finishBarrier hw env copies
    · cases hs
  | exit =>
    simp only [logStep, Option.ite_none_right_eq_some, Option.some.injEq] at hs
    obtain ⟨⟨hw, hq, hst⟩, rfl⟩ := hs
    exact h.exit hw hq hst
  | configure candidate reentrant env =>
    simp only [logStep, Option.ite_none_left_eq_some] at hs
    exact h.configure hs.2
  | flush reentrant =>
    simp only [logStep, Option.ite_none_left_eq_some] at hs
    exact h.enterControl rfl rfl le_rfl hs.2
  | stop reentrant =>
    simp only [logStep, Option.ite_none_left_eq_some] at hs
    exact h.enterControl rfl rfl le_rfl hs.2
  | control allocates => exact h.controlStep hs

end

end WSE.Proof.Log
