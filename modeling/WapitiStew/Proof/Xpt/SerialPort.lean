import WapitiStew.Proof.Xpt.TcpClient

/-!
# The serial port

* `openCandidate_ends`, `openPort_ends`: an open ends; it replaces the handle of
  the port, or leaves the port as it was.
* `waitForOverlapped_ends`: an outstanding write is collected once.
* `sendLoop_ends`, `send_ends`: a send ends, what the operating system accepted
  is what the result counts, and no write is outstanding; a timeout or a
  cancellation is reported of unaccepted bytes, unless a write came back as
  `AbortedWhole`.
-/

namespace WSE.Proof.Xpt.SerialPort

open WSE.Framework WSE.Framework.Running WSE.Impl.Xpt WSE.Spec.Xpt
open WSE.Impl.Xpt.SerialPort

variable {w : SerialWorld} {K fuel : Nat} {deadline : Int} {s t : CallState SerialClient}

/-- The state after `close`. -/
def closed (s : CallState SerialClient) : CallState SerialClient :=
  { s with handles := s.handles.release (serialHeld s.client),
           client := { s.client with impl := s.client.impl.map fun _ => {} } }

theorem close_run (s : CallState SerialClient) : close s = some (⟨⟩, closed s) := by
  obtain ⟨tick, handles, lists, accepted, ⟨impl, write, cancels⟩⟩ := s
  cases impl with
  | none =>
    show some (PUnit.unit, _) = some (PUnit.unit, closed _)
    rw [closed, show serialHeld ⟨none, write, cancels⟩ = [] from rfl, Ledger.release_nil]
    rfl
  | some impl => rfl

theorem balanced_closed (hs : Owns serialHeld s) : Balanced serialHeld s (closed s) := by
  refine .closed hs rfl rfl ?_
  obtain ⟨tick, handles, lists, accepted, ⟨impl, write, cancels⟩⟩ := s
  cases impl with
  | none => rfl
  | some _ => rfl

theorem settles_closed (s : CallState SerialClient) : Settles serialHeld s (closed s) :=
  balanced_closed

theorem undone_later (hs : Owns serialHeld s) (k : Nat) : Undone s (s.later k) :=
  ⟨.refl hs.handles, rfl⟩

/-! ## Opening -/

theorem firstError_asks (steps : List (SerialM (Option TransportError)))
    (h : ∀ step ∈ steps, ∀ s, Asks step s) : Asks (firstError steps) s := by
  induction steps generalizing s with
  | nil => exact asks_pure _ _
  | cons step steps ih =>
    obtain ⟨hstep, hsteps⟩ := List.forall_mem_cons.mp h
    refine (hstep s).bind fun error k _ => ?_
    cases error with
    | some _ => exact asks_pure _ _
    | none => exact ih hsteps

theorem configurationStep_asks (call : Nat → Option Int) (message : String) :
    Asks (configurationStep call message) s := by
  refine (asks_observe _ _).bind fun code k _ => ?_
  cases code with
  | some _ => exact asks_pure _ _
  | none => exact asks_pure _ _

theorem compareBaudRate_asks (differs : Nat → Bool) : Asks (compareBaudRate differs) s := by
  refine (asks_observe _ _).bind fun b k _ => ?_
  cases b with
  | true => exact asks_pure _ _
  | false => exact asks_pure _ _

theorem configure_asks (baudRate : Int) : Asks (configure w baudRate) s := by
  unfold configure
  split
  · refine firstError_asks _ ?_
    simp only [List.forall_mem_cons, configurationStep_asks, compareBaudRate_asks, implies_true,
      List.not_mem_nil, false_implies, and_self]
  · refine firstError_asks _ ?_
    simp only [List.forall_mem_cons, configurationStep_asks, compareBaudRate_asks, implies_true,
      List.not_mem_nil, false_implies, and_self]

theorem checkInTime_asks (deadline : Int) : Asks (checkInTime w deadline) s := by
  refine (asks_observe _ _).bind fun cancelled k _ => ?_
  split
  · exact (asks_observe _ _).bind fun _ _ _ => asks_pure _ _
  refine (asks_observe _ _).bind fun now k _ => ?_
  split
  · exact (asks_observe _ _).bind fun _ _ _ => asks_pure _ _
  · exact asks_pure _ _

/-- What `open` leaves. -/
theorem opened_settled {deviceName : Bytes} {baudRate : Int} {status : TransportStatus}
    (hs : Owns serialHeld s) (h : OpenSettled deviceName baudRate s status t) :
    Balanced serialHeld s t := by
  obtain ⟨hlists, ht⟩ := h
  cases status with
  | ok _ =>
    obtain ⟨h, himpl, hc⟩ := ht
    have hheld : serialHeld t.client = [h] := by
      rw [serialHeld, himpl]
      rfl
    exact ⟨hlists, .inr (hheld ▸ hc), hheld ▸ List.pairwise_singleton _ h⟩
  | error _ =>
    refine ⟨hlists, .inl ⟨ht.handles, ?_⟩, ?_⟩
    · rw [ht.client]
    · rw [ht.client]
      exact hs.once

theorem openCandidate_ends (deviceName : Bytes) (baudRate deadline : Int)
    (hs : Owns serialHeld s) :
    ∃ status t, openCandidate w deviceName baudRate deadline s = some (status, t) ∧
      OpenSettled deviceName baudRate s status t := by
  unfold openCandidate
  have hlists := Ledger.Changes.refl hs.lists
  obtain hopen | ⟨code, hopen⟩ := openHandle_cases (openFile w) s
  · rw [bind_some hopen]
    have hopened := Ledger.Changes.acquire hs.handles
    obtain ⟨error, k, hset, -⟩ := firstError_asks
      [configure w baudRate, checkInTime w deadline]
      (s := { s with tick := s.tick + 1, handles := s.handles.acquire })
      (by simp only [List.forall_mem_cons, configure_asks, checkInTime_asks, implies_true,
        List.not_mem_nil, false_implies, and_self])
    simp only
    rw [bind_some hset]
    cases error with
    | some e => exact ⟨_, _, rfl, hlists, hopened.undo (by simp), rfl⟩
    | none =>
      simp only
      rw [bind_some (close_run _)]
      exact ⟨_, _, rfl, hlists, _, rfl, hopened.supersede hs.isOpen hs.once⟩
  · rw [bind_some hopen]
    exact ⟨_, _, rfl, hlists, undone_later hs _⟩

theorem openPort_ends (deviceName : Bytes) (baudRate timeout : Int) (hs : Owns serialHeld s) :
    ∃ status t, openPort w deviceName baudRate timeout s = some (status, t) ∧
      OpenSettled deviceName baudRate s status t := by
  have hrejected (e : TransportError) (k : Nat) :
      OpenSettled deviceName baudRate s (.error e) (s.later k) :=
    ⟨.refl hs.lists, undone_later hs k⟩
  rw [openPort, bind_some (get_run s)]
  split
  · exact ⟨_, _, rfl, hrejected _ s.tick⟩
  split
  · exact ⟨_, _, rfl, hrejected _ s.tick⟩
  rw [bind_some (observe_run s _)]
  split
  · exact ⟨_, _, rfl, hrejected _ _⟩
  rw [bind_some (observe_run _ _), bind_some (observe_run _ _)]
  split
  · exact ⟨_, _, rfl, hrejected _ _⟩
  split
  · exact ⟨_, _, rfl, hrejected _ _⟩
  obtain ⟨status, t, hrun, hlists, ht⟩ := openCandidate_ends (w := w) deviceName baudRate
    (serialDeadline (w.clock (s.tick + 1)) timeout).value (s := s.later (s.tick + 3))
    (owns_later hs _)
  refine ⟨status, t, hrun, hlists, ?_⟩
  cases status with
  | ok _ => exact ht
  | error _ => exact ⟨ht.handles, ht.client⟩

/-! ## Overlapped writes -/

/-- The outstanding write has completed with `n` bytes of its request, after the cancels `new`. -/
structure Collected (request : Bytes) (n : Nat) (new : List CancelledWrite)
    (s t : CallState SerialClient) : Prop where
  handles : t.handles = s.handles
  lists : t.lists = s.lists
  impl : t.client.impl = s.client.impl
  write : t.client.write = none
  cancels : t.client.cancels = s.client.cancels ++ new
  accepted : t.accepted = s.accepted ++ request.take n
  inside : n ≤ request.length
  ticks : s.tick ≤ t.tick

/-- A completion says how far the write came. -/
theorem getOverlappedResult_cases {request : Bytes} (hw : s.client.write = some request)
    (wait : Bool) :
    (wait = false ∧
        getOverlappedResult w wait s = some (.incomplete, s.later (s.tick + 1))) ∨
      ∃ c t, getOverlappedResult w wait s = some (c, t) ∧ c ≠ .incomplete ∧
        Collected request c.transferred [] s t ∧
        w.overlappedResult wait s.tick request.length = c ∧ t.tick = s.tick + 1 := by
  have hle := @SerialWorld.transferred_le w wait s.tick request.length
  have hwaited := @SerialWorld.waited w s.tick request.length
  simp only [getOverlappedResult, hw]
  cases hc : w.overlappedResult wait s.tick request.length with
  | incomplete =>
    cases wait with
    | false => exact .inl ⟨rfl, rfl⟩
    | true => exact absurd hc hwaited
  | _ =>
    rw [hc] at hle
    exact .inr ⟨_, _, rfl, by simp,
      ⟨rfl, rfl, rfl, rfl, (List.append_nil _).symm, rfl, hle, Nat.le_succ _⟩, rfl, rfl⟩

section

variable {request : Bytes} {n k : Nat} {new : List CancelledWrite}

theorem Collected.of_later (h : Collected request n new (s.later k) t) (hk : s.tick ≤ k) :
    Collected request n new s t :=
  ⟨h.handles, h.lists, h.impl, h.write, h.cancels, h.accepted, h.inside, Nat.le_trans hk h.ticks⟩

theorem Collected.later (h : Collected request n new s t) (hk : t.tick ≤ k) :
    Collected request n new s (t.later k) :=
  ⟨h.handles, h.lists, h.impl, h.write, h.cancels, h.accepted, h.inside, Nat.le_trans h.ticks hk⟩

end

theorem build_run (e : TransportError) (s : CallState SerialClient) :
    build w e s = some (if w.allocates s.tick then some e else none, s.later (s.tick + 1)) := rfl

/-- The failure of a wait that is given up. -/
structure GivenUp (failure : TransportError) : Prop where
  failed : failure.ok = false
  category : failure.category = .inputOutput ∨ failure.category = .timeout ∨
    failure.category = .cancellation

theorem givenUp_cancellation : GivenUp serialCancellationError := ⟨rfl, .inr (.inr rfl)⟩

theorem givenUp_timeout : GivenUp serialTimeoutError := ⟨rfl, .inr (.inl rfl)⟩

theorem givenUp_waiting (code : Int) :
    GivenUp (serialError .sendFailed "Waiting for serial send failed." code) := ⟨rfl, .inl rfl⟩

/-- The loop of `waitForOverlapped` ends with the write collected, or still outstanding. -/
def WaitLeft (request : Bytes) (s t : CallState SerialClient) : WaitEnd → Prop
  | .completed result => Collected request result.value [] s t ∧
      (result.error.ok = false → result.error.category = .inputOutput)
  | .broken failure => GivenUp failure ∧ ∃ k, s.tick ≤ k ∧ t = s.later k
  | .threw => (∃ k, s.tick ≤ k ∧ t = s.later k) ∨ ∃ n, Collected request n [] s t

theorem breakWait_ends (request : Bytes) {f : TransportError} (hf : GivenUp f)
    {k : Nat} (hk : s.tick ≤ k) :
    ∃ e t, breakWait w f (s.later k) = some (e, t) ∧ WaitLeft request s t e := by
  have hlater : s.tick ≤ k + 1 := by omega
  rw [breakWait, bind_some (build_run _ _)]
  by_cases ha : w.allocates (s.later k).tick = true
  · rw [if_pos ha]
    exact ⟨_, _, rfl, hf, k + 1, hlater, rfl⟩
  · rw [if_neg ha]
    exact ⟨_, _, rfl, .inl ⟨k + 1, hlater, rfl⟩⟩

theorem failedWait_ends {request : Bytes} {n : Nat} (code : Int)
    (ht : Collected request n [] s t) :
    ∃ e u, failedWait w n code t = some (e, u) ∧ WaitLeft request s u e := by
  have hu := ht.later (Nat.le_succ _)
  rw [failedWait, bind_some (build_run _ _)]
  by_cases ha : w.allocates t.tick = true
  · rw [if_pos ha]
    exact ⟨_, _, rfl, hu, fun _ => rfl⟩
  · rw [if_neg ha]
    exact ⟨_, _, rfl, .inr ⟨n, hu⟩⟩

theorem overlappedLoop_ends (hK : timePointMax ≤ w.clock K) (hd : deadline ≤ timePointMax)
    {request : Bytes} (hw : s.client.write = some request) {k : Nat} (hk : s.tick ≤ k)
    (hfuel : K - k < fuel) :
    ∃ e t, overlappedLoop w deadline fuel (s.later k) = some (e, t) ∧ WaitLeft request s t e := by
  induction fuel generalizing k with
  | zero => exact absurd hfuel (Nat.not_lt_zero _)
  | succ fuel ih =>
    rw [overlappedLoop]
    obtain ⟨-, hrun⟩ | ⟨c, t, hrun, hc, ht, -⟩ :=
      getOverlappedResult_cases (w := w) (s := s.later k) hw false
    · rw [bind_some hrun, later_later, later_tick]
      simp only
      rw [bind_some (observe_run _ _), later_later, later_tick]
      split
      · exact breakWait_ends request givenUp_cancellation (by omega)
      rw [bind_some (observe_run _ _), later_later, later_tick]
      split
      · exact breakWait_ends request givenUp_timeout (by omega)
      rename_i hl
      have hlt := lt_of_clock_lt hK hd hl
      rw [bind_some (observe_run _ _), later_later, later_tick]
      cases w.waitForSingleObject _ with
      | some code => exact breakWait_ends request (givenUp_waiting code) (by omega)
      | none => exact ih (by omega) (by omega)
    · rw [bind_some hrun]
      have ht := ht.of_later hk
      cases c with
      | incomplete => exact absurd rfl hc
      | succeeded n => exact ⟨_, _, rfl, ht, fun h => absurd (show true = false from h) (by decide)⟩
      | aborted n => exact failedWait_ends errorOperationAborted ht
      | failed n code => exact failedWait_ends code ht

/-- None of the writes that were cancelled is reported as `AbortedWhole`. -/
def NoneWhole (w : SerialWorld) (new : List CancelledWrite) : Prop := ∀ x ∈ new, ¬AbortedWhole w x

/-- An outstanding write is collected once, unless an exception is thrown ahead of that. A
failure that is not one of the device leaves bytes of the request unaccepted, unless the write
came back aborted whole; whether that is reported is left to the next error that is built. -/
inductive OverlappedLeft (w : SerialWorld) (request : Bytes) (s t : CallState SerialClient) :
    Option (TransferResult Nat) → Prop
  | short {result : TransferResult Nat} {new : List CancelledWrite}
    (collected : Collected request result.value new s t) (noneWhole : NoneWhole w new)
    (failed : result.error.ok = false →
      result.error.category = .inputOutput ∨ result.value < request.length) :
    OverlappedLeft w request s t (some result)
  | whole {failure : TransportError} {x : CancelledWrite}
    (collected : Collected request request.length [x] s t) (failed : failure.ok = false)
    (reason : failure.category = .timeout ∨ failure.category = .cancellation)
    (reported : AbortedWhole w x ↔ w.allocates t.tick = true) :
    OverlappedLeft w request s t (some ⟨request.length, failure⟩)
  | outstanding (k : Nat) (ticks : s.tick ≤ k) (later : t = s.later k) :
    OverlappedLeft w request s t none
  | threw {n : Nat} {new : List CancelledWrite} (collected : Collected request n new s t)
    (noneWhole : NoneWhole w new) : OverlappedLeft w request s t none

theorem failSend_run (n : Nat) (e : TransportError) (s : CallState SerialClient) :
    failSend w n e s =
      some (if w.allocates s.tick then some ⟨n, e⟩ else none, s.later (s.tick + 1)) := by
  rw [failSend, bind_some (build_run e s)]
  split
  · rfl
  · rfl

theorem noneWhole_singleton {x : CancelledWrite} (h : ¬AbortedWhole w x) : NoneWhole w [x] :=
  fun _ hy => List.mem_singleton.mp hy ▸ h

/-- A cancelled write that came back aborted with `n` bytes, while its failure is being built. -/
structure Aborted (w : SerialWorld) (request : Bytes) (failure : TransportError) (n : Nat)
    (x : CancelledWrite) (t : CallState SerialClient) : Prop where
  answer : w.overlappedResult true x.tick x.size = .aborted n
  size : x.size = request.length
  reason : x.reason = failure.category
  tick : t.tick = x.tick + 1

theorem Aborted.whole_iff {request : Bytes} {failure : TransportError} {n : Nat}
    {x : CancelledWrite} (h : Aborted w request failure n x t) :
    AbortedWhole w x ↔ (failure.category = .timeout ∨ failure.category = .cancellation) ∧
      n = request.length ∧ w.allocates t.tick = true ∧ w.allocates (t.tick + 1) = true := by
  rw [h.tick, ← h.reason, ← h.size]
  refine ⟨fun hx => ⟨hx.reason, ?_, hx.collected, hx.reported⟩, fun ⟨hr, hn, hc, hp⟩ =>
    ⟨hr, hn ▸ h.answer, hc, hp⟩⟩
  exact Completion.aborted.inj (h.answer.symm.trans hx.aborted)

theorem collectAborted_left {request : Bytes} {failure : TransportError} (hf : GivenUp failure)
    {n : Nat} {x : CancelledWrite} (hcol : Collected request n [x] s t)
    (ha : Aborted w request failure n x t) :
    OverlappedLeft w request s (t.later (t.tick + 1))
      (if w.allocates t.tick then some ⟨n, failure⟩ else none) := by
  have hlater := hcol.later (Nat.le_succ t.tick)
  split
  · rename_i halloc
    by_cases hn : n < request.length
    · exact .short hlater (noneWhole_singleton fun h => Nat.ne_of_lt hn (ha.whole_iff.mp h).2.1)
        fun _ => .inr hn
    obtain rfl : n = request.length := Nat.le_antisymm hcol.inside (Nat.not_lt.mp hn)
    obtain hio | hreason := hf.category
    · refine .short hlater (noneWhole_singleton fun h => ?_) fun _ => .inl hio
      obtain hr | hr := (ha.whole_iff.mp h).1
      · cases hio.symm.trans hr
      · cases hio.symm.trans hr
    · refine .whole hlater hf.failed hreason (ha.whole_iff.trans ?_)
      exact ⟨fun h => h.2.2.2, fun h => ⟨hreason, rfl, halloc, h⟩⟩
  · rename_i halloc
    exact .threw hlater (noneWhole_singleton fun h => halloc (ha.whole_iff.mp h).2.2.1)

theorem collectCancelled_ends {request : Bytes} (hw : s.client.write = some request)
    {failure : TransportError} (hf : GivenUp failure) {k : Nat} (hk : s.tick ≤ k) :
    ∃ o t, collectCancelled w failure (s.later k) = some (o, t) ∧
      OverlappedLeft w request s t o := by
  generalize hx : (⟨k, request.length, failure.category⟩ : CancelledWrite) = x
  generalize hu : ({ s.later k with
    client := { s.client with cancels := s.client.cancels ++ [x] } } : CallState SerialClient) = u
  have hrecord : recordCancel failure (s.later k) = some (⟨⟩, u) := by
    have hrequest : ((s.later k).client.write.getD []).length = request.length := by
      show (s.client.write.getD []).length = _
      rw [hw]
      rfl
    rw [← hu, ← hx, ← hrequest]
    rfl
  have huw : u.client.write = some request := by rw [← hu]; exact hw
  have hut : u.tick = k := by rw [← hu]; rfl
  obtain ⟨hfalse, -⟩ | ⟨c, t, hrun, hc, ht, hanswer, htick⟩ :=
    getOverlappedResult_cases (w := w) huw true
  · cases hfalse
  rw [hut] at hanswer htick
  have hcol : Collected request c.transferred [x] s t :=
    ⟨by rw [ht.handles, ← hu]; rfl, by rw [ht.lists, ← hu]; rfl, by rw [ht.impl, ← hu], ht.write,
      by rw [ht.cancels, List.append_nil, ← hu], by rw [ht.accepted, ← hu]; rfl, ht.inside,
      by omega⟩
  have hother (hne : ∀ n, c ≠ .aborted n) : NoneWhole w [x] := noneWhole_singleton fun h => by
    have haborted := h.aborted
    rw [← hx, hanswer] at haborted
    exact hne _ haborted
  rw [collectCancelled, bind_some hrecord, bind_some hrun]
  cases c with
  | incomplete => exact absurd rfl hc
  | succeeded n =>
    exact ⟨_, _, rfl, .short hcol (hother nofun) fun h =>
      absurd (show true = false from h) (by decide)⟩
  | failed n code =>
    refine ⟨_, _, failSend_run _ _ _, ?_⟩
    split
    · exact .short (hcol.later (Nat.le_succ _)) (hother nofun) fun _ => .inl rfl
    · exact .threw (hcol.later (Nat.le_succ _)) (hother nofun)
  | aborted n =>
    refine ⟨_, _, failSend_run _ _ _, collectAborted_left hf hcol ?_⟩
    rw [← hx]
    exact ⟨hanswer, rfl, rfl, htick⟩

theorem waitForOverlapped_ends (hK : timePointMax ≤ w.clock K) (hd : deadline ≤ timePointMax)
    (hfuel : K < fuel) {request : Bytes} (hw : s.client.write = some request) :
    ∃ o t, waitForOverlapped w deadline fuel s = some (o, t) ∧ OverlappedLeft w request s t o := by
  obtain ⟨e, t, hrun, ht⟩ := overlappedLoop_ends (w := w) hK hd hw (Nat.le_refl s.tick)
    (show K - s.tick < fuel by omega)
  have hrun : overlappedLoop w deadline fuel s = some (e, t) := hrun
  rw [waitForOverlapped, bind_some hrun]
  cases e with
  | completed r => exact ⟨_, _, rfl, .short ht.1 nofun fun h => .inl (ht.2 h)⟩
  | threw =>
    obtain ⟨k, hk, hlater⟩ | ⟨n, ht⟩ := ht
    · exact ⟨_, _, rfl, .outstanding k hk hlater⟩
    · exact ⟨_, _, rfl, .threw ht nofun⟩
  | broken failure =>
    obtain ⟨hf, k, hk, rfl⟩ := ht
    exact collectCancelled_ends hw hf hk

/-! ## Sending -/

/-- What the loop body of `send` leaves: more to send, or the end of the send, with a result that
reports what it should exactly if no cancelled write is reported as `AbortedWhole`. -/
def ProgressLeft (w : SerialWorld) (data base accepted : Bytes) (new : List CancelledWrite) :
    Progress → Prop
  | .more n => n ≤ data.length ∧ accepted = base ++ data.take n ∧ NoneWhole w new
  | .done o => StreamCountedOrThrew data base accepted o ∧
      (StreamSentOrThrew data base accepted o ↔ NoneWhole w new)

/-- No write is outstanding at the end. -/
structure StepLeft (w : SerialWorld) (data base : Bytes) (p : Progress)
    (s t : CallState SerialClient) : Prop where
  progress : ∃ new, t.client.cancels = s.client.cancels ++ new ∧
    ProgressLeft w data base t.accepted new p
  settles : Settles serialHeld s t
  write : t.client.write = none
  ticks : s.tick ≤ t.tick

section Send

variable {data base : Bytes} {sent n : Nat} {e : TransportError} {new : List CancelledWrite}

theorem counted_of_sent {o : Option (TransferResult Nat)} {accepted : Bytes}
    (h : StreamSentOrThrew data base accepted o) : StreamCountedOrThrew data base accepted o := by
  cases o with
  | some r => exact h.toStreamCounted
  | none => exact h

theorem progress_done {o : Option (TransferResult Nat)} {accepted : Bytes}
    (h : StreamSentOrThrew data base accepted o) (hnew : NoneWhole w new) :
    ProgressLeft w data base accepted new (.done o) :=
  ⟨counted_of_sent h, iff_of_true h hnew⟩

theorem failSend_left (hacc : s.accepted = base ++ data.take n) (hn : n ≤ data.length)
    (he : e.ok = false)
    (hu : e.category = .timeout ∨ e.category = .cancellation → n < data.length) :
    ∃ o, failSend w n e s = some (o, s.later (s.tick + 1)) ∧
      StreamSentOrThrew data base s.accepted o := by
  refine ⟨_, failSend_run n e s, ?_⟩
  split
  · exact streamSent_failed hacc hn he hu
  · exact ⟨n, hn, hacc⟩

/-- A step that ends with an error of `failSend`. -/
theorem failStep_ends (hacc : t.accepted = base ++ data.take n)
    (hn : n ≤ data.length) (he : e.ok = false)
    (hu : e.category = .timeout ∨ e.category = .cancellation → n < data.length)
    (hb : Settles serialHeld s t) (hw : t.client.write = none)
    (hc : t.client.cancels = s.client.cancels ++ new) (hnew : NoneWhole w new)
    (hk : s.tick ≤ t.tick) :
    ∃ p u, ((do return Progress.done (← failSend w n e)) : SerialM Progress) t = some (p, u) ∧
      StepLeft w data base p s u := by
  obtain ⟨o, hrun, ho⟩ := failSend_left (w := w) hacc hn he hu
  rw [bind_some hrun]
  exact ⟨_, _, rfl, ⟨new, hc, progress_done ho hnew⟩, hb.trans (settles_later t _), hw,
    Nat.le_succ_of_le hk⟩

/-- A step that fails and cancels nothing. -/
theorem failStep_plain (hacc : t.accepted = base ++ data.take n)
    (hn : n ≤ data.length) (he : e.ok = false)
    (hu : e.category = .timeout ∨ e.category = .cancellation → n < data.length)
    (hb : Settles serialHeld s t) (hw : t.client.write = none)
    (hc : t.client.cancels = s.client.cancels) (hk : s.tick ≤ t.tick) :
    ∃ p u, ((do return Progress.done (← failSend w n e)) : SerialM Progress) t = some (p, u) ∧
      StepLeft w data base p s u :=
  failStep_ends hacc hn he hu hb hw (hc.trans (List.append_nil _).symm) nofun hk

theorem takeProgress_ends {r : TransferResult Nat}
    (hsent : sent ≤ data.length) (hn : sent + r.value ≤ data.length)
    (hacc : t.accepted = base ++ data.take (sent + r.value))
    (hu : r.error.ok = false → r.error.category = .inputOutput ∨ sent + r.value < data.length)
    (hb : Settles serialHeld s t) (hw : t.client.write = none)
    (hc : t.client.cancels = s.client.cancels ++ new) (hnew : NoneWhole w new)
    (hk : s.tick ≤ t.tick) :
    ∃ p u, takeProgress w data.length sent r t = some (p, u) ∧ StepLeft w data base p s u := by
  rw [takeProgress, Nat.min_eq_left (by omega)]
  simp only
  split
  · exact ⟨_, _, rfl, ⟨new, hc, hn, hacc, hnew⟩, hb, hw, hk⟩
  rename_i hfail
  have hok : r.error.ok = false := by simpa [TransferResult.succeeded] using hfail
  have hshort : r.error.category = .timeout ∨ r.error.category = .cancellation →
      sent + r.value < data.length := by
    have := hu hok
    grind
  split
  · rw [bind_some (close_run t)]
    exact failStep_ends hacc hn hok hshort (hb.trans (settles_closed t)) hw hc hnew hk
  · exact failStep_ends hacc hn hok hshort hb hw hc hnew hk

/-- The failure of a write that came back whole is reported, although nothing is left to send,
unless there is no memory for it. -/
theorem takeProgress_whole {x : CancelledWrite} {f : TransportError} (hsent : sent ≤ data.length)
    (hn : sent + n = data.length) (hacc : t.accepted = base ++ data.take (sent + n))
    (hf : f.ok = false) (hreason : f.category = .timeout ∨ f.category = .cancellation)
    (hx : AbortedWhole w x ↔ w.allocates t.tick = true)
    (hb : Settles serialHeld s t) (hw : t.client.write = none)
    (hc : t.client.cancels = s.client.cancels ++ [x]) (hk : s.tick ≤ t.tick) :
    ∃ p u, takeProgress w data.length sent ⟨n, f⟩ t = some (p, u) ∧
      StepLeft w data base p s u := by
  have hio : ¬f.category = .inputOutput := by
    obtain h | h := hreason
    · rw [h]
      decide
    · rw [h]
      decide
  have hfail : ¬(TransferResult.succeeded (⟨n, f⟩ : TransferResult Nat)) = true := by
    rw [TransferResult.succeeded, hf]
    exact Bool.false_ne_true
  rw [takeProgress, Nat.min_eq_left (show n ≤ data.length - sent by omega)]
  simp only
  rw [if_neg hfail, if_neg hio, bind_some (failSend_run _ _ _)]
  refine ⟨_, _, rfl, ⟨[x], hc, ?_⟩, hb.trans (settles_later t _), hw, Nat.le_succ_of_le hk⟩
  by_cases ha : w.allocates t.tick = true
  · rw [if_pos ha]
    have hcounted : StreamCounted data base t.accepted ⟨sent + n, f⟩ :=
      ⟨hacc, Nat.le_of_eq hn, fun _ => hn⟩
    refine ⟨hcounted, iff_of_false (fun h => ?_) fun h => ?_⟩
    · exact Nat.ne_of_lt (h.unfinished hreason) hn
    · exact h x (List.mem_singleton.mpr rfl) (hx.mpr ha)
  · rw [if_neg ha]
    exact progress_done (o := none) ⟨_, Nat.le_of_eq hn, hacc⟩
      (noneWhole_singleton fun h => ha (hx.mp h))

/-- A write that was collected leaves the handles alone. -/
theorem Collected.settles {request : Bytes} (h : Collected request n new s t) :
    Settles serialHeld s t :=
  settles_same h.handles h.lists (by rw [serialHeld, h.impl]; rfl)

/-- What the native calls of the loop body start from: `sent` bytes were sent. -/
structure Sending (data base : Bytes) (sent : Nat) (s : CallState SerialClient) : Prop where
  write : s.client.write = none
  below : sent < data.length
  accepted : s.accepted = base ++ data.take sent

theorem Sending.later (h : Sending data base sent s) (k : Nat) :
    Sending data base sent (s.later k) :=
  ⟨h.write, h.below, h.accepted⟩

theorem discard_run {c : Completion} (h : getOverlappedResult w true s = some (c, t)) :
    discard (getOverlappedResult w true) s = some (⟨⟩, t) := by
  show (getOverlappedResult w true s).bind (fun p => some (PUnit.unit, p.2)) = _
  rw [h, Option.bind_some]

/-- The guard collects a write that is outstanding. -/
theorem guard_collects {request : Bytes} (hw : s.client.write = some request) :
    ∃ t n, discard (getOverlappedResult w true) s = some (⟨⟩, t) ∧ Collected request n [] s t := by
  obtain ⟨hfalse, -⟩ | ⟨c, t, hrun, -, ht, -⟩ := getOverlappedResult_cases (w := w) hw true
  · cases hfalse
  · exact ⟨t, _, discard_run hrun, ht⟩

/-- The guard finds nothing where the write was collected. -/
theorem guard_nothing (hw : s.client.write = none) :
    discard (getOverlappedResult w true) s = some (⟨⟩, s) := by
  have hrun : getOverlappedResult w true s = some (.failed 0 0, s) := by
    rw [getOverlappedResult, hw]
  exact discard_run hrun

/-- After an exception the guard leaves no write outstanding. -/
theorem guard_ends {request : Bytes} (hw : s.client.write = some request)
    (h : OverlappedLeft w request s t none) :
    ∃ u n new, discard (getOverlappedResult w true) t = some (⟨⟩, u) ∧
      Collected request n new s u ∧ NoneWhole w new := by
  cases h with
  | outstanding k hk hlater =>
    subst hlater
    obtain ⟨u, n, hrun, hu⟩ := guard_collects (w := w) (s := s.later k) hw
    exact ⟨u, n, [], hrun, hu.of_later hk, nofun⟩
  | threw ht hnone => exact ⟨t, _, _, guard_nothing ht.write, ht, hnone⟩

/-- A write that is pending is waited for, and collected. -/
theorem pendingWrite_ends (hK : timePointMax ≤ w.clock K) (hd : deadline ≤ timePointMax)
    (hfuel : K < fuel) (h : Sending data base sent s)
    (hstart : w.writeFile s.tick (data.drop sent).length = .pending) :
    ∃ p t, overlappedWrite w data sent deadline fuel s = some (p, t) ∧
      StepLeft w data base p s t := by
  have hsent := Nat.le_of_lt h.below
  generalize hreq : data.drop sent = request at hstart
  have hlen : request.length = data.length - sent := by rw [← hreq, List.length_drop]
  generalize hu : ({ s.later (s.tick + 1) with
    client := { s.client with write := some request } } : CallState SerialClient) = u
  have hrun : writeFile w request s = some (.pending, u) := by
    rw [writeFile, hstart, ← hu]
    rfl
  have hacc : u.accepted = s.accepted := by rw [← hu]; rfl
  have hwrite : u.client.write = some request := by rw [← hu]
  have hk : s.tick ≤ u.tick := by rw [← hu]; exact Nat.le_succ _
  have hsu : Settles serialHeld s u := by rw [← hu]; exact settles_same rfl rfl rfl
  have hcancels : u.client.cancels = s.client.cancels := by rw [← hu]
  obtain ⟨o, t, hwait, ho⟩ := waitForOverlapped_ends (w := w) hK hd hfuel hwrite
  have hcollected {n : Nat} {new : List CancelledWrite} {v : CallState SerialClient}
      (hv : Collected request n new u v) : sent + n ≤ data.length ∧
        v.accepted = base ++ data.take (sent + n) ∧ Settles serialHeld s v ∧
        v.client.cancels = s.client.cancels ++ new ∧ s.tick ≤ v.tick := by
    obtain ⟨happ, hle⟩ :=
      accepted_append h.accepted hsent (hreq ▸ List.prefix_refl request) hv.inside
    exact ⟨hle, by rw [hv.accepted, hacc, happ], hsu.trans hv.settles,
      by rw [hv.cancels, hcancels], Nat.le_trans hk hv.ticks⟩
  rw [overlappedWrite, hreq, bind_some hrun]
  simp only
  rw [bind_some hwait]
  cases o with
  | some r =>
    cases ho with
    | short ht hnone hfail =>
      obtain ⟨hle, htacc, hst, htc, htk⟩ := hcollected ht
      refine takeProgress_ends hsent hle htacc (fun hok => ?_) hst ht.write htc hnone htk
      exact (hfail hok).imp_right fun hlt => by omega
    | whole ht hf hreason hx =>
      obtain ⟨-, htacc, hst, htc, htk⟩ := hcollected ht
      exact takeProgress_whole hsent (by omega) htacc hf hreason hx hst ht.write htc htk
  | none =>
    obtain ⟨v, n, new, hguard, hv, hnone⟩ := guard_ends (w := w) hwrite ho
    obtain ⟨hle, hvacc, hsv, hvc, hvk⟩ := hcollected hv
    simp only
    rw [bind_some hguard]
    exact ⟨_, _, rfl, ⟨new, hvc, progress_done (o := none) ⟨_, hle, hvacc⟩ hnone⟩, hsv, hv.write,
      hvk⟩

theorem overlappedWrite_ends (hK : timePointMax ≤ w.clock K) (hd : deadline ≤ timePointMax)
    (hfuel : K < fuel) (h : Sending data base sent s) :
    ∃ p t, overlappedWrite w data sent deadline fuel s = some (p, t) ∧
      StepLeft w data base p s t := by
  have hsent := Nat.le_of_lt h.below
  cases hstart : w.writeFile s.tick (data.drop sent).length with
  | done n =>
    have hrun : writeFile w (data.drop sent) s = some (.done n,
        { s.later (s.tick + 1) with accepted := s.accepted ++ (data.drop sent).take n }) := by
      rw [writeFile, hstart]
      rfl
    obtain ⟨happ, hle⟩ :=
      accepted_append h.accepted hsent (List.prefix_refl _) (w.writeFile_le hstart)
    rw [overlappedWrite, bind_some hrun]
    exact ⟨_, _, rfl, ⟨[], (List.append_nil _).symm, hle, happ, nofun⟩, settles_same rfl rfl rfl,
      h.write, Nat.le_succ _⟩
  | failed code =>
    have hrun : writeFile w (data.drop sent) s = some (.failed code, s.later (s.tick + 1)) := by
      rw [writeFile, hstart]
      rfl
    rw [overlappedWrite, bind_some hrun]
    simp only
    rw [bind_some (close_run _)]
    exact failStep_plain h.accepted hsent rfl (fun _ => h.below)
      ((settles_later s _).trans (settles_closed _)) h.write rfl (Nat.le_succ _)
  | pending => exact pendingWrite_ends hK hd hfuel h hstart

theorem sendWindows_ends (hK : timePointMax ≤ w.clock K) (hd : deadline ≤ timePointMax)
    (hfuel : K < fuel) (h : Sending data base sent s) :
    ∃ p t, sendWindows w data sent deadline fuel s = some (p, t) ∧ StepLeft w data base p s t := by
  unfold sendWindows
  obtain hopen | ⟨code, hopen⟩ := openHandle_cases w.createEvent s
  · rw [bind_some hopen]
    obtain ⟨p, t, hrun, ht⟩ := overlappedWrite_ends (w := w) hK hd hfuel
      (s := { s with tick := s.tick + 1, handles := s.handles.acquire })
      ⟨h.write, h.below, h.accepted⟩
    simp only
    rw [bind_some hrun]
    exact ⟨_, _, rfl, ht.progress, ht.settles.around, ht.write,
      Nat.le_trans (Nat.le_succ _) ht.ticks⟩
  · rw [bind_some hopen]
    exact failStep_plain h.accepted (Nat.le_of_lt h.below) rfl (fun _ => h.below)
      (settles_later s _) h.write rfl (Nat.le_succ _)

/-! ## The loop -/

theorem waitForDescriptor_ends (hK : timePointMax ≤ w.clock K) (hd : deadline ≤ timePointMax)
    (hfuel : K - s.tick < fuel) :
    ∃ e k, waitForDescriptor w deadline fuel s = some (e, s.later k) ∧ s.tick ≤ k := by
  induction fuel generalizing s with
  | zero => exact absurd hfuel (Nat.not_lt_zero _)
  | succ fuel ih =>
    rw [waitForDescriptor, bind_some (observe_run s _)]
    split
    · exact ⟨_, _, rfl, Nat.le_succ _⟩
    rw [bind_some (observe_run _ _)]
    split
    · exact ⟨_, s.tick + 2, rfl, by omega⟩
    rename_i hl
    have hlt := lt_of_clock_lt hK hd hl
    simp only [later_tick, later_later] at hlt ⊢
    obtain ⟨e, k, hrun, hk⟩ := ih (s := s.later (s.tick + 3)) (by rw [later_tick]; omega)
    rw [later_tick] at hk
    have hagain : ∃ e k, waitForDescriptor w deadline fuel (s.later (s.tick + 3)) =
        some (e, s.later k) ∧ s.tick ≤ k := ⟨e, k, hrun, by omega⟩
    rw [bind_some (observe_run _ _)]
    simp only [later_tick, later_later]
    cases w.poll (s.tick + 2) with
    | events broken writable =>
      cases broken with
      | true => exact ⟨_, s.tick + 3, rfl, by omega⟩
      | false =>
        cases writable with
        | true => exact ⟨_, s.tick + 3, rfl, by omega⟩
        | false => exact hagain
    | expired => exact hagain
    | failed code =>
      by_cases hi : interruptedError code = true
      · simp only [if_pos hi]
        exact hagain
      · simp only [if_neg hi]
        exact ⟨_, s.tick + 3, rfl, by omega⟩

theorem sendPosix_ends (hK : timePointMax ≤ w.clock K) (hd : deadline ≤ timePointMax)
    (hfuel : K < fuel) (h : Sending data base sent s) :
    ∃ p t, sendPosix w data sent deadline fuel s = some (p, t) ∧ StepLeft w data base p s t := by
  have hsent := Nat.le_of_lt h.below
  obtain ⟨e, k, hwait, hk⟩ := waitForDescriptor_ends (s := s) hK hd
    (Nat.lt_of_le_of_lt (Nat.sub_le _ _) hfuel)
  have hlater := h.later k
  have hsettles : Settles serialHeld s (s.later k) := settles_later s k
  rw [sendPosix, bind_some hwait]
  split
  · rename_i hfail
    have hok : e.ok = false := by simpa using hfail
    split
    · rw [bind_some (close_run _)]
      exact failStep_plain hlater.accepted hsent hok (fun _ => h.below)
        (hsettles.trans (settles_closed _)) h.write rfl hk
    · exact failStep_plain hlater.accepted hsent hok (fun _ => h.below) hsettles h.write rfl hk
  generalize hreq : data.drop sent = request
  cases hwrite : w.write k request.length with
  | ok n =>
    have hrun : nativeWrite w request (s.later k) = some (.ok n,
        { s.later (k + 1) with accepted := s.accepted ++ request.take n }) := by
      simp only [nativeWrite, later_tick, hwrite]
      rfl
    obtain ⟨happ, hle⟩ := accepted_append h.accepted hsent (hreq ▸ List.prefix_refl request)
      (w.write_le hwrite)
    rw [bind_some hrun]
    exact ⟨_, _, rfl, ⟨[], (List.append_nil _).symm, hle, happ, nofun⟩, settles_same rfl rfl rfl,
      h.write, Nat.le_succ_of_le hk⟩
  | error code =>
    have hrun : nativeWrite w request (s.later k) = some (.error code, s.later (k + 1)) := by
      simp only [nativeWrite, later_tick, hwrite]
      rfl
    have hnext := h.later (k + 1)
    rw [bind_some hrun]
    simp only
    split
    · exact ⟨_, _, rfl, ⟨[], (List.append_nil _).symm, hsent, h.accepted, nofun⟩,
        settles_later s _, h.write, Nat.le_succ_of_le hk⟩
    · rw [bind_some (close_run _)]
      exact failStep_plain hnext.accepted hsent rfl (fun _ => h.below)
        ((settles_later s _).trans (settles_closed _)) h.write rfl (Nat.le_succ_of_le hk)

theorem sendStep_ends (hK : timePointMax ≤ w.clock K) (hd : deadline ≤ timePointMax)
    (hfuel : K < fuel) (h : Sending data base sent s) :
    ∃ p t, sendStep w data sent deadline fuel s = some (p, t) ∧ StepLeft w data base p s t := by
  unfold sendStep
  split
  · exact sendWindows_ends hK hd hfuel h
  · exact sendPosix_ends hK hd hfuel h

/-- What a send leaves. -/
structure SendLeft (w : SerialWorld) (data base : Bytes) (o : Option (TransferResult Nat))
    (s t : CallState SerialClient) : Prop where
  counted : StreamCountedOrThrew data base t.accepted o
  sent : ∃ new, t.client.cancels = s.client.cancels ++ new ∧
    (StreamSentOrThrew data base t.accepted o ↔ NoneWhole w new)
  settles : Settles serialHeld s t
  write : t.client.write = none

/-- A send that ends and has cancelled nothing. -/
theorem sendLeft_plain {o : Option (TransferResult Nat)}
    (h : StreamSentOrThrew data base t.accepted o)
    (hs : Settles serialHeld s t) (hw : t.client.write = none)
    (hc : t.client.cancels = s.client.cancels) : SendLeft w data base o s t :=
  ⟨counted_of_sent h, ⟨[], hc.trans (List.append_nil _).symm, iff_of_true h nofun⟩, hs, hw⟩

theorem noneWhole_append {old : List CancelledWrite} (h : NoneWhole w old) :
    NoneWhole w (old ++ new) ↔ NoneWhole w new := by
  unfold NoneWhole
  rw [List.forall_mem_append]
  exact and_iff_right h

theorem sendLoop_ends {waitFuel : Nat} (hK : timePointMax ≤ w.clock K)
    (hd : deadline ≤ timePointMax) (hwait : K < waitFuel) (hfuel : K - s.tick < fuel)
    (hw : s.client.write = none) (hsent : sent ≤ data.length)
    (hacc : s.accepted = base ++ data.take sent) :
    ∃ o t, sendLoop w data deadline waitFuel fuel sent s = some (o, t) ∧
      SendLeft w data base o s t := by
  induction fuel generalizing s sent with
  | zero => exact absurd hfuel (Nat.not_lt_zero _)
  | succ fuel ih =>
    rw [sendLoop]
    by_cases hwhole : data.length ≤ sent
    · rw [if_pos hwhole]
      exact ⟨_, _, rfl, sendLeft_plain (o := some _) (streamSent_whole hacc hsent hwhole)
        (settles_refl s) hw rfl⟩
    have hlt : sent < data.length := Nat.lt_of_not_le hwhole
    have hfail {e : TransportError} (he : e.ok = false) (k : Nat) :
        ∃ o t, failSend w sent e (s.later k) = some (o, t) ∧ SendLeft w data base o s t := by
      obtain ⟨o, hrun, ho⟩ := failSend_left (w := w) (s := s.later k) hacc hsent he fun _ => hlt
      exact ⟨o, _, hrun, sendLeft_plain ho (settles_later s _) hw rfl⟩
    rw [if_neg hwhole, bind_some (observe_run s _)]
    split
    · exact hfail (e := serialCancellationError) rfl _
    rw [bind_some (observe_run _ _), later_later, later_tick]
    split
    · exact hfail (e := serialTimeoutError) rfl _
    rename_i hl
    have hbefore := lt_of_clock_lt hK hd hl
    have hsending : Sending data base sent (s.later (s.tick + 1 + 1)) :=
      ⟨hw, hlt, hacc⟩
    obtain ⟨p, t, hrun, ht⟩ := sendStep_ends hK hd hwait hsending
    have hb : Settles serialHeld s t := (settles_later s _).trans ht.settles
    obtain ⟨old, hold, hprogress⟩ := ht.progress
    rw [bind_some hrun]
    cases p with
    | done o => exact ⟨o, t, rfl, hprogress.1, ⟨old, hold, hprogress.2⟩, hb, ht.write⟩
    | more n =>
      have hticks := ht.ticks
      rw [later_tick] at hticks
      obtain ⟨hn, hacc, hnone⟩ := hprogress
      obtain ⟨o, u, hr, hu⟩ := ih (s := t) (by omega) ht.write hn hacc
      obtain ⟨new, hnew, hsent⟩ := hu.sent
      have hcancels : u.client.cancels = s.client.cancels ++ (old ++ new) := by
        rw [hnew, hold, List.append_assoc]
        rfl
      exact ⟨o, u, hr, hu.counted, ⟨old ++ new, hcancels,
        hsent.trans (noneWhole_append hnone).symm⟩,
        hb.trans hu.settles, hu.write⟩

theorem send_ends (data : SendData) (timeout : Int) (hw : s.client.write = none) :
    ∃ o t, send w data timeout s = some (o, t) ∧
      SendLeft w data.bytes s.accepted o s t := by
  have hacc : s.accepted = s.accepted ++ data.bytes.take 0 := (List.append_nil _).symm
  have hfail {e : TransportError} (he : e.category = .validation ∨ e.category = .connection) :
      ∃ o t, failSend w 0 e s = some (o, t) ∧ SendLeft w data.bytes s.accepted o s t := by
    refine ⟨_, _, failSend_run 0 e s, sendLeft_plain ?_ (settles_later s _) hw rfl⟩
    split
    · exact streamSent_rejected _ he
    · exact ⟨0, Nat.zero_le _, hacc⟩
  rw [send, bind_some (get_run s)]
  split
  · exact hfail (.inr rfl)
  split
  · exact hfail (.inl rfl)
  split
  · rename_i hempty
    have hlen : data.bytes.length = 0 := by simpa using hempty
    exact ⟨_, _, rfl, sendLeft_plain (o := some _)
      (streamSent_whole hacc (Nat.zero_le _) (by omega)) (settles_refl s) hw rfl⟩
  rw [bind_some (observe_run s _)]
  have hd : (serialDeadline (w.clock s.tick) timeout).value ≤ timePointMax :=
    operationDeadline_le _ _
  obtain ⟨o, t, hr, ht⟩ := sendLoop_ends (s := s.later (s.tick + 1)) w.clock_horizon hd
    (Nat.lt_succ_self _) (Nat.lt_succ_of_le (Nat.sub_le _ _)) hw (Nat.zero_le _) hacc
  exact ⟨o, t, hr, ht.counted, ht.sent, (settles_later s _).trans ht.settles, ht.write⟩

end Send

end WSE.Proof.Xpt.SerialPort
