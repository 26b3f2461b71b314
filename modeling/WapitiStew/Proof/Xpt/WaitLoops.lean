import WapitiStew.Proof.Xpt.Deadline
import WapitiStew.Spec.Xpt.Deadline

/-!
# Waits that are exact and in bounds

* `start_yields`: the poll and the reading that every turn starts with.
* `turn_yields`, `turns_yields`: from a log that is right, one turn, and any number of them, leave
  one that is, if the descriptor fits in a set where there is one.
* `waitForSocket_turns`: the loop is the one of the clients' models.
-/

namespace WSE.Proof.Xpt

open WSE.Framework WSE.Framework.Running WSE.Impl.Xpt WSE.Spec.Xpt

/-! ## Logs -/

/-- The waits of a log are prepared. -/
def AllPrepared (deadline : Int) (log : List WaitEvent) : Prop :=
  ∀ before wait after microseconds, log = before ++ wait :: after →
    duration wait = some microseconds → Prepared deadline before microseconds

variable {deadline : Int} {log : List WaitEvent} {event : WaitEvent}

theorem allPrepared_nil : AllPrepared deadline [] := by
  intro before wait after us h
  cases before <;> cases h

theorem AllPrepared.snoc (h : AllPrepared deadline log)
    (he : ∀ us, duration event = some us → Prepared deadline log us) :
    AllPrepared deadline (log ++ [event]) := by
  intro before wait after us hlog hw
  rw [List.append_eq_append_iff] at hlog
  obtain ⟨mid, hbefore, hmid⟩ | ⟨mid, rfl, hmid⟩ := hlog
  · -- the wait is the new event, as only that stands behind the old ones
    cases mid with
    | nil =>
      cases hmid
      rw [hbefore, List.append_nil]
      exact he us hw
    | cons a mid =>
      have hlen := congrArg List.length hmid
      rw [List.length_singleton, List.length_append, List.length_cons, List.length_cons] at hlen
      omega
  · cases mid with
    | nil =>
      cases hmid
      rw [List.append_nil] at he
      exact he us hw
    | cons a mid =>
      cases hmid
      exact h before wait mid us rfl hw

theorem AllPrepared.plain (h : AllPrepared deadline log) (he : duration event = none) :
    AllPrepared deadline (log ++ [event]) :=
  h.snoc fun us hus => by rw [he] at hus; cases hus

/-! ## Times -/

theorem int64_value_le {n : Int} (hn : 0 ≤ n) : (int64 n).value ≤ n := by
  show n.bmod 18446744073709551616 ≤ n
  rw [Int.bmod_def]
  split <;> omega

/-- A conversion to a longer unit does not lengthen a time. -/
theorem tdiv_mul_le {m n d : Int} (hm : 0 ≤ m) (hn : n ≤ m) (hd : 0 < d) : n.tdiv d * d ≤ m := by
  obtain h | h := Int.lt_or_le n 0
  · have hneg : 0 ≤ (-n).tdiv d := Int.tdiv_nonneg (by omega) (Int.le_of_lt hd)
    rw [Int.neg_tdiv] at hneg
    have hle : n.tdiv d * d ≤ 0 := Int.mul_nonpos_of_nonpos_of_nonneg (by omega) (Int.le_of_lt hd)
    exact Int.le_trans hle hm
  · rw [Int.tdiv_eq_ediv_of_nonneg h]
    exact Int.le_trans (Int.ediv_mul_le n (Int.ne_of_gt hd)) hn

theorem socketSlice_le {now : Int} (h : now < deadline) :
    (socketSlice deadline now).seconds * 1000000 + (socketSlice deadline now).microseconds ≤ 20000 ∧
    ((socketSlice deadline now).seconds * 1000000 +
      (socketSlice deadline now).microseconds) * 1000 ≤ deadline - now + perMillisecond := by
  have hleft : durationCastUs (int64 (deadline - now)).value * 1000 ≤ deadline - now :=
    tdiv_mul_le (by omega) (int64_value_le (by omega)) (by decide)
  have hsum : (socketSlice deadline now).seconds * 1000000 +
      (socketSlice deadline now).microseconds =
        min (durationCastUs (int64 (deadline - now)).value) 20000 :=
    Int.tdiv_mul_add_tmod _ _
  rw [hsum]
  unfold perMillisecond
  omega

theorem descriptorSlice_le {now : Int} (h : now < deadline) :
    descriptorSlice deadline now * 1000 ≤ 20000 ∧
      descriptorSlice deadline now * 1000 * 1000 ≤ deadline - now + perMillisecond := by
  have hleft : durationCastMs (int64 (deadline - now)).value * 1000000 ≤ deadline - now :=
    tdiv_mul_le (by omega) (int64_value_le (by omega)) (by decide)
  unfold descriptorSlice perMillisecond
  omega

/-! ## A turn -/

variable {w : WaitWorld} {client : WaitClient} {descriptor k : Nat} {operation : WaitOperation}

theorem ask_yields {α : Type} {P : WaitState → Prop} {Q : α → WaitState → Prop}
    {answer : Nat → α} {event : α → WaitEvent}
    (h : ∀ s, P s → Q (answer s.tick) ⟨s.tick + 1, s.log ++ [event (answer s.tick)]⟩) :
    Yields P (ask answer event) Q := h

/-- A log that is right so far, for a descriptor that fits where there is a set. -/
structure Right (fits : Prop) (deadline : Int) (log : List WaitEvent) : Prop where
  prepared : AllPrepared deadline log
  inBounds : fits → ∀ d, .added d ∈ log → d < fdSetSize

variable {fits : Prop}

theorem Right.plain (h : Right fits deadline log) (hd : duration event = none)
    (he : ∀ d, event = .added d → fits → d < fdSetSize) : Right fits deadline (log ++ [event]) where
  prepared := h.prepared.plain hd
  inBounds hf d hm := by
    rw [List.mem_append, List.mem_singleton] at hm
    obtain hm | rfl := hm
    · exact h.inBounds hf d hm
    · exact he d rfl hf

/-- What a turn reports, and the log it leaves. -/
structure TurnRight (fits : Prop) (descriptor : Nat) (operation : WaitOperation) (deadline : Int)
    (turn : WaitTurn) (s : WaitState) : Prop where
  right : Right fits deadline s.log
  timeout : ∀ e, turn = .done e → e.category = .timeout ∨ e.code = .timedOut →
    ∃ past now, s.log = past ++ [.read now] ∧ deadline ≤ now
  cancellation : ∀ e, turn = .done e → e.category = .cancellation ∨ e.code = .cancelled →
    ∃ past, s.log = past ++ [.polled true]
  ready : ∀ e, turn = .done e → e.ok = true →
    ∃ past wait, s.log = past ++ [wait] ∧ ReportsReady descriptor operation wait

/-- An error that is neither a timeout nor a cancellation. -/
def otherError (e : TransportError) : Bool :=
  e.category ≠ .timeout && e.code ≠ .timedOut && e.category ≠ .cancellation &&
    e.code ≠ .cancelled && !e.ok

/-- A turn that reports neither a time nor a descriptor. -/
theorem TurnRight.other {turn : WaitTurn} {s : WaitState} (h : Right fits deadline s.log)
    (hturn : ∀ e, turn = .done e → otherError e = true) :
    TurnRight fits descriptor operation deadline turn s := by
  have hother (e : TransportError) (he : turn = .done e) := hturn e he
  simp only [otherError, Bool.and_eq_true, decide_eq_true_eq, Bool.not_eq_true'] at hother
  refine ⟨h, fun e he ht => ?_, fun e he ht => ?_, fun e he ho => ?_⟩
  · obtain ⟨⟨⟨⟨hc, hd⟩, -⟩, -⟩, -⟩ := hother e he
    exact absurd ht (not_or.mpr ⟨hc, hd⟩)
  · obtain ⟨⟨⟨-, hc⟩, hd⟩, -⟩ := hother e he
    exact absurd ht (not_or.mpr ⟨hc, hd⟩)
  · obtain ⟨-, hok⟩ := hother e he
    rw [hok] at ho
    cases ho

theorem TurnRight.again {s : WaitState} (h : Right fits deadline s.log) :
    TurnRight fits descriptor operation deadline .again s :=
  .other h fun _ he => by cases he

theorem TurnRight.cancelled {s : WaitState} {e : TransportError} (h : Right fits deadline s.log)
    (hl : ∃ past, s.log = past ++ [.polled true]) (hc : e.category = .cancellation)
    (hd : e.code = .cancelled) : TurnRight fits descriptor operation deadline (.done e) s where
  right := h
  timeout e' he ht := by
    cases he
    rw [hc, hd] at ht
    exact absurd ht (by decide)
  cancellation _ _ _ := hl
  ready e' he ho := by
    cases he
    rw [TransportError.ok, hc] at ho
    cases ho

theorem TurnRight.timedOut {s : WaitState} {e : TransportError} (h : Right fits deadline s.log)
    (hl : ∃ past now, s.log = past ++ [.read now] ∧ deadline ≤ now) (hc : e.category = .timeout)
    (hd : e.code = .timedOut) : TurnRight fits descriptor operation deadline (.done e) s where
  right := h
  timeout _ _ _ := hl
  cancellation e' he ht := by
    cases he
    rw [hc, hd] at ht
    exact absurd ht (by decide)
  ready e' he ho := by
    cases he
    rw [TransportError.ok, hc] at ho
    cases ho

theorem TurnRight.isReady {s : WaitState} (h : Right fits deadline s.log)
    (hl : ∃ past wait, s.log = past ++ [wait] ∧ ReportsReady descriptor operation wait) :
    TurnRight fits descriptor operation deadline (.done {}) s where
  right := h
  timeout e he ht := by
    cases he
    exact absurd ht (by decide)
  cancellation e he ht := by
    cases he
    exact absurd ht (by decide)
  ready _ _ _ := hl

/-! ## The turns of the loops -/

/-- The log of a turn that has polled the token and read the clock. -/
structure Timed (fits : Prop) (deadline now : Int) (sets : List WaitEvent) (s : WaitState) :
    Prop where
  right : Right fits deadline s.log
  log : ∃ past, s.log = past ++ [.polled false, .read now] ++ sets
  early : now < deadline

/-- The questions that every loop starts with. -/
theorem start_yields {R : WaitTurn → WaitState → Prop} {rest : Int → WaitM WaitTurn}
    {cancellation timeout : TransportError}
    (hc : cancellation.category = .cancellation ∧ cancellation.code = .cancelled)
    (ht : timeout.category = .timeout ∧ timeout.code = .timedOut)
    (hR : ∀ turn s, turn ≠ .again → TurnRight fits descriptor operation deadline turn s → R turn s)
    (hrest : w.cancelled k = false → w.clock (k + 1) < deadline →
      Yields (Timed fits deadline (w.clock (k + 1)) []) (rest (w.clock (k + 1))) R) :
    Yields (fun s => s.tick = k ∧ Right fits deadline s.log) (do
      if ← ask w.cancelled .polled then
        return .done cancellation
      let now ← ask w.clock .read
      if deadline ≤ now then
        return .done timeout
      rest now) R := by
  refine Yields.bind (Q := fun b s => b = w.cancelled k ∧ s.tick = k + 1 ∧
    Right fits deadline s.log ∧ ∃ past, s.log = past ++ [.polled b]) (ask_yields ?_) fun b => ?_
  · rintro s ⟨rfl, hs⟩
    exact ⟨rfl, rfl, hs.plain rfl fun d he => (by cases he), _, rfl⟩
  refine Yields.ite (fun hb => Yields.pure fun s hs => hR _ _ (by simp) ?_) fun hb => ?_
  · obtain ⟨-, -, hright, past, hlog⟩ := hs
    exact .cancelled hright ⟨past, hb ▸ hlog⟩ hc.1 hc.2
  refine Yields.bind (Q := fun now s => w.cancelled k = false ∧ now = w.clock (k + 1) ∧
    Right fits deadline s.log ∧ ∃ past, s.log = past ++ [.polled false, .read now])
    (ask_yields ?_) fun now => ?_
  · rintro s ⟨rfl, htick, hs, past, hlog⟩
    have hb' : w.cancelled k = false := by simpa using hb
    rw [htick]
    refine ⟨hb', rfl, hs.plain rfl fun d he => (by cases he), past, ?_⟩
    rw [hlog, hb', List.append_assoc]
    rfl
  refine Yields.ite (fun hle => Yields.pure fun s hs => hR _ _ (by simp) ?_) fun hle => ?_
  · obtain ⟨-, -, hright, past, hlog⟩ := hs
    refine .timedOut hright ⟨past ++ [.polled false], now, ?_, hle⟩ ht.1 ht.2
    rw [hlog, List.append_assoc]
    rfl
  · rintro s ⟨hb', rfl, hright, past, hlog⟩
    refine hrest hb' (Int.not_le.mp hle) s ⟨hright, ⟨past, ?_⟩, Int.not_le.mp hle⟩
    rw [hlog, List.append_nil]

/-- The native call of a turn. -/
theorem Timed.wait {now : Int} {sets : List WaitEvent} {s : WaitState} {us : Int}
    (h : Timed fits deadline now sets s) (hsets : ∀ e ∈ sets, ∃ d, e = .added d)
    (hd : duration event = some us)
    (hus : us ≤ 20000 ∧ us * 1000 ≤ deadline - now + perMillisecond) :
    Right fits deadline (s.log ++ [event]) where
  prepared := h.right.prepared.snoc fun us' hus' => by
    rw [hd] at hus'
    cases hus'
    obtain ⟨past, hlog⟩ := h.log
    exact ⟨past, now, sets, hlog, hsets, hus⟩
  inBounds hf d hm := by
    rw [List.mem_append, List.mem_singleton] at hm
    obtain hm | rfl := hm
    · exact h.right.inBounds hf d hm
    · cases hd

theorem tcp_otherError (w : SocketWorld) {code : NativeCode} (h : code ≠ .timedOut) :
    otherError (TcpClient.socketError w code .unknown "Waiting for the socket failed.") = true := by
  cases code with
  | timedOut => exact absurd rfl h
  | brokenPipe =>
    unfold TcpClient.socketError
    simp only
    split <;> rfl
  | _ => rfl

theorem udp_otherError (w : SocketWorld) {code : NativeCode} (h : code ≠ .timedOut) :
    otherError (UdpClient.socketError w code .unknown "Waiting for the UDP socket failed.") =
      true := by
  cases code with
  | timedOut => exact absurd rfl h
  | _ => rfl

theorem serial_otherError {code : TransportErrorCode} (h : code = .receiveFailed ∨
    code = .sendFailed ∨ code = .unknown) (message : String) (native : Int) :
    otherError (serialError code message native) = true := by
  obtain rfl | rfl | rfl := h <;> rfl

theorem TurnRight.failed {s : WaitState} {e : TransportError} (h : Right fits deadline s.log)
    (he : otherError e = true) : TurnRight fits descriptor operation deadline (.done e) s :=
  .other h fun e' h' => by cases h'; exact he

theorem serialTurn_yields :
    Yields (fun s => s.tick = k ∧ Right fits deadline s.log)
      (serialTurn w descriptor operation deadline) fun turn s =>
        TurnRight fits descriptor operation deadline turn s := by
  refine start_yields ⟨rfl, rfl⟩ ⟨rfl, rfl⟩ (fun _ _ _ h => h) fun _ hearly => ?_
  refine Yields.bind (Q := fun answer s => Right fits deadline s.log ∧ ∃ past ms,
    s.log = past ++ [.descriptorPolled descriptor operation ms answer]) (ask_yields ?_) fun a => ?_
  · intro s hs
    have hus := descriptorSlice_le hearly
    exact ⟨hs.wait (fun e he => absurd he List.not_mem_nil) rfl hus, s.log, _, rfl⟩
  cases a with
  | expired => exact Yields.pure fun s hs => .again hs.1
  | failed code =>
    refine Yields.pure fun s hs => ?_
    split
    · exact .again hs.1
    · exact .failed hs.1 (serial_otherError (.inr (.inr rfl)) _ _)
  | events broken readable writable =>
    refine Yields.ite (fun _ => Yields.pure fun s hs => ?_) fun hb => Yields.pure fun s hs => ?_
    · refine .failed hs.1 (serial_otherError ?_ _ _)
      split
      · exact .inl rfl
      · exact .inr (.inl rfl)
    · obtain ⟨hright, past, ms, hlog⟩ := hs
      split
      · rename_i hhas
        exact .isReady hright ⟨past, _, hlog, rfl, rfl, hhas⟩
      · exact .again hright

theorem socketTurn_yields {fail : NativeCode → TransportError}
    (hfail : ∀ code, code ≠ .timedOut → otherError (fail code) = true)
    (hfits : fits → w.cancelled k = false → w.clock (k + 1) < deadline → descriptor < fdSetSize) :
    Yields (fun s => s.tick = k ∧ Right fits deadline s.log)
      (socketTurn w fail descriptor operation deadline) fun turn s =>
        TurnRight fits descriptor operation deadline turn s ∧
          (turn = .again → descriptor < fdSetSize) := by
  refine start_yields ⟨rfl, rfl⟩ ⟨rfl, rfl⟩ (fun turn s hne h => ⟨h, fun ha => absurd ha hne⟩)
    fun hpoll hearly => ?_
  refine Yields.bind (Q := fun set s =>
    Timed fits deadline (w.clock (k + 1)) [.added descriptor] s ∧
      (set = none ∨ set = some [descriptor] ∧ descriptor < fdSetSize)) ?_ fun set => ?_
  · intro s hs
    obtain ⟨past, hlog⟩ := hs.log
    refine ⟨⟨hs.right.plain rfl fun d he hf => ?_, ⟨past, ?_⟩, hearly⟩, ?_⟩
    · cases he
      exact hfits hf hpoll hearly
    · rw [List.append_nil] at hlog
      exact congrArg (· ++ [WaitEvent.added descriptor]) hlog
    · by_cases hlt : descriptor < fdSetSize
      · exact .inr ⟨if_pos hlt, hlt⟩
      · exact .inl (if_neg hlt)
  cases set with
  | none =>
    refine Yields.pure fun s hs => ⟨.other hs.1.right fun e he => ?_, fun ha => ?_⟩
    · cases he
    · cases ha
  | some set =>
    refine Yields.bind (Q := fun answer s => Right fits deadline s.log ∧ descriptor < fdSetSize ∧
      answer.1 ≠ .failed .timedOut ∧ (answer.1 = .ready → descriptor ∈ answer.2) ∧ ∃ past time,
        s.log = past ++ [.selected operation set time answer.1 answer.2]) (ask_yields ?_)
      fun a => ?_
    · rintro s ⟨hs, hset⟩
      obtain hset | ⟨hset, hlt⟩ := hset
      · cases hset
      cases hset
      refine ⟨hs.wait (fun e he => ⟨descriptor, List.mem_singleton.mp he⟩) rfl
        (socketSlice_le hearly), hlt, w.select_fails, fun hr => ?_, s.log, _, rfl⟩
      -- what `select` leaves is not empty, and holds no other descriptor
      have hne : w.left s.tick operation [descriptor] ≠ [] := w.left_ready hr (List.cons_ne_nil _ _)
      obtain ⟨d, hd⟩ := List.exists_mem_of_ne_nil _ hne
      rwa [List.mem_singleton.mp (w.left_subset hd)] at hd
    obtain ⟨answer, left⟩ := a
    cases answer with
    | ready =>
      refine Yields.pure fun s ⟨hright, _, _, hmem, past, time, hlog⟩ => ⟨?_, fun ha => by cases ha⟩
      exact .isReady hright ⟨past, _, hlog, rfl, rfl, hmem rfl⟩
    | expired => exact Yields.pure fun s hs => ⟨.again hs.1, fun _ => hs.2.1⟩
    | failed code =>
      refine Yields.pure fun s ⟨hright, hlt, hne, _⟩ => ?_
      split
      · exact ⟨.again hright, fun _ => hlt⟩
      · refine ⟨.failed hright (hfail code fun hc => hne ?_), fun ha => by cases ha⟩
        rw [hc]

/-- One turn of a client. -/
theorem turn_yields (client : WaitClient)
    (hfits : fits → FitsSet w client descriptor deadline k) :
    Yields (fun s => s.tick = k ∧ Right fits deadline s.log)
      (client.turn w descriptor operation deadline) fun turn s =>
        TurnRight fits descriptor operation deadline turn s ∧
          (turn = .again → client = .serial ∨ descriptor < fdSetSize) := by
  have hsocket (hc : client ≠ .serial) (hf : fits) (hp : w.cancelled k = false)
      (he : w.clock (k + 1) < deadline) : descriptor < fdSetSize := by
    obtain h | h | h | h := hfits hf
    · exact absurd h hc
    · exact h
    · rw [hp] at h
      cases h
    · omega
  cases client with
  | tcp =>
    exact (socketTurn_yields (fun _ => tcp_otherError _) (hsocket (by decide))).imp (fun _ h => h)
      fun _ _ h => ⟨h.1, fun ha => .inr (h.2 ha)⟩
  | udp =>
    exact (socketTurn_yields (fun _ => udp_otherError _) (hsocket (by decide))).imp (fun _ h => h)
      fun _ _ h => ⟨h.1, fun ha => .inr (h.2 ha)⟩
  | serial => exact serialTurn_yields.imp (fun _ h => h) fun _ _ h => ⟨h, fun _ => .inl rfl⟩

theorem turns_yields (client : WaitClient) (operation : WaitOperation) (n : Nat)
    (hfits : fits → FitsSet w client descriptor deadline k) :
    Yields (fun s => s.tick = k ∧ Right fits deadline s.log)
      (turns (client.turn w descriptor operation deadline) n) fun turn s =>
        TurnRight fits descriptor operation deadline turn s := by
  induction n generalizing k with
  | zero => exact Yields.pure fun s hs => .again hs.2
  | succ n ih =>
    refine Yields.bind (turn_yields client hfits) fun turn => ?_
    cases turn with
    | again =>
      rintro s ⟨h, hagain⟩
      refine ih (fun _ => ?_) s ⟨rfl, h.right⟩
      obtain hs | hd := hagain rfl
      · exact .inl hs
      · exact .inr (.inl hd)
    | done e => exact Yields.pure fun s h => h.1
    | outside => exact Yields.pure fun s h => h.1

/-! ## The loops of the clients' models -/

/-- The answer of `select` decides the turn. -/
def selectTurn (fail : NativeCode → TransportError) : Select → WaitTurn
  | .ready => .done {}
  | .expired => .again
  | .failed code => if interruptedError code then .again else .done (fail code)

/-- A turn for a descriptor that fits in a set. -/
theorem socketTurn_run (fail : NativeCode → TransportError) (operation : WaitOperation)
    (deadline : Int) (hd : descriptor < fdSetSize) (s : WaitState) :
    ∃ log, socketTurn w fail descriptor operation deadline s =
      if w.cancelled s.tick then (.done transportCancellationError, ⟨s.tick + 1, log⟩)
      else if deadline ≤ w.clock (s.tick + 1) then
        (.done transportTimeoutError, ⟨s.tick + 2, log⟩)
      else (selectTurn fail (w.select (s.tick + 2)), ⟨s.tick + 3, log⟩) := by
  cases hp : w.cancelled s.tick with
  | true =>
    refine ⟨s.log ++ [.polled true], ?_⟩
    simp only [socketTurn, ask, bind, StateT.bind, hp]
    rfl
  | false =>
    by_cases he : deadline ≤ w.clock (s.tick + 1)
    · refine ⟨s.log ++ [.polled false] ++ [.read (w.clock (s.tick + 1))], ?_⟩
      simp only [socketTurn, ask, bind, StateT.bind, hp, he, if_true, if_false, Bool.false_eq_true]
      rfl
    · refine ⟨s.log ++ [.polled false] ++ [.read (w.clock (s.tick + 1))] ++ [.added descriptor] ++
        [.selected operation [descriptor] (socketSlice deadline (w.clock (s.tick + 1)))
          (w.select (s.tick + 2)) (w.left (s.tick + 2) operation [descriptor])], ?_⟩
      simp only [socketTurn, ask, addDescriptor, bind, StateT.bind, hp, he, hd, if_true, if_false,
        Bool.false_eq_true]
      cases w.select (s.tick + 2) <;> rfl

/-- The end of a wait, in the state of a call. -/
def waitResult {ι : Type} (s : CallState ι) (r : WaitTurn × WaitState) :
    Option (TransportError × CallState ι) :=
  match r.1 with
  | .done e => some (e, s.later r.2.tick)
  | _ => none

/-- The clients' models have the same loop, without the sets. -/
theorem waitForSocket_turns {ι : Type} (socketError : NativeCode → TransportErrorCode → String →
      TransportError) (message : String) (operation : WaitOperation) (hd : descriptor < fdSetSize)
    (n : Nat) (s : CallState ι) (log : List WaitEvent) :
    waitForSocket w.toSocketWorld socketError message deadline n s =
      waitResult s (turns (socketTurn w (fun code => socketError code .unknown message) descriptor
        operation deadline) n ⟨s.tick, log⟩) := by
  induction n generalizing s log with
  | zero => rfl
  | succ n ih =>
    obtain ⟨log', hturn⟩ := socketTurn_run (w := w) (fun code => socketError code .unknown message)
      operation deadline hd ⟨s.tick, log⟩
    have hpoll : observe w.cancelled s = some (w.cancelled s.tick, s.later (s.tick + 1)) := rfl
    have hread : observe w.clock (s.later (s.tick + 1)) =
        some (w.clock (s.tick + 1), s.later (s.tick + 2)) := rfl
    have hselect : observe w.select (s.later (s.tick + 2)) =
        some (w.select (s.tick + 2), s.later (s.tick + 3)) := rfl
    simp only [turns, bind, StateT.bind, hturn]
    rw [waitForSocket, bind_some hpoll]
    cases hp : w.cancelled s.tick with
    | true => rfl
    | false =>
      rw [if_neg Bool.false_ne_true, if_neg Bool.false_ne_true, bind_some hread]
      by_cases he : deadline ≤ w.clock (s.tick + 1)
      · rw [if_pos he, if_pos he]
        rfl
      · rw [if_neg he, if_neg he, bind_some hselect]
        cases w.select (s.tick + 2) with
        | ready => rfl
        | expired => exact ih (s.later (s.tick + 3)) log'
        | failed code =>
          simp only [selectTurn]
          split
          · exact ih (s.later (s.tick + 3)) log'
          · rfl

/-- The first turn of a socket client whose descriptor does not fit. -/
theorem socketTurn_outside {fail : NativeCode → TransportError} (hp : w.cancelled k = false)
    (he : w.clock (k + 1) < deadline) (hd : ¬descriptor < fdSetSize) :
    socketTurn w fail descriptor operation deadline { tick := k } = (.outside,
      ⟨k + 2, [.polled false, .read (w.clock (k + 1)), .added descriptor]⟩) := by
  have hpoll : ask w.cancelled .polled { tick := k } = (false, ⟨k + 1, [.polled false]⟩) := by
    rw [ask, hp]
    rfl
  have hread : ask w.clock .read ⟨k + 1, [.polled false]⟩ =
      (w.clock (k + 1), ⟨k + 2, [.polled false, .read (w.clock (k + 1))]⟩) := rfl
  have hadd (s : WaitState) : addDescriptor descriptor s =
      (none, { s with log := s.log ++ [.added descriptor] }) := by
    rw [addDescriptor, if_neg hd]
  unfold socketTurn
  simp only [bind, StateT.bind, hpoll, hread, hadd, Int.not_le.mpr he, if_false, Bool.false_eq_true]
  rfl

theorem turn_outside (operation : WaitOperation) (hc : client ≠ .serial)
    (hp : w.cancelled k = false) (he : w.clock (k + 1) < deadline) (hd : ¬descriptor < fdSetSize) :
    client.turn w descriptor operation deadline { tick := k } = (.outside,
      ⟨k + 2, [.polled false, .read (w.clock (k + 1)), .added descriptor]⟩) := by
  cases client with
  | tcp => exact socketTurn_outside hp he hd
  | udp => exact socketTurn_outside hp he hd
  | serial => exact absurd rfl hc

/-- A wait of any client is right in every turn exactly if its descriptor fits in a set, where it
comes to one. -/
theorem waits_right (w : WaitWorld) (client : WaitClient) (descriptor : Nat)
    (operation : WaitOperation) (deadline : Int) (k : Nat) :
    (∀ n turn s, turns (client.turn w descriptor operation deadline) n { tick := k } = (turn, s) →
      WaitsRight descriptor operation deadline s.log turn) ↔
    FitsSet w client descriptor deadline k := by
  constructor
  · intro h
    by_contra hfits
    rw [FitsSet, not_or, not_or, not_or] at hfits
    obtain ⟨hc, hd, hp, he⟩ := hfits
    have hp' : w.cancelled k = false := by simpa using hp
    have hfirst := turn_outside operation hc hp' (Int.not_le.mp he) hd
    have hrun : turns (client.turn w descriptor operation deadline) 1 { tick := k } = (.outside,
        ⟨k + 2, [.polled false, .read (w.clock (k + 1)), .added descriptor]⟩) := by
      simp only [turns, bind, StateT.bind, hfirst]
      rfl
    exact hd ((h 1 _ _ hrun).inBounds descriptor (by simp))
  · intro hfits n turn s hrun
    have hempty : Right True deadline [] :=
      ⟨allPrepared_nil, fun _ d hm => absurd hm List.not_mem_nil⟩
    have hend := turns_yields client operation n (fun _ : True => hfits)
      { tick := k } ⟨rfl, hempty⟩
    rw [hrun] at hend
    exact ⟨hend.timeout, hend.cancellation, hend.ready, hend.right.prepared,
      hend.right.inBounds trivial⟩

theorem accepted_le {size sent : Nat} (h : (Except.ok size : Except NativeCode Nat) = .ok sent) :
    sent ≤ size := by
  cases h
  exact Nat.le_refl _

/-- A process whose token is never cancelled and whose sockets are ready at once. -/
def readyWorld : WaitWorld where
  windows := false
  clock k := if k ≤ 1 then 0 else timePointMax
  clock_mono {i j} h := by
    unfold timePointMax
    split <;> split <;> omega
  horizon := 2
  clock_horizon := by decide
  cancelled _ := false
  resolve _ := .ok []
  socket _ := none
  nonBlocking _ := none
  connect _ := none
  bind _ := none
  select _ := .ready
  connectionError _ := none
  localEndpoint _ := {}
  send _ size := .ok size
  send_le := accepted_le
  sendTo _ size := .ok size
  left _ _ set := set
  left_subset h := h
  left_ready _ h := h
  select_fails h := by cases h
  descriptorPoll _ := .events false true true

/-- With 1024 descriptors open, the next socket is written outside the descriptor set. -/
theorem descriptor_outside_set : turns (tcpTurn readyWorld 1024 .read 1000000) 1 {} =
      (.outside, ⟨2, [.polled false, .read 0, .added 1024]⟩) ∧
    ¬∀ n turn s, turns (tcpTurn readyWorld 1024 .read 1000000) n {} = (turn, s) →
      WaitsRight 1024 .read 1000000 s.log turn := by
  have hrun : turns (tcpTurn readyWorld 1024 .read 1000000) 1 {} =
      (.outside, ⟨2, [.polled false, .read 0, .added 1024]⟩) := rfl
  refine ⟨hrun, fun h => ?_⟩
  have hlt := (h 1 _ _ hrun).inBounds 1024 (by decide)
  exact absurd hlt (by decide)

end WSE.Proof.Xpt
