import WapitiStew.Proof.Xpt.UdpClient
import WapitiStew.Spec.Xpt.Streams

/-!
# A UDP client reports each datagram once

* `receiveFromLoop_ends`, `receiveFrom_ends`: a receive ends, and reports the next datagram, or
  nothing (`Received`).
* `udp_receives`: over all receives, whatever arrives.
-/

namespace WSE.Proof.Xpt.UdpClient

open WSE.Framework WSE.Framework.Running WSE.Impl.Xpt WSE.Impl.Xpt.UdpClient WSE.Spec.Xpt

/-- The state in which the client of a reader is called. -/
def clientState (s : CallState UdpReader) : CallState (Option UdpImpl) :=
  ⟨s.tick, s.handles, s.lists, s.accepted, s.client.client⟩

/-- The next datagram is reported, or nothing. -/
def Received (maximumSize : Nat) (s : CallState UdpReader) (r : TransferResult UdpDatagram)
    (t : CallState UdpReader) : Prop :=
  NothingReceived r ∧ t.client.queue = s.client.queue ∨
    ∃ d, s.client.queue = d :: t.client.queue ∧ Spec.Xpt.Reports maximumSize d r

section

variable {w : UdpReaderWorld} {s : CallState UdpReader}

theorem onClient_later {α : Type} {x : UdpM α} {a : α} {k : Nat}
    (h : x (clientState s) = some (a, (clientState s).later k)) :
    onClient x s = some (a, s.later k) := withPart_later rfl h

/-- What is stored of a datagram is reported as it is. -/
theorem receivedResult_reports (maximumSize : Nat) (d : UdpDatagram) :
    Spec.Xpt.Reports maximumSize d (receivedResult w ⟨d.source, d.payload.take maximumSize⟩
      (maximumSize < d.payload.length)) := by
  unfold receivedResult
  by_cases hlarge : maximumSize < d.payload.length
  · by_cases hwindows : w.windows = true
    · simp only [hwindows, hlarge, decide_true, Bool.and_self, if_true]
      exact .truncated _ hlarge rfl
    · by_cases hvalid : d.source.isValid = true
      · simp only [hwindows, hlarge, hvalid, decide_true, Bool.and_true, Bool.not_true,
          Bool.false_eq_true, if_true, if_false]
        exact .truncated _ hlarge rfl
      · simp only [hwindows, hvalid, Bool.not_false, Bool.false_and, Bool.false_eq_true, if_true,
          if_false]
        exact .unknown _ (by simpa using hvalid) rfl
  · have hwhole : d.payload.take maximumSize = d.payload :=
      List.take_of_length_le (Nat.not_lt.mp hlarge)
    by_cases hvalid : d.source.isValid = true
    · simp only [hlarge, hvalid, hwhole, decide_false, Bool.and_false, Bool.not_true,
        Bool.false_eq_true, if_false]
      exact .whole (Nat.not_lt.mp hlarge) hvalid
    · simp only [hlarge, hvalid, decide_false, Bool.and_false, Bool.not_false, Bool.false_eq_true,
        if_true, if_false]
      exact .unknown _ (by simpa using hvalid) rfl

/-- A native call that failed, or one that took the first datagram. -/
theorem nativeReceive_cases (maximumSize k : Nat) :
    (∃ code, nativeReceive w maximumSize (s.later k) =
      some (.error code, s.later (k + 1))) ∨
    ∃ d queue, s.client.queue = d :: queue ∧ nativeReceive w maximumSize (s.later k) =
      some (.ok (⟨d.source, d.payload.take maximumSize⟩,
        decide (maximumSize < d.payload.length)),
        { s.later (k + 1) with client := { s.client with queue } }) := by
  cases hreceive : w.receive k with
  | some code =>
    refine .inl ⟨code, ?_⟩
    simp only [nativeReceive, later_tick, hreceive]
    rfl
  | none =>
    cases hqueue : s.client.queue with
    | nil =>
      refine .inl ⟨.wouldBlock, ?_⟩
      simp only [nativeReceive, later_tick, later_client, hreceive, hqueue]
      rfl
    | cons d queue =>
      refine .inr ⟨d, queue, rfl, ?_⟩
      simp only [nativeReceive, later_tick, later_client, hreceive, hqueue]
      rfl

theorem receiveFromLoop_ends {K waitFuel maximumSize : Nat} {deadline : Int}
    (hK : timePointMax ≤ w.clock K) (hd : deadline ≤ timePointMax) (hwait : K < waitFuel)
    {fuel : Nat} (hfuel : K - s.tick < fuel) :
    ∃ r t, receiveFromLoop w maximumSize deadline waitFuel fuel s = some (r, t) ∧
      Received maximumSize s r t := by
  induction fuel generalizing s with
  | zero => exact absurd hfuel (Nat.not_lt_zero _)
  | succ fuel ih =>
    rw [receiveFromLoop]
    obtain ⟨e, k, hrun, hk, he⟩ := wait_ends hK hd (s := clientState s) hwait
    rw [bind_some (onClient_later hrun)]
    by_cases hok : e.ok = true
    · rw [if_neg (by simp [hok])]
      have hlater : K - (k + 1) < fuel := by
        have hlt : s.tick < k := hk
        have hbefore : s.tick < K := he hok
        omega
      obtain ⟨code, hnative⟩ | ⟨d, queue, hqueue, hnative⟩ :=
        nativeReceive_cases (w := w) (s := s) maximumSize k
      · -- the call failed: the loop goes on, or the receive ends
        rw [bind_some hnative]
        simp only
        split
        · exact ih (s := s.later (k + 1)) hlater
        · exact ⟨_, _, rfl, .inl ⟨⟨rfl, socketError_ok ..⟩, rfl⟩⟩
      · rw [bind_some hnative]
        exact ⟨_, _, rfl, .inr ⟨d, hqueue, receivedResult_reports maximumSize d⟩⟩
    · have hok : e.ok = false := by simpa using hok
      rw [if_pos (by simp [hok])]
      exact ⟨_, _, rfl, .inl ⟨⟨rfl, hok⟩, rfl⟩⟩

theorem receiveFrom_ends (w : UdpReaderWorld) (maximumSize : Nat) (timeout : Int)
    (allocates : Bool) (s : CallState UdpReader) :
    ∃ r t, receiveFrom w maximumSize timeout allocates s = some (r, t) ∧
      Received maximumSize s r t := by
  rw [receiveFrom, bind_some (get_run s)]
  split
  · exact ⟨_, _, rfl, .inl ⟨⟨rfl, rfl⟩, rfl⟩⟩
  split
  · exact ⟨_, _, rfl, .inl ⟨⟨rfl, rfl⟩, rfl⟩⟩
  split
  · exact ⟨_, _, rfl, .inl ⟨⟨rfl, rfl⟩, rfl⟩⟩
  rw [bind_some (observe_run s _)]
  exact receiveFromLoop_ends (s := s.later (s.tick + 1)) w.clock_horizon
    (operationDeadline_le (w.clock s.tick) timeout) (Nat.lt_succ_self _)
    (Nat.lt_succ_of_le (Nat.sub_le _ _))

/-- Closing leaves what has arrived. -/
theorem onClient_close (s : CallState UdpReader) :
    ∃ t, onClient close s = some (⟨⟩, t) ∧ t.client.queue = s.client.queue := by
  rw [onClient, withPart, close_run]
  exact ⟨_, rfl, rfl⟩

end

end WSE.Proof.Xpt.UdpClient

namespace WSE.Proof.Xpt

open WSE.Framework WSE.Impl.Xpt WSE.Spec.Xpt

theorem delivers_next {m : Mailbox} (h : m.Delivers) (a : Mailbox.Action) :
    ∃ n, m.step a = some n ∧ n.Delivers := by
  obtain ⟨handed, harrived, hreports⟩ := h
  cases a with
  | arrive d =>
    refine ⟨_, rfl, handed, ?_, hreports⟩
    show m.arrived ++ [d] = handed ++ (m.reader.client.queue ++ [d])
    rw [harrived, List.append_assoc]
  | receiveFrom w maximumSize timeout allocates =>
    obtain ⟨r, t, hr, hreceived⟩ :=
      UdpClient.receiveFrom_ends w maximumSize timeout allocates m.reader
    have hstep : m.step (.receiveFrom w maximumSize timeout allocates) =
        some { m with reader := t, receives := m.receives ++ [(maximumSize, r)] } := by
      rw [Mailbox.step, hr]
      rfl
    rcases hreceived with ⟨hnothing, hqueue⟩ | ⟨d, hqueue, hd⟩
    · refine ⟨_, hstep, handed, ?_, .nothing maximumSize hreports hnothing⟩
      rw [harrived, ← hqueue]
    · refine ⟨_, hstep, handed ++ [d], ?_, .report hreports hd⟩
      rw [harrived, hqueue, List.append_assoc]
      rfl
  | close =>
    obtain ⟨t, ht, hqueue⟩ := UdpClient.onClient_close m.reader
    have hstep : m.step .close = some { m with reader := t } := by
      rw [Mailbox.step, ht]
      rfl
    exact ⟨_, hstep, handed, by rw [harrived, ← hqueue], hreports⟩

/-- Whatever arrives and whatever the worlds of the receives: each receive ends, and the datagrams
that the operating system has handed over are reported one after the other, each by one receive: as
a whole, or by its first bytes with an error, or by an error alone if its source cannot be decoded.
No other receive takes a datagram. -/
theorem udp_receives (client : UdpImpl) (actions : List Mailbox.Action) :
    ∃ m, run Mailbox.step (Mailbox.start client) actions = some m ∧ m.Delivers :=
  run_total (fun _ a h => delivers_next h a) ⟨[], rfl, .start⟩ actions

end WSE.Proof.Xpt
