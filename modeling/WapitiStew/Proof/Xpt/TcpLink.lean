import WapitiStew.Proof.Xpt.TcpClient

/-!
# A TCP connection carries what was sent

* `receiveLoop_ends`, `receive_ends`: a receive ends, and took the first bytes that were on their
  way if it succeeded, and none otherwise.
* `checkPeerConnection_ends`: the check takes no byte.
* `tcp_link`: over all calls of both ends, nothing is lost, repeated or reordered.
-/

namespace WSE.Proof.Xpt.TcpClient

open WSE.Framework WSE.Framework.Running WSE.Impl.Xpt WSE.Impl.Xpt.TcpClient WSE.Spec.Xpt

/-! ## The client of a reader -/

section OnClient

variable {α : Type} (s : CallState TcpReader)

/-- The state in which the client of a reader is called. -/
def clientState : CallState (Option TcpImpl) :=
  ⟨s.tick, s.handles, s.lists, s.accepted, s.client.client⟩

theorem onClient_later {x : TcpM α} {a : α} {k : Nat}
    (h : x (clientState s) = some (a, (clientState s).later k)) :
    onClient x s = some (a, s.later k) := withPart_later rfl h

/-- The state after the client was closed. -/
def closedReader : CallState TcpReader :=
  { s with
    handles := s.handles.release (tcpHeld s.client.client)
    client := { s.client with client := s.client.client.map fun _ => {} } }

theorem onClient_close : onClient close s = some (⟨⟩, closedReader s) := by
  rw [onClient, withPart, close_run]
  rfl

variable {s}

theorem exists_client {client : Option TcpImpl} (h : isConnected client = true) :
    ∃ impl, client = some impl := by
  cases client with
  | none => cases h
  | some impl => exact ⟨impl, rfl⟩

/-- A client that is closed after an error. -/
theorem closedReader_closed {e : TransportError} (hs : isConnected s.client.client = true)
    (he : e.ok = false) : KeptOrClosed s e (closedReader s) := by
  obtain ⟨impl, himpl⟩ := exists_client hs
  refine .inr ⟨he, ?_, rfl⟩
  show s.client.client.map _ = _
  rw [himpl]
  rfl

theorem kept_later (e : TransportError) (k : Nat) : KeptOrClosed s e (s.later k) := .inl ⟨rfl, rfl⟩

theorem KeptOrClosed.after {k : Nat} {e : TransportError} {t : CallState TcpReader}
    (h : KeptOrClosed (s.later k) e t) : KeptOrClosed s e t := h

/-- A receive that took nothing. -/
theorem taken_none {maximumSize : Nat} {e : TransportError} {t : CallState TcpReader}
    (he : e.ok = false) (ht : t.client.incoming = s.client.incoming) :
    Taken maximumSize s ⟨[], e⟩ t where
  inOrder := ht.symm
  value := by
    rw [if_neg (by rw [TransferResult.succeeded, he]; exact Bool.false_ne_true)]

end OnClient

/-! ## Receiving -/

section Receive

variable {w : TcpReaderWorld} {s : CallState TcpReader}

theorem receiveFailed_ends (maximumSize : Nat) (hs : isConnected s.client.client = true)
    (code : NativeCode) :
    ∃ r t, receiveFailed w code s = some (r, t) ∧ Taken maximumSize s r t ∧
      KeptOrClosed s r.error t := by
  rw [receiveFailed]
  simp only
  have he := socketError_ok (w := w.toSocketWorld) code .receiveFailed "Receiving TCP data failed."
  split
  · rw [bind_some (onClient_close s)]
    exact ⟨_, _, rfl, taken_none he rfl, closedReader_closed hs he⟩
  · exact ⟨_, _, rfl, taken_none he rfl, .inl ⟨rfl, rfl⟩⟩

theorem receiveLoop_ends {K waitFuel maximumSize : Nat} {deadline : Int}
    (hK : timePointMax ≤ w.clock K) (hd : deadline ≤ timePointMax) (hwait : K < waitFuel)
    {fuel : Nat} (hfuel : K - s.tick < fuel) (hs : isConnected s.client.client = true) :
    ∃ r t, receiveLoop w maximumSize deadline waitFuel fuel s = some (r, t) ∧
      Taken maximumSize s r t ∧ KeptOrClosed s r.error t := by
  induction fuel generalizing s with
  | zero => exact absurd hfuel (Nat.not_lt_zero _)
  | succ fuel ih =>
    rw [receiveLoop]
    obtain ⟨e, k, hrun, hk, he⟩ := wait_ends hK hd (s := clientState s) hwait
    rw [bind_some (onClient_later s hrun)]
    by_cases hok : e.ok = true
    · rw [if_neg (by simp [hok])]
      have hbefore : s.tick < K := he hok
      cases hrecv : w.recv k maximumSize with
      | error code =>
        have hnative : nativeRecv w maximumSize (s.later k) =
            some (.error code, s.later (k + 1)) := by
          simp only [nativeRecv, later_tick, hrecv]
          rfl
        rw [bind_some hnative]
        simp only
        split
        · obtain ⟨r, t, hr, htaken, hkept⟩ := ih (s := s.later (k + 1))
            (by rw [later_tick]; have : s.tick < k := hk; omega) hs
          exact ⟨r, t, hr, ⟨htaken.inOrder, htaken.value⟩, hkept⟩
        · obtain ⟨r, t, hr, htaken, hkept⟩ := receiveFailed_ends (w := w) (s := s.later (k + 1))
            maximumSize hs code
          exact ⟨r, t, hr, ⟨htaken.inOrder, htaken.value⟩, hkept⟩
      | ok n =>
        generalize hu : ({ s.later (k + 1) with
          client := { s.client with incoming := s.client.incoming.drop n } } :
            CallState TcpReader) = u
        have hnative : nativeRecv w maximumSize (s.later k) =
            some (.ok (s.client.incoming.take n), u) := by
          simp only [nativeRecv, later_tick, hrecv, ← hu]
          rfl
        have hsplit : s.client.incoming = s.client.incoming.take n ++ u.client.incoming := by
          rw [← hu]
          exact (List.take_append_drop n _).symm
        have hclient : u.client.client = s.client.client := hu ▸ rfl
        have hhandles : u.handles = s.handles := hu ▸ rfl
        have hlength : (s.client.incoming.take n).length ≤ maximumSize :=
          Nat.le_trans (List.length_take_le _ _) (w.recv_le hrecv)
        rw [bind_some hnative]
        generalize s.client.incoming.take n = received at hsplit hlength
        cases received with
        | nil =>
          simp only
          rw [bind_some (onClient_close u)]
          refine ⟨_, _, rfl, taken_none rfl hsplit.symm, ?_⟩
          have hclosed := closedReader_closed (s := u) (e := remoteClosedError)
            (hclient ▸ hs) rfl
          rw [KeptOrClosed, hclient, hhandles] at hclosed
          exact hclosed
        | cons byte received =>
          refine ⟨_, _, rfl, ⟨hsplit, ?_⟩, .inl ⟨hclient, hhandles⟩⟩
          exact ⟨List.cons_ne_nil _ _, hlength⟩
    · have hok : e.ok = false := by simpa using hok
      rw [if_pos (by simp [hok])]
      exact ⟨_, _, rfl, taken_none hok rfl, kept_later e k⟩

theorem receive_ends (w : TcpReaderWorld) (maximumSize : Nat) (timeout : Int) (allocates : Bool)
    (s : CallState TcpReader) :
    ∃ r t, receive w maximumSize timeout allocates s = some (r, t) ∧ Taken maximumSize s r t ∧
      KeptOrClosed s r.error t := by
  rw [receive, bind_some (get_run s)]
  split
  · exact ⟨_, _, rfl, taken_none rfl rfl, .inl ⟨rfl, rfl⟩⟩
  rename_i hs
  split
  · exact ⟨_, _, rfl, taken_none rfl rfl, .inl ⟨rfl, rfl⟩⟩
  split
  · exact ⟨_, _, rfl, taken_none rfl rfl, .inl ⟨rfl, rfl⟩⟩
  rw [bind_some (observe_run s _)]
  obtain ⟨r, t, hr, htaken, hkept⟩ := receiveLoop_ends (s := s.later (s.tick + 1))
    w.clock_horizon (operationDeadline_le (w.clock s.tick) timeout) (Nat.lt_succ_self _)
    (Nat.lt_succ_of_le (Nat.sub_le _ _)) (by simpa using hs)
  exact ⟨r, t, hr, ⟨htaken.inOrder, htaken.value⟩, hkept⟩

/-! ## Checking the connection -/

/-- A check takes no byte. -/
def Peeked (s : CallState TcpReader) (status : TransportStatus) (t : CallState TcpReader) : Prop :=
  t.client.incoming = s.client.incoming ∧
    KeptOrClosed s (match status with | .ok _ => {} | .error e => e) t

theorem peekLoop_ends (attempts : Nat) (hs : isConnected s.client.client = true) :
    ∃ status t, peekLoop w attempts s = some (status, t) ∧ Peeked s status t := by
  induction attempts generalizing s with
  | zero =>
    rw [peekLoop, bind_some (onClient_close s)]
    exact ⟨_, _, rfl, rfl, closedReader_closed hs rfl⟩
  | succ attempts ih =>
    rw [peekLoop, bind_some (observe_run s _)]
    have hclosed {e : TransportError} (he : e.ok = false) :
        Peeked s (.error e) (closedReader (s.later (s.tick + 1))) :=
      ⟨rfl, closedReader_closed (s := s.later (s.tick + 1)) hs he⟩
    cases w.peek s.tick with
    | ok pending =>
      cases pending with
      | true => exact ⟨_, _, rfl, rfl, kept_later _ _⟩
      | false =>
        simp only
        rw [bind_some (onClient_close _)]
        exact ⟨_, _, rfl, hclosed rfl⟩
    | error code =>
      simp only
      split
      · exact ⟨_, _, rfl, rfl, kept_later _ _⟩
      split
      · obtain ⟨status, t, hr, hpeeked⟩ := ih (s := s.later (s.tick + 1)) hs
        exact ⟨status, t, hr, hpeeked⟩
      · rw [bind_some (onClient_close _)]
        exact ⟨_, _, rfl, hclosed (socketError_ok ..)⟩

theorem checkPeerConnection_ends (w : TcpReaderWorld) (s : CallState TcpReader) :
    ∃ status t, checkPeerConnection w s = some (status, t) ∧ Peeked s status t := by
  rw [checkPeerConnection, bind_some (get_run s)]
  split
  · exact ⟨_, _, rfl, rfl, .inl ⟨rfl, rfl⟩⟩
  · rename_i hs
    exact peekLoop_ends 4 (by simpa using hs)

end Receive

end WSE.Proof.Xpt.TcpClient

namespace WSE.Proof.Xpt

open WSE.Framework WSE.Impl.Xpt WSE.Spec.Xpt WSE.Spec.Xpt.Link

/-! ## Links -/

theorem socketKept_next {receiver : TcpImpl} {s t : CallState TcpReader} {e : TransportError}
    (h : SocketKept receiver s) (ht : KeptOrClosed s e t) : SocketKept receiver t := by
  rcases ht with ⟨hclient, hhandles⟩ | ⟨-, hclient, hhandles⟩
  · rw [SocketKept, hclient, hhandles]
    exact h
  · refine .inr ⟨hclient, ?_⟩
    rcases h with ⟨hs, hempty⟩ | ⟨hs, hreleased⟩
    · rw [hhandles, hs, hempty]
      rfl
    · rw [hhandles, hs, hreleased]
      exact Ledger.release_nil _

/-- The link carries what was sent, and what was sent is what was accepted. -/
structure Joined (receiver : TcpImpl) (l : Link) : Prop where
  accepted : l.sender.accepted = l.sent
  carries : l.Carries
  kept : SocketKept receiver l.receiver

theorem Joined.next {receiver : TcpImpl} {l : Link} (h : Joined receiver l) (a : Link.Action) :
    ∃ m, l.step a = some m ∧ Joined receiver m := by
  cases a with
  | send w data timeout =>
    obtain ⟨r, t, hr, hsent, -⟩ := TcpClient.send_ends (w := w) data timeout l.sender
    refine ⟨_, by rw [Link.step, hr]; rfl, ?_⟩
    have hmore : (l.sends ++ [(data.bytes, r)]).flatMap (fun s => s.1.take s.2.value) =
        l.sent ++ data.bytes.take r.value := by
      rw [List.flatMap_append, List.flatMap_singleton, Link.sent]
    refine ⟨?_, ⟨?_, h.carries.values⟩, h.kept⟩
    · show t.accepted = (l.sends ++ [(data.bytes, r)]).flatMap _
      rw [hmore, hsent.accepted, h.accepted]
    · show l.received ++ (l.receiver.client.incoming ++ t.accepted.drop l.sender.accepted.length) =
        (l.sends ++ [(data.bytes, r)]).flatMap _
      rw [hmore, hsent.accepted, List.drop_left, ← List.append_assoc, h.carries.inOrder]
  | receive w maximumSize timeout allocates =>
    obtain ⟨r, t, hr, htaken, hkept⟩ := TcpClient.receive_ends w maximumSize timeout allocates l.receiver
    have hstep : l.step (.receive w maximumSize timeout allocates) =
        some { l with receiver := t, receives := l.receives ++ [(maximumSize, r)] } := by
      rw [Link.step, hr]
      rfl
    refine ⟨_, hstep, h.accepted, ⟨?_, ?_⟩, socketKept_next h.kept hkept⟩
    · show (l.receives ++ [(maximumSize, r)]).flatMap (·.2.value) ++ t.client.incoming = l.sent
      rw [List.flatMap_append, List.flatMap_singleton, List.append_assoc, ← htaken.inOrder]
      exact h.carries.inOrder
    · intro x hx
      rcases List.mem_append.mp hx with hx | hx
      · exact h.carries.values x hx
      · rw [List.mem_singleton.mp hx]
        exact htaken.value
  | checkPeerConnection w =>
    obtain ⟨status, t, hr, hincoming, hkept⟩ := TcpClient.checkPeerConnection_ends w l.receiver
    have hstep : l.step (.checkPeerConnection w) = some { l with receiver := t } := by
      rw [Link.step, hr]
      rfl
    refine ⟨_, hstep, h.accepted, ⟨?_, h.carries.values⟩, socketKept_next h.kept hkept⟩
    show l.received ++ t.client.incoming = l.sent
    rw [hincoming, h.carries.inOrder]
  | disconnectSender =>
    refine ⟨_, by rw [Link.step, TcpClient.disconnect, TcpClient.close_run]; rfl, ?_⟩
    exact ⟨h.accepted, ⟨h.carries.inOrder, h.carries.values⟩, h.kept⟩
  | disconnectReceiver =>
    refine ⟨_, by rw [Link.step, TcpClient.disconnect, TcpClient.onClient_close]; rfl, ?_⟩
    refine ⟨h.accepted, ⟨h.carries.inOrder, h.carries.values⟩, ?_⟩
    rcases h.kept with ⟨hs, hempty⟩ | ⟨hs, hreleased⟩
    · rw [SocketKept, TcpClient.closedReader, hs, hempty]
      exact .inr ⟨rfl, rfl⟩
    · rw [SocketKept, TcpClient.closedReader, hs, hreleased]
      exact .inr ⟨rfl, Ledger.release_nil _⟩

/-- Whatever the calls of both ends and their worlds: each call ends, and what the receives have
returned, followed by what is still on its way, is what the sends have counted, in order. A receive
that fails takes nothing, and the receiver's socket is closed once at most. -/
theorem tcp_link (sender receiver : TcpImpl) (actions : List Link.Action) :
    ∃ l, run Link.step (Link.start sender receiver) actions = some l ∧ l.Carries ∧
      SocketKept receiver l.receiver := by
  have hstart : Joined receiver (Link.start sender receiver) :=
    ⟨rfl, ⟨rfl, fun r hr => absurd hr List.not_mem_nil⟩, .inl ⟨rfl, rfl⟩⟩
  obtain ⟨l, hl, h⟩ := run_total (fun _ a h => Joined.next h a) hstart actions
  exact ⟨l, hl, h.carries, h.kept⟩

end WSE.Proof.Xpt
