import WapitiStew.Proof.Xpt.Calls
import WapitiStew.Spec.Xpt.Streams

/-!
# The TCP client

* `sendLoop_ends`, `send_ends`: a send ends, what the operating system accepted
  is what the result counts, and the handle was kept or closed.
* `connectLoop_ends`: the sockets of the loop are closed, or one is committed.
* `connect_ends`: what `connect` leaves.
-/

namespace WSE.Proof.Xpt

open WSE.Framework WSE.Framework.Running WSE.Impl.Xpt WSE.Spec.Xpt

/-! ## Streams -/

theorem streamSent_failed {data base accepted : Bytes} {n : Nat} {e : TransportError}
    (hacc : accepted = base ++ data.take n) (hn : n ≤ data.length) (he : e.ok = false)
    (hu : e.category = .timeout ∨ e.category = .cancellation → n < data.length) :
    StreamSent data base accepted ⟨n, e⟩ where
  accepted := hacc
  counted := hn
  whole h := by
    rw [TransferResult.succeeded, he] at h
    exact absurd h Bool.false_ne_true
  unfinished := hu

theorem streamSent_short {data base accepted : Bytes} {n : Nat} {e : TransportError}
    (hacc : accepted = base ++ data.take n) (hn : n < data.length) (he : e.ok = false) :
    StreamSent data base accepted ⟨n, e⟩ :=
  streamSent_failed hacc (Nat.le_of_lt hn) he fun _ => hn

theorem streamSent_whole {data base accepted : Bytes} {n : Nat}
    (hacc : accepted = base ++ data.take n) (hn : n ≤ data.length) (hw : data.length ≤ n) :
    StreamSent data base accepted ⟨n, {}⟩ where
  accepted := hacc
  counted := hn
  whole _ := Nat.le_antisymm hn hw
  unfinished h := by
    obtain h | h := h
    · cases h
    · cases h

/-- A call that is rejected. -/
theorem streamSent_rejected {data : Bytes} (base : Bytes) {e : TransportError}
    (he : e.category = .validation ∨ e.category = .connection) :
    StreamSent data base base ⟨0, e⟩ := by
  refine streamSent_failed (List.append_nil _).symm (Nat.zero_le _) ?_ fun h => by grind
  unfold TransportError.ok
  obtain he | he := he
  · rw [he]
    rfl
  · rw [he]
    rfl

/-- What is taken from the start of a request that starts behind `sent` bytes. -/
theorem accepted_append {data base accepted request : Bytes} {sent n : Nat}
    (hacc : accepted = base ++ data.take sent) (hsent : sent ≤ data.length)
    (hreq : request <+: data.drop sent) (hn : n ≤ request.length) :
    accepted ++ request.take n = base ++ data.take (sent + n) ∧ sent + n ≤ data.length := by
  obtain ⟨rest, hrest⟩ := hreq
  have hlen := congrArg List.length hrest
  rw [List.length_append, List.length_drop] at hlen
  constructor
  · have htake : request.take n = (data.drop sent).take n := by
      rw [← hrest, List.take_append_of_le_length hn]
    rw [hacc, List.append_assoc, htake, List.take_add]
  · omega

namespace TcpClient

open WSE.Impl.Xpt.TcpClient

variable {w : SocketWorld}

/-- The state after `close`. -/
def closed (s : CallState (Option TcpImpl)) : CallState (Option TcpImpl) :=
  { s with handles := s.handles.release (tcpHeld s.client), client := s.client.map fun _ => {} }

theorem close_run (s : CallState (Option TcpImpl)) : close s = some (⟨⟩, closed s) := by
  obtain ⟨tick, handles, lists, accepted, client⟩ := s
  cases client with
  | none =>
    show some (PUnit.unit, _) = some (PUnit.unit, closed _)
    rw [closed, show tcpHeld none = [] from rfl, Ledger.release_nil]
    rfl
  | some impl => rfl

theorem balanced_closed {s : CallState (Option TcpImpl)} (hs : Owns tcpHeld s) :
    Balanced tcpHeld s (closed s) := by
  refine .closed hs rfl rfl ?_
  show tcpHeld (s.client.map _) = []
  cases s.client with
  | none => rfl
  | some _ => rfl

theorem settles_closed (s : CallState (Option TcpImpl)) : Settles tcpHeld s (closed s) :=
  balanced_closed

theorem socketError_ok (code : NativeCode) (fallback : TransportErrorCode) (message : String) :
    (socketError w code fallback message).ok = false := by
  cases code with
  | brokenPipe =>
    rw [socketError]
    split
    · rfl
    · rfl
  | _ => rfl

theorem wait_ends {K : Nat} {deadline : Int} (hK : timePointMax ≤ w.clock K)
    (hd : deadline ≤ timePointMax) {fuel : Nat} {s : CallState (Option TcpImpl)}
    (hfuel : K < fuel) :
    ∃ e k, wait w deadline fuel s = some (e, s.later k) ∧ s.tick < k ∧
      (e.ok = true → s.tick < K) :=
  waitForSocket_ends hK hd _ _ (by omega)

/-! ## Sending -/

theorem sendFailed_ends {s : CallState (Option TcpImpl)} {data base : Bytes}
    {sent : Nat} (hacc : s.accepted = base ++ data.take sent) (hsent : sent < data.length)
    (code : NativeCode) :
    ∃ r t, sendFailed w sent code s = some (r, t) ∧ StreamSent data base t.accepted r ∧
      Settles tcpHeld s t := by
  rw [sendFailed]
  simp only
  split
  · rw [bind_some (close_run s)]
    exact ⟨_, _, rfl, streamSent_short hacc hsent (socketError_ok ..), settles_closed s⟩
  · exact ⟨_, _, rfl, streamSent_short hacc hsent (socketError_ok ..), settles_refl s⟩

theorem sendLoop_ends {K waitFuel : Nat} {deadline : Int} (hK : timePointMax ≤ w.clock K)
    (hd : deadline ≤ timePointMax) (hwait : K < waitFuel) {data base : Bytes} {fuel sent : Nat}
    {s : CallState (Option TcpImpl)} (hfuel : K - s.tick < fuel)
    (hsent : sent ≤ data.length) (hacc : s.accepted = base ++ data.take sent) :
    ∃ r t, sendLoop w data deadline waitFuel fuel sent s = some (r, t) ∧
      StreamSent data base t.accepted r ∧ Settles tcpHeld s t := by
  induction fuel generalizing s sent with
  | zero => exact absurd hfuel (Nat.not_lt_zero _)
  | succ fuel ih =>
    rw [sendLoop]
    by_cases hw : data.length ≤ sent
    · rw [if_pos hw]
      exact ⟨_, _, rfl, streamSent_whole hacc hsent hw, settles_refl s⟩
    rw [if_neg hw]
    have hlt : sent < data.length := Nat.lt_of_not_le hw
    obtain ⟨e, k, hrun, hk, he⟩ := wait_ends hK hd (s := s) hwait
    have hlater : Settles tcpHeld s (s.later k) := settles_later s k
    rw [bind_some hrun]
    by_cases hok : e.ok = true
    · rw [if_neg (by simp [hok])]
      have hbefore := he hok
      generalize hreq : (data.drop sent).take (min (data.length - sent) intMax) = request
      have hprefix : request <+: data.drop sent := hreq ▸ List.take_prefix _ _
      cases hsend : w.send k request.length with
      | error code =>
        have hnative : nativeSend w request (s.later k) = some (.error code, s.later (k + 1)) := by
          simp only [nativeSend, later_tick, hsend]
          rfl
        have hnext : Settles tcpHeld s (s.later (k + 1)) := settles_later s _
        rw [bind_some hnative]
        simp only
        split
        · obtain ⟨r, t, hr, hst, hb⟩ := ih (s := s.later (k + 1)) (by rw [later_tick]; omega) hsent hacc
          exact ⟨r, t, hr, hst, hnext.trans hb⟩
        · obtain ⟨r, t, hr, hst, hb⟩ := sendFailed_ends (w := w) (s := s.later (k + 1)) hacc hlt code
          exact ⟨r, t, hr, hst, hnext.trans hb⟩
      | ok n =>
        obtain ⟨happ, hle⟩ := accepted_append hacc hsent hprefix (w.send_le hsend)
        generalize hu : { s.later (k + 1) with accepted := s.accepted ++ request.take n } = u
        have hnative : nativeSend w request (s.later k) = some (.ok n, u) := by
          simp only [nativeSend, later_tick, hsend, ← hu]
          rfl
        have hnext : Settles tcpHeld s u := hu ▸ settles_same rfl rfl rfl
        have hacc' : u.accepted = base ++ data.take (sent + n) := hu ▸ happ
        have htick : u.tick = k + 1 := hu ▸ rfl
        rw [bind_some hnative]
        cases n with
        | zero =>
          simp only
          rw [bind_some (close_run u)]
          exact ⟨_, _, rfl, streamSent_short hacc' hlt rfl,
            hnext.trans (settles_closed u)⟩
        | succ n =>
          obtain ⟨r, t, hr, hst, hb⟩ := ih (s := u) (by omega) hle hacc'
          exact ⟨r, t, hr, hst, hnext.trans hb⟩
    · have hok : e.ok = false := by simpa using hok
      rw [if_pos (by simp [hok])]
      exact ⟨_, _, rfl, streamSent_short hacc hlt hok, hlater⟩

theorem send_ends (data : SendData) (timeout : Int) (s : CallState (Option TcpImpl)) :
    ∃ r t, send w data timeout s = some (r, t) ∧
      StreamSent data.bytes s.accepted t.accepted r ∧ Settles tcpHeld s t := by
  rw [send, bind_some (get_run s)]
  split
  · exact ⟨_, _, rfl, streamSent_rejected _ (.inr rfl), settles_refl s⟩
  split
  · exact ⟨_, _, rfl, streamSent_rejected _ (.inl rfl), settles_refl s⟩
  have hacc : s.accepted = s.accepted ++ data.bytes.take 0 := (List.append_nil _).symm
  split
  · rename_i hempty
    have hlen : data.bytes.length = 0 := by simpa using hempty
    exact ⟨_, _, rfl, streamSent_whole hacc (Nat.zero_le _) (by omega), settles_refl s⟩
  rw [bind_some (observe_run s _)]
  obtain ⟨r, t, hr, hst, hb⟩ := sendLoop_ends (s := s.later (s.tick + 1))
    w.clock_horizon (operationDeadline_le (w.clock s.tick) timeout) (Nat.lt_succ_self _)
    (Nat.lt_succ_of_le (Nat.sub_le _ _)) (Nat.zero_le _) hacc
  exact ⟨r, t, hr, hst, (settles_later s _).trans hb⟩

/-! ## Connecting -/

section Connect

variable {K fuel : Nat} {deadline : Int} {s : CallState (Option TcpImpl)}

theorem finishConnect_asks (hK : timePointMax ≤ w.clock K) (hd : deadline ≤ timePointMax)
    (hfuel : K < fuel) : Asks (finishConnect w deadline fuel) s := by
  obtain ⟨e, k, hrun, hk, -⟩ := wait_ends hK hd (s := s) hfuel
  refine Asks.bind ⟨e, k, hrun, Nat.le_of_lt hk⟩ fun e k _ => ?_
  split
  · split
    · exact asks_pure _ _
    · exact asks_pure _ _
  · refine (asks_observe _ _).bind fun error k _ => ?_
    cases error with
    | none => exact asks_pure _ _
    | some _ => exact asks_pure _ _

theorem setUpSocket_asks (hK : timePointMax ≤ w.clock K) (hd : deadline ≤ timePointMax)
    (hfuel : K < fuel) : Asks (setUpSocket w deadline fuel) s := by
  refine (asks_observe _ _).bind fun error k _ => ?_
  cases error with
  | some _ => exact asks_pure _ _
  | none =>
    refine (asks_observe _ _).bind fun error k _ => ?_
    cases error with
    | none => exact asks_pure _ _
    | some code =>
      simp only
      split
      · exact asks_pure _ _
      · exact finishConnect_asks hK hd hfuel

/-- A new socket was committed, or none is left. -/
structure Connected (endpoint : Endpoint) (committed : Bool) (s t : CallState (Option TcpImpl)) :
    Prop where
  lists : t.lists = s.lists
  handles : if committed then ∃ h localEndpoint,
      t.client = some ⟨some h, endpoint, localEndpoint⟩ ∧ s.handles.Changes t.handles [] [h]
    else t.client = s.client ∧ s.handles.Changes t.handles [] []

theorem Connected.none {endpoint : Endpoint} (hs : s.handles.Sound) (k : Nat) :
    Connected endpoint false s (s.later k) :=
  ⟨rfl, rfl, .refl hs⟩

theorem connectCandidate_ends (hK : timePointMax ≤ w.clock K) (hd : deadline ≤ timePointMax)
    (hfuel : K < fuel) (endpoint : Endpoint) (hs : s.handles.Sound) :
    ∃ o t, connectCandidate w endpoint deadline fuel s = some (o, t) ∧
      Connected endpoint (isDone o) s t := by
  unfold connectCandidate
  obtain hopen | ⟨code, hopen⟩ := openHandle_cases w.socket s
  · rw [bind_some hopen]
    have hopened := Ledger.Changes.acquire hs
    obtain ⟨o, k, hset, -⟩ := setUpSocket_asks (w := w) hK hd hfuel
      (s := { s with tick := s.tick + 1, handles := s.handles.acquire })
    simp only
    rw [bind_some hset]
    cases o with
    | done => exact ⟨_, _, rfl, rfl, _, _, rfl, hopened⟩
    | next e => exact ⟨_, _, rfl, rfl, rfl, hopened.undo (by simp)⟩
    | stop e => exact ⟨_, _, rfl, rfl, rfl, hopened.undo (by simp)⟩
  · rw [bind_some hopen]
    exact ⟨_, _, rfl, .none hs _⟩

theorem connectLoop_ends (hK : timePointMax ≤ w.clock K) (hd : deadline ≤ timePointMax)
    (hfuel : K < fuel) (endpoint : Endpoint) (addresses : List Address)
    (lastError : TransportError) (hs : s.handles.Sound) :
    ∃ status t, connectLoop w endpoint deadline fuel addresses lastError s = some (status, t) ∧
      Connected endpoint status.isOk s t := by
  induction addresses generalizing s lastError with
  | nil => exact ⟨_, _, rfl, .none hs s.tick⟩
  | cons address addresses ih =>
    rw [connectLoop, bind_some (observe_run s _)]
    split
    · exact ⟨_, _, rfl, .none hs _⟩
    rw [bind_some (observe_run _ _)]
    split
    · exact ⟨_, _, rfl, .none hs _⟩
    obtain ⟨o, t, hrun, ht⟩ := connectCandidate_ends (w := w) hK hd hfuel endpoint
      (s := s.later (s.tick + 2)) hs
    have ht : Connected endpoint (isDone o) s t := ⟨ht.lists, ht.handles⟩
    rw [later_later, later_tick, bind_some hrun]
    cases o with
    | done => exact ⟨_, t, rfl, ht⟩
    | stop e => exact ⟨_, t, rfl, ht⟩
    | next e =>
      obtain ⟨hlists, hclient, hchanges⟩ := ht
      obtain ⟨status, u, hr, hlists', hu⟩ := ih (s := t) e hchanges.after
      refine ⟨status, u, hr, hlists'.trans hlists, ?_⟩
      cases status with
      | ok _ =>
        obtain ⟨h, l, hc, hch⟩ := hu
        exact ⟨h, l, hc, hchanges.trans_left hch⟩
      | error _ => exact ⟨hu.1.trans hclient, hchanges.trans_left hu.2⟩

/-- After the checks the old socket is closed, once, and a new one may be committed. -/
theorem connectChecked_ends (hK : timePointMax ≤ w.clock K) (hfuel : K < fuel)
    (endpoint : Endpoint) (timeout : Int) (hs : Owns tcpHeld s) (hc : s.client.isSome) :
    ∃ status t, connectChecked w endpoint timeout fuel s = some (status, t) ∧
      s.lists.Changes t.lists [] [] ∧
      match status with
      | .ok _ => ∃ h localEndpoint, t.client = some ⟨some h, endpoint, localEndpoint⟩ ∧
          s.handles.Changes t.handles (tcpHeld s.client) [h]
      | .error _ => t.client = some {} ∧ s.handles.Changes t.handles (tcpHeld s.client) [] := by
  have hrelease := Ledger.Changes.release hs.handles hs.isOpen hs.once
  have hempty : (closed s).client = some {} := by
    obtain ⟨impl, himpl⟩ := Option.isSome_iff_exists.mp hc
    show s.client.map _ = _
    rw [himpl]
    rfl
  rw [connectChecked, bind_some (close_run s), bind_some (observe_run _ _)]
  cases initializeSockets w with
  | some code => exact ⟨_, _, rfl, .refl hs.lists, hempty, hrelease⟩
  | none =>
    obtain ⟨addresses, hget⟩ | ⟨code, hget⟩ :=
      getaddrinfo_cases w ((closed s).later ((closed s).tick + 1))
    · simp only
      rw [bind_some hget]
      generalize hu : ({ (closed s).later _ with tick := _, lists := _ } :
        CallState (Option TcpImpl)) = u at hget
      have huh : u.handles = s.handles.release (tcpHeld s.client) := hu ▸ rfl
      have hul : u.lists = s.lists.acquire := hu ▸ rfl
      have huc : u.client = some {} := hu ▸ hempty
      have hdeadline : (tcpDeadline (w.clock (closed s).tick) timeout).value ≤ timePointMax :=
        operationDeadline_le _ _
      obtain ⟨status, t, hrun, hlists, ht⟩ := connectLoop_ends hK hdeadline hfuel endpoint
        addresses noAddressError (s := u) (huh ▸ hrelease.after)
      have hfree : s.lists.Changes (t.lists.release [s.lists.acquired]) [] [] := by
        rw [hlists, hul]
        exact (Ledger.Changes.acquire hs.lists).undo (by simp)
      simp only
      rw [bind_some hrun]
      refine ⟨status, _, rfl, hfree, ?_⟩
      cases status with
      | ok _ =>
        obtain ⟨h, l, hclient, hchanges⟩ := ht
        exact ⟨h, l, hclient, hrelease.replace (huh ▸ hchanges)⟩
      | error _ => exact ⟨ht.1.trans huc, hrelease.trans_right (huh ▸ ht.2)⟩
    · simp only
      rw [bind_some hget]
      exact ⟨_, _, rfl, .refl hs.lists, hempty, hrelease⟩

theorem connect_ends (endpoint : Endpoint) (timeout : Int) (hs : Owns tcpHeld s) :
    ∃ status t, connect w endpoint timeout s = some (status, t) ∧
      ConnectSettled w endpoint timeout s status t ∧ Balanced tcpHeld s t := by
  have hrejected (e : TransportError) (k : Nat)
      (h : connectRejected w endpoint timeout s = true) :
      ConnectSettled w endpoint timeout s (.error e) (s.later k) := by
    rw [ConnectSettled, if_pos h]
    exact ⟨rfl, rfl, rfl, rfl⟩
  have hasked (k : Nat) : Balanced tcpHeld s (s.later k) := .same hs rfl rfl rfl
  rw [connect, bind_some (get_run s)]
  by_cases hmoved : s.client.isNone = true
  · rw [if_pos hmoved]
    exact ⟨_, _, rfl, hrejected _ s.tick (by simp [connectRejected, hmoved]), hasked _⟩
  rw [if_neg hmoved]
  by_cases hendpoint : (!endpoint.isValid) = true
  · rw [if_pos hendpoint]
    exact ⟨_, _, rfl, hrejected _ s.tick (by simp [connectRejected, hendpoint]), hasked _⟩
  rw [if_neg hendpoint]
  by_cases htime : (!decide (0 ≤ timeout)) = true
  · rw [if_pos htime]
    exact ⟨_, _, rfl, hrejected _ s.tick (by simp [connectRejected, htime]), hasked _⟩
  rw [if_neg htime, bind_some (observe_run s _)]
  by_cases hcancel : w.cancelled s.tick = true
  · rw [if_pos hcancel]
    exact ⟨_, _, rfl, hrejected _ _ (by simp [connectRejected, hcancel]), hasked _⟩
  rw [if_neg hcancel]
  have hnot : connectRejected w endpoint timeout s = false := by
    rw [connectRejected]
    simp only [Bool.or_eq_false_iff]
    simp only [Bool.eq_false_iff]
    exact ⟨⟨⟨hmoved, hendpoint⟩, htime⟩, hcancel⟩
  have hsome : s.client.isSome = true := by
    cases h : s.client with
    | none => exact absurd (by rw [h]; rfl) hmoved
    | some _ => rfl
  obtain ⟨status, t, hrun, hlists, ht⟩ := connectChecked_ends w.clock_horizon
    (Nat.lt_succ_self _) endpoint timeout
    ((hasked (s.tick + 1)).owns hs) hsome
  refine ⟨status, t, hrun, ?_, hlists, ?_, ?_⟩
  · unfold ConnectSettled
    rw [if_neg (by rw [hnot]; decide)]
    exact ⟨hlists, ht⟩
  · cases status with
    | ok _ =>
      obtain ⟨h, l, hclient, hchanges⟩ := ht
      exact .inr (by rw [hclient]; exact hchanges)
    | error _ => exact .inr (by rw [ht.1]; exact ht.2)
  · cases status with
    | ok _ =>
      obtain ⟨h, l, hclient, -⟩ := ht
      rw [hclient]
      exact List.pairwise_singleton _ h
    | error _ => rw [ht.1]; exact List.nodup_nil

end Connect

end TcpClient

end WSE.Proof.Xpt
