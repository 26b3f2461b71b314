import WapitiStew.Proof.Xpt.Calls

/-!
# The UDP client

* `bindLoop_ends`, `bind_ends`: a bind ends; it replaces the client's socket, or
  leaves the client as it was.
* `sendToAddresses_ends`, `sendTo_ends`: a datagram is sent on the client's
  socket or on one that becomes it; a failed send leaves the client as it was.
-/

namespace WSE.Proof.Xpt.UdpClient

open WSE.Framework WSE.Framework.Running WSE.Impl.Xpt WSE.Spec.Xpt
open WSE.Impl.Xpt.UdpClient

variable {w : SocketWorld} {K fuel : Nat} {deadline : Int} {s : CallState (Option UdpImpl)}

/-- The state after `close`. -/
def closed (s : CallState (Option UdpImpl)) : CallState (Option UdpImpl) :=
  { s with handles := s.handles.release (udpHeld s.client), client := s.client.map fun _ => {} }

theorem close_run (s : CallState (Option UdpImpl)) : close s = some (⟨⟩, closed s) := by
  obtain ⟨tick, handles, lists, accepted, client⟩ := s
  cases client with
  | none =>
    show some (PUnit.unit, _) = some (PUnit.unit, closed _)
    rw [closed, show udpHeld none = [] from rfl, Ledger.release_nil]
    rfl
  | some impl => rfl

theorem balanced_closed (hs : Owns udpHeld s) : Balanced udpHeld s (closed s) := by
  refine .closed hs rfl rfl ?_
  show udpHeld (s.client.map _) = []
  cases s.client with
  | none => rfl
  | some _ => rfl

theorem wait_ends (hK : timePointMax ≤ w.clock K) (hd : deadline ≤ timePointMax)
    (hfuel : K < fuel) :
    ∃ e k, wait w deadline fuel s = some (e, s.later k) ∧ s.tick < k ∧
      (e.ok = true → s.tick < K) :=
  waitForSocket_ends hK hd _ _ (by omega)

/-- A call that failed for an address has left the handles open that were open. -/
theorem owns_of_undone {t : CallState (Option UdpImpl)} (hs : Owns udpHeld s)
    (hlists : t.lists = s.lists) (ht : Undone s t) : Owns udpHeld t where
  handles := ht.handles.after
  lists := hlists ▸ hs.lists
  once := by rw [ht.client]; exact hs.once
  isOpen h hh := ht.handles.live_of_live (hs.isOpen h (by rw [← ht.client]; exact hh)) (by simp)

theorem undone_later (hs : Owns udpHeld s) (k : Nat) : Undone s (s.later k) :=
  ⟨.refl hs.handles, rfl⟩

/-! ## Binding -/

theorem setUpSocket_asks : Asks (setUpSocket w) s := by
  refine (asks_observe _ _).bind fun error k _ => ?_
  cases error with
  | some _ => exact asks_pure _ _
  | none =>
    refine (asks_observe _ _).bind fun error k _ => ?_
    cases error with
    | some _ => exact asks_pure _ _
    | none =>
      refine (asks_observe _ _).bind fun candidateLocal k _ => ?_
      split
      · exact asks_pure _ _
      · exact asks_pure _ _

/-- A new socket has replaced the one of the client, or none is left. -/
structure Bound (committed : Bool) (s t : CallState (Option UdpImpl)) : Prop where
  lists : t.lists = s.lists
  handles : if committed then ∃ h family localEndpoint,
      t.client = some ⟨some h, family, localEndpoint⟩ ∧
        s.handles.Changes t.handles (udpHeld s.client) [h]
    else Undone s t

theorem bindCandidate_ends (address : Address) (hs : Owns udpHeld s) :
    ∃ o t, bindCandidate w address s = some (o, t) ∧ Bound (isDone o) s t := by
  unfold bindCandidate
  obtain hopen | ⟨code, hopen⟩ := openHandle_cases w.socket s
  · rw [bind_some hopen]
    have hopened := Ledger.Changes.acquire hs.handles
    obtain ⟨o, k, hset, -⟩ := setUpSocket_asks (w := w)
      (s := { s with tick := s.tick + 1, handles := s.handles.acquire })
    simp only
    rw [bind_some hset]
    cases o with
    | error e => exact ⟨_, _, rfl, rfl, hopened.undo (by simp), rfl⟩
    | ok candidateLocal =>
      simp only
      rw [bind_some (close_run _)]
      exact ⟨_, _, rfl, rfl, _, _, _, rfl, hopened.supersede hs.isOpen hs.once⟩
  · rw [bind_some hopen]
    exact ⟨_, _, rfl, rfl, undone_later hs _⟩

theorem bindLoop_ends (deadline : Int) (addresses : List Address)
    (lastError : TransportError) (hs : Owns udpHeld s) :
    ∃ status t, bindLoop w deadline addresses lastError s = some (status, t) ∧
      Bound status.isOk s t := by
  induction addresses generalizing s lastError with
  | nil => exact ⟨_, _, rfl, rfl, undone_later hs s.tick⟩
  | cons address addresses ih =>
    rw [bindLoop, bind_some (observe_run s _)]
    split
    · exact ⟨_, _, rfl, rfl, undone_later hs _⟩
    rw [bind_some (observe_run _ _)]
    split
    · exact ⟨_, _, rfl, rfl, undone_later hs _⟩
    obtain ⟨o, t, hrun, hlists, ht⟩ := bindCandidate_ends (w := w) address
      (s := s.later (s.tick + 2)) ⟨hs.handles, hs.lists, hs.once, hs.isOpen⟩
    rw [later_later, later_tick, bind_some hrun]
    cases o with
    | done => exact ⟨_, t, rfl, hlists, ht⟩
    | stop e => exact ⟨_, t, rfl, hlists, ht.handles, ht.client⟩
    | next e =>
      obtain ⟨status, u, hr, hlists', hu⟩ := ih (s := t) e
        (owns_of_undone hs hlists ⟨ht.handles, ht.client⟩)
      refine ⟨status, u, hr, hlists'.trans hlists, ?_⟩
      cases status with
      | ok _ =>
        obtain ⟨h, family, l, hc, hch⟩ := hu
        refine ⟨h, family, l, hc, ht.handles.trans_left ?_⟩
        have hclient : t.client = s.client := ht.client
        rw [← hclient]
        exact hch
      | error _ => exact ⟨ht.handles.trans_left hu.handles, hu.client.trans ht.client⟩

/-- What `bind` leaves. -/
theorem bound_settled {status : TransportStatus} {t : CallState (Option UdpImpl)}
    (hlists : s.lists.Changes t.lists [] [])
    (ht : if status.isOk then ∃ h family localEndpoint,
        t.client = some ⟨some h, family, localEndpoint⟩ ∧
          s.handles.Changes t.handles (udpHeld s.client) [h]
      else Undone s t) (hs : Owns udpHeld s) :
    BindSettled s status t ∧ Balanced udpHeld s t := by
  cases status with
  | ok _ =>
    obtain ⟨h, family, l, hc, hch⟩ := ht
    refine ⟨⟨hlists, h, family, l, hc, hch⟩, hlists, .inr ?_, ?_⟩
    · rw [hc]
      exact hch
    · rw [hc]
      exact List.pairwise_singleton _ h
  | error _ =>
    refine ⟨⟨hlists, ht.handles, ht.client⟩, hlists, .inl ⟨ht.handles, ?_⟩, ?_⟩
    · rw [ht.client]
    · rw [ht.client]
      exact hs.once

theorem bindChecked_ends (timeout : Int) (hs : Owns udpHeld s) :
    ∃ status t, bindChecked w timeout s = some (status, t) ∧ BindSettled s status t ∧
      Balanced udpHeld s t := by
  have hrefl := Ledger.Changes.refl hs.lists
  rw [bindChecked, bind_some (observe_run s _)]
  cases initializeSockets w with
  | some code => exact ⟨_, _, rfl, bound_settled hrefl (undone_later hs _) hs⟩
  | none =>
    obtain ⟨addresses, hget⟩ | ⟨code, hget⟩ := getaddrinfo_cases w (s.later (s.tick + 1))
    · simp only
      rw [bind_some hget]
      generalize hu : ({ s.later _ with tick := _, lists := _ } :
        CallState (Option UdpImpl)) = u at hget
      have hul : u.lists = s.lists.acquire := hu ▸ rfl
      have hacquired := Ledger.Changes.acquire hs.lists
      have hus : Owns udpHeld u := by
        rw [← hu]
        exact ⟨hs.handles, hacquired.after, hs.once, hs.isOpen⟩
      obtain ⟨status, t, hrun, hlists, ht⟩ := bindLoop_ends (w := w)
        (udpDeadline (w.clock s.tick) timeout).value addresses noBindAddressError hus
      have hfree : s.lists.Changes (t.lists.release [s.lists.acquired]) [] [] := by
        rw [hlists, hul]
        exact hacquired.undo (by simp)
      simp only
      rw [bind_some hrun]
      refine ⟨status, _, rfl, bound_settled hfree ?_ hs⟩
      subst hu
      cases status with
      | ok _ => exact ht
      | error _ => exact ⟨ht.handles, ht.client⟩
    · simp only
      rw [bind_some hget]
      exact ⟨_, _, rfl, bound_settled hrefl (undone_later hs _) hs⟩

theorem bind_ends (endpoint : Endpoint) (timeout : Int) (hs : Owns udpHeld s) :
    ∃ status t, UdpClient.bind w endpoint timeout s = some (status, t) ∧ BindSettled s status t ∧
      Balanced udpHeld s t := by
  have hrejected (e : TransportError) (k : Nat) :
      BindSettled s (.error e) (s.later k) ∧ Balanced udpHeld s (s.later k) :=
    bound_settled (.refl hs.lists) (undone_later hs k) hs
  rw [UdpClient.bind, bind_some (get_run s)]
  split
  · exact ⟨_, _, rfl, hrejected _ s.tick⟩
  split
  · exact ⟨_, _, rfl, hrejected _ s.tick⟩
  split
  · exact ⟨_, _, rfl, hrejected _ s.tick⟩
  rw [bind_some (observe_run s _)]
  split
  · exact ⟨_, _, rfl, hrejected _ _⟩
  obtain ⟨status, t, hrun, hsettled, hb⟩ := bindChecked_ends (w := w) timeout
    (s := s.later (s.tick + 1)) ⟨hs.handles, hs.lists, hs.once, hs.isOpen⟩
  refine ⟨status, t, hrun, ⟨hsettled.1, ?_⟩, hb.lists, hb.handles, hb.once⟩
  cases status with
  | ok _ => exact hsettled.2
  | error _ => exact ⟨hsettled.2.handles, hsettled.2.client⟩

/-! ## Sending -/

theorem sendToLoop_asks {waitFuel : Nat} (hK : timePointMax ≤ w.clock K)
    (hd : deadline ≤ timePointMax) (hwait : K < waitFuel) (size : Nat)
    (hfuel : K - s.tick < fuel) : Asks (sendToLoop w size deadline waitFuel fuel) s := by
  induction fuel generalizing s with
  | zero => exact absurd hfuel (Nat.not_lt_zero _)
  | succ fuel ih =>
    rw [sendToLoop]
    obtain ⟨e, k, hrun, hk, he⟩ := wait_ends hK hd (s := s) hwait
    refine Asks.next hrun (Nat.le_of_lt hk) ?_
    by_cases hok : e.ok = true
    · have hbefore := he hok
      rw [if_neg (by simp [hok])]
      refine Asks.next (observe_run _ _) (Nat.le_succ _) ?_
      rw [later_tick, later_later]
      cases w.sendTo k size with
      | error code =>
        simp only
        split
        · exact ih (by rw [later_tick]; omega)
        · exact asks_pure _ _
      | ok sentSize =>
        simp only
        split
        · exact asks_pure _ _
        · exact asks_pure _ _
    · rw [if_pos (by simp [hok])]
      exact asks_pure _ _

theorem sendNewSocket_asks (hK : timePointMax ≤ w.clock K) (hd : deadline ≤ timePointMax)
    (hfuel : K < fuel) (size : Nat) : Asks (sendNewSocket w size deadline fuel) s := by
  refine (asks_observe _ _).bind fun error k _ => ?_
  cases error with
  | some _ => exact asks_pure _ _
  | none => exact sendToLoop_asks hK hd hfuel size (by omega)

/-- The errors of a loop over addresses are errors. -/
def Failed : Candidate → Prop
  | .done => True
  | .next e | .stop e => e.ok = false

theorem socketError_ok (code : NativeCode) (fallback : TransportErrorCode) (message : String) :
    (socketError w code fallback message).ok = false := by
  cases code with
  | _ => rfl

theorem holds_trivial {ι α : Type} {P : CallState ι → Prop} (x : CallM ι α) :
    Holds P x fun _ _ => True :=
  fun _ _ _ _ _ => trivial

theorem sendToLoop_failed (size : Nat) (waitFuel : Nat) :
    Holds (fun _ => True) (sendToLoop w size deadline waitFuel fuel) fun o _ => Failed o := by
  induction fuel with
  | zero => exact Holds.running
  | succ fuel ih =>
    refine Holds.bind (holds_trivial _) fun e => Holds.ite (fun he => ?_) fun _ => ?_
    · have hok : e.ok = false := by simpa using he
      exact Holds.pure fun _ _ => hok
    · refine Holds.bind (holds_trivial _) fun sent => ?_
      cases sent with
      | error code =>
        refine Holds.ite (fun _ => ih) fun _ => Holds.pure fun _ _ => ?_
        exact socketError_ok code _ _
      | ok sentSize =>
        exact Holds.ite (fun _ => Holds.pure fun _ _ => rfl) fun _ => Holds.pure fun _ _ => trivial

theorem sendCandidate_failed (address : Address) (size : Nat) :
    Holds (fun _ => True) (sendCandidate w address size deadline fuel) fun o _ => Failed o := by
  refine Holds.bind (holds_trivial _) fun _ => Holds.ite (fun _ => sendToLoop_failed size fuel)
    fun _ => Holds.bind (holds_trivial _) fun candidate => ?_
  cases candidate with
  | error code => exact Holds.pure fun _ _ => socketError_ok code _ _
  | ok candidate =>
    have hnew : Holds (fun _ => True) (sendNewSocket w size deadline fuel) fun o _ => Failed o := by
      refine Holds.bind (holds_trivial _) fun error => ?_
      cases error with
      | some code => exact Holds.pure fun _ _ => socketError_ok code _ _
      | none => exact sendToLoop_failed size fuel
    refine Holds.bind hnew fun o => ?_
    cases o with
    | done =>
      refine Holds.bind (holds_trivial _) fun _ => Holds.bind (holds_trivial _) fun _ => ?_
      exact Holds.pure fun _ _ => trivial
    | next e => exact Holds.bind (fun _ _ _ h _ => h) fun _ => Holds.pure fun _ h => h
    | stop e => exact Holds.bind (fun _ _ _ h _ => h) fun _ => Holds.pure fun _ h => h

theorem sendToAddresses_failed (size : Nat) (addresses : List Address)
    (lastError : TransportError) (h : lastError.ok = false) :
    Holds (fun _ => True) (sendToAddresses w size deadline fuel addresses lastError)
      fun status _ => ∀ e, status = .error e → e.ok = false := by
  induction addresses generalizing lastError with
  | nil => exact Holds.pure fun _ _ e he => by cases he; exact h
  | cons address addresses ih =>
    refine Holds.bind (sendCandidate_failed address size) fun o => ?_
    cases o with
    | done => exact Holds.pure fun _ _ e he => nomatch he
    | stop e => exact Holds.pure fun _ hf e he => by cases he; exact hf
    | next e => exact fun s a t hs hr => ih e hs s a t trivial hr

/-- The datagram was sent on the client's socket, or on one that has become it. -/
structure Sent (sent : Bool) (s t : CallState (Option UdpImpl)) : Prop where
  lists : t.lists = s.lists
  handles : if sent && (udpHeld s.client).isEmpty then ∃ h family localEndpoint,
      t.client = some ⟨some h, family, localEndpoint⟩ ∧ s.handles.Changes t.handles [] [h]
    else Undone s t

/-- Only the handles and the client matter. -/
theorem sent_between {b : Bool} {s s' t t' : CallState (Option UdpImpl)}
    (hb : if b && (udpHeld s.client).isEmpty then ∃ h family localEndpoint,
        t.client = some ⟨some h, family, localEndpoint⟩ ∧ s.handles.Changes t.handles [] [h]
      else Undone s t)
    (hs : s.handles = s'.handles) (hsc : s.client = s'.client) (ht : t.handles = t'.handles)
    (htc : t.client = t'.client) :
    if b && (udpHeld s'.client).isEmpty then ∃ h family localEndpoint,
      t'.client = some ⟨some h, family, localEndpoint⟩ ∧ s'.handles.Changes t'.handles [] [h]
    else Undone s' t' := by
  rw [hs, hsc, ht, htc] at hb
  split
  · rename_i hsent
    rw [if_pos hsent] at hb
    exact hb
  · rename_i hsent
    rw [if_neg hsent] at hb
    exact ⟨hs ▸ ht ▸ hb.handles, htc ▸ hsc ▸ hb.client⟩

theorem udpHeld_eq_nil (client : Option UdpImpl) :
    (udpHeld client).isEmpty = !isOpen client := by
  obtain - | ⟨socket, family, localEndpoint⟩ := client
  · rfl
  · cases socket with
    | none => rfl
    | some _ => rfl

theorem sendOwned_ends (hK : timePointMax ≤ w.clock K) (hd : deadline ≤ timePointMax)
    (hfuel : K < fuel) (address : Address) (size : Nat) (hs : Owns udpHeld s)
    (hopen : isOpen s.client = false) :
    ∃ o t, sendOwned w address size deadline fuel s = some (o, t) ∧ Sent (isDone o) s t := by
  have hempty : (udpHeld s.client).isEmpty = true := by rw [udpHeld_eq_nil, hopen]; rfl
  unfold sendOwned
  obtain hnew | ⟨code, hnew⟩ := openHandle_cases w.socket s
  · rw [bind_some hnew]
    have hopened := Ledger.Changes.acquire hs.handles
    obtain ⟨o, k, hset, -⟩ := sendNewSocket_asks (w := w) hK hd hfuel size
      (s := { s with tick := s.tick + 1, handles := s.handles.acquire })
    simp only
    rw [bind_some hset]
    cases o with
    | done => exact ⟨_, _, rfl, rfl, by rw [hempty]; exact ⟨_, _, _, rfl, hopened⟩⟩
    | next e => exact ⟨_, _, rfl, rfl, hopened.undo (by simp), rfl⟩
    | stop e => exact ⟨_, _, rfl, rfl, hopened.undo (by simp), rfl⟩
  · rw [bind_some hnew]
    exact ⟨_, _, rfl, rfl, undone_later hs _⟩

theorem sendCandidate_ends (hK : timePointMax ≤ w.clock K) (hd : deadline ≤ timePointMax)
    (hfuel : K < fuel) (address : Address) (size : Nat) (hs : Owns udpHeld s) :
    ∃ o t, sendCandidate w address size deadline fuel s = some (o, t) ∧ Sent (isDone o) s t := by
  rw [sendCandidate, bind_some (get_run s)]
  by_cases hopen : isOpen s.client = true
  · rw [if_pos hopen]
    obtain ⟨o, k, hrun, -⟩ := sendToLoop_asks (w := w) (s := s) hK hd hfuel size
      (Nat.lt_of_le_of_lt (Nat.sub_le _ _) hfuel)
    refine ⟨o, _, hrun, rfl, ?_⟩
    rw [udpHeld_eq_nil, hopen, Bool.not_true, Bool.and_false]
    exact undone_later hs k
  · rw [if_neg hopen]
    exact sendOwned_ends hK hd hfuel address size hs (by simpa using hopen)

theorem sendToAddresses_ends (hK : timePointMax ≤ w.clock K) (hd : deadline ≤ timePointMax)
    (hfuel : K < fuel) (size : Nat) (addresses : List Address) (lastError : TransportError)
    (hs : Owns udpHeld s) :
    ∃ status t, sendToAddresses w size deadline fuel addresses lastError s = some (status, t) ∧
      Sent status.isOk s t := by
  induction addresses generalizing s lastError with
  | nil => exact ⟨_, _, rfl, rfl, undone_later hs s.tick⟩
  | cons address addresses ih =>
    obtain ⟨o, t, hrun, hlists, ht⟩ := sendCandidate_ends (w := w) hK hd hfuel address size hs
    rw [sendToAddresses, bind_some hrun]
    cases o with
    | done => exact ⟨_, t, rfl, hlists, ht⟩
    | stop e => exact ⟨_, t, rfl, hlists, ht⟩
    | next e =>
      have hundone : Undone s t := ht
      obtain ⟨status, u, hr, hlists', hu⟩ := ih (s := t) e (owns_of_undone hs hlists hundone)
      refine ⟨status, u, hr, hlists'.trans hlists, ?_⟩
      rw [hundone.client] at hu
      split
      · rename_i hsent
        rw [if_pos hsent] at hu
        obtain ⟨h, family, l, hc, hch⟩ := hu
        exact ⟨h, family, l, hc, hundone.handles.trans_left hch⟩
      · rename_i hsent
        rw [if_neg hsent] at hu
        exact ⟨hundone.handles.trans_left hu.handles, hu.client.trans hundone.client⟩

/-- What `sendTo` leaves. -/
theorem sent_settled {result : TransferResult Nat} {t : CallState (Option UdpImpl)}
    (hlists : s.lists.Changes t.lists [] [])
    (ht : if result.succeeded && (udpHeld s.client).isEmpty then ∃ h family localEndpoint,
        t.client = some ⟨some h, family, localEndpoint⟩ ∧ s.handles.Changes t.handles [] [h]
      else Undone s t) (hs : Owns udpHeld s) :
    SendToSettled s result t ∧ Balanced udpHeld s t := by
  refine ⟨⟨hlists, ht⟩, ?_⟩
  split at ht
  · rename_i hsent
    obtain ⟨h, family, l, hc, hch⟩ := ht
    have hnil : udpHeld s.client = [] := by
      simpa using (Bool.and_eq_true_iff.mp hsent).2
    refine ⟨hlists, .inr ?_, ?_⟩
    · rw [hnil, hc]
      exact hch
    · rw [hc]
      exact List.pairwise_singleton _ h
  · refine ⟨hlists, .inl ⟨ht.handles, ?_⟩, ?_⟩
    · rw [ht.client]
    · rw [ht.client]
      exact hs.once

theorem sendToChecked_ends (hK : timePointMax ≤ w.clock K) (hfuel : K < fuel) (size : Nat)
    (timeout : Int) (hs : Owns udpHeld s) :
    ∃ result t, sendToChecked w size timeout fuel s = some (result, t) ∧
      SendToSettled s result t ∧ Balanced udpHeld s t := by
  have hrefl := Ledger.Changes.refl hs.lists
  have hd : (udpDeadline (w.clock s.tick) timeout).value ≤ timePointMax :=
    operationDeadline_le _ _
  rw [sendToChecked, bind_some (observe_run s _)]
  cases initializeSockets w with
  | some code =>
    refine ⟨_, _, rfl, sent_settled hrefl ?_ hs⟩
    rw [TransferResult.succeeded, socketError_ok]
    exact undone_later hs _
  | none =>
    obtain ⟨addresses, hget⟩ | ⟨code, hget⟩ := getaddrinfo_cases w (s.later (s.tick + 1))
    · simp only
      rw [bind_some hget]
      generalize hu : ({ s.later _ with tick := _, lists := _ } :
        CallState (Option UdpImpl)) = u at hget
      have hul : u.lists = s.lists.acquire := hu ▸ rfl
      have hacquired := Ledger.Changes.acquire hs.lists
      have hus : Owns udpHeld u := by
        rw [← hu]
        exact ⟨hs.handles, hacquired.after, hs.once, hs.isOpen⟩
      obtain ⟨status, t, hrun, hlists, ht⟩ := sendToAddresses_ends (w := w) hK hd hfuel size
        addresses noDestinationError hus
      have hfree : s.lists.Changes (t.lists.release [s.lists.acquired]) [] [] := by
        rw [hlists, hul]
        exact hacquired.undo (by simp)
      simp only
      rw [bind_some hrun]
      have herror := sendToAddresses_failed size addresses noDestinationError rfl _ _ _ trivial hrun
      subst hu
      cases status with
      | ok _ => exact ⟨_, _, rfl, sent_settled hfree (sent_between ht rfl rfl rfl rfl) hs⟩
      | error e =>
        have hundone : Undone _ t := ht
        refine ⟨_, _, rfl, sent_settled hfree ?_ hs⟩
        rw [TransferResult.succeeded, herror e rfl]
        exact ⟨hundone.handles, hundone.client⟩
    · simp only
      rw [bind_some hget]
      exact ⟨_, _, rfl, sent_settled hrefl (undone_later hs _) hs⟩

theorem sendTo_ends (endpoint : Endpoint) (data : SendData) (timeout : Int)
    (hs : Owns udpHeld s) :
    ∃ result t, sendTo w endpoint data timeout s = some (result, t) ∧
      SendToSettled s result t ∧ Balanced udpHeld s t := by
  have hrefl := Ledger.Changes.refl hs.lists
  rw [sendTo, bind_some (get_run s)]
  split
  · exact ⟨_, _, rfl, sent_settled hrefl (undone_later hs s.tick) hs⟩
  split
  · exact ⟨_, _, rfl, sent_settled hrefl (undone_later hs s.tick) hs⟩
  split
  · exact ⟨_, _, rfl, sent_settled hrefl (undone_later hs s.tick) hs⟩
  rw [bind_some (observe_run s _)]
  split
  · exact ⟨_, _, rfl, sent_settled hrefl (undone_later hs _) hs⟩
  obtain ⟨result, t, hrun, ⟨-, ht⟩, hb⟩ := sendToChecked_ends w.clock_horizon (Nat.lt_succ_self _)
    data.bytes.length timeout (s := s.later (s.tick + 1)) ⟨hs.handles, hs.lists, hs.once, hs.isOpen⟩
  exact ⟨result, t, hrun, ⟨hb.lists, sent_between ht rfl rfl rfl rfl⟩, hb.lists,
    hb.handles, hb.once⟩

end WSE.Proof.Xpt.UdpClient
