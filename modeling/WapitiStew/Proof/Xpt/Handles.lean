import WapitiStew.Proof.Xpt.SerialPort
import WapitiStew.Proof.Xpt.UdpClient

/-!
# Handles are neither leaked nor closed twice

* `booked_afterCall`: a balanced call keeps the books of a process.
* `booked_step`: every step does.
* `transport_handles`: what holds after every run, and of each call from there.
-/

namespace WSE.Proof.Xpt

open WSE.Framework WSE.Framework.Ledger WSE.Impl.Xpt WSE.Spec.Xpt

section

variable {ι : Type} {held : ι → List Nat} {p q : Process} {i : Nat}

theorem clients_split {c : Client} (hi : p.clients[i]? = some c) :
    p.held = (p.clients.take i).flatMap Client.held ++
      (c.held ++ (p.clients.drop (i + 1)).flatMap Client.held) := by
  obtain ⟨hlt, hget⟩ := List.getElem?_eq_some_iff.mp hi
  rw [Process.held, ← List.flatMap_cons, ← List.flatMap_append, ← hget,
    List.getElem_cons_drop, List.take_append_drop]

theorem flatMap_set (clients : List Client) (c : Client) (hi : i < clients.length) :
    (clients.set i c).flatMap Client.held = (clients.take i).flatMap Client.held ++
      (c.held ++ (clients.drop (i + 1)).flatMap Client.held) := by
  rw [List.set_eq_take_append_cons_drop, if_pos hi, List.flatMap_append, List.flatMap_cons]

theorem owns_of_booked (kind : ι → Client) (hkind : ∀ x, (kind x).held = held x) {client : ι}
    (hi : p.clients[i]? = some (kind client)) (h : p.Booked) : Owns held (p.callState client) := by
  have hsplit := clients_split hi
  rw [hkind] at hsplit
  have hmem : ∀ r ∈ held client, r ∈ p.held := by
    intro r hr
    rw [hsplit]
    simp [hr]
  refine ⟨h.handles.sound, h.lists.sound, ?_, fun r hr => (h.handles.live r).mpr (hmem r hr)⟩
  have honce := h.handles.once
  rw [hsplit] at honce
  exact (List.nodup_append.mp (List.nodup_append.mp honce).2.1).1

theorem booked_afterCall {α : Type} (kind : ι → Client) (hkind : ∀ x, (kind x).held = held x)
    {x : CallM ι α} {client : ι} (hi : p.clients[i]? = some (kind client)) (h : p.Booked)
    (hx : ∃ r t, x (p.callState client) = some (r, t) ∧ Balanced held (p.callState client) t)
    (hq : p.afterCall i kind x client = some q) : q.Booked := by
  obtain ⟨r, t, hrun, hb⟩ := hx
  rw [Process.afterCall, hrun] at hq
  cases hq
  have hsplit := clients_split hi
  have hafter := flatMap_set p.clients (kind t.client) (List.getElem?_eq_some_iff.mp hi).1
  rw [hkind] at hsplit hafter
  have hheld := h.handles
  rw [hsplit] at hheld
  refine ⟨?_, h.lists.kept hb.lists⟩
  show t.handles.Held ((p.clients.set i (kind t.client)).flatMap Client.held)
  rw [hafter]
  obtain ⟨hc, he⟩ | hc := hb.handles
  · rw [he]
    exact hheld.kept hc
  · exact hheld.changes hc hb.once

/-! ## The steps -/

theorem booked_call {c : Call} (h : p.Booked) (hq : p.call i c = some q) : q.Booked := by
  have htcp {client} (hi : p.clients[i]? = some (.tcp client)) :=
    owns_of_booked .tcp (fun _ => rfl) hi h
  have hudp {client} (hi : p.clients[i]? = some (.udp client)) :=
    owns_of_booked .udp (fun _ => rfl) hi h
  have hserial {impl} (hi : p.clients[i]? = some (.serial impl)) :
      Owns serialHeld (p.callState { impl }) :=
    owns_of_booked .ofSerial (fun _ => rfl) hi h
  unfold Process.call at hq
  split at hq
  · rename_i client w endpoint timeout hi
    obtain ⟨r, t, hrun, -, hb⟩ := TcpClient.connect_ends (w := w) endpoint timeout (htcp hi)
    exact booked_afterCall .tcp (fun _ => rfl) hi h ⟨r, t, hrun, hb⟩ hq
  · rename_i client w data timeout hi
    obtain ⟨r, t, hrun, -, hb⟩ := TcpClient.send_ends (w := w) data timeout (p.callState client)
    exact booked_afterCall .tcp (fun _ => rfl) hi h ⟨r, t, hrun, hb (htcp hi)⟩ hq
  · rename_i client hi
    exact booked_afterCall .tcp (fun _ => rfl) hi h
      ⟨_, _, TcpClient.close_run _, TcpClient.balanced_closed (htcp hi)⟩ hq
  · rename_i client w endpoint timeout hi
    obtain ⟨r, t, hrun, -, hb⟩ := UdpClient.bind_ends (w := w) endpoint timeout (hudp hi)
    exact booked_afterCall .udp (fun _ => rfl) hi h ⟨r, t, hrun, hb⟩ hq
  · rename_i client w endpoint data timeout hi
    obtain ⟨r, t, hrun, -, hb⟩ := UdpClient.sendTo_ends (w := w) endpoint data timeout (hudp hi)
    exact booked_afterCall .udp (fun _ => rfl) hi h ⟨r, t, hrun, hb⟩ hq
  · rename_i client hi
    exact booked_afterCall .udp (fun _ => rfl) hi h
      ⟨_, _, UdpClient.close_run _, UdpClient.balanced_closed (hudp hi)⟩ hq
  · rename_i impl w deviceName baudRate timeout hi
    obtain ⟨r, t, hrun, ht⟩ :=
      SerialPort.openPort_ends (w := w) deviceName baudRate timeout (hserial hi)
    exact booked_afterCall .ofSerial (fun _ => rfl) hi h
      ⟨r, t, hrun, SerialPort.opened_settled (hserial hi) ht⟩ hq
  · rename_i impl w data timeout hi
    obtain ⟨r, t, hrun, ht⟩ :=
      SerialPort.send_ends (w := w) (s := p.callState { impl }) data timeout rfl
    exact booked_afterCall .ofSerial (fun _ => rfl) hi h ⟨r, t, hrun, ht.settles (hserial hi)⟩ hq
  · rename_i impl hi
    exact booked_afterCall .ofSerial (fun _ => rfl) hi h
      ⟨_, _, SerialPort.close_run _, SerialPort.balanced_closed (hserial hi)⟩ hq
  · cases hq

theorem booked_append {c : Client} (h : p.Booked) (hc : c.held = []) :
    Process.Booked { p with clients := p.clients ++ [c] } := by
  refine ⟨?_, h.lists⟩
  show p.handles.Held ((p.clients ++ [c]).flatMap Client.held)
  rw [List.flatMap_append, List.flatMap_cons, hc, List.flatMap_nil, List.nil_append,
    List.append_nil]
  exact h.handles

theorem movedFrom_held (c : Client) : c.movedFrom.held = [] := by
  cases c with
  | _ => rfl

theorem booked_move {c : Client} (h : p.Booked) (hi : p.clients[i]? = some c) :
    Process.Booked { p with clients := p.clients.set i c.movedFrom ++ [c] } := by
  refine ⟨?_, h.lists⟩
  have hheld := h.handles
  rw [clients_split hi] at hheld
  refine hheld.perm ?_
  show List.Perm _ ((p.clients.set i c.movedFrom ++ [c]).flatMap Client.held)
  rw [List.flatMap_append, flatMap_set _ _ (List.getElem?_eq_some_iff.mp hi).1, movedFrom_held,
    List.nil_append, List.append_assoc, List.flatMap_cons, List.flatMap_nil, List.append_nil]
  exact List.perm_append_comm.append_left _

theorem booked_step {a : Action} (h : p.Booked) (hq : p.step a = some q) : q.Booked := by
  cases a with
  | createTcp =>
    cases hq
    exact booked_append h rfl
  | createUdp =>
    cases hq
    exact booked_append h rfl
  | createSerial =>
    cases hq
    exact booked_append h rfl
  | move i =>
    obtain ⟨c, hi, rfl⟩ := Option.map_eq_some_iff.mp hq
    exact booked_move h hi
  | call i c => exact booked_call h hq

theorem clients_afterCall {α : Type} {kind : ι → Client} {x : CallM ι α} {client : ι} {j : Nat}
    (hq : p.afterCall i kind x client = some q) (hj : j ≠ i) : q.clients[j]? = p.clients[j]? := by
  obtain ⟨r, -, rfl⟩ := Option.map_eq_some_iff.mp hq
  exact List.getElem?_set_ne (Ne.symm hj)

theorem clients_call {c : Call} {j : Nat} (hq : p.call i c = some q) (hj : j ≠ i) :
    q.clients[j]? = p.clients[j]? := by
  unfold Process.call at hq
  split at hq
  all_goals first
    | exact clients_afterCall hq hj
    | cases hq

theorem mem_held {client : Client} {h : Nat} (hi : p.clients[i]? = some client)
    (hh : h ∈ client.held) : h ∈ p.held := by
  rw [clients_split hi]
  simp [hh]

/-- After every run every open handle is held by one client, and no address list is left; each
call from there ends and is settled, and leaves the handles of the other clients open. -/
theorem transport_handles {actions : List Action} {p : Process}
    (hrun : run Process.step {} actions = some p) : p.Booked ∧ CallsSettle p := by
  have hp : p.Booked :=
    run_invariant (fun _ _ _ h hq => booked_step h hq) ⟨Held.empty, Held.empty⟩ hrun
  refine ⟨hp, ?_, ?_, ?_, ?_, ?_⟩
  · intro i client hi w endpoint timeout
    obtain ⟨status, t, hcall, ht, -⟩ := TcpClient.connect_ends (w := w) endpoint timeout
      (owns_of_booked .tcp (fun _ => rfl) hi hp)
    exact ⟨status, t, hcall, ht⟩
  · intro i client hi w endpoint timeout
    obtain ⟨status, t, hcall, ht, -⟩ := UdpClient.bind_ends (w := w) endpoint timeout
      (owns_of_booked .udp (fun _ => rfl) hi hp)
    exact ⟨status, t, hcall, ht⟩
  · intro i client hi w endpoint data timeout
    obtain ⟨result, t, hcall, ht, -⟩ := UdpClient.sendTo_ends (w := w) endpoint data timeout
      (owns_of_booked .udp (fun _ => rfl) hi hp)
    exact ⟨result, t, hcall, ht⟩
  · intro i impl hi w deviceName baudRate timeout
    exact SerialPort.openPort_ends deviceName baudRate timeout
      (owns_of_booked .ofSerial (fun _ => rfl) hi hp)
  · intro i c q hq j hj client hclient
    have hkept := (clients_call hq hj).trans hclient
    exact ⟨hkept, fun h hh => ((booked_call hp hq).handles.live h).mpr (mem_held hkept hh)⟩

/-- Two addresses: the first one refuses the connection, the second one takes it. -/
def refusedWorld : SocketWorld where
  windows := false
  clock := lateClock
  clock_mono := lateClock_mono
  horizon := 21
  clock_horizon := lateClock_horizon
  cancelled _ := false
  resolve _ := .ok [⟨2⟩, ⟨10⟩]
  socket _ := none
  nonBlocking _ := none
  connect k := if k ≤ 10 then some .connectionRefused else none
  bind _ := none
  select _ := .ready
  connectionError _ := none
  localEndpoint _ := ⟨[49], 80⟩
  send _ size := .ok size
  send_le h := by
    cases h
    exact Nat.le_refl _
  sendTo _ size := .ok size

/-- A client connects, and connects again. -/
def reconnects : List Action :=
  [.createTcp, .call 0 (.connect refusedWorld ⟨[97], 80⟩ 1000),
    .call 0 (.connect refusedWorld ⟨[98], 80⟩ 1000)]

theorem transport_handles_reconnect :
    ∃ p, run Process.step {} reconnects = some p ∧ p.Booked ∧ CallsSettle p := by
  have hsome : (run Process.step {} reconnects).isSome = true := by decide +kernel
  obtain ⟨p, hrun⟩ := Option.isSome_iff_exists.mp hsome
  exact ⟨p, hrun, transport_handles hrun⟩

example : (run Process.step {} reconnects).map (fun p => (p.handles, p.lists, p.held)) =
    some (⟨4, [0, 1, 2]⟩, ⟨2, [0, 1]⟩, [3]) := by decide +kernel

end

/-! ## Stream sends neither skip nor repeat bytes -/

/-- Both stream sends end, whatever the platform answers, and the bytes that it accepted are the
ones their results count. No write of a serial port is outstanding then, and the port reports a
timeout or a cancellation only of data that was not accepted whole, exactly if no write that it
cancelled came back aborted whole. -/
theorem stream_sends (data : SendData) (timeout : Int) :
    (∀ (w : SocketWorld) (s : CallState (Option TcpImpl)),
      ∃ result t, TcpClient.send w data timeout s = some (result, t) ∧
        StreamSent data.bytes s.accepted t.accepted result) ∧
    ∀ (w : SerialWorld) (s : CallState SerialClient), s.client.write = none →
      ∃ result t new, SerialPort.send w data timeout s = some (result, t) ∧
        StreamCountedOrThrew data.bytes s.accepted t.accepted result ∧ t.client.write = none ∧
        t.client.cancels = s.client.cancels ++ new ∧
        (StreamSentOrThrew data.bytes s.accepted t.accepted result ↔
          ∀ x ∈ new, ¬AbortedWhole w x) := by
  constructor
  · intro w s
    obtain ⟨result, t, hrun, hsent, -⟩ := TcpClient.send_ends (w := w) data timeout s
    exact ⟨result, t, hrun, hsent⟩
  · intro w s hwrite
    obtain ⟨result, t, hrun, ht⟩ := SerialPort.send_ends (w := w) data timeout hwrite
    obtain ⟨new, hnew, hsent⟩ := ht.sent
    exact ⟨result, t, new, hrun, ht.counted, ht.write, hnew, hsent⟩

/-- A Windows port whose write takes two bytes until the token is cancelled. -/
def cancelledWorld : SerialWorld where
  windows := true
  clock := lateClock
  clock_mono := lateClock_mono
  horizon := 21
  clock_horizon := lateClock_horizon
  cancelled k := 5 ≤ k
  allocates _ := true
  multiByteToWideChar _ := none
  createFile _ := none
  getCommState _ := none
  setCommState _ := none
  setupComm _ := none
  setCommTimeouts _ := none
  purgeComm _ := none
  appliedBaudRate _ := 9600
  createEvent _ := none
  waitForSingleObject _ := none
  writeFile _ _ := .pending
  writeFile_le h := nomatch h
  overlappedResult wait _ size := if wait && 2 < size then .aborted 2 else if wait then .succeeded 0
    else .incomplete
  transferred_le {wait k size} := by
    split
    · rename_i h
      simp only [Bool.and_eq_true, decide_eq_true_eq] at h
      exact Nat.le_of_lt h.2
    · split
      · exact Nat.zero_le _
      · exact Nat.zero_le _
  waited {k size} h := by
    split at h
    · cases h
    · cases h
  openDevice _ := none
  getTermios _ := none
  setTermios _ := none
  flush _ := none
  poll _ := .expired
  write _ _ := .error .again
  write_le h := nomatch h
  appliedSpeeds _ := (9600, 9600)

/-- A port that is open. -/
def openedPort : CallState SerialClient :=
  { handles := { acquired := 1 }, client := { impl := some { handle := some 0 } } }

theorem stream_sends_cancelled :
    ∃ result t new,
      SerialPort.send cancelledWorld ⟨[1, 2, 3, 4, 5], false⟩ 60 openedPort =
          some (result, t) ∧
        StreamCountedOrThrew [1, 2, 3, 4, 5] [] t.accepted result ∧ t.client.write = none ∧
        t.client.cancels = [] ++ new ∧
        (StreamSentOrThrew [1, 2, 3, 4, 5] [] t.accepted result ↔
          ∀ x ∈ new, ¬AbortedWhole cancelledWorld x) :=
  (stream_sends ⟨[1, 2, 3, 4, 5], false⟩ 60).2 cancelledWorld openedPort rfl

/-- The two bytes that the cancelled write took are reported. -/
example : (SerialPort.send cancelledWorld ⟨[1, 2, 3, 4, 5], false⟩ 60 openedPort).map
    (fun r => (r.1, r.2.accepted)) = some (some ⟨2, serialCancellationError⟩, [1, 2]) := by
  decide +kernel

/-- The same port, with a driver that has taken the whole request when its cancel comes. -/
def abortedWorld : SerialWorld :=
  { cancelledWorld with
    overlappedResult := fun wait _ size => if wait then .aborted size else .incomplete
    transferred_le := fun {wait k size} => by
      split
      · exact Nat.le_refl _
      · exact Nat.zero_le _
    waited := fun {k size} h => by cases h }

/-- All five bytes are accepted, and yet the send reports that it was cancelled. -/
theorem aborted_whole_reported :
    ∃ result t, SerialPort.send abortedWorld ⟨[1, 2, 3, 4, 5], false⟩ 60 openedPort =
        some (some result, t) ∧
      result = ⟨5, serialCancellationError⟩ ∧ t.accepted = [1, 2, 3, 4, 5] ∧
      ¬StreamSent [1, 2, 3, 4, 5] [] t.accepted result := by
  have hmap : (SerialPort.send abortedWorld ⟨[1, 2, 3, 4, 5], false⟩ 60 openedPort).map
      (fun r => (r.1, r.2.accepted)) =
        some (some ⟨5, serialCancellationError⟩, [1, 2, 3, 4, 5]) := by decide +kernel
  obtain ⟨⟨result, t⟩, hrun, hresult⟩ := Option.map_eq_some_iff.mp hmap
  obtain ⟨rfl, haccepted⟩ := Prod.mk.inj hresult
  exact ⟨_, t, hrun, rfl, haccepted, fun h => absurd (h.unfinished (.inr rfl)) (by decide)⟩

end WSE.Proof.Xpt
