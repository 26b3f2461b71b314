import WapitiStew.Framework.Transition
import WapitiStew.Impl.Xpt.SerialPort
import WapitiStew.Impl.Xpt.UdpClient

/-!
# What calls owe to the handles and the address lists

* `ConnectSettled`, `BindSettled`, `SendToSettled`, `OpenSettled`: the calls.
  `Ledger.Changes` says which handles a call closed and which it left open; it
  closed all others that it created, and none twice.
* `Process`: all clients of a process, which share its handles; a step creates a
  client, moves one, or calls one. The receives are not among these calls: they
  are modelled with the streams and the datagrams, and no port that is reached
  here holds the event of a read.
-/

namespace WSE.Spec.Xpt

open WSE.Framework WSE.Impl.Xpt

/-! ## The handles of a client -/

def tcpHeld (client : Option TcpImpl) : List Nat := (client.bind (·.socket)).toList

def udpHeld (client : Option UdpImpl) : List Nat := (client.bind (·.socket)).toList

def serialHeld (client : SerialClient) : List Nat :=
  match client.impl with
  | none => []
  | some impl => impl.handle.toList ++ impl.event.toList

section Calls

variable {ι : Type}

/-- The process keeps its books, and the handles of the client are open and different. -/
structure Owns (held : ι → List Nat) (s : CallState ι) : Prop where
  handles : s.handles.Sound
  lists : s.lists.Sound
  once : (held s.client).Nodup
  isOpen : ∀ h ∈ held s.client, s.handles.Live h

/-- Nothing that a client could see happened. -/
structure Untouched (s t : CallState ι) : Prop where
  handles : t.handles = s.handles
  lists : t.lists = s.lists
  client : t.client = s.client

/-- A failed call that leaves its client as it was. -/
structure Undone (s t : CallState ι) : Prop where
  handles : s.handles.Changes t.handles [] []
  client : t.client = s.client

end Calls

/-! ## The calls -/

/-- What `connect` checks before it closes the old socket. -/
def connectRejected (w : SocketWorld) (endpoint : Endpoint) (timeout : Int)
    (s : CallState (Option TcpImpl)) : Bool :=
  s.client.isNone || !endpoint.isValid || !(0 ≤ timeout) || w.cancelled s.tick

def ConnectSettled (w : SocketWorld) (endpoint : Endpoint) (timeout : Int)
    (s : CallState (Option TcpImpl)) (status : TransportStatus)
    (t : CallState (Option TcpImpl)) : Prop :=
  if connectRejected w endpoint timeout s then status.isOk = false ∧ Untouched s t
  else
    s.lists.Changes t.lists [] [] ∧
      match status with
      | .ok _ => ∃ h localEndpoint, t.client = some ⟨some h, endpoint, localEndpoint⟩ ∧
          s.handles.Changes t.handles (tcpHeld s.client) [h]
      | .error _ => t.client = some {} ∧
          s.handles.Changes t.handles (tcpHeld s.client) []

def BindSettled (s : CallState (Option UdpImpl)) (status : TransportStatus)
    (t : CallState (Option UdpImpl)) : Prop :=
  s.lists.Changes t.lists [] [] ∧
    match status with
    | .ok _ => ∃ h family localEndpoint, t.client = some ⟨some h, family, localEndpoint⟩ ∧
        s.handles.Changes t.handles (udpHeld s.client) [h]
    | .error _ => Undone s t

/-- A datagram is sent on the client's socket, or on one that becomes it. -/
def SendToSettled (s : CallState (Option UdpImpl)) (result : TransferResult Nat)
    (t : CallState (Option UdpImpl)) : Prop :=
  s.lists.Changes t.lists [] [] ∧
    if result.succeeded && (udpHeld s.client).isEmpty then
      ∃ h family localEndpoint, t.client = some ⟨some h, family, localEndpoint⟩ ∧
        s.handles.Changes t.handles [] [h]
    else Undone s t

def OpenSettled (deviceName : Bytes) (baudRate : Int) (s : CallState SerialClient)
    (status : TransportStatus) (t : CallState SerialClient) : Prop :=
  s.lists.Changes t.lists [] [] ∧
    match status with
    | .ok _ => ∃ h, t.client.impl = some { handle := some h, deviceName, baudRate } ∧
        s.handles.Changes t.handles (serialHeld s.client) [h]
    | .error _ => Undone s t

/-! ## The clients of a process -/

inductive Client
  | tcp (client : Option TcpImpl)
  | udp (client : Option UdpImpl)
  | serial (impl : Option SerialImpl)
  deriving DecidableEq, Repr

namespace Client

def held : Client → List Nat
  | tcp client => tcpHeld client
  | udp client => udpHeld client
  | serial impl => serialHeld { impl }

/-- A port between two calls: no write is outstanding. -/
def ofSerial (client : SerialClient) : Client := serial client.impl

/-- What a move leaves behind. -/
def movedFrom : Client → Client
  | tcp _ => tcp none
  | udp _ => udp none
  | serial _ => serial none

end Client

structure Process where
  handles : Ledger := {}
  lists : Ledger := {}
  clients : List Client := []

inductive Call
  | connect (w : SocketWorld) (endpoint : Endpoint) (timeout : Int)
  | sendTcp (w : SocketWorld) (data : SendData) (timeout : Int)
  | disconnect
  | bind (w : SocketWorld) (endpoint : Endpoint) (timeout : Int)
  | sendTo (w : SocketWorld) (endpoint : Endpoint) (data : SendData) (timeout : Int)
  | closeUdp
  | openSerial (w : SerialWorld) (deviceName : Bytes) (baudRate timeout : Int)
  | sendSerial (w : SerialWorld) (data : SendData) (timeout : Int)
  | closeSerial

/-- A client is created closed; its destructor closes it. -/
inductive Action
  | createTcp | createUdp | createSerial
  | move (i : Nat)
  | call (i : Nat) (c : Call)

namespace Process

def held (p : Process) : List Nat := p.clients.flatMap Client.held

/-- The state in which a client is called. -/
def callState {ι : Type} (p : Process) (client : ι) : CallState ι :=
  { handles := p.handles, lists := p.lists, client }

/-- The process after a call of its client `i`. -/
def afterCall {ι α : Type} (p : Process) (i : Nat) (kind : ι → Client) (x : CallM ι α)
    (client : ι) : Option Process :=
  (x (p.callState client)).map fun r =>
    ⟨r.2.handles, r.2.lists, p.clients.set i (kind r.2.client)⟩

def call (p : Process) (i : Nat) (c : Call) : Option Process :=
  match p.clients[i]?, c with
  | some (.tcp client), .connect w endpoint timeout =>
    p.afterCall i .tcp (TcpClient.connect w endpoint timeout) client
  | some (.tcp client), .sendTcp w data timeout =>
    p.afterCall i .tcp (TcpClient.send w data timeout) client
  | some (.tcp client), .disconnect => p.afterCall i .tcp TcpClient.disconnect client
  | some (.udp client), .bind w endpoint timeout =>
    p.afterCall i .udp (UdpClient.bind w endpoint timeout) client
  | some (.udp client), .sendTo w endpoint data timeout =>
    p.afterCall i .udp (UdpClient.sendTo w endpoint data timeout) client
  | some (.udp client), .closeUdp => p.afterCall i .udp UdpClient.close client
  | some (.serial impl), .openSerial w deviceName baudRate timeout =>
    p.afterCall i .ofSerial (SerialPort.openPort w deviceName baudRate timeout) { impl }
  | some (.serial impl), .sendSerial w data timeout =>
    p.afterCall i .ofSerial (SerialPort.send w data timeout) { impl }
  | some (.serial impl), .closeSerial => p.afterCall i .ofSerial SerialPort.close { impl }
  | _, _ => none

def step (p : Process) : Action → Option Process
  | .createTcp => some { p with clients := p.clients ++ [.tcp (some {})] }
  | .createUdp => some { p with clients := p.clients ++ [.udp (some {})] }
  | .createSerial => some { p with clients := p.clients ++ [.serial (some {})] }
  | .move i => p.clients[i]?.map fun client =>
      { p with clients := p.clients.set i client.movedFrom ++ [client] }
  | .call i c => p.call i c

/-- Every open handle is held by one client, once, and what a client holds is open. No address
list is left. -/
structure Booked (p : Process) : Prop where
  handles : p.handles.Held p.held
  lists : p.lists.Held []

/-- A call of client `i` has left the other clients as they were, and their handles open. -/
def OthersKept (p : Process) (i : Nat) (q : Process) : Prop :=
  ∀ j ≠ i, ∀ client, p.clients[j]? = some client →
    q.clients[j]? = some client ∧ ∀ h ∈ client.held, q.handles.Live h

end Process

/-! ## All calls of a process -/

/-- Each call of a client ends, and is settled then. -/
structure CallsSettle (p : Process) : Prop where
  connect : ∀ (i : Nat) client, p.clients[i]? = some (.tcp client) → ∀ w endpoint timeout,
    ∃ status t, TcpClient.connect w endpoint timeout (p.callState client) = some (status, t) ∧
      ConnectSettled w endpoint timeout (p.callState client) status t
  bind : ∀ (i : Nat) client, p.clients[i]? = some (.udp client) → ∀ w endpoint timeout,
    ∃ status t, UdpClient.bind w endpoint timeout (p.callState client) = some (status, t) ∧
      BindSettled (p.callState client) status t
  sendTo : ∀ (i : Nat) client, p.clients[i]? = some (.udp client) → ∀ w endpoint data timeout,
    ∃ result t, UdpClient.sendTo w endpoint data timeout (p.callState client) = some (result, t) ∧
      SendToSettled (p.callState client) result t
  openPort : ∀ (i : Nat) impl, p.clients[i]? = some (.serial impl) → ∀ w deviceName baudRate timeout,
    ∃ status t, SerialPort.openPort w deviceName baudRate timeout (p.callState { impl }) =
        some (status, t) ∧
      OpenSettled deviceName baudRate (p.callState { impl }) status t
  others : ∀ i c q, p.call i c = some q → p.OthersKept i q

end WSE.Spec.Xpt
