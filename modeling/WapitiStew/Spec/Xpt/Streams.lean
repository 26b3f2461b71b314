import WapitiStew.Framework.Bytes
import WapitiStew.Framework.Transition
import WapitiStew.Impl.Xpt.SerialReceive
import WapitiStew.Impl.Xpt.TcpClient
import WapitiStew.Impl.Xpt.TransportError
import WapitiStew.Impl.Xpt.UdpClient

/-!
# What streams deliver

What a send over a stream reports, what a TCP connection carries, and what the receives of a serial
port return.
-/

namespace WSE.Spec.Xpt

open WSE.Framework WSE.Impl.Xpt

/-!
## What a stream send reports

The operating system accepted `before` on a stream ahead of a send, and `after`
at its end.
-/

/-- The first bytes of the data were accepted, in order, and the result counts them. -/
structure StreamCounted (data before after : Bytes) (result : TransferResult Nat) : Prop where
  accepted : after = before ++ data.take result.value
  counted : result.value ≤ data.length
  whole : result.succeeded → result.value = data.length

/-- And a timeout or a cancellation is reported of data that was not accepted whole. -/
structure StreamSent (data before after : Bytes) (result : TransferResult Nat) : Prop extends
    StreamCounted data before after result where
  unfinished : result.error.category = .timeout ∨ result.error.category = .cancellation →
    result.value < data.length

/-- A prefix of the data was accepted. -/
def PrefixSent (data before after : Bytes) : Prop := ∃ n ≤ data.length, after = before ++ data.take n

/-- A send that is left by an exception has no result. -/
def StreamCountedOrThrew (data before after : Bytes) : Option (TransferResult Nat) → Prop
  | some result => StreamCounted data before after result
  | none => PrefixSent data before after

def StreamSentOrThrew (data before after : Bytes) : Option (TransferResult Nat) → Prop
  | some result => StreamSent data before after result
  | none => PrefixSent data before after

/-- A write that is cancelled for the timeout or the token comes back aborted, and yet with all of
its request transferred, and there is memory for the error, in `waitForOverlapped` and in `send`. -/
structure AbortedWhole (w : SerialWorld) (x : CancelledWrite) : Prop where
  reason : x.reason = .timeout ∨ x.reason = .cancellation
  aborted : w.overlappedResult true x.tick x.size = .aborted x.size
  collected : w.allocates (x.tick + 1) = true
  reported : w.allocates (x.tick + 2) = true

/-!
## What a TCP connection carries

A link is one direction of a connection: a client that sends and a client that
receives. What the operating system accepts from a send is on its way to the
receiver. A step is a call of either client, in a world of its own.
-/

/-- A receive took the first of the bytes that were on their way, if it succeeded. -/
structure Taken (maximumSize : Nat) (s : CallState TcpReader) (result : TransferResult Bytes)
    (t : CallState TcpReader) : Prop where
  inOrder : s.client.incoming = result.value ++ t.client.incoming
  value : if result.succeeded then result.value ≠ [] ∧ result.value.length ≤ maximumSize
    else result.value = []

/-- The client is as it was, or its connection was closed. -/
def KeptOrClosed (s : CallState TcpReader) (error : TransportError) (t : CallState TcpReader) :
    Prop :=
  t.client.client = s.client.client ∧ t.handles = s.handles ∨
    error.ok = false ∧ t.client.client = some {} ∧
      t.handles = s.handles.release (s.client.client.bind (·.socket)).toList

structure Link where
  sender : CallState (Option TcpImpl)
  receiver : CallState TcpReader
  /-- The data of the sends, and their results. -/
  sends : List (Bytes × TransferResult Nat) := []
  /-- The maximum sizes of the receives, and their results. -/
  receives : List (Nat × TransferResult Bytes) := []

namespace Link

inductive Action
  | send (w : SocketWorld) (data : SendData) (timeout : Int)
  | receive (w : TcpReaderWorld) (maximumSize : Nat) (timeout : Int) (allocates : Bool)
  | checkPeerConnection (w : TcpReaderWorld)
  | disconnectSender
  | disconnectReceiver

def start (sender receiver : TcpImpl) : Link :=
  { sender := { client := some sender }, receiver := { client := { client := some receiver } } }

/-- What was accepted since `accepted` is on its way. -/
def arrives (receiver : CallState TcpReader) (accepted after : Bytes) : CallState TcpReader :=
  { receiver with
    client := { receiver.client with
      incoming := receiver.client.incoming ++ after.drop accepted.length } }

def step (l : Link) : Action → Option Link
  | .send w data timeout =>
    (TcpClient.send w data timeout l.sender).map fun (result, t) =>
      { l with
        sender := t
        receiver := arrives l.receiver l.sender.accepted t.accepted
        sends := l.sends ++ [(data.bytes, result)] }
  | .receive w maximumSize timeout allocates =>
    (TcpClient.receive w maximumSize timeout allocates l.receiver).map fun (result, t) =>
      { l with receiver := t, receives := l.receives ++ [(maximumSize, result)] }
  | .checkPeerConnection w =>
    (TcpClient.checkPeerConnection w l.receiver).map fun (_, t) => { l with receiver := t }
  | .disconnectSender => (TcpClient.disconnect l.sender).map fun (_, t) => { l with sender := t }
  | .disconnectReceiver =>
    (TcpClient.onClient TcpClient.disconnect l.receiver).map fun (_, t) => { l with receiver := t }

/-- What the sends have counted. -/
def sent (l : Link) : Bytes := l.sends.flatMap fun s => s.1.take s.2.value

/-- What the receives have returned. -/
def received (l : Link) : Bytes := l.receives.flatMap (·.2.value)

/-- What was received, followed by what is on its way, is what was sent. -/
structure Carries (l : Link) : Prop where
  inOrder : l.received ++ l.receiver.client.incoming = l.sent
  values : ∀ r ∈ l.receives,
    if r.2.succeeded then r.2.value ≠ [] ∧ r.2.value.length ≤ r.1 else r.2.value = []

/-- The receiver has its socket, or closed it, once. -/
def SocketKept (receiver : TcpImpl) (s : CallState TcpReader) : Prop :=
  s.client.client = some receiver ∧ s.handles = {} ∨
    s.client.client = some {} ∧ s.handles = ({} : Ledger).release receiver.socket.toList

end Link

/-!
## What the receives of a serial port promise

Every byte that the device delivered is in one place, in the order of delivery:
returned, taken by the receive that is being made (`taken`), held by the port
in its buffer or in a completed read (`held`), or still on its way.
-/

section

open WSE.Impl.Xpt.SerialReceive

/-- The bytes that a receive handed over, with an error or without. -/
def bytesOf (r : ReceiveResult) : Bytes := (r.result.map (·.value)).getD []

/-- What all receives returned. -/
def returned (s : ReceiveState) : Bytes := s.results.flatMap bytesOf

/-- What a receive has taken out of the buffer and not returned. -/
def takenAt : ReceivePoint → Bytes
  | .close received _ | .copyError received _ => received
  | _ => []

/-- What the receive that is being made has taken. -/
def taken (s : ReceiveState) : Bytes :=
  match s.call with
  | .receiving _ point => takenAt point
  | _ => []

/-- The part of the buffer that no receive has taken. -/
def unread (read : SerialRead) : Bytes :=
  (read.buffer.drop read.offset).take (read.size - read.offset)

/-- The bytes of a read that completed and was not looked at. -/
def completed (s : ReceiveState) : Bytes :=
  match s.request with
  | .completed transferred _ => s.read.buffer.take transferred
  | _ => []

/-- What the port owes its caller. -/
def held (s : ReceiveState) : Bytes := unread s.read ++ completed s

structure Received (s : ReceiveState) : Prop where
  inOrder : returned s <+: s.delivered
  bounded : ∀ r ∈ s.results, (bytesOf r).length ≤ r.maximum
  kept : s.isOpen = true → s.delivered = returned s ++ taken s ++ held s ++ s.incoming

/-- No allocation fails between the taking of bytes and their return, while the port is open. -/
def KeepsTaken (s : ReceiveState) : ReceiveAct → Prop
  | .allocate false => s.isOpen = true → taken s = []
  | _ => True

/-- The answer to a call that is being made, with memory for what it allocates. -/
def Answers : ReceiveAct → Prop
  | .receive _ _ _ _ | .close | .allocate false | .evaluate _ false => False
  | _ => True

/-- A receive from `s` on hands over the bytes that the port holds, before newer ones. -/
def HandsOver (s : ReceiveState) (maximum : Nat) (s' : ReceiveState) : Prop :=
  ∃ error, s'.results = s.results ++ [⟨maximum, some ⟨(held s).take maximum, error⟩⟩]

/-- The next receive, if it ends and has memory, hands over what the port holds. -/
def NextHandsOver (s : ReceiveState) : Prop :=
  ∀ (maximum : Nat) (timeout now : Int) (allocates : Bool) (acts : List ReceiveAct)
    (s' : ReceiveState), 0 < maximum → maximum ≤ intMax → 0 ≤ timeout → held s ≠ [] →
    (∀ act ∈ acts, Answers act) →
    run step s (.receive maximum timeout now allocates :: acts) = some s' → s'.call = .idle →
    HandsOver s maximum s'

end

/-!
## What a UDP client receives

Datagrams arrive at a socket, any at any time; the receives of its client report
each of them once, in the order of arrival.
-/

/-- What a receive of at most `maximumSize` bytes says of a datagram. -/
inductive Reports (maximumSize : Nat) (d : UdpDatagram) : TransferResult UdpDatagram → Prop
  | whole (fits : d.payload.length ≤ maximumSize) (decoded : d.source.isValid = true) :
    Reports maximumSize d ⟨d, {}⟩
  | truncated (e : TransportError) (exceeds : maximumSize < d.payload.length)
    (code : e.code = .datagramTruncated) :
    Reports maximumSize d ⟨⟨d.source, d.payload.take maximumSize⟩, e⟩
  /-- The source cannot be decoded. -/
  | unknown (e : TransportError) (undecoded : d.source.isValid = false)
    (code : e.code = .receiveFailed) : Reports maximumSize d ⟨{}, e⟩

def NothingReceived (r : TransferResult UdpDatagram) : Prop := r.value = {} ∧ r.error.ok = false

/-- The receives, with their maximum sizes, report the datagrams one after the other. -/
inductive ReportAll : List (Nat × TransferResult UdpDatagram) → List UdpDatagram → Prop
  | start : ReportAll [] []
  | nothing {receives datagrams r} (maximumSize : Nat) (h : ReportAll receives datagrams)
    (nothing : NothingReceived r) : ReportAll (receives ++ [(maximumSize, r)]) datagrams
  | report {receives datagrams d r maximumSize} (h : ReportAll receives datagrams)
    (reports : Reports maximumSize d r) :
    ReportAll (receives ++ [(maximumSize, r)]) (datagrams ++ [d])

/-- A client with all that has arrived at its socket. -/
structure Mailbox where
  reader : CallState UdpReader
  arrived : List UdpDatagram := []
  /-- The maximum sizes of the receives, and their results. -/
  receives : List (Nat × TransferResult UdpDatagram) := []

namespace Mailbox

inductive Action
  | arrive (d : UdpDatagram)
  | receiveFrom (w : UdpReaderWorld) (maximumSize : Nat) (timeout : Int) (allocates : Bool)
  | close

def start (client : UdpImpl) : Mailbox := { reader := { client := { client := some client } } }

def step (m : Mailbox) : Action → Option Mailbox
  | .arrive d =>
    some { m with
      reader := { m.reader with
        client := { m.reader.client with queue := m.reader.client.queue ++ [d] } }
      arrived := m.arrived ++ [d] }
  | .receiveFrom w maximumSize timeout allocates =>
    (UdpClient.receiveFrom w maximumSize timeout allocates m.reader).map fun (result, t) =>
      { m with reader := t, receives := m.receives ++ [(maximumSize, result)] }
  | .close => (UdpClient.onClient UdpClient.close m.reader).map fun (_, t) => { m with reader := t }

/-- What has arrived was reported, or waits to be received. -/
def Delivers (m : Mailbox) : Prop :=
  ∃ handed, m.arrived = handed ++ m.reader.client.queue ∧ ReportAll m.receives handed

end Mailbox

end WSE.Spec.Xpt
