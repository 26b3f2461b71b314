import WapitiStew.Impl.Xpt.TcpClient

/-!
# The UDP client

`bind`, `close`, `sendTo` and `receiveFrom` of
`platform/xpt/network/UdpClient.cpp`. A client that was moved from is `none`.
-/

namespace WSE.Impl.Xpt

open WSE.Framework

/-- `AF_UNSPEC`. -/
def afUnspec : Int := 0

/-- `UdpClient::Impl`. -/
structure UdpImpl where
  socket : Option Nat := none
  family : Int := afUnspec
  localEndpoint : Endpoint := {}
  deriving DecidableEq, Repr

abbrev UdpM := CallM (Option UdpImpl)

/-- `MAXIMUM_DATAGRAM_SIZE`. -/
def maximumDatagramSize : Nat := 65507

namespace UdpClient

/-- `Impl::close`. -/
def close : UdpM Unit := modify fun s =>
  match s.client with
  | none => s
  | some impl =>
    { s with handles := s.handles.release impl.socket.toList, client := some {} }

variable (w : SocketWorld)

def pendingError (code : NativeCode) : Bool :=
  if w.windows then code = .wouldBlock else code = .wouldBlock || code = .again

def socketError (code : NativeCode) (fallback : TransportErrorCode) (message : String) :
    TransportError :=
  let error (category : TransportErrorCategory) (stable : TransportErrorCode) : TransportError :=
    ⟨category, stable, message, w.nativeCode code⟩
  match code with
  | .addressInUse => error .connection .bindFailed
  | .addressNotAvailable => error .connection .addressUnavailable
  | .networkUnreachable | .hostUnreachable => error .connection .networkUnreachable
  | .connectionReset | .connectionAborted => error .connection .connectionReset
  | .timedOut => error .timeout .timedOut
  | .messageSize => error .validation .messageTooLarge
  | _ => error .inputOutput fallback

def resolutionError (code : Int) (message : String) : TransportError :=
  { category := .resolution, code := .hostNotFound, message, nativeCode := code }

/-- `waitForSocket`. -/
def wait (deadline : Int) (fuel : Nat) : UdpM TransportError :=
  waitForSocket w (socketError w) "Waiting for the UDP socket failed." deadline fuel

/-- The new socket becomes the one of the client. -/
def commit (candidate : Nat) (address : Address) (localEndpoint : Endpoint) : UdpM Unit :=
  modify fun s => { s with client := some ⟨some candidate, address.family, localEndpoint⟩ }

/-! ## Binding -/

/-- What is done with a new socket: it is set up and bound; `ok` is its local endpoint. -/
def setUpSocket : UdpM (Except TransportError Endpoint) := do
  match ← observe w.nonBlocking with
  | some code =>
    return .error (socketError w code .unsupported "Enabling non-blocking UDP I/O failed.")
  | none =>
    match ← observe w.bind with
    | some code =>
      return .error (socketError w code .bindFailed "Binding the UDP socket failed.")
    | none =>
      let candidateLocal ← observe w.localEndpoint
      if !candidateLocal.isValid then
        return .error { category := .inputOutput, code := .bindFailed,
                        message := "The bound UDP local endpoint could not be decoded." }
      return .ok candidateLocal

/-- The attempt with one resolved address. -/
def bindCandidate (address : Address) : UdpM Candidate := do
  match ← openHandle w.socket with
  | .error code =>
    return .next (socketError w code .resourceExhausted "Creating a UDP socket failed.")
  | .ok candidate =>
    match ← setUpSocket w with
    | .error error =>
      closeHandles [candidate]
      return .next error
    | .ok candidateLocal =>
      close
      commit candidate address candidateLocal
      return .done

/-- The loop over the resolved addresses, with `last_error`. -/
def bindLoop (deadline : Int) : List Address → TransportError → UdpM TransportStatus
  | [], lastError => return .error lastError
  | address :: addresses, _ => do
    if ← observe w.cancelled then
      return .error transportCancellationError
    if deadline ≤ (← observe w.clock) then
      return .error transportTimeoutError
    match ← bindCandidate w address with
    | .done => return .ok ()
    | .next error => bindLoop deadline addresses error
    | .stop error => return .error error

def noBindAddressError : TransportError :=
  { category := .connection, code := .bindFailed,
    message := "No resolved local UDP address could be bound." }

/-- `bind` after its checks. -/
def bindChecked (timeout : Int) : UdpM TransportStatus := do
  let deadline := (udpDeadline (← observe w.clock) timeout).value
  match initializeSockets w with
  | some code =>
    return .error (socketError w code .unsupported
      "The platform socket runtime could not be initialized.")
  | none =>
    match ← getaddrinfo w with
    | .error code =>
      return .error (resolutionError code "The local UDP bind address could not be resolved.")
    | .ok (list, addresses) =>
      let status ← bindLoop w deadline addresses noBindAddressError
      freeaddrinfo list
      return status

/-- `UdpClient::bind`; `timeout` is in milliseconds. -/
def bind (endpoint : Endpoint) (timeout : Int) : UdpM TransportStatus := do
  if (← get).client.isNone then
    return .error (validationError "The UDP client was moved from.")
  if endpoint.host.isEmpty then
    return .error (validationError "A local host is required for UDP bind.")
  if !(0 ≤ timeout) then
    return .error (validationError "The timeout must not be negative.")
  if ← observe w.cancelled then
    return .error transportCancellationError
  bindChecked w timeout

/-! ## Sending -/

/-- The loop that sends the datagram to one address. -/
def sendToLoop (size : Nat) (deadline : Int) (waitFuel : Nat) : Nat → UdpM Candidate
  | 0 => stillRunning
  | fuel + 1 => do
    let waitError ← wait w deadline waitFuel
    if !waitError.ok then
      return .stop waitError
    match ← observe (w.sendTo · size) with
    | .error code =>
      if pendingError w code || interruptedError code then
        sendToLoop size deadline waitFuel fuel
      else
        return .next (socketError w code .sendFailed "Sending the UDP datagram failed.")
    | .ok sentSize =>
      if sentSize ≠ size then
        return .next { category := .protocol, code := .sendFailed,
                       message := "The UDP datagram was not sent atomically." }
      return .done

/-- What is done with a new socket: it is set up and used for the datagram. -/
def sendNewSocket (size : Nat) (deadline : Int) (fuel : Nat) : UdpM Candidate := do
  match ← observe w.nonBlocking with
  | some code =>
    return .next (socketError w code .unsupported "Enabling non-blocking UDP I/O failed.")
  | none => sendToLoop w size deadline fuel fuel

/-- The attempt with one resolved address, on a socket that is created for it. -/
def sendOwned (address : Address) (size : Nat) (deadline : Int) (fuel : Nat) :
    UdpM Candidate := do
  match ← openHandle w.socket with
  | .error code =>
    return .next (socketError w code .resourceExhausted "Creating a UDP socket failed.")
  | .ok candidate =>
    match ← sendNewSocket w size deadline fuel with
    | .done =>
      commit candidate address (← observe w.localEndpoint)
      return .done
    | failed =>
      closeHandles [candidate]
      return failed

def isOpen (client : Option UdpImpl) : Bool := client.any fun impl => impl.socket.isSome

/-- The attempt with one resolved address: on the client's socket, if it has one. -/
def sendCandidate (address : Address) (size : Nat) (deadline : Int) (fuel : Nat) :
    UdpM Candidate := do
  if isOpen (← get).client then
    sendToLoop w size deadline fuel fuel
  else
    sendOwned w address size deadline fuel

/-- The loop over the resolved addresses, with `last_error`. -/
def sendToAddresses (size : Nat) (deadline : Int) (fuel : Nat) :
    List Address → TransportError → UdpM TransportStatus
  | [], lastError => return .error lastError
  | address :: addresses, _ => do
    match ← sendCandidate w address size deadline fuel with
    | .done => return .ok ()
    | .next error => sendToAddresses size deadline fuel addresses error
    | .stop error => return .error error

def noDestinationError : TransportError :=
  { category := .connection, code := .addressUnavailable,
    message := "No resolved UDP destination could be used." }

/-- `sendTo` after its checks. -/
def sendToChecked (size : Nat) (timeout : Int) (fuel : Nat) : UdpM (TransferResult Nat) := do
  let deadline := (udpDeadline (← observe w.clock) timeout).value
  match initializeSockets w with
  | some code =>
    return ⟨0, socketError w code .unsupported
      "The platform socket runtime could not be initialized."⟩
  | none =>
    match ← getaddrinfo w with
    | .error code =>
      return ⟨0, resolutionError code "The remote UDP endpoint could not be resolved."⟩
    | .ok (list, addresses) =>
      let status ← sendToAddresses w size deadline fuel addresses noDestinationError
      freeaddrinfo list
      match status with
      | .ok _ => return ⟨size, {}⟩
      | .error error => return ⟨0, error⟩

/-- `UdpClient::sendTo`. -/
def sendTo (endpoint : Endpoint) (data : SendData) (timeout : Int) :
    UdpM (TransferResult Nat) := do
  if (← get).client.isNone then
    return ⟨0, validationError "The UDP client was moved from."⟩
  if maximumDatagramSize < data.bytes.length then
    return ⟨0, { category := .validation, code := .messageTooLarge,
                 message := "The UDP datagram exceeds the portable payload boundary." }⟩
  if !endpoint.isValid || (data.isNull && !data.bytes.isEmpty) || !(0 ≤ timeout) then
    return ⟨0, validationError "UDP destination, payload size, and timeout must be valid."⟩
  if ← observe w.cancelled then
    return ⟨0, transportCancellationError⟩
  sendToChecked w data.bytes.length timeout w.turns

end UdpClient

/-! ## Receiving -/

/-- `UdpDatagram`; the source of one that has arrived is what is decoded from its address. -/
structure UdpDatagram where
  source : Endpoint := {}
  payload : Bytes := []
  deriving DecidableEq, Repr

/-- A client with the datagrams that have arrived at its socket. -/
structure UdpReader where
  client : Option UdpImpl := some {}
  queue : List UdpDatagram := []
  deriving DecidableEq, Repr

abbrev UdpReaderM := CallM UdpReader

/-- The answers of `recvfrom`: it fails, or hands over the next datagram, if there is one. A datagram
that is too large is no failure here. -/
structure UdpReaderWorld extends SocketWorld where
  receive : Nat → Option NativeCode
  receive_ne : ∀ k, receive k ≠ some .messageSize

namespace UdpClient

/-- What the client does without its datagrams. -/
def onClient {α : Type} (x : UdpM α) : UdpReaderM α :=
  withPart UdpReader.client (fun reader client => { reader with client }) x

variable (w : UdpReaderWorld)

/-- `recvfrom` and `recvmsg`: what is stored of a datagram, and whether it is truncated. -/
def nativeReceive (maximumSize : Nat) : UdpReaderM (Except NativeCode (UdpDatagram × Bool)) :=
  fun s =>
    let next := { s with tick := s.tick + 1 }
    match w.receive s.tick, s.client.queue with
    | some code, _ => some (.error code, next)
    | none, [] => some (.error .wouldBlock, next)
    | none, d :: queue =>
      some (.ok (⟨d.source, d.payload.take maximumSize⟩, maximumSize < d.payload.length),
        { next with client := { s.client with queue } })

def datagramTruncatedError (nativeCode : Int) : TransportError :=
  { category := .protocol, code := .datagramTruncated,
    message := "The received UDP datagram exceeded the supplied buffer.", nativeCode }

/-- What is returned for a datagram. Windows reports one that is truncated by an error, before its
source is looked at. -/
def receivedResult (d : UdpDatagram) (truncated : Bool) : TransferResult UdpDatagram :=
  if w.windows && truncated then ⟨d, datagramTruncatedError (w.nativeCode .messageSize)⟩
  else if !d.source.isValid then
    ⟨{}, { category := .inputOutput, code := .receiveFailed,
           message := "The UDP source endpoint could not be decoded." }⟩
  else if truncated then ⟨d, datagramTruncatedError 0⟩
  else ⟨d, {}⟩

/-- The loop of `receiveFrom`. -/
def receiveFromLoop (maximumSize : Nat) (deadline : Int) (waitFuel : Nat) :
    Nat → UdpReaderM (TransferResult UdpDatagram)
  | 0 => stillRunning
  | fuel + 1 => do
    let waitError ← onClient (wait w.toSocketWorld deadline waitFuel)
    if !waitError.ok then
      return ⟨{}, waitError⟩
    match ← nativeReceive w maximumSize with
    | .error code =>
      if pendingError w.toSocketWorld code || interruptedError code then
        receiveFromLoop maximumSize deadline waitFuel fuel
      else
        return ⟨{}, socketError w.toSocketWorld code .receiveFailed
          "Receiving the UDP datagram failed."⟩
    | .ok (d, truncated) => return receivedResult w d truncated

/-- `UdpClient::receiveFrom`; `allocates` says whether the buffer can be allocated. -/
def receiveFrom (maximumSize : Nat) (timeout : Int) (allocates : Bool) :
    UdpReaderM (TransferResult UdpDatagram) := do
  if !isOpen (← get).client.client then
    return ⟨{}, { category := .connection, code := .notConnected,
                  message := "The UDP socket is not open." }⟩
  if maximumSize = 0 || maximumDatagramSize < maximumSize || !(0 ≤ timeout) then
    return ⟨{}, validationError "UDP receive size and timeout must be valid."⟩
  if !allocates then
    return ⟨{}, { category := .inputOutput, code := .resourceExhausted,
                  message := "Allocating the UDP receive buffer failed." }⟩
  let deadline := (udpDeadline (← observe w.clock) timeout).value
  receiveFromLoop w maximumSize deadline w.turns w.turns

end UdpClient

end WSE.Impl.Xpt
