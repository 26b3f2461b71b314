import WapitiStew.Impl.Xpt.Socket

/-!
# The TCP client

`connect`, `disconnect`, `send`, `receive` and `checkPeerConnection` of
`platform/xpt/network/TcpClient.cpp`. A client that was moved from is `none`.
-/

namespace WSE.Impl.Xpt

open WSE.Framework

/-- `TcpClient::Impl`. -/
structure TcpImpl where
  socket : Option Nat := none
  remote : Endpoint := {}
  localEndpoint : Endpoint := {}
  deriving DecidableEq, Repr

abbrev TcpM := CallM (Option TcpImpl)

/-- The data of a send: the bytes, and whether the pointer to them is null. -/
structure SendData where
  bytes : Bytes
  isNull : Bool := false
  deriving DecidableEq, Repr

/-- `INT_MAX`. -/
def intMax : Nat := 2147483647

namespace TcpClient

/-- `Impl::close`; `shutdown` leaves the handle open. -/
def close : TcpM Unit := modify fun s =>
  match s.client with
  | none => s
  | some impl =>
    { s with handles := s.handles.release impl.socket.toList, client := some {} }

/-- `TcpClient::disconnect`. -/
def disconnect : TcpM Unit := close

def isConnected (client : Option TcpImpl) : Bool := client.any fun impl => impl.socket.isSome

variable (w : SocketWorld)

def pendingError (code : NativeCode) : Bool :=
  if w.windows then code = .inProgress || code = .wouldBlock || code = .invalid
  else code = .inProgress || code = .wouldBlock || code = .again

def socketError (code : NativeCode) (fallback : TransportErrorCode) (message : String) :
    TransportError :=
  let error (category : TransportErrorCategory) (stable : TransportErrorCode) : TransportError :=
    ⟨category, stable, message, w.nativeCode code⟩
  match code with
  | .connectionRefused => error .connection .connectionRefused
  | .connectionReset | .connectionAborted => error .connection .connectionReset
  | .brokenPipe =>
    if w.windows then error .inputOutput fallback else error .connection .connectionReset
  | .networkUnreachable | .hostUnreachable => error .connection .networkUnreachable
  | .addressNotAvailable => error .connection .addressUnavailable
  | .notConnected => error .connection .notConnected
  | .timedOut => error .timeout .timedOut
  | _ => error .inputOutput fallback

/-- `waitForSocket`. -/
def wait (deadline : Int) (fuel : Nat) : TcpM TransportError :=
  waitForSocket w (socketError w) "Waiting for the socket failed." deadline fuel

/-! ## Connecting -/

/-- The connection of a candidate that is not connected yet. -/
def finishConnect (deadline : Int) (fuel : Nat) : TcpM Candidate := do
  let waitError ← wait w deadline fuel
  if !waitError.ok then
    if waitError.category = .timeout || waitError.category = .cancellation then
      return .stop waitError
    return .next waitError
  match ← observe w.connectionError with
  | some code => return .next (socketError w code .unknown "Connecting the TCP socket failed.")
  | none => return .done

/-- `::connect`, and the wait for it. -/
def connectSocket (deadline : Int) (fuel : Nat) : TcpM Candidate := do
  match ← observe w.connect with
  | none => return .done
  | some code =>
    if !pendingError w code then
      return .next (socketError w code .unknown "Connecting the TCP socket failed.")
    finishConnect w deadline fuel

/-- What is done with a new socket: it is set up and connected. -/
def setUpSocket (deadline : Int) (fuel : Nat) : TcpM Candidate := do
  match ← observe w.nonBlocking with
  | some code =>
    return .next (socketError w code .unsupported "Enabling non-blocking socket I/O failed.")
  | none => connectSocket w deadline fuel

/-- The socket becomes the one of the client. -/
def commit (candidate : Nat) (endpoint : Endpoint) : TcpM Unit := do
  let localEndpoint ← observe w.localEndpoint
  modify fun s => { s with client := some ⟨some candidate, endpoint, localEndpoint⟩ }

/-- The attempt with one resolved address. -/
def connectCandidate (endpoint : Endpoint) (deadline : Int) (fuel : Nat) : TcpM Candidate := do
  match ← openHandle w.socket with
  | .error code =>
    return .next (socketError w code .resourceExhausted "Creating a TCP socket failed.")
  | .ok candidate =>
    match ← setUpSocket w deadline fuel with
    | .done =>
      commit w candidate endpoint
      return .done
    | failed =>
      closeHandles [candidate]
      return failed

/-- The loop over the resolved addresses, with `last_error`. -/
def connectLoop (endpoint : Endpoint) (deadline : Int) (fuel : Nat) :
    List Address → TransportError → TcpM TransportStatus
  | [], lastError => return .error lastError
  | _ :: addresses, _ => do
    if ← observe w.cancelled then
      return .error transportCancellationError
    if deadline ≤ (← observe w.clock) then
      return .error transportTimeoutError
    match ← connectCandidate w endpoint deadline fuel with
    | .done => return .ok ()
    | .next error => connectLoop endpoint deadline fuel addresses error
    | .stop error => return .error error

def noAddressError : TransportError :=
  { category := .connection, code := .addressUnavailable,
    message := "No resolved address could be connected." }

/-- `connect` after its checks. -/
def connectChecked (endpoint : Endpoint) (timeout : Int) (fuel : Nat) : TcpM TransportStatus := do
  close
  let deadline := (tcpDeadline (← observe w.clock) timeout).value
  match initializeSockets w with
  | some code =>
    return .error (socketError w code .unsupported
      "The platform socket runtime could not be initialized.")
  | none =>
    match ← getaddrinfo w with
    | .error code =>
      return .error { category := .resolution, code := .hostNotFound,
                      message := "The endpoint host could not be resolved.", nativeCode := code }
    | .ok (list, addresses) =>
      let status ← connectLoop w endpoint deadline fuel addresses noAddressError
      freeaddrinfo list
      return status

/-- `TcpClient::connect`; `timeout` is in milliseconds. -/
def connect (endpoint : Endpoint) (timeout : Int) : TcpM TransportStatus := do
  if (← get).client.isNone then
    return .error (validationError "The TCP client was moved from.")
  if !endpoint.isValid then
    return .error (validationError "A host and non-zero port are required.")
  if !(0 ≤ timeout) then
    return .error (validationError "The timeout must not be negative.")
  if ← observe w.cancelled then
    return .error transportCancellationError
  connectChecked w endpoint timeout w.turns

/-! ## Sending -/

/-- `::send`: the operating system takes a part of the request from its start. -/
def nativeSend (request : Bytes) : TcpM (Except NativeCode Nat) := fun s =>
  match w.send s.tick request.length with
  | .ok sent =>
    some (.ok sent,
      { s with tick := s.tick + 1, accepted := s.accepted ++ request.take sent })
  | .error code => some (.error code, { s with tick := s.tick + 1 })

/-- The end of a send whose native call failed. -/
def sendFailed (sentTotal : Nat) (code : NativeCode) : TcpM (TransferResult Nat) := do
  let error := socketError w code .sendFailed "Sending TCP data failed."
  if error.category = .connection then
    close
  return ⟨sentTotal, error⟩

/-- The loop of `send`, when `sentTotal` bytes were sent. -/
def sendLoop (data : Bytes) (deadline : Int) (waitFuel : Nat) :
    Nat → Nat → TcpM (TransferResult Nat)
  | 0, _ => stillRunning
  | fuel + 1, sentTotal => do
    if data.length ≤ sentTotal then
      return ⟨sentTotal, {}⟩
    let waitError ← wait w deadline waitFuel
    if !waitError.ok then
      return ⟨sentTotal, waitError⟩
    let requestSize := min (data.length - sentTotal) intMax
    match ← nativeSend w ((data.drop sentTotal).take requestSize) with
    | .error code =>
      if pendingError w code || interruptedError code then
        sendLoop data deadline waitFuel fuel sentTotal
      else
        sendFailed w sentTotal code
    | .ok 0 =>
      close
      return ⟨sentTotal, { category := .connection, code := .remoteClosed,
                           message := "The TCP peer closed the connection." }⟩
    | .ok sent => sendLoop data deadline waitFuel fuel (sentTotal + sent)

/-- `TcpClient::send`. -/
def send (data : SendData) (timeout : Int) : TcpM (TransferResult Nat) := do
  if !isConnected (← get).client then
    return ⟨0, { category := .connection, code := .notConnected,
                 message := "The TCP client is not connected." }⟩
  if (data.isNull && !data.bytes.isEmpty) || !(0 ≤ timeout) then
    return ⟨0, validationError "Send data and timeout must be valid."⟩
  if data.bytes.isEmpty then
    return ⟨0, {}⟩
  let deadline := (tcpDeadline (← observe w.clock) timeout).value
  sendLoop w data.bytes deadline w.turns w.turns 0

/-! ## Receiving -/

end TcpClient

/-- A client with the bytes that are on their way to it. -/
structure TcpReader where
  client : Option TcpImpl := some {}
  incoming : Bytes := []
  deriving DecidableEq, Repr

abbrev TcpReaderM := CallM TcpReader

/-- The answers of `recv`: how many bytes it hands over, and whether a byte is pending. -/
structure TcpReaderWorld extends SocketWorld where
  recv : Nat → Nat → Except NativeCode Nat
  recv_le : ∀ {k size received}, recv k size = .ok received → received ≤ size
  peek : Nat → Except NativeCode Bool

namespace TcpClient

/-- What the client does without its stream. -/
def onClient {α : Type} (x : TcpM α) : TcpReaderM α :=
  withPart TcpReader.client (fun reader client => { reader with client }) x

variable (w : TcpReaderWorld)

/-- `recv`: the operating system hands over the first bytes that are on their way. -/
def nativeRecv (size : Nat) : TcpReaderM (Except NativeCode Bytes) := fun s =>
  match w.recv s.tick size with
  | .ok received =>
    some (.ok (s.client.incoming.take received),
      { s with
        tick := s.tick + 1
        client := { s.client with incoming := s.client.incoming.drop received } })
  | .error code => some (.error code, { s with tick := s.tick + 1 })

def remoteClosedError : TransportError :=
  { category := .connection, code := .remoteClosed,
    message := "The TCP peer closed the connection." }

/-- The end of a receive whose native call failed. -/
def receiveFailed (code : NativeCode) : TcpReaderM (TransferResult Bytes) := do
  let error := socketError w.toSocketWorld code .receiveFailed "Receiving TCP data failed."
  if error.category = .connection then
    onClient close
  return ⟨[], error⟩

/-- The loop of `receive`. -/
def receiveLoop (maximumSize : Nat) (deadline : Int) (waitFuel : Nat) :
    Nat → TcpReaderM (TransferResult Bytes)
  | 0 => stillRunning
  | fuel + 1 => do
    let waitError ← onClient (wait w.toSocketWorld deadline waitFuel)
    if !waitError.ok then
      return ⟨[], waitError⟩
    match ← nativeRecv w maximumSize with
    | .error code =>
      if pendingError w.toSocketWorld code || interruptedError code then
        receiveLoop maximumSize deadline waitFuel fuel
      else
        receiveFailed w code
    | .ok [] =>
      onClient close
      return ⟨[], remoteClosedError⟩
    | .ok received => return ⟨received, {}⟩

/-- `TcpClient::receive`; `allocates` says whether the buffer can be allocated. -/
def receive (maximumSize : Nat) (timeout : Int) (allocates : Bool) :
    TcpReaderM (TransferResult Bytes) := do
  if !isConnected (← get).client.client then
    return ⟨[], { category := .connection, code := .notConnected,
                  message := "The TCP client is not connected." }⟩
  if maximumSize = 0 || intMax < maximumSize || !(0 ≤ timeout) then
    return ⟨[], validationError "Receive size and timeout must be valid."⟩
  if !allocates then
    return ⟨[], { category := .inputOutput, code := .resourceExhausted,
                  message := "Allocating the receive buffer failed." }⟩
  let deadline := (tcpDeadline (← observe w.clock) timeout).value
  receiveLoop w maximumSize deadline w.turns w.turns

def wouldBlockError (code : NativeCode) : Bool :=
  if w.windows then code = .wouldBlock else code = .wouldBlock || code = .again

/-- The attempts of `checkPeerConnection`, when so many are left. -/
def peekLoop : Nat → TcpReaderM TransportStatus
  | 0 => do
    onClient close
    return .error { category := .inputOutput, code := .receiveFailed,
                    message := "Checking the TCP peer connection was repeatedly interrupted." }
  | attempts + 1 => do
    match ← observe w.peek with
    | .ok true => return .ok ()
    | .ok false =>
      onClient close
      return .error remoteClosedError
    | .error code =>
      if wouldBlockError w code then
        return .ok ()
      if interruptedError code && 0 < attempts then
        peekLoop attempts
      else
        onClient close
        return .error (socketError w.toSocketWorld code .receiveFailed
          "Checking the TCP peer connection failed.")

/-- `TcpClient::checkPeerConnection`. -/
def checkPeerConnection : TcpReaderM TransportStatus := do
  if !isConnected (← get).client.client then
    return .error { category := .connection, code := .notConnected,
                    message := "The TCP client is not connected." }
  peekLoop w 4

end TcpClient

end WSE.Impl.Xpt
