import WapitiStew.Impl.Xpt.TcpClient

/-!
# The serial port

`open`, `close` and `send` of `platform/xpt/serial/SerialPort.cpp`, for Windows
and for POSIX. A port that was moved from has no `impl`.

Building an error allocates its message. `send` is left by an exception when
there is no memory for it: its result is `none` then, and the guard of a
pending write has cancelled and collected it.
-/

namespace WSE.Impl.Xpt

open WSE.Framework

/-- The read of a port on Windows: `m_read_buffer` and the members beside it. -/
structure SerialRead where
  buffer : Bytes := []
  size : Nat := 0
  offset : Nat := 0
  isPending : Bool := false
  deriving DecidableEq, Repr

/-- `SerialPort::Impl`; `event` is the event of the read, on Windows. -/
structure SerialImpl where
  handle : Option Nat := none
  event : Option Nat := none
  read : SerialRead := {}
  deviceName : Bytes := []
  baudRate : Int := 0
  deriving DecidableEq, Repr

/-- A write that is about to be cancelled: the calls made before it is collected, the size of its
request, and what it is cancelled for. -/
structure CancelledWrite where
  tick : Nat
  size : Nat
  reason : TransportErrorCategory
  deriving DecidableEq, Repr

/-- A port, the request of its overlapped write while that is outstanding, and a record of the
writes that were cancelled. -/
structure SerialClient where
  impl : Option SerialImpl := some {}
  write : Option Bytes := none
  cancels : List CancelledWrite := []
  deriving DecidableEq, Repr

abbrev SerialM := CallM SerialClient

/-! ## The platform -/

/-- How `WriteFile` starts a write. -/
inductive WriteStart
  | done (sent : Nat)
  | pending
  | failed (code : Int)
  deriving DecidableEq, Repr

/-- What `GetOverlappedResult` says of a write. -/
inductive Completion
  | succeeded (transferred : Nat)
  | incomplete
  | aborted (transferred : Nat)
  | failed (transferred : Nat) (code : Int)
  deriving DecidableEq, Repr

def Completion.transferred : Completion → Nat
  | .succeeded n | .aborted n | .failed n _ => n
  | .incomplete => 0

/-- The answer of `poll`: whether the device is broken, and whether it takes bytes. -/
inductive Poll
  | events (broken writable : Bool)
  | expired
  | failed (code : NativeCode)
  deriving DecidableEq, Repr

/-- The answers of the serial functions; `none` stands for success. -/
structure SerialWorld extends Surroundings where
  allocates : Nat → Bool
  -- Windows
  multiByteToWideChar : Bytes → Option (List UInt16)
  createFile : Nat → Option Int
  getCommState : Nat → Option Int
  setCommState : Nat → Option Int
  setupComm : Nat → Option Int
  setCommTimeouts : Nat → Option Int
  purgeComm : Nat → Option Int
  appliedBaudRate : Nat → Int
  createEvent : Nat → Option Int
  waitForSingleObject : Nat → Option Int
  writeFile : Nat → Nat → WriteStart
  writeFile_le : ∀ {k size sent}, writeFile k size = .done sent → sent ≤ size
  overlappedResult : Bool → Nat → Nat → Completion
  transferred_le : ∀ {wait k size}, (overlappedResult wait k size).transferred ≤ size
  waited : ∀ {k size}, overlappedResult true k size ≠ .incomplete
  -- POSIX
  openDevice : Nat → Option NativeCode
  getTermios : Nat → Option NativeCode
  setTermios : Nat → Option NativeCode
  flush : Nat → Option NativeCode
  poll : Nat → Poll
  write : Nat → Nat → Except NativeCode Nat
  write_le : ∀ {k size sent}, write k size = .ok sent → sent ≤ size
  appliedSpeeds : Nat → Int × Int

def serialTimeoutError : TransportError :=
  { category := .timeout, code := .timedOut, message := "The serial operation timed out." }

def serialCancellationError : TransportError :=
  { category := .cancellation, code := .cancelled, message := "The serial operation was cancelled." }

def serialError (code : TransportErrorCode) (message : String) (nativeCode : Int) :
    TransportError :=
  ⟨if code = .openFailed then .connection else .inputOutput, code, message, nativeCode⟩

namespace SerialPort

def isOpen (client : SerialClient) : Bool := client.impl.any fun impl => impl.handle.isSome

/-- `Impl::close`: a pending read is collected, and its bytes are dropped. -/
def close : SerialM Unit := modify fun s =>
  match s.client.impl with
  | none => s
  | some impl =>
    { s with handles := s.handles.release (impl.handle.toList ++ impl.event.toList),
             client := { s.client with impl := some {} } }

variable (w : SerialWorld)

/-! ## Opening -/

def convertDeviceName (deviceName : Bytes) : List UInt16 :=
  if deviceName.isEmpty then []
  else
    match w.multiByteToWideChar deviceName with
    | some (c :: o :: m :: rest) =>
      let converted := c :: o :: m :: rest
      if (c = 67 || c = 99) && (o = 79 || o = 111) && (m = 77 || m = 109) then
        [92, 92, 46, 92] ++ converted
      else converted
    | some converted => converted
    | none => []

/-- A native call of the configuration, and what its failure is reported as. -/
def configurationStep (call : Nat → Option Int) (message : String) :
    SerialM (Option TransportError) := do
  match ← observe call with
  | some code => return some (serialError .configurationFailed message code)
  | none => return none

/-- The comparison of an applied rate with the requested one. -/
def compareBaudRate (differs : Nat → Bool) : SerialM (Option TransportError) := do
  if ← observe differs then
    return some (serialError .configurationFailed
      "The applied serial baud rate differs from the request." 0)
  return none

/-- The first error of a list of steps; the steps after it are not made. -/
def firstError : List (SerialM (Option TransportError)) → SerialM (Option TransportError)
  | [] => return none
  | step :: steps => do
    match ← step with
    | some error => return some error
    | none => firstError steps

/-- The code of a failed POSIX call. -/
def errno (call : Nat → Option NativeCode) (k : Nat) : Option Int := (call k).map w.nativeCode

/-- The configuration of a new handle, up to the last native call. -/
def configure (baudRate : Int) : SerialM (Option TransportError) :=
  if w.windows then
    firstError
      [configurationStep w.getCommState "Reading serial settings failed.",
       configurationStep w.setCommState "Configuring the serial device failed.",
       configurationStep w.setupComm "Configuring the serial device failed.",
       configurationStep w.getCommState "Reading applied serial settings failed.",
       compareBaudRate fun k => w.appliedBaudRate k ≠ baudRate,
       configurationStep w.setCommTimeouts "Configuring serial timeouts failed.",
       configurationStep w.purgeComm "Clearing serial buffers failed."]
  else
    firstError
      [configurationStep (errno w w.getTermios) "Reading serial settings failed.",
       configurationStep (errno w w.setTermios) "Configuring the serial device failed.",
       configurationStep (errno w w.getTermios) "Reading applied serial settings failed.",
       compareBaudRate fun k => (w.appliedSpeeds k).1 ≠ baudRate || (w.appliedSpeeds k).2 ≠ baudRate,
       configurationStep (errno w w.flush) "Clearing serial buffers failed."]

/-- The last check: the token and the deadline, and the token again for the error. -/
def checkInTime (deadline : Int) : SerialM (Option TransportError) := do
  if ← observe w.cancelled then
    return some (if ← observe w.cancelled then serialCancellationError else serialTimeoutError)
  if deadline ≤ (← observe w.clock) then
    return some (if ← observe w.cancelled then serialCancellationError else serialTimeoutError)
  return none

/-- `CreateFileW` or `::open`. -/
def openFile (k : Nat) : Option Int :=
  if w.windows then w.createFile k else (w.openDevice k).map w.nativeCode

/-- The new handle is configured, and becomes the one of the port. -/
def openCandidate (deviceName : Bytes) (baudRate deadline : Int) : SerialM TransportStatus := do
  match ← openHandle (openFile w) with
  | .error code =>
    return .error (serialError .openFailed "Opening the serial device failed." code)
  | .ok candidate =>
    match ← firstError [configure w baudRate, checkInTime w deadline] with
    | some error =>
      closeHandles [candidate]
      return .error error
    | none =>
      close
      modify fun s =>
        { s with client := { s.client with
            impl := some { handle := some candidate, deviceName, baudRate } } }
      return .ok ()

/-- `SerialPort::open`; `timeout` is in milliseconds. -/
def openPort (deviceName : Bytes) (baudRate timeout : Int) : SerialM TransportStatus := do
  if (← get).client.impl.isNone then
    return .error (validationError "The serial port was moved from.")
  if deviceName.isEmpty || intMax < deviceName.length || deviceName.contains 0 ||
      baudRate ≤ 0 || !(0 ≤ timeout) then
    return .error (validationError
      "A device, positive baud rate, and non-negative timeout are required.")
  if ← observe w.cancelled then
    return .error serialCancellationError
  let deadline := (serialDeadline (← observe w.clock) timeout).value
  if deadline ≤ (← observe w.clock) then
    return .error serialTimeoutError
  if w.windows && (convertDeviceName w deviceName).isEmpty then
    return .error (validationError "The device name must be valid UTF-8.")
  openCandidate w deviceName baudRate deadline

/-! ## Sending -/

/-- An error, if there is memory for it. -/
def build (error : TransportError) : SerialM (Option TransportError) := do
  return if ← observe w.allocates then some error else none

/-- The end of a send with an error. -/
def failSend (sentTotal : Nat) (error : TransportError) :
    SerialM (Option (TransferResult Nat)) := do
  return (← build w error).map (⟨sentTotal, ·⟩)

/-- What is left to do after a write of the loop. -/
inductive Progress
  | more (sentTotal : Nat)
  | done (result : Option (TransferResult Nat))
  deriving DecidableEq, Repr

/-- `GetOverlappedResult` of the outstanding write; what it transferred was taken from the start
of its request. -/
def getOverlappedResult (wait : Bool) : SerialM Completion := fun s =>
  match s.client.write with
  | none => some (.failed 0 0, s)
  | some request =>
    let t := { s with tick := s.tick + 1 }
    match w.overlappedResult wait s.tick request.length with
    | .incomplete => some (.incomplete, t)
    | completion =>
      some (completion,
        { t with accepted := s.accepted ++ request.take completion.transferred,
                 client := { s.client with write := none } })

/-- `WriteFile`. -/
def writeFile (request : Bytes) : SerialM WriteStart := fun s =>
  let t := { s with tick := s.tick + 1 }
  match w.writeFile s.tick request.length with
  | .done sent => some (.done sent, { t with accepted := s.accepted ++ request.take sent })
  | .pending => some (.pending, { t with client := { s.client with write := some request } })
  | .failed code => some (.failed code, t)

/-- How the loop of `waitForOverlapped` ends; `threw` is the exception. -/
inductive WaitEnd
  | completed (result : TransferResult Nat)
  | broken (failure : TransportError)
  | threw
  deriving DecidableEq, Repr

/-- The failure the loop is left with. -/
def breakWait (failure : TransportError) : SerialM WaitEnd := do
  match ← build w failure with
  | some failure => return .broken failure
  | none => return .threw

/-- A completion that failed. -/
def failedWait (transferred : Nat) (code : Int) : SerialM WaitEnd := do
  match ← build w (serialError .sendFailed "Completing serial send failed." code) with
  | some error => return .completed ⟨transferred, error⟩
  | none => return .threw

/-- `ERROR_OPERATION_ABORTED`. -/
def errorOperationAborted : Int := 995

/-- The loop of `waitForOverlapped`. -/
def overlappedLoop (deadline : Int) : Nat → SerialM WaitEnd
  | 0 => stillRunning
  | fuel + 1 => do
    match ← getOverlappedResult w false with
    | .succeeded transferred => return .completed ⟨transferred, {}⟩
    | .aborted transferred => failedWait w transferred errorOperationAborted
    | .failed transferred code => failedWait w transferred code
    | .incomplete =>
      if ← observe w.cancelled then
        breakWait w serialCancellationError
      else if deadline ≤ (← observe w.clock) then
        breakWait w serialTimeoutError
      else
        -- waits for at least 1 ms and at most 20 ms, and not much beyond the deadline
        match ← observe w.waitForSingleObject with
        | some code =>
          breakWait w (serialError .sendFailed "Waiting for serial send failed." code)
        | none => overlappedLoop deadline fuel

/-- What the outstanding write is cancelled for. -/
def recordCancel (failure : TransportError) : SerialM Unit := modify fun s =>
  { s with client := { s.client with cancels := s.client.cancels ++
      [⟨s.tick, (s.client.write.getD []).length, failure.category⟩] } }

/-- The write is cancelled and collected; what it transferred counts. -/
def collectCancelled (failure : TransportError) : SerialM (Option (TransferResult Nat)) := do
  recordCancel failure
  match ← getOverlappedResult w true with
  | .succeeded transferred => return some ⟨transferred, {}⟩
  | .failed transferred code =>
    failSend w transferred
      (serialError .sendFailed "Collecting cancelled serial send failed." code)
  | completion => failSend w completion.transferred failure

def waitForOverlapped (deadline : Int) (fuel : Nat) :
    SerialM (Option (TransferResult Nat)) := do
  match ← overlappedLoop w deadline fuel with
  | .completed result => return some result
  | .broken failure => collectCancelled w failure
  | .threw => return none

/-- The result of a wait that was not left by an exception. -/
def takeProgress (size sentTotal : Nat) (completed : TransferResult Nat) : SerialM Progress := do
  let sentTotal := sentTotal + min completed.value (size - sentTotal)
  if completed.succeeded then
    return .more sentTotal
  if completed.error.category = .inputOutput then
    close
  return .done (← failSend w sentTotal completed.error)

/-- One write of the loop of `send` on Windows. -/
def overlappedWrite (data : Bytes) (sentTotal : Nat) (deadline : Int) (fuel : Nat) :
    SerialM Progress := do
  match ← writeFile w (data.drop sentTotal) with
  | .done sent => return .more (sentTotal + sent)
  | .failed code =>
    close
    return .done (← failSend w sentTotal
      (serialError .sendFailed "Sending serial data failed." code))
  | .pending =>
    match ← waitForOverlapped w deadline fuel with
    | some completed => takeProgress w data.length sentTotal completed
    | none =>
      -- the guard cancels the write, and waits for it
      discard (getOverlappedResult w true)
      return .done none

/-- The loop body of `send` on Windows; the event is closed at its end. -/
def sendWindows (data : Bytes) (sentTotal : Nat) (deadline : Int) (fuel : Nat) :
    SerialM Progress := do
  match ← openHandle w.createEvent with
  | .error code =>
    return .done (← failSend w sentTotal
      (serialError .resourceExhausted "Creating a serial I/O event failed." code))
  | .ok event =>
    let progress ← overlappedWrite w data sentTotal deadline fuel
    closeHandles [event]
    return progress

/-- `waitForDescriptor` for writing. -/
def waitForDescriptor (deadline : Int) : Nat → SerialM TransportError
  | 0 => stillRunning
  | fuel + 1 => do
    if ← observe w.cancelled then
      return serialCancellationError
    if deadline ≤ (← observe w.clock) then
      return serialTimeoutError
    match ← observe w.poll with
    | .events broken writable =>
      if broken then
        return serialError .sendFailed "The serial device was disconnected."
          (w.nativeCode .inputOutput)
      if writable then
        return {}
      waitForDescriptor deadline fuel
    | .expired => waitForDescriptor deadline fuel
    | .failed code =>
      if interruptedError code then
        waitForDescriptor deadline fuel
      else
        return serialError .unknown "Waiting for serial I/O failed." (w.nativeCode code)

/-- `::write`: the operating system takes a part of the request from its start. -/
def nativeWrite (request : Bytes) : SerialM (Except NativeCode Nat) := fun s =>
  let t := { s with tick := s.tick + 1 }
  match w.write s.tick request.length with
  | .ok sent => some (.ok sent, { t with accepted := s.accepted ++ request.take sent })
  | .error code => some (.error code, t)

/-- The loop body of `send` on POSIX. -/
def sendPosix (data : Bytes) (sentTotal : Nat) (deadline : Int) (fuel : Nat) :
    SerialM Progress := do
  let waitError ← waitForDescriptor w deadline fuel
  if !waitError.ok then
    if waitError.category = .inputOutput then
      close
    return .done (← failSend w sentTotal waitError)
  match ← nativeWrite w (data.drop sentTotal) with
  | .ok sent => return .more (sentTotal + sent)
  | .error code =>
    if code = .again || code = .wouldBlock || interruptedError code then
      return .more sentTotal
    close
    return .done (← failSend w sentTotal
      (serialError .sendFailed "Sending serial data failed." (w.nativeCode code)))

/-- The loop body of `send`, after its checks. -/
def sendStep (data : Bytes) (sentTotal : Nat) (deadline : Int) (fuel : Nat) : SerialM Progress :=
  if w.windows then sendWindows w data sentTotal deadline fuel
  else sendPosix w data sentTotal deadline fuel

/-- The loop of `send`, when `sentTotal` bytes were sent. -/
def sendLoop (data : Bytes) (deadline : Int) (waitFuel : Nat) :
    Nat → Nat → SerialM (Option (TransferResult Nat))
  | 0, _ => stillRunning
  | fuel + 1, sentTotal => do
    if data.length ≤ sentTotal then
      return some ⟨sentTotal, {}⟩
    if ← observe w.cancelled then
      return ← failSend w sentTotal serialCancellationError
    if deadline ≤ (← observe w.clock) then
      return ← failSend w sentTotal serialTimeoutError
    match ← sendStep w data sentTotal deadline waitFuel with
    | .more sentTotal => sendLoop data deadline waitFuel fuel sentTotal
    | .done result => return result

/-- `SerialPort::send`; `none` is the exception. -/
def send (data : SendData) (timeout : Int) : SerialM (Option (TransferResult Nat)) := do
  if !isOpen (← get).client then
    return ← failSend w 0 { category := .connection, code := .notConnected,
                            message := "The serial port is not open." }
  if (data.isNull && !data.bytes.isEmpty) || intMax < data.bytes.length || !(0 ≤ timeout) then
    return ← failSend w 0 (validationError "Send data, size, and timeout must be valid.")
  if data.bytes.isEmpty then
    return some ⟨0, {}⟩
  let deadline := (serialDeadline (← observe w.clock) timeout).value
  sendLoop w data.bytes deadline w.turns w.turns 0

end SerialPort

end WSE.Impl.Xpt
