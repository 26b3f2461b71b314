import WapitiStew.Framework.Transition
import WapitiStew.Impl.Xpt.SerialPort

/-!
# Receiving from the serial port on Windows

`receive` and `close` of `platform/xpt/serial/SerialPort.cpp` on Windows, with
`receiveWindows`, `startRead`, `waitForRead`, `cancelRead` and `takeReadBytes`.

A port has one overlapped read. It stays with the driver when a receive times
out, so it may complete before, during or after any later call: the device and
its driver are parties of the system, and a step of `receiveWindows` ends where
the code asks the driver, the token, the clock or the allocator. The driver
puts the bytes of a read at the start of its buffer when it completes it.
-/

namespace WSE.Impl.Xpt.SerialReceive

open WSE.Framework

/-! ## The state -/

/-- The overlapped read, as the driver has it. -/
inductive ReadRequest
  | none
  | outstanding
  | completed (transferred : Nat) (failure : Option Int)
  deriving DecidableEq, Repr

/-- How `ReadFile` starts a read. -/
inductive ReadStart
  | done (transferred : Nat)
  | pending
  | failed (transferred : Nat) (code : Int)
  deriving DecidableEq, Repr

/-- The function whose error ends a receive. -/
inductive ReceiveStage
  | startRead | waitForRead
  deriving DecidableEq, Repr

/-- Where `receiveWindows` stands: what it does next. -/
inductive ReceivePoint
  | token
  | cancelRead
  /-- The two arguments of the result of a cancelled receive. -/
  | arguments
  | clock
  -- `startRead`
  | createEvent
  | resize
  | resetEvent
  | readFile
  -- `waitForRead`
  | overlappedResult
  | waitToken
  | waitClock
  | waitForSingleObject
  | cancelWait (error : TransportError)
  -- the end of a receive
  | build (stage : ReceiveStage) (error : TransportError)
  | collect (stage : ReceiveStage) (error : TransportError)
  | close (received : Bytes) (error : TransportError)
  | copyError (received : Bytes) (error : TransportError)
  | takeLast (error : TransportError)
  | badAlloc
  deriving DecidableEq, Repr

structure ReceiveArgs where
  maximum : Nat
  deadline : Int
  deriving DecidableEq, Repr

/-- The call that the owner of the port makes. -/
inductive ReceiveCall
  | idle
  | receiving (args : ReceiveArgs) (point : ReceivePoint)
  | closing
  deriving DecidableEq, Repr

/-- How a receive ended; an exception leaves no result. -/
structure ReceiveResult where
  maximum : Nat
  result : Option (TransferResult Bytes)
  deriving DecidableEq, Repr

structure ReceiveState where
  port : SerialImpl
  request : ReadRequest := .none
  call : ReceiveCall := .idle
  /-- The bytes that no read has taken yet. -/
  incoming : Bytes := []
  /-- All bytes that the device delivered. -/
  delivered : Bytes := []
  results : List ReceiveResult := []
  deriving DecidableEq, Repr

namespace ReceiveState

def isOpen (s : ReceiveState) : Bool := s.port.handle.isSome

def read (s : ReceiveState) : SerialRead := s.port.read

def setRead (s : ReceiveState) (read : SerialRead) : ReceiveState :=
  { s with port := { s.port with read } }

/-- The receive goes on at `point`. -/
def goto (s : ReceiveState) (args : ReceiveArgs) (point : ReceivePoint) : ReceiveState :=
  { s with call := .receiving args point }

/-- The receive returns, or is left by an exception. -/
def finish (s : ReceiveState) (maximum : Nat) (result : Option (TransferResult Bytes)) :
    ReceiveState :=
  { s with call := .idle, results := s.results ++ [⟨maximum, result⟩] }

/-- An allocation: without memory the receive goes on in its handler. -/
def allocate (s : ReceiveState) (args : ReceiveArgs) (allocates : Bool) (t : ReceiveState) :
    ReceiveState :=
  if allocates then t else s.goto args .badAlloc

/-- The driver moves bytes of the device to the start of the buffer. -/
def transfer (s : ReceiveState) (transferred : Nat) : ReceiveState :=
  { s.setRead { s.read with
      buffer := s.incoming.take transferred ++ s.read.buffer.drop transferred } with
    incoming := s.incoming.drop transferred }

/-- The driver is done with the read, and the port has `size` bytes of it. -/
def endRead (s : ReceiveState) (size : Nat) : ReceiveState :=
  { s.setRead { s.read with isPending := false, size, offset := 0 } with request := .none }

/-- The bytes are there, and the buffer holds them. -/
def Fits (s : ReceiveState) (transferred : Nat) : Prop :=
  transferred ≤ s.incoming.length ∧ transferred ≤ s.read.buffer.length

instance (s : ReceiveState) (transferred : Nat) : Decidable (s.Fits transferred) :=
  inferInstanceAs (Decidable (_ ∧ _))

end ReceiveState

/-- `takeReadBytes`. -/
def takeReadBytes (read : SerialRead) (maximum : Nat) : Bytes × SerialRead :=
  let count := min maximum (read.size - read.offset)
  ((read.buffer.drop read.offset).take count, { read with offset := read.offset + count })

/-! ## The device and its driver -/

/-- The driver completes the outstanding read; one that was cancelled fails, or was quicker. -/
def complete (s : ReceiveState) (transferred : Nat) (failure : Option Int) :
    Option ReceiveState :=
  if s.request = .outstanding ∧ s.Fits transferred then
    some { s.transfer transferred with request := .completed transferred failure }
  else none

/-! ## Cancelling and closing -/

/-- `cancelRead`; it waits for the driver. -/
def cancelRead (s : ReceiveState) : Option ReceiveState :=
  if !s.read.isPending then some s
  else
    match s.request with
    | .completed transferred _ => some (s.endRead (min transferred s.read.buffer.length))
    | _ => none

/-- `Impl::close`, once the read is cancelled. -/
def releaseImpl (s : ReceiveState) : ReceiveState := { s with port := {}, request := .none }

/-- `Impl::close`. -/
def closeImpl (s : ReceiveState) : Option ReceiveState :=
  if s.isOpen then (cancelRead s).map releaseImpl else some (releaseImpl s)

/-! ## `startRead` -/

def startReadError (code : Int) : TransportError :=
  serialError .receiveFailed "Receiving serial data failed." code

/-- The event of the read exists from the first read on. -/
def createEvent (s : ReceiveState) (args : ReceiveArgs) : Except Int Nat → ReceiveState
  | .ok event => { s with port := { s.port with event := some event } }.goto args .resize
  | .error code =>
    s.goto args (.build .startRead
      (serialError .resourceExhausted "Creating a serial read event failed." code))

/-- `std::vector::resize`. -/
def resize (buffer : Bytes) (size : Nat) : Bytes :=
  buffer.take size ++ List.replicate (size - buffer.length) 0

/-- A small caller capacity limits the returned prefix, not owned native storage. -/
def resizeBuffer (s : ReceiveState) (args : ReceiveArgs) : ReceiveState :=
  (s.setRead { s.read with buffer := resize s.read.buffer (max args.maximum 256) }).goto args
    .resetEvent

def resetEvent (s : ReceiveState) (args : ReceiveArgs) : Option Int → ReceiveState
  | some code =>
    s.goto args (.build .startRead
      (serialError .receiveFailed "Resetting a serial read event failed." code))
  | none => (s.setRead { s.read with size := 0, offset := 0 }).goto args .readFile

def readFile (s : ReceiveState) (args : ReceiveArgs) : ReadStart → Option ReceiveState
  | .done transferred =>
    if s.Fits transferred then
      let t := s.transfer transferred
      some ((t.setRead { t.read with size := transferred }).goto args .token)
    else none
  | .pending =>
    some ({ s.setRead { s.read with isPending := true } with
      request := .outstanding }.goto args .overlappedResult)
  | .failed transferred code =>
    if s.Fits transferred then
      let t := s.transfer transferred
      some ((t.setRead { t.read with size := min transferred t.read.buffer.length }).goto args
        (.build .startRead (startReadError code)))
    else none

/-! ## `waitForRead` -/

/-- `GetOverlappedResult`, without waiting. -/
def overlappedResult (s : ReceiveState) (args : ReceiveArgs) : Option ReceiveState :=
  match s.request with
  | .none => none
  | .outstanding => some (s.goto args .waitToken)
  | .completed transferred none => some ((s.endRead transferred).goto args .token)
  | .completed transferred (some code) =>
    some ((s.endRead (min transferred s.read.buffer.length)).goto args (.build .waitForRead
      (serialError .receiveFailed "Completing serial receive failed." code)))

/-- The port keeps the request, event and buffer for the next poll when the time is over. -/
def waitClock (s : ReceiveState) (args : ReceiveArgs) (now : Int) : ReceiveState :=
  s.goto args
    (if args.deadline ≤ now then .build .waitForRead serialTimeoutError else .waitForSingleObject)

/-- Waits for at least 1 ms and at most 20 ms, and not much beyond the deadline. -/
def waitForSingleObject (s : ReceiveState) (args : ReceiveArgs) : Option Int → ReceiveState
  | some code =>
    s.goto args (.cancelWait
      (serialError .receiveFailed "Waiting for serial receive failed." code))
  | none => s.goto args .overlappedResult

/-! ## `receiveWindows` -/

/-- The loop, after it asked the token. -/
def receiveLoop (s : ReceiveState) (args : ReceiveArgs) (cancelled : Bool) : ReceiveState :=
  s.goto args
    (if cancelled then .cancelRead
     else if s.read.offset < s.read.size then .takeLast {}
     else if s.read.isPending then .overlappedResult
     else .clock)

/-- The deadline, before a read is started. -/
def startClock (s : ReceiveState) (args : ReceiveArgs) (now : Int) : ReceiveState :=
  s.goto args
    (if args.deadline ≤ now then .copyError [] serialTimeoutError
     else if s.port.event.isSome then .resize
     else .createEvent)

/-- Whether the error of a function closes the port. -/
def closes (error : TransportError) : ReceiveStage → Bool
  | .startRead => error.code ≠ .resourceExhausted
  | .waitForRead => error.category = .inputOutput

/-- The bytes that go with an error. -/
def collect (s : ReceiveState) (args : ReceiveArgs) (stage : ReceiveStage)
    (error : TransportError) : ReceiveState :=
  let (received, read) := takeReadBytes s.read args.maximum
  (s.setRead read).goto args
    (if closes error stage then .close received error else .copyError received error)

/-- The compiler evaluates the arguments of a call in an order of its choice. -/
def arguments (s : ReceiveState) (args : ReceiveArgs) (errorFirst : Bool) : ReceiveState :=
  if errorFirst then s.goto args (.takeLast serialCancellationError)
  else
    let (received, read) := takeReadBytes s.read args.maximum
    (s.setRead read).goto args (.copyError received serialCancellationError)

/-- The bytes are the last thing that is allocated. -/
def takeLast (s : ReceiveState) (args : ReceiveArgs) (error : TransportError) : ReceiveState :=
  let (received, read) := takeReadBytes s.read args.maximum
  (s.setRead read).finish args.maximum (some ⟨received, error⟩)

def badAllocError : TransportError :=
  serialError .resourceExhausted "Allocating the serial receive buffer failed." 0

def notOpenError : TransportError :=
  { category := .connection, code := .notConnected, message := "The serial port is not open." }

/-- The end of a receive with an error and no bytes, if there is memory for the error. -/
def fail (s : ReceiveState) (maximum : Nat) (allocates : Bool) (error : TransportError) :
    ReceiveState :=
  s.finish maximum (if allocates then some ⟨[], error⟩ else none)

/-- `SerialPort::receive`. -/
def receive (s : ReceiveState) (maximum : Nat) (timeout now : Int) (allocates : Bool) :
    ReceiveState :=
  if !s.isOpen then fail s maximum allocates notOpenError
  else if maximum = 0 || intMax < maximum || timeout < 0 then
    fail s maximum allocates (validationError "Receive size and timeout must be valid.")
  else s.goto ⟨maximum, (serialDeadline now timeout).value⟩ .token

/-! ## Steps -/

inductive ReceiveAct
  -- the device and its driver
  | deliver (bytes : Bytes)
  | complete (transferred : Nat) (failure : Option Int)
  -- the owner of the port
  | receive (maximum : Nat) (timeout now : Int) (allocates : Bool)
  | close
  -- what the call that is being made is answered
  | continue
  | token (cancelled : Bool)
  | clock (now : Int)
  | allocate (allocates : Bool)
  | evaluate (errorFirst allocates : Bool)
  | event (created : Except Int Nat)
  | resetEvent (failure : Option Int)
  | readFile (start : ReadStart)
  | waitForSingleObject (failure : Option Int)
  deriving DecidableEq

def receiveStep (s : ReceiveState) (args : ReceiveArgs) :
    ReceivePoint → ReceiveAct → Option ReceiveState
  | .token, .token cancelled => some (receiveLoop s args cancelled)
  | .cancelRead, .continue => (cancelRead s).map (·.goto args .arguments)
  | .arguments, .evaluate errorFirst allocates =>
    some (s.allocate args allocates (arguments s args errorFirst))
  | .clock, .clock now => some (startClock s args now)
  | .createEvent, .event created => some (createEvent s args created)
  | .resize, .allocate allocates => some (s.allocate args allocates (resizeBuffer s args))
  | .resetEvent, .resetEvent failure => some (resetEvent s args failure)
  | .readFile, .readFile start => readFile s args start
  | .overlappedResult, .continue => overlappedResult s args
  | .waitToken, .token cancelled =>
    some (s.goto args (if cancelled then .cancelWait serialCancellationError else .waitClock))
  | .waitClock, .clock now => some (waitClock s args now)
  | .waitForSingleObject, .waitForSingleObject failure =>
    some (waitForSingleObject s args failure)
  | .cancelWait error, .continue =>
    (cancelRead s).map (·.goto args (.build .waitForRead error))
  | .build stage error, .allocate allocates =>
    some (s.allocate args allocates (s.goto args (.collect stage error)))
  | .collect stage error, .allocate allocates =>
    some (s.allocate args allocates (collect s args stage error))
  | .close received error, .continue =>
    (closeImpl s).map (·.goto args (.copyError received error))
  | .copyError received error, .allocate allocates =>
    some (s.allocate args allocates (s.finish args.maximum (some ⟨received, error⟩)))
  | .takeLast error, .allocate allocates =>
    some (s.allocate args allocates (takeLast s args error))
  | .badAlloc, .allocate allocates =>
    some (fail s args.maximum allocates badAllocError)
  | _, _ => none

/-- The call of the owner goes on. -/
def callStep (s : ReceiveState) (act : ReceiveAct) : Option ReceiveState :=
  match s.call with
  | .idle => none
  | .receiving args point => receiveStep s args point act
  | .closing =>
    match act with
    | .continue => (closeImpl s).map ({ · with call := .idle })
    | _ => none

def step (s : ReceiveState) : ReceiveAct → Option ReceiveState
  | .deliver bytes =>
    some { s with incoming := s.incoming ++ bytes, delivered := s.delivered ++ bytes }
  | .complete transferred failure => complete s transferred failure
  | .receive maximum timeout now allocates =>
    if s.call = .idle then some (receive s maximum timeout now allocates) else none
  | .close => if s.call = .idle then some { s with call := .closing } else none
  | act => callStep s act

/-- A port that `SerialPort::open` has opened. -/
def opened (handle : Nat) (deviceName : Bytes) (baudRate : Int) : ReceiveState :=
  { port := { handle := some handle, deviceName, baudRate } }

end WSE.Impl.Xpt.SerialReceive
