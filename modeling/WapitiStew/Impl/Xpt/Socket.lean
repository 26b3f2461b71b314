import WapitiStew.Framework.Bytes
import WapitiStew.Framework.Ledger
import WapitiStew.Framework.Running
import WapitiStew.Impl.Xpt.Deadline
import WapitiStew.Impl.Xpt.TransportError

/-!
# Calls of the socket and serial clients

A call runs in a `CallState`: the native handles and the address lists of the
process, the bytes the operating system accepted on the client's stream, and
the client. What the operating system, the clock and the cancellation token
answer is part of the world, in the order of the `tick`s at which they are
asked; a world says of each answer what the platform documents.

Both socket clients wait for a socket, make it non-blocking and resolve hosts
in the same way, with error tables of their own.
-/

namespace WSE.Impl.Xpt

open WSE.Framework

/-! ## Calls -/

/-- `Endpoint`. -/
structure Endpoint where
  host : Bytes := []
  port : UInt16 := 0
  deriving DecidableEq, Repr

def Endpoint.isValid (e : Endpoint) : Bool := !e.host.isEmpty && e.port ≠ 0

/-- The codes of `errno` and `WSAGetLastError()` that the clients tell apart. -/
inductive NativeCode
  | interrupted | inProgress | wouldBlock | again | invalid | inputOutput
  | connectionRefused | connectionReset | connectionAborted | brokenPipe
  | networkUnreachable | hostUnreachable | addressInUse | addressNotAvailable
  | notConnected | timedOut | messageSize
  | other (value : Int)
  deriving DecidableEq, Repr

/-- The platform, the clock and the cancellation token. The clock is at the last time point at
the tick `horizon`. -/
structure Surroundings where
  windows : Bool
  clock : Nat → Int
  clock_mono : ∀ {i j}, i ≤ j → clock i ≤ clock j
  horizon : Nat
  clock_horizon : timePointMax ≤ clock horizon
  cancelled : Nat → Bool
  nativeCode : NativeCode → Int := fun _ => 0

/-- The fuel of a loop that looks at the clock in each turn. -/
def Surroundings.turns (w : Surroundings) : Nat := w.horizon + 1

structure CallState (ι : Type) where
  tick : Nat := 0
  handles : Ledger := {}
  lists : Ledger := {}
  accepted : Bytes := []
  client : ι
  deriving DecidableEq, Repr

/-- The same state, when the world is at tick `k`. -/
def CallState.later {ι : Type} (s : CallState ι) (k : Nat) : CallState ι := { s with tick := k }

abbrev CallM (ι : Type) := Running (CallState ι)

section Calls

variable {ι α : Type}

/-- The answer that is next in the world. -/
def observe (answer : Nat → α) : CallM ι α := fun s =>
  some (answer s.tick, s.later (s.tick + 1))

/-- A native call that creates a handle: its number, or the error. -/
def openHandle {ε : Type} (answer : Nat → Option ε) : CallM ι (Except ε Nat) := fun s =>
  match answer s.tick with
  | none =>
    some (.ok s.handles.acquired, { s with tick := s.tick + 1, handles := s.handles.acquire })
  | some code => some (.error code, { s with tick := s.tick + 1 })

/-- `closeSocket` and `CloseHandle`. -/
def closeHandles (handles : List Nat) : CallM ι Unit :=
  modify fun s => { s with handles := s.handles.release handles }

/-- A call of a part of the client. -/
def withPart {κ : Type} (part : κ → ι) (replace : κ → ι → κ) (x : CallM ι α) : CallM κ α :=
  fun s =>
    (x ⟨s.tick, s.handles, s.lists, s.accepted, part s.client⟩).map fun (a, t) =>
      (a, ⟨t.tick, t.handles, t.lists, t.accepted, replace s.client t.client⟩)

end Calls

/-! ## Sockets -/

/-- The answer of `select`. -/
inductive Select
  | ready | expired
  | failed (code : NativeCode)
  deriving DecidableEq, Repr

/-- A resolved address; the clients look at the family only. -/
structure Address where
  family : Int
  deriving DecidableEq, Repr

/-- The answers of the socket functions; `none` and `ok` stand for success. -/
structure SocketWorld extends Surroundings where
  startup : Option NativeCode := none
  resolve : Nat → Except Int (List Address)
  socket : Nat → Option NativeCode
  nonBlocking : Nat → Option NativeCode
  connect : Nat → Option NativeCode
  bind : Nat → Option NativeCode
  select : Nat → Select
  connectionError : Nat → Option NativeCode
  localEndpoint : Nat → Endpoint
  send : Nat → Nat → Except NativeCode Nat
  send_le : ∀ {k size sent}, send k size = .ok sent → sent ≤ size
  sendTo : Nat → Nat → Except NativeCode Nat

def validationError (message : String) : TransportError :=
  { category := .validation, code := .invalidArgument, message }

def transportTimeoutError : TransportError :=
  { category := .timeout, code := .timedOut, message := "The transport operation timed out." }

def transportCancellationError : TransportError :=
  { category := .cancellation, code := .cancelled,
    message := "The transport operation was cancelled." }

def interruptedError (code : NativeCode) : Bool := code = .interrupted

section Sockets

variable {ι : Type} (w : SocketWorld)

/-- `initializeSockets`: the error of `WSAStartup`; POSIX has nothing to initialize. -/
def initializeSockets : Option NativeCode := if w.windows then w.startup else none

/-- `waitForSocket`, with the error table and the message of a client. -/
def waitForSocket (socketError : NativeCode → TransportErrorCode → String → TransportError)
    (message : String) (deadline : Int) : Nat → CallM ι TransportError
  | 0 => stillRunning
  | fuel + 1 => do
    if ← observe w.cancelled then
      return transportCancellationError
    if deadline ≤ (← observe w.clock) then
      return transportTimeoutError
    -- `select` waits for at most 20 ms, and not beyond the deadline
    match ← observe w.select with
    | .ready => return {}
    | .expired => waitForSocket socketError message deadline fuel
    | .failed code =>
      if interruptedError code then
        waitForSocket socketError message deadline fuel
      else
        return socketError code .unknown message

/-- `getaddrinfo`: the number of the address list and its addresses, or the error. -/
def getaddrinfo : CallM ι (Except Int (Nat × List Address)) := fun s =>
  match w.resolve s.tick with
  | .ok addresses =>
    some (.ok (s.lists.acquired, addresses),
      { s with tick := s.tick + 1, lists := s.lists.acquire })
  | .error code => some (.error code, { s with tick := s.tick + 1 })

def freeaddrinfo (list : Nat) : CallM ι Unit :=
  modify fun s => { s with lists := s.lists.release [list] }

end Sockets

/-- The outcome for one of the resolved addresses: the call succeeded, goes on with the next
address, or ends with an error. -/
inductive Candidate
  | done
  | next (error : TransportError)
  | stop (error : TransportError)
  deriving DecidableEq, Repr

end WSE.Impl.Xpt
