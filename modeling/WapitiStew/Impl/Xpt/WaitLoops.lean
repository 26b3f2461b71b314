import WapitiStew.Impl.Xpt.SerialPort
import WapitiStew.Impl.Xpt.TcpClient
import WapitiStew.Impl.Xpt.UdpClient

/-!
# Waiting for a descriptor

`waitForSocket` of `platform/xpt/network/TcpClient.cpp` and `UdpClient.cpp` and `waitForDescriptor`
of `platform/xpt/serial/SerialPort.cpp` as they are on Linux, turn by turn, with what they ask
for: the token, the clock, the descriptor sets and the native calls. `Impl.Xpt.Socket` and
`Impl.Xpt.SerialPort` have the same loops without the sets and the durations.
-/

namespace WSE.Impl.Xpt

/-- `FD_SETSIZE`. -/
def fdSetSize : Nat := 1024

/-- `eSocketWait` and `eSerialWait`. -/
inductive WaitOperation
  | read | write
  deriving DecidableEq, Repr

/-- The answer of `poll` for its one descriptor. -/
inductive Polled
  | events (broken readable writable : Bool)
  | expired
  | failed (code : NativeCode)
  deriving DecidableEq, Repr

/-- `revents & events`. -/
def Polled.has (operation : WaitOperation) : Polled → Bool
  | .events _ readable writable => if operation = .read then readable else writable
  | _ => false

/-- The answers of `select` come with the set it leaves. A positive answer leaves descriptors of the
set, and a failure is none that `select` does not have. -/
structure WaitWorld extends SocketWorld where
  left : Nat → WaitOperation → List Nat → List Nat
  left_subset : ∀ {k operation set}, left k operation set ⊆ set
  left_ready : ∀ {k operation set}, select k = .ready → set ≠ [] → left k operation set ≠ []
  select_fails : ∀ {k}, select k ≠ .failed .timedOut
  descriptorPoll : Nat → Polled

/-- `timeval`. -/
structure Timeval where
  seconds : Int
  microseconds : Int
  deriving DecidableEq, Repr

/-- What a wait does, in order. -/
inductive WaitEvent
  | polled (cancelled : Bool)
  | read (now : Int)
  /-- `FD_SET`. -/
  | added (descriptor : Nat)
  | selected (operation : WaitOperation) (set : List Nat) (time : Timeval) (answer : Select)
      (left : List Nat)
  | descriptorPolled (descriptor : Nat) (operation : WaitOperation) (milliseconds : Int)
      (answer : Polled)
  deriving DecidableEq, Repr

structure WaitState where
  tick : Nat := 0
  log : List WaitEvent := []
  deriving DecidableEq, Repr

abbrev WaitM := StateM WaitState

/-- How a turn of a loop ends; nothing is known after a write outside a descriptor set. -/
inductive WaitTurn
  | again
  | done (e : TransportError)
  | outside
  deriving DecidableEq, Repr

/-- What the world answers, and its entry in the log. -/
def ask {α : Type} (answer : Nat → α) (event : α → WaitEvent) : WaitM α := fun s =>
  (answer s.tick, { tick := s.tick + 1, log := s.log ++ [event (answer s.tick)] })

/-- `FD_SET` into a set that is empty; `none` is a write outside it. -/
def addDescriptor (descriptor : Nat) : WaitM (Option (List Nat)) := fun s =>
  (if descriptor < fdSetSize then some [descriptor] else none,
    { s with log := s.log ++ [.added descriptor] })

/-- `duration_cast<microseconds>`. -/
def durationCastUs (ns : Int) : Int := ns.tdiv 1000

/-- The time that `select` waits. -/
def socketSlice (deadline now : Int) : Timeval :=
  let remaining := durationCastUs (int64 (deadline - now)).value
  let slice := min remaining (durationCastUs (20 * perMillisecond))
  ⟨slice.tdiv 1000000, slice.tmod 1000000⟩

/-- The time that `poll` waits. -/
def descriptorSlice (deadline now : Int) : Int :=
  max 1 (min 20 (durationCastMs (int64 (deadline - now)).value))

section Turns

variable (w : WaitWorld)

/-- A turn of `waitForSocket`, with the error of a native failure. -/
def socketTurn (socketError : NativeCode → TransportError) (socket : Nat)
    (operation : WaitOperation) (deadline : Int) : WaitM WaitTurn := do
  if ← ask w.cancelled .polled then
    return .done transportCancellationError
  let now ← ask w.clock .read
  if deadline ≤ now then
    return .done transportTimeoutError
  match ← addDescriptor socket with
  | none => return .outside
  | some set =>
    match (← ask (fun k => (w.select k, w.left k operation set)) fun answer =>
        .selected operation set (socketSlice deadline now) answer.1 answer.2).1 with
    | .ready => return .done {}
    | .expired => return .again
    | .failed code => return if interruptedError code then .again else .done (socketError code)

/-- `waitForSocket` of the TCP client. -/
def tcpTurn : Nat → WaitOperation → Int → WaitM WaitTurn :=
  socketTurn w fun code =>
    TcpClient.socketError w.toSocketWorld code .unknown "Waiting for the socket failed."

/-- `waitForSocket` of the UDP client. -/
def udpTurn : Nat → WaitOperation → Int → WaitM WaitTurn :=
  socketTurn w fun code =>
    UdpClient.socketError w.toSocketWorld code .unknown "Waiting for the UDP socket failed."

/-- A turn of `waitForDescriptor`. -/
def serialTurn (descriptor : Nat) (operation : WaitOperation) (deadline : Int) :
    WaitM WaitTurn := do
  if ← ask w.cancelled .polled then
    return .done serialCancellationError
  let now ← ask w.clock .read
  if deadline ≤ now then
    return .done serialTimeoutError
  let answer ← ask w.descriptorPoll (.descriptorPolled descriptor operation
    (descriptorSlice deadline now))
  match answer with
  | .events broken _ _ =>
    if broken then
      return .done (serialError (if operation = .read then .receiveFailed else .sendFailed)
        "The serial device was disconnected." (w.nativeCode .inputOutput))
    return if answer.has operation then .done {} else .again
  | .expired => return .again
  | .failed code =>
    return if interruptedError code then .again else
      .done (serialError .unknown "Waiting for serial I/O failed." (w.nativeCode code))

end Turns

/-- The first turns of a loop. -/
def turns (turn : WaitM WaitTurn) : Nat → WaitM WaitTurn
  | 0 => return .again
  | n + 1 => do
    match ← turn with
    | .again => turns turn n
    | .done e => return .done e
    | .outside => return .outside

/-- The clients that wait for a descriptor. -/
inductive WaitClient
  | tcp | udp | serial
  deriving DecidableEq, Repr

def WaitClient.turn (w : WaitWorld) : WaitClient → Nat → WaitOperation → Int → WaitM WaitTurn
  | .tcp => tcpTurn w
  | .udp => udpTurn w
  | .serial => serialTurn w

end WSE.Impl.Xpt
