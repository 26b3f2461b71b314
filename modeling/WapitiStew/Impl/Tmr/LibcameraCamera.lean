import Mathlib.Init
import WapitiStew.Framework.Transition
import WapitiStew.Impl.Tmr.CameraTypes

/-!
# The libcamera backend

The ledger of requests of `platform/tmr/linux/camera/LibcameraCameraBackend.cpp`
(`LibcameraRequests`), and over it the camera, whose owner and the callbacks of the camera
manager's thread take turns (`LibcameraCamera`).
-/

namespace WSE.Impl.Tmr

/-- The vectors hold one entry for each owner. `ready` is a ring, its first element at `head`. -/
structure LibcameraRequests (ρ : Type) where
  owners : List ρ := []
  ready : List (Option ρ) := []
  pending : List Bool := []
  head : Nat := 0
  count : Nat := 0
  outstanding : Nat := 0
  fault : Bool := false
  deriving DecidableEq

namespace LibcameraRequests

variable {ρ : Type} [DecidableEq ρ]

/-- The place of a request among the owners, or their number if it is not one of them. -/
def index (l : LibcameraRequests ρ) (r : ρ) : Nat := l.owners.idxOf r

def isPending (l : LibcameraRequests ρ) (r : ρ) : Bool := l.pending.getD (l.index r) false

def empty (l : LibcameraRequests ρ) : Bool := l.count = 0

/-- `prepare`; it replaces the ledger. -/
def prepare (owners : List ρ) : LibcameraRequests ρ :=
  { owners
    ready := List.replicate owners.length none
    pending := List.replicate owners.length false }

def queued (l : LibcameraRequests ρ) (r : ρ) : Bool × LibcameraRequests ρ :=
  if l.index r = l.owners.length || l.isPending r then (false, { l with fault := true })
  else
    (true,
      { l with pending := l.pending.set (l.index r) true, outstanding := l.outstanding + 1 })

/-- The request is not pending any more. -/
def discharge (l : LibcameraRequests ρ) (r : ρ) : LibcameraRequests ρ :=
  { l with pending := l.pending.set (l.index r) false, outstanding := l.outstanding - 1 }

def rejected (l : LibcameraRequests ρ) (r : ρ) : LibcameraRequests ρ :=
  if l.index r < l.owners.length && l.isPending r then l.discharge r else l

/-- The request is put behind the others of the ring, if there is room. -/
def append (l : LibcameraRequests ρ) (r : ρ) : LibcameraRequests ρ :=
  if l.count = l.ready.length then { l with fault := true }
  else
    { l with
      ready := l.ready.set ((l.head + l.count) % l.ready.length) (some r)
      count := l.count + 1 }

def complete (l : LibcameraRequests ρ) (r : ρ) (publish : Bool) : LibcameraRequests ρ :=
  if l.index r = l.owners.length || !l.isPending r then { l with fault := true }
  else if publish then (l.discharge r).append r
  else l.discharge r

def pop (l : LibcameraRequests ρ) : Option ρ × LibcameraRequests ρ :=
  if l.empty then (none, l)
  else
    (l.ready.getD l.head none,
      { l with head := (l.head + 1) % l.ready.length, count := l.count - 1 })

def quiesced (l : LibcameraRequests ρ) : LibcameraRequests ρ :=
  { l with pending := List.replicate l.pending.length false, outstanding := 0 }

def clear (l : LibcameraRequests ρ) : Bool × LibcameraRequests ρ :=
  if l.outstanding = 0 then (true, {}) else (false, l)

end LibcameraRequests

/-!
## The libcamera backend

`open`, `start`, `readFrame`, `stop`, `close` and the destructor of
`LibcameraCameraBackend` in `platform/tmr/linux/camera/LibcameraCameraBackend.cpp`,
one call at a time, with the callbacks of the camera manager's thread in between.
The owner moves from one region of the mutex or native call to the next; the
transactions of `LibcameraResources.h` are unrolled, their rollback is a
`stopNative` that remembers what the call returns.

The camera answers as it likes, within what its interface says: `queueRequest` may
take the request, and return it, before it answers, and a request that it refuses it
has not taken; it returns what it has taken, at most once, at any time. After a
successful stop it may still return what it has not returned by then, while the
request exists. Requests are numbered as they are created.
-/

/-- How a native call ends, or what is done around it. -/
inductive LibcameraAnswer
  | succeeded | failed | threw
  deriving DecidableEq

/-- How a call of the backend ends. -/
inductive LibcameraResult
  | succeeded
  | failed (code : CameraErrorCode)
  | threw
  deriving DecidableEq

/-- Who calls `queueRequest`: `start` with the requests that are left, or `readFrame` with the
result of its copy. -/
inductive QueueCaller
  | start (rest : List Nat)
  | read (copied : LibcameraResult)
  deriving DecidableEq

/-- What follows a `close`. -/
inductive CloseCaller
  | returns (r : LibcameraResult)
  | destroys
  deriving DecidableEq

/-- Who calls `stopNative`. A rollback returns what the call has come to. -/
inductive StopCaller
  | stop
  | rollback (r : LibcameraResult)
  | close (c : CloseCaller)
  deriving DecidableEq

/-- Where the owner is. -/
inductive LibcameraPhase
  | idle
  /-- In `open`, past all that may fail but the connection of the signals. -/
  | connecting
  /-- In `start`, past the checks without the mutex. -/
  | startGuard
  /-- In `createRequests`. -/
  | creating (built : List Nat)
  | startControls
  | startNative
  | startQueue (rest : List Nat)
  /-- In `queueRequest`, which has not told the ledger yet. -/
  | marking (q : QueueCaller) (r : Nat)
  /-- In `queueRequest` of the camera, which has `taken` the request or not. -/
  | handing (q : QueueCaller) (r : Nat) (taken : Bool)
  | refused (q : QueueCaller) (r : Nat)
  /-- In `readFrame`, before it has a request. -/
  | waiting
  | copying (r : Nat)
  | requeueing (r : Nat) (copied : LibcameraResult)
  | stopBegin (k : StopCaller)
  | stopNative (k : StopCaller)
  | stopEnd (k : StopCaller)
  | closeWait (c : CloseCaller)
  | closing (c : CloseCaller)
  | destroyed
  deriving DecidableEq

inductive LibcameraEvent
  /-- A completed request is published. -/
  | completed (r : Nat)
  /-- `readFrame` gets a request. -/
  | handed (r : Nat)
  /-- The ledger is replaced or cleared. -/
  | discarded
  | returned (r : LibcameraResult)
  deriving DecidableEq

/-- The backend and its camera. `handle` and `buffers` stand for the camera handle and the allocator
with the number of its buffers, `connected` for the two signals. `cameraQueue` are the requests that
the camera has taken and not returned, of a pipeline that has not been stopped successfully since;
`leftBehind` are those that were at the camera when it was, and `lost` those whose way to the camera
or back was cut off by an exception. -/
structure LibcameraCamera where
  owner : LibcameraPhase := .idle
  handle : Bool := false
  buffers : Option Nat := none
  requests : LibcameraRequests Nat := {}
  streaming : Bool := false
  disconnected : Bool := false
  callbackFailed : Bool := false
  nativeActive : Bool := false
  connected : Bool := false
  cameraQueue : List Nat := []
  leftBehind : List Nat := []
  lost : List Nat := []
  created : Nat := 0
  log : List LibcameraEvent := []
  deriving DecidableEq

/-- What `open` comes to before its members are set: an error, or an allocator. -/
inductive OpenAnswer
  | failed (code : CameraErrorCode)
  | threw
  | allocated (buffers : Nat)
  deriving DecidableEq

inductive LibcameraCall
  | «open» (a : OpenAnswer)
  | start
  | readFrame
  | stop
  | close
  | destroy
  deriving DecidableEq

namespace LibcameraCamera

def record (s : LibcameraCamera) (e : LibcameraEvent) : LibcameraCamera :=
  { s with log := s.log ++ [e] }

/-- The call returns. -/
def returns (s : LibcameraCamera) (r : LibcameraResult) : LibcameraCamera :=
  { s.record (.returned r) with owner := .idle }

def fails (s : LibcameraCamera) (code : CameraErrorCode) : LibcameraCamera :=
  s.returns (.failed code)

/-- The rollback of a transaction, which then returns `r`. -/
def rollsBack (s : LibcameraCamera) (r : LibcameraResult) : LibcameraCamera :=
  { s with owner := .stopBegin (.rollback r) }

/-- The destructor is through with `close`; the members go. -/
def destroy (s : LibcameraCamera) : LibcameraCamera :=
  { s with owner := .destroyed, requests := {}, buffers := none, handle := false }

def «open» (s : LibcameraCamera) : OpenAnswer → LibcameraCamera
  | .failed code => if s.handle then s.fails .alreadyOpen else s.fails code
  | .threw => if s.handle then s.fails .alreadyOpen else s.returns .threw
  | .allocated buffers =>
    if s.handle then s.fails .alreadyOpen
    else if buffers = 0 then s.fails .resourceExhausted
    else
      { s with handle := true, buffers := some buffers, disconnected := false, owner := .connecting }

def start (s : LibcameraCamera) : LibcameraCamera :=
  if !s.handle then s.fails .notOpen
  else if s.streaming then s.fails .alreadyStreaming
  else if s.disconnected then s.fails .deviceDisconnected
  else { s with owner := .startGuard }

def readFrame (s : LibcameraCamera) : LibcameraCamera :=
  if !s.streaming then s.fails .notStreaming else { s with owner := .waiting }

def close (s : LibcameraCamera) : LibcameraCamera :=
  if !s.handle then s.returns .succeeded
  else { s with owner := .stopBegin (.close (.returns .succeeded)) }

def call (s : LibcameraCamera) : LibcameraCall → LibcameraCamera
  | .open a => s.open a
  | .start => s.start
  | .readFrame => s.readFrame
  | .stop => { s with owner := .stopBegin .stop }
  | .close => s.close
  | .destroy => if !s.handle then s.destroy else { s with owner := .stopBegin (.close .destroys) }

/-! ### The steps of `start` -/

/-- `createRequests`: another request with its buffer, or the whole list into the ledger. -/
def createRequests (s : LibcameraCamera) (built : List Nat) (a : LibcameraAnswer) :
    LibcameraCamera :=
  if built.length < s.buffers.getD 0 then
    match a with
    | .succeeded => { s with created := s.created + 1, owner := .creating (built ++ [s.created]) }
    | .failed => s.rollsBack (.failed .resourceExhausted)
    | .threw => s.rollsBack .threw
  else if a = .succeeded then
    { s.record .discarded with
      requests := LibcameraRequests.prepare built, owner := .startControls }
  else s.rollsBack .threw

def startNative (s : LibcameraCamera) : LibcameraAnswer → LibcameraCamera
  | .succeeded =>
    { s with
      streaming := true, callbackFailed := false, owner := .startQueue s.requests.owners }
  | .failed => s.rollsBack (.failed .backendFailure)
  | .threw => s.rollsBack .threw

/-! ### `queueRequest` -/

/-- What the caller of `queueRequest` returns when it fails. A failed copy comes first. -/
def queueFailure : QueueCaller → LibcameraResult
  | .start _ => .failed .backendFailure
  | .read .succeeded => .failed .readFailed
  | .read copied => copied

/-- The request is queued, and the caller goes on. -/
def queueReturns (s : LibcameraCamera) : QueueCaller → LibcameraCamera
  | .start rest => { s with owner := .startQueue rest }
  | .read copied => s.returns copied

def markRequest (s : LibcameraCamera) (q : QueueCaller) (r : Nat) : LibcameraCamera :=
  match s.requests.queued r with
  | (true, l) => { s with requests := l, owner := .handing q r false }
  | (false, l) => { s with requests := l }.rollsBack (queueFailure q)

/-- `queueRequest` of the camera answers: only a request that it has taken is accepted, and only one
that it has not is refused. -/
def queueAnswers (s : LibcameraCamera) (q : QueueCaller) (r : Nat) (taken : Bool) :
    LibcameraAnswer → Option LibcameraCamera
  | .succeeded => if taken then some (s.queueReturns q) else none
  | .failed => if taken then none else some { s with owner := .refused q r }
  | .threw => some { s.rollsBack .threw with lost := if taken then s.lost else s.lost ++ [r] }

/-! ### The steps of `readFrame` -/

/-- The wait ends, under the mutex, and a completed request is taken if there is one. -/
def readReady (s : LibcameraCamera) : Option LibcameraCamera :=
  if s.disconnected then some (s.fails .deviceDisconnected)
  else if s.callbackFailed then some (s.rollsBack (.failed .backendFailure))
  else if s.requests.empty then some (s.fails .notStreaming)
  else s.requests.pop.1.map fun r =>
    { s.record (.handed r) with requests := s.requests.pop.2, owner := .copying r }

def ready (s : LibcameraCamera) : Bool :=
  !s.requests.empty || s.callbackFailed || s.disconnected || !s.streaming

def copied (s : LibcameraCamera) (r : Nat) : LibcameraAnswer → LibcameraCamera
  | .succeeded => { s with owner := .requeueing r .succeeded }
  | .failed => { s with owner := .requeueing r (.failed .readFailed) }
  | .threw => s.rollsBack .threw

/-! ### `stopNative` and `close` -/

/-- `stopNative` returns, successfully or not, to its caller. -/
def stopReturns (s : LibcameraCamera) (ok : Bool) : StopCaller → LibcameraCamera
  | .stop => if ok then s.returns .succeeded else s.fails .backendFailure
  | .rollback r => s.returns r
  | .close c => { s with owner := .closeWait c }

def stopBegin (s : LibcameraCamera) (k : StopCaller) : LibcameraCamera :=
  { s with streaming := false, owner := if s.nativeActive then .stopNative k else .stopEnd k }

def stopNative (s : LibcameraCamera) (k : StopCaller) (a : LibcameraAnswer) : LibcameraCamera :=
  if a = .succeeded then
    { s with
      nativeActive := false, owner := .stopEnd k, cameraQueue := []
      leftBehind := s.leftBehind ++ s.cameraQueue }
  else s.stopReturns false k

/-- The ledger is cleared, if nothing is outstanding. -/
def clear (s : LibcameraCamera) : Bool × LibcameraCamera :=
  match s.requests.clear with
  | (true, l) => (true, { s.record .discarded with requests := l })
  | (false, l) => (false, { s with requests := l })

/-- The barrier: a stop of a camera that is not disconnected returns all requests. -/
def barrier (s : LibcameraCamera) : LibcameraCamera :=
  if s.disconnected then s else { s with requests := s.requests.quiesced }

def stopEnd (s : LibcameraCamera) (k : StopCaller) : LibcameraCamera :=
  match s.barrier.clear with
  | (ok, t) => t.stopReturns ok k

/-- `close` lets go of what it owns. -/
def release (s : LibcameraCamera) : LibcameraCamera :=
  { s.clear.2 with
    connected := false, buffers := none, handle := false, disconnected := false
    callbackFailed := false, nativeActive := false }

def closeReturns (s : LibcameraCamera) : CloseCaller → LibcameraCamera
  | .returns r => s.returns r
  | .destroys => s.destroy

/-! ### The camera manager's thread -/

/-- The camera has a request that it can return. -/
def canReturn (s : LibcameraCamera) (r : Nat) : Bool :=
  s.connected && (s.cameraQueue.contains r ||
    s.leftBehind.contains r && s.requests.owners.contains r)

/-- The camera has returned a request. -/
def giveBack (s : LibcameraCamera) (r : Nat) : LibcameraCamera :=
  { s with
    cameraQueue := s.cameraQueue.filter (· ≠ r), leftBehind := s.leftBehind.filter (· ≠ r) }

def onRequestComplete (s : LibcameraCamera) (r : Nat) (cancelled : Bool) : LibcameraCamera :=
  let publish := s.streaming && !cancelled
  let requests := s.requests.complete r publish
  { (if publish then s.record (.completed r) else s) with
    requests, callbackFailed := s.callbackFailed || requests.fault }

end LibcameraCamera

open LibcameraCamera in
/-- The owner goes on with its call. -/
def libcameraOwnerStep (s : LibcameraCamera) (a : LibcameraAnswer) : Option LibcameraCamera :=
  match s.owner with
  | .idle | .destroyed => none
  | .connecting =>
    if a = .succeeded then some ({ s with connected := true }.returns .succeeded)
    else some { s with owner := .stopBegin (.close (.returns .threw)) }
  | .startGuard =>
    if s.nativeActive || s.requests.outstanding ≠ 0 then some (s.fails .backendFailure)
    else some { s with owner := .creating [] }
  | .creating built => some (s.createRequests built a)
  | .startControls =>
    if a = .succeeded then some { s with nativeActive := true, owner := .startNative }
    else some (s.rollsBack .threw)
  | .startNative => some (s.startNative a)
  | .startQueue [] => some (s.returns .succeeded)
  | .startQueue (r :: rest) =>
    if a = .succeeded then some { s with owner := .marking (.start rest) r }
    else some (s.rollsBack .threw)
  | .marking q r => some (s.markRequest q r)
  | .handing q r taken => s.queueAnswers q r taken a
  | .refused q r => some ({ s with requests := s.requests.rejected r }.rollsBack (queueFailure q))
  | .waiting =>
    if s.ready then s.readReady
    -- nothing came in time
    else if a = .failed then some (s.fails .timedOut)
    else none
  | .copying r => some (s.copied r a)
  | .requeueing r copied =>
    if a = .succeeded then some { s with owner := .marking (.read copied) r }
    else some (s.rollsBack .threw)
  | .stopBegin k => some (s.stopBegin k)
  | .stopNative k => some (s.stopNative k a)
  | .stopEnd k => some (s.stopEnd k)
  | .closeWait c =>
    if s.requests.outstanding = 0 then some { s with owner := .closing c } else none
  | .closing c => some (s.release.closeReturns c)

inductive LibcameraAction
  /-- The owner begins a call. -/
  | call (c : LibcameraCall)
  | owner (a : LibcameraAnswer)
  /-- The camera takes the request that it is being given. -/
  | takes
  | completes (r : Nat) (cancelled : Bool)
  /-- The callback throws before it tells the ledger. -/
  | completionThrows (r : Nat)
  | disconnects
  deriving DecidableEq

def libcameraStep (s : LibcameraCamera) : LibcameraAction → Option LibcameraCamera
  | .call c => if s.owner = .idle then some (s.call c) else none
  | .owner a => libcameraOwnerStep s a
  | .takes =>
    match s.owner with
    | .handing q r false =>
      some { s with cameraQueue := r :: s.cameraQueue, owner := .handing q r true }
    | _ => none
  | .completes r cancelled =>
    if s.canReturn r then some ((s.giveBack r).onRequestComplete r cancelled) else none
  | .completionThrows r =>
    if s.canReturn r then
      some { s.giveBack r with callbackFailed := true, lost := s.lost ++ [r] }
    else none
  | .disconnects => if s.connected then some { s with disconnected := true } else none

end WSE.Impl.Tmr
