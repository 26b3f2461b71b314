import WapitiStew.Framework.Transition
import WapitiStew.Impl.Tmr.CameraTypes

/-!
# The callback stream of a camera session

`CameraSession` of `core/tmr/camera/Camera.cpp` with one callback stream: the
owner thread calls `start`, `stop`, `close` and the destructor, one at a time; the
worker thread reads frames and calls the callback, which may call `start`, `stop`
and `close` in its turn. Every use of the backend takes two steps, one that begins
it and one that ends it, so that uses may overlap; the backend answers as it likes,
within what its interface says: after a `start` or a `stop` that succeeds it streams
or does not, after `close` it is not open, and a `start` that fails leaves it as it
was.
-/

namespace WSE.Impl.Tmr

inductive BackendResult
  | succeeded | failed | threw
  deriving DecidableEq

/-- How `readFrame` of the backend ends. -/
inductive ReadResult
  | frame
  | failed (code : CameraErrorCode)
  | badAlloc
  | threw
  deriving DecidableEq

/-- What the worker has for the callback: a frame, numbered as the backend produced it, or an
error. -/
inductive Delivery
  | frame (n : Nat)
  | error (code : CameraErrorCode)
  deriving DecidableEq

inductive Party
  | owner | worker
  deriving DecidableEq

/-- `stop` on its own, or as the first half of `close` or of the destructor. -/
inductive Ending
  | stop | close | destroy
  deriving DecidableEq

/-- Where the owner is. `locks` says that `stop` has found a callback state, whose mutex it takes. -/
inductive OwnerPhase
  | idle
  /-- In `prepareStart`, past the check of `active`: joins a worker that has ended. -/
  | startReap
  /-- Asks the backend whether it is open and streams. -/
  | startCheck
  | startBackend
  /-- Closes the backend after its `start` threw. -/
  | startThrew
  /-- The callback state is installed, and the thread is launched. -/
  | launching
  | launchStop
  | launchClose
  /-- The thread is owned, and not released yet. -/
  | publishing
  | stopWaiting (k : Ending) (locks : Bool)
  | stopBackend (k : Ending) (locks : Bool)
  /-- Closes the backend after its `stop` threw. -/
  | stopThrew (k : Ending) (locks : Bool)
  | stopReap (k : Ending) (threw : Bool)
  | closing (k : Ending)
  | destroyed
  deriving DecidableEq

/-- Where a callback is. -/
inductive CallbackPhase
  | user
  | stopWaiting (close locks : Bool)
  | stopBackend (close locks : Bool)
  | stopThrew (close locks : Bool)
  | closing
  deriving DecidableEq

/-- Where the worker is. -/
inductive WorkerPhase
  | none
  /-- Waits until its thread is owned. -/
  | waiting
  /-- At the head of its loop. -/
  | top
  | locking
  /-- Holds the backend mutex and looks at `stop`. -/
  | locked
  | reading
  /-- Has a result, and the mutex no more. -/
  | unlocked (d : Delivery)
  /-- At the start of `deliver`. -/
  | delivering (d : Delivery)
  | inCallback (d : Delivery) (p : CallbackPhase)
  | ending
  /-- The thread is done and can be joined. -/
  | finished
  deriving DecidableEq

inductive StartResult
  | started
  /-- By a check of `start` or `prepareStart`. -/
  | refused
  | failed
  | threw
  deriving DecidableEq

inductive SessionEvent
  /-- A callback state is installed for a new run. -/
  | run
  | produced (n : Nat)
  | invoked (d : Delivery)
  | returned (threw : Bool)
  /-- The worker has ended. -/
  | ended
  | startReturned (r : StartResult)
  /-- A `stop` outside the callback has returned, on its own or inside `close`. -/
  | stopReturned
  deriving DecidableEq

/-- The session. `present` and `attached` say that it has a backend and a callback state;
`stop`, `active`, `published` and `mutex` are those of the callback state. `produced` counts the
frames of the backend, `restarted` marks a `start` in a callback that is not refused, and `log`
records what has happened, the last event at the end. -/
structure CameraSession where
  owner : OwnerPhase := .idle
  worker : WorkerPhase := .none
  present : Bool := true
  attached : Bool := false
  stop : Bool := false
  active : Bool := false
  published : Bool := false
  mutex : Option Party := none
  isOpen : Bool := true
  isStreaming : Bool := false
  produced : Nat := 0
  restarted : Bool := false
  log : List SessionEvent := []
  deriving DecidableEq

namespace CameraSession

def record (s : CameraSession) (e : SessionEvent) : CameraSession := { s with log := s.log ++ [e] }

/-- `close` of the backend. -/
def closeBackend (s : CameraSession) : CameraSession :=
  { s with isOpen := false, isStreaming := false }

/-- `start` returns. -/
def startReturns (s : CameraSession) (r : StartResult) : CameraSession :=
  { s.record (.startReturned r) with owner := .idle }

/-- `start(callback)`, up to the reaping of an earlier worker; `empty` for an empty callback. -/
def start (s : CameraSession) (empty : Bool) : CameraSession :=
  if empty then s.startReturns .refused
  else if s.attached && s.active then s.startReturns .refused
  else { s with owner := .startReap }

/-- `stop` sets the flag of the callback state that it finds. -/
def requestStop (s : CameraSession) : CameraSession :=
  { s with stop := if s.attached then true else s.stop }

/-- The worker has ended, or there is none. -/
def joinable (s : CameraSession) : Bool := s.worker = .finished || s.worker = .none

/-- `reapCallbackThread` on the owner's thread, once the worker has ended. -/
def reap (s : CameraSession) : CameraSession := { s with worker := .none, attached := false }

/-- The new callback state, installed after the backend has started. -/
def install (s : CameraSession) : CameraSession :=
  { s.record .run with
    isStreaming := true, attached := true, stop := false, active := true, published := false,
    mutex := none, owner := .launching }

end CameraSession

/-- What the environment answers to the owner: the end of a backend call, and whether an
allocation or the launch of the thread succeeds. -/
structure OwnerAnswer where
  backend : BackendResult := .succeeded
  ok : Bool := true
  deriving DecidableEq

open CameraSession in
/-- The owner goes on with the call it makes. -/
def ownerStep (s : CameraSession) (a : OwnerAnswer) : Option CameraSession :=
  match s.owner with
  | .idle | .destroyed => none
  | .startReap => if s.joinable then some { s.reap with owner := .startCheck } else none
  | .startCheck =>
    if !s.present || !s.isOpen || s.isStreaming then some (s.startReturns .refused)
    else if !a.ok then some (s.startReturns .threw)
    else some { s with owner := .startBackend }
  | .startBackend =>
    match a.backend with
    | .succeeded => some s.install
    | .failed => some (s.startReturns .failed)
    | .threw => some { s with owner := .startThrew }
  | .startThrew => some (s.closeBackend.startReturns .threw)
  | .launching =>
    if a.ok then some { s with worker := .waiting, owner := .publishing }
    else some { s with owner := .launchStop }
  | .launchStop =>
    match a.backend with
    | .succeeded =>
      some ({ s with isStreaming := false, attached := false }.startReturns .threw)
    | .failed | .threw => some { s with owner := .launchClose }
  | .launchClose => some ({ s.closeBackend with attached := false }.startReturns .threw)
  | .publishing => some ({ s with published := true }.startReturns .started)
  | .stopWaiting k locks =>
    if !locks then some { s with owner := .stopBackend k locks }
    else if s.mutex = none then some { s with owner := .stopBackend k locks, mutex := some .owner }
    else none
  | .stopBackend k locks =>
    let released := if locks then none else s.mutex
    if s.present && s.isStreaming then
      match a.backend with
      | .succeeded =>
        some { s with isStreaming := false, mutex := released, owner := .stopReap k false }
      | .failed => some { s with mutex := released, owner := .stopReap k false }
      | .threw => some { s with owner := .stopThrew k locks }
    else some { s with mutex := released, owner := .stopReap k false }
  | .stopThrew k locks =>
    some { s.closeBackend with
      mutex := if locks then none else s.mutex, owner := .stopReap k true }
  | .stopReap k _ =>
    if s.joinable then
      some { s.reap.record .stopReturned with
        owner := if k = .stop then .idle else .closing k }
    else none
  | .closing k =>
    let t := if s.present then s.closeBackend else s
    some { t with present := false, owner := if k = .destroy then .destroyed else .idle }

/-- What the environment answers to the worker. -/
structure WorkerAnswer where
  read : ReadResult := .frame
  backend : BackendResult := .succeeded
  deriving DecidableEq

/-- The worker has a result to look at, and releases the backend mutex. -/
def readReturns (s : CameraSession) : ReadResult → CameraSession
  | .frame =>
    { s.record (.produced s.produced) with
      produced := s.produced + 1, mutex := none, worker := .unlocked (.frame s.produced) }
  | .failed code => { s with mutex := none, worker := .unlocked (.error code) }
  -- The exception handlers deliver an error that was prepared.
  | .badAlloc => { s with mutex := none, worker := .delivering (.error .resourceExhausted) }
  | .threw => { s with mutex := none, worker := .delivering (.error .backendFailure) }

/-- `stop` or `close` in the callback `d`. -/
def callbackStep (s : CameraSession) (d : Delivery) (a : WorkerAnswer) :
    CallbackPhase → Option CameraSession
  | .user => none
  | .stopWaiting close locks =>
    if !locks then some { s with worker := .inCallback d (.stopBackend close locks) }
    else if s.mutex = none then
      some { s with worker := .inCallback d (.stopBackend close locks), mutex := some .worker }
    else none
  | .stopBackend close locks =>
    let released := if locks then none else s.mutex
    -- `reapCallbackThread` leaves the worker's own thread alone; without a callback state it
    -- would join it, and not return.
    let next := if close then CallbackPhase.closing else .user
    if !s.attached then none
    else if s.present && s.isStreaming then
      match a.backend with
      | .succeeded =>
        some { s with isStreaming := false, mutex := released, worker := .inCallback d next }
      | .failed => some { s with mutex := released, worker := .inCallback d next }
      | .threw => some { s with worker := .inCallback d (.stopThrew close locks) }
    else some { s with mutex := released, worker := .inCallback d next }
  | .stopThrew close locks =>
    some { s.closeBackend with
      mutex := if locks then none else s.mutex
      worker := .inCallback d (if close then .closing else .user) }
  | .closing =>
    let t := if s.present then s.closeBackend else s
    some { t with present := false, worker := .inCallback d .user }

/-- The worker goes on, outside user code. -/
def workerStep (s : CameraSession) (a : WorkerAnswer) : Option CameraSession :=
  match s.worker with
  | .none | .finished => none
  | .waiting => if s.published then some { s with worker := .top } else none
  | .top => some { s with worker := if s.stop then .ending else .locking }
  | .locking =>
    if s.mutex = none then some { s with worker := .locked, mutex := some .worker } else none
  | .locked =>
    if s.stop then some { s with worker := .unlocked (.error .backendFailure), mutex := none }
    else some { s with worker := .reading }
  | .reading => some (readReturns s a.read)
  | .unlocked d =>
    if s.stop then some { s with worker := .ending }
    else if d = .error .timedOut then some { s with worker := .top }
    else some { s with worker := .delivering d }
  | .delivering d =>
    if s.stop then some { s with worker := .ending }
    else some { s.record (.invoked d) with worker := .inCallback d .user }
  | .inCallback d p => callbackStep s d a p
  | .ending => some { s.record .ended with worker := .finished, active := false }

/-- What user code in a callback does. -/
inductive CallbackCall
  | start
  | stop
  | close
  | return
  | throw
  deriving DecidableEq

/-- The callback `d` has ended; the loop goes on after a frame only. -/
def callbackReturns (s : CameraSession) (d : Delivery) (threw : Bool) : CameraSession :=
  { s.record (.returned threw) with
    worker := match d with
      | .frame _ => if threw then .ending else .top
      | .error _ => .ending }

def callbackCall (s : CameraSession) (c : CallbackCall) : Option CameraSession :=
  match s.worker with
  | .inCallback d .user =>
    match c with
    | .start =>
      -- An active run refuses, and so does `reapCallbackThread` in the worker of the state.
      if s.attached then some s else some { s with restarted := true }
    | .stop => some { s.requestStop with worker := .inCallback d (.stopWaiting false s.attached) }
    | .close => some { s.requestStop with worker := .inCallback d (.stopWaiting true s.attached) }
    | .return => some (callbackReturns s d false)
    | .throw => some (callbackReturns s d true)
  | _ => none

inductive SessionAct
  | start (empty : Bool)
  | ending (k : Ending)
  | owner (a : OwnerAnswer)
  | worker (a : WorkerAnswer)
  | callback (c : CallbackCall)
  /-- The backend stops streaming, or is no longer open, for a reason of its own. -/
  | lost (stillOpen : Bool)
  deriving DecidableEq

def sessionStep (s : CameraSession) : SessionAct → Option CameraSession
  | .start empty => if s.owner = .idle then some (s.start empty) else none
  | .ending k =>
    if s.owner = .idle then some { s.requestStop with owner := .stopWaiting k s.attached } else none
  | .owner a => ownerStep s a
  | .worker a => workerStep s a
  | .callback c => callbackCall s c
  | .lost stillOpen => some { s with isStreaming := false, isOpen := s.isOpen && stillOpen }

end WSE.Impl.Tmr
