import WapitiStew.Framework.Transition

/-!
# The worker controller

`WorkerController` of `core/wse/utility/wse_WorkerController.cpp`. Any number of threads
call `start`, `requestStop` and `stop`, also the worker itself from inside its body; a
step is one region of the mutex, one join, or the creation of a thread, which may throw. Calls
and workers are numbered as they begin. A thread has ended, and can be joined, when
its worker has left its last region.

A body does what it likes, piece by piece (`works`), and ends when it likes.
-/

namespace WSE.Impl.Wse

/-- How far a worker thread is. -/
inductive WorkerPhase
  /-- Before its first region. -/
  | launched
  /-- In its body. -/
  | body
  | ended
  deriving DecidableEq

inductive ControllerCall
  /-- With a body, or without. -/
  | start (body : Bool)
  | requestStop
  | stop
  deriving DecidableEq

inductive ControllerResult
  | started (ok : Bool)
  /-- The creation of the thread has thrown. -/
  | threw
  | done
  deriving DecidableEq

inductive CallPhase
  | startFirst
  /-- Joins a finished worker. -/
  | startJoin (w : Nat)
  | startSecond
  | requesting
  | stopRequesting
  | stopTaking
  | stopJoin (w : Nat)
  | returned (r : ControllerResult)
  deriving DecidableEq

/-- A call, from the body of a worker or from outside. `launched` are the workers that had been
launched when it began. -/
structure WorkerCall where
  caller : Option Nat
  launched : Nat
  phase : CallPhase
  deriving DecidableEq

inductive WorkerEvent
  | called (i : Nat) (caller : Option Nat) (c : ControllerCall)
  /-- A call asks the worker to stop. -/
  | requested (i : Nat)
  | launched (w : Nat)
  /-- A piece of work begins in the body of a worker. -/
  | worked (w : Nat)
  | ended (w : Nat)
  /-- A stop begins to wait for a worker. -/
  | waits (i w : Nat)
  | joined (w : Nat)
  | returned (i : Nat) (r : ControllerResult)
  deriving DecidableEq

/-- `thread` is the worker whose thread the controller owns, `workerId` the one that
`m_worker_id` names. -/
structure WorkerController where
  thread : Option Nat := none
  workerId : Option Nat := none
  running : Bool := false
  stopRequested : Bool := false
  workers : List WorkerPhase := []
  calls : List WorkerCall := []
  log : List WorkerEvent := []
  deriving DecidableEq

namespace WorkerController

def record (s : WorkerController) (e : WorkerEvent) : WorkerController :=
  { s with log := s.log ++ [e] }

/-- Call `i` goes on at `phase`. -/
def goesTo (s : WorkerController) (i : Nat) (c : WorkerCall) (phase : CallPhase) :
    WorkerController :=
  { s with calls := s.calls.set i { c with phase } }

def returns (s : WorkerController) (i : Nat) (c : WorkerCall) (r : ControllerResult) :
    WorkerController := (s.record (.returned i r)).goesTo i c (.returned r)

def isRunning (s : WorkerController) : Bool := s.running

/-! ## `start` -/

/-- The first region: a worker that has finished is taken over. -/
def startFirst (s : WorkerController) (i : Nat) (c : WorkerCall) : WorkerController :=
  if s.running then s.returns i c (.started false)
  else
    match s.thread with
    | some w => { s with thread := none }.goesTo i c (.startJoin w)
    | none => s.goesTo i c .startSecond

/-- A thread is created. -/
def launch (s : WorkerController) : WorkerController :=
  { s.record (.launched s.workers.length) with
    workers := s.workers ++ [WorkerPhase.launched]
    thread := some s.workers.length
    workerId := some s.workers.length }

/-- The second region. The flags are set before the thread exists. -/
def startSecond (s : WorkerController) (i : Nat) (c : WorkerCall) (throws : Bool) :
    WorkerController :=
  if s.running || s.thread.isSome then s.returns i c (.started false)
  else
    let t := { s with stopRequested := false, running := true }
    if throws then t.returns i c .threw else t.launch.returns i c (.started true)

/-! ## `stop` -/

def requestStop (s : WorkerController) (i : Nat) : WorkerController :=
  { s.record (.requested i) with stopRequested := true }

/-- The second region of `stop`. The worker itself does not join. -/
def stopTaking (s : WorkerController) (i : Nat) (c : WorkerCall) : WorkerController :=
  match s.thread with
  | none => s.returns i c .done
  | some w =>
    if c.caller.isSome && s.workerId = c.caller then s.returns i c .done
    else { s.record (.waits i w) with thread := none }.goesTo i c (.stopJoin w)

/-- A thread has ended. -/
def hasEnded (s : WorkerController) (w : Nat) : Bool := s.workers[w]? = some .ended

/-- Call `i` goes on. -/
def proceed (s : WorkerController) (i : Nat) (c : WorkerCall) (throws : Bool) :
    Option WorkerController :=
  match c.phase with
  | .startFirst => some (s.startFirst i c)
  | .startJoin w =>
    if s.hasEnded w then some ((s.record (.joined w)).goesTo i c .startSecond) else none
  | .startSecond => some (s.startSecond i c throws)
  | .requesting => some ((s.requestStop i).returns i c .done)
  | .stopRequesting => some ((s.requestStop i).goesTo i c .stopTaking)
  | .stopTaking => some (s.stopTaking i c)
  | .stopJoin w => if s.hasEnded w then some ((s.record (.joined w)).returns i c .done) else none
  | .returned _ => none

/-! ## Calls and bodies -/

def WorkerCall.unfinished (c : WorkerCall) : Bool :=
  match c.phase with
  | .returned _ => false
  | _ => true

/-- The worker is in its body, and in none of the calls of this controller. -/
def inBody (s : WorkerController) (w : Nat) : Bool :=
  s.workers[w]? = some .body &&
    s.calls.all fun c => !(c.caller = some w && WorkerCall.unfinished c)

/-- A call begins. A `start` without a body returns at once. -/
def call (s : WorkerController) (caller : Option Nat) (c : ControllerCall) : WorkerController :=
  let i := s.calls.length
  let t (phase : CallPhase) := { s.record (.called i caller c) with
    calls := s.calls ++ [{ caller, launched := s.workers.length, phase }] }
  match c with
  | .start true => t .startFirst
  | .start false => (t (.returned (.started false))).record (.returned i (.started false))
  | .requestStop => t .requesting
  | .stop => t .stopRequesting

end WorkerController

inductive WorkerAction
  | call (caller : Option Nat) (c : ControllerCall)
  /-- A call goes on; if it creates a thread, that may throw. -/
  | proceed (i : Nat) (throws : Bool)
  /-- The first region of a worker. -/
  | begins (w : Nat)
  | works (w : Nat)
  /-- The last region of a worker. -/
  | ends (w : Nat)
  deriving DecidableEq

def workerStep (s : WorkerController) : WorkerAction → Option WorkerController
  | .call none c => some (s.call none c)
  | .call (some w) c => if s.inBody w then some (s.call (some w) c) else none
  | .proceed i throws => (s.calls[i]?).bind fun c => s.proceed i c throws
  | .begins w =>
    if s.workers[w]? = some .launched then
      some { s with workers := s.workers.set w .body, workerId := some w }
    else none
  | .works w => if s.inBody w then some (s.record (.worked w)) else none
  | .ends w =>
    if s.inBody w then
      some { s.record (.ended w) with
        workers := s.workers.set w .ended, running := false, workerId := none }
    else none

/-!
## The timer

`Timer` of `core/wse/utility/wse_Timer.cpp`, over the worker controller: every step of the
controller that a timer makes is a step of `workerStep`. `Timer::start` holds the mutex of
the timer while it starts the worker, so that the worker waits for it before it reads the
interval; the other regions of that mutex are one step. Callbacks are of a type `κ`; a
callback may call the timer, throw or return.
-/

/-- Where the body of a worker is. -/
inductive TimerPhase (κ : Type*)
  /-- Before it reads the interval. -/
  | interval
  | waiting (interval : Nat)
  /-- Before it loads the callback. -/
  | loading
  | loaded (callback : κ)
  | calling
  /-- Before it lets go of the callback. -/
  | leaving
  | left
  deriving DecidableEq

/-- What `start` throws. -/
inductive TimerError
  | interval
  | callback
  deriving DecidableEq

def TimerError.message : TimerError → String
  | .interval => "Timer::start requires a positive interval"
  | .callback => "Timer::start requires a callback"

/-- A `start` that holds the mutex: its call of the controller, and what it sets. -/
structure TimerStart (κ : Type*) where
  call : Nat
  interval : Nat
  callback : κ
  deriving DecidableEq

/-- `bodies` is where the bodies of the workers are, by worker. -/
structure Timer (κ : Type*) where
  worker : WorkerController := {}
  starting : Option (TimerStart κ) := none
  interval : Nat := 1
  callback : Option κ := none
  bodies : List (TimerPhase κ) := []
  deriving DecidableEq

namespace Timer

variable {κ : Type*}

/-- What `start` checks before it takes the mutex. Intervals are in milliseconds. -/
def startError (interval : Int) (callback : Option κ) : Option TimerError :=
  if interval ≤ 0 then some .interval else if callback.isNone then some .callback else none

/-- `start` has the mutex. -/
def start (t : Timer κ) (caller : Option Nat) (interval : Nat) (callback : κ) :
    Option (Timer κ) :=
  if t.starting.isSome then none
  else if t.worker.isRunning then some t
  else
    (workerStep t.worker (.call caller (.start true))).map fun worker =>
      { t with worker, starting := some ⟨t.worker.calls.length, interval, callback⟩ }

/-- A call of the controller goes on. A worker that is launched begins with the interval. -/
def proceed (t : Timer κ) (i : Nat) (throws : Bool) : Option (Timer κ) :=
  (workerStep t.worker (.proceed i throws)).map fun worker =>
    { t with
      worker
      bodies := t.bodies ++
        List.replicate (worker.workers.length - t.worker.workers.length) .interval }

/-- The controller has returned to `start`, which lets go of the mutex. -/
def finishStart (t : Timer κ) : Option (Timer κ) :=
  t.starting.bind fun m =>
    (t.worker.calls[m.call]?).bind fun c =>
      match c.phase with
      | .returned (.started true) =>
        some { t with interval := m.interval, callback := some m.callback, starting := none }
      | .returned _ => some { t with starting := none }
      | _ => none

def setInterval (t : Timer κ) (interval : Nat) : Option (Timer κ) :=
  if t.starting.isSome then none else some { t with interval }

def moves (t : Timer κ) (w : Nat) (phase : TimerPhase κ) : Timer κ :=
  { t with bodies := t.bodies.set w phase }

/-- The body of a worker goes on. `timeout`: the wait for the interval has timed out, `throws`: the
callback throws. -/
def bodyStep (t : Timer κ) (w : Nat) (timeout throws : Bool) : Option (Timer κ) :=
  if t.worker.inBody w then
    (t.bodies[w]?).bind fun phase =>
      match phase with
      | .interval => if t.starting.isSome then none else some (t.moves w (.waiting t.interval))
      | .waiting _ =>
        if t.worker.stopRequested then some (t.moves w .leaving)
        else if timeout then some (t.moves w .loading)
        else none
      | .loading =>
        if t.starting.isSome then none
        else
          match t.callback with
          | none => some (t.moves w .leaving)
          | some callback => some (t.moves w (.loaded callback))
      | .loaded _ =>
        (workerStep t.worker (.works w)).map fun worker => { t.moves w .calling with worker }
      | .calling => some (t.moves w (if throws then .leaving else .interval))
      | .leaving =>
        if t.starting.isSome then none else some { t.moves w .left with callback := none }
      | .left => none
  else none

/-- A worker thread begins, or ends when its body has returned. -/
def threadStep (t : Timer κ) (w : Nat) : Option (Timer κ) :=
  match t.bodies[w]? with
  | some .left => (workerStep t.worker (.ends w)).map fun worker => { t with worker }
  | some _ => (workerStep t.worker (.begins w)).map fun worker => { t with worker }
  | none => none

/-- The caller is outside, or is the callback. -/
def mayCall (t : Timer κ) : Option Nat → Bool
  | none => true
  | some w =>
    t.worker.inBody w &&
      match t.bodies[w]? with
      | some .calling => true
      | _ => false

end Timer

inductive TimerAction (κ : Type*)
  | start (caller : Option Nat) (interval : Int) (callback : Option κ)
  | finishStart
  | stop (caller : Option Nat)
  | setInterval (interval : Int)
  | proceed (i : Nat) (throws : Bool)
  | thread (w : Nat)
  | body (w : Nat) (timeout throws : Bool)
  deriving DecidableEq

def timerStep {κ : Type*} (t : Timer κ) : TimerAction κ → Option (Timer κ)
  | .start caller interval callback =>
    if !t.mayCall caller then none
    else
      match Timer.startError interval callback, callback with
      | none, some callback => t.start caller interval.toNat callback
      | _, _ => some t
  | .finishStart => t.finishStart
  | .stop caller =>
    if !t.mayCall caller then none
    else (workerStep t.worker (.call caller .stop)).map fun worker => { t with worker }
  | .setInterval interval => if interval ≤ 0 then some t else t.setInterval interval.toNat
  | .proceed i throws => t.proceed i throws
  | .thread w => t.threadStep w
  | .body w timeout throws => t.bodyStep w timeout throws

end WSE.Impl.Wse
