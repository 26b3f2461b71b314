import WapitiStew.Framework.Transition

/-!
# The owner thread of a camera

`CameraOwnerThread` of `core/tmr/camera/CameraOwnerThread.h`, from the time its
constructor has returned. A thread holds the mutex from one wait or unlock to the next;
such a region is one step, so is the run of a task. Every call of `invoke` is an
invocation, numbered as they begin, with its task at an address that is no other task's
while it lasts. Tasks are functions of the object that return a value or throw.

A thread that waits for the condition is among the `sleepers` until `notify_all`, or
until it wakes up by itself. The object is destroyed when no call is under way.
-/

namespace WSE.Impl.Tmr

/-- What a task does: it throws or returns, and leaves the object in some state. -/
abbrev CameraTask (σ ε α : Type*) := σ → Except ε α × σ

inductive CallerPhase
  /-- Before the mutex. -/
  | entering
  /-- Waits until there is no task. -/
  | waitsFree
  /-- Waits until the task is not its own. -/
  | waitsDone
  | returned
  deriving DecidableEq

inductive OwnerLoopPhase
  /-- Waits for a task or for the end. -/
  | waits
  /-- Runs the task at an address, without the mutex. -/
  | running (task : Nat)
  /-- The task has run. -/
  | finishing
  | ended
  deriving DecidableEq

/-- A call of `invoke`; `outcome` is the `result` or the `error` of its task. -/
structure Invocation (σ ε α : Type*) where
  address : Nat
  function : CameraTask σ ε α
  phase : CallerPhase := .entering
  outcome : Option (Except ε α) := none

/-- The task of the invocation exists. -/
def Invocation.active {σ ε α : Type*} (v : Invocation σ ε α) : Bool := v.phase ≠ .returned

/-- A thread that waits for the condition. -/
inductive Sleeper
  | owner
  | caller (i : Nat)
  deriving DecidableEq

inductive OwnerEvent (σ ε α : Type*)
  | called (f : CameraTask σ ε α)
  /-- The invocation stores the address of its task. -/
  | submitted (i : Nat)
  | began (i : Nat)
  | ended (i : Nat) (r : Except ε α)
  | returned (i : Nat) (r : Except ε α)

structure CameraOwnerThread (σ ε α : Type*) where
  object : σ
  task : Option Nat := none
  stop : Bool := false
  owner : OwnerLoopPhase := .waits
  invocations : List (Invocation σ ε α) := []
  sleepers : List Sleeper := []
  log : List (OwnerEvent σ ε α) := []

namespace CameraOwnerThread

variable {σ ε α : Type*}

def record (s : CameraOwnerThread σ ε α) (e : OwnerEvent σ ε α) : CameraOwnerThread σ ε α :=
  { s with log := s.log ++ [e] }

def notifyAll (s : CameraOwnerThread σ ε α) : CameraOwnerThread σ ε α :=
  { s with sleepers := [] }

def sleeps (s : CameraOwnerThread σ ε α) (w : Sleeper) : CameraOwnerThread σ ε α :=
  { s with sleepers := w :: s.sleepers }

def setInvocation (s : CameraOwnerThread σ ε α) (i : Nat) (v : Invocation σ ε α) :
    CameraOwnerThread σ ε α := { s with invocations := s.invocations.set i v }

/-- The invocation whose task is at an address. -/
def taskAt (s : CameraOwnerThread σ ε α) (address : Nat) : Option Nat :=
  s.invocations.findIdx? fun v => v.active && v.address = address

/-! ## The callers -/

/-- The mutex is taken, or taken again, before the task is stored. -/
def submit (s : CameraOwnerThread σ ε α) (i : Nat) (v : Invocation σ ε α) :
    CameraOwnerThread σ ε α :=
  if s.task = none then
    (({ s.record (.submitted i) with task := some v.address }.notifyAll).setInvocation i
      { v with phase := .waitsDone }).sleeps (.caller i)
  else (s.setInvocation i { v with phase := .waitsFree }).sleeps (.caller i)

/-- The mutex is taken again after the task was stored. -/
def finish (s : CameraOwnerThread σ ε α) (i : Nat) (v : Invocation σ ε α) :
    Option (CameraOwnerThread σ ε α) :=
  if s.task = some v.address then some (s.sleeps (.caller i))
  else
    v.outcome.map fun r => (s.record (.returned i r)).setInvocation i { v with phase := .returned }

def callerStep (s : CameraOwnerThread σ ε α) (i : Nat) : Option (CameraOwnerThread σ ε α) :=
  if s.sleepers.contains (.caller i) then none
  else
    (s.invocations[i]?).bind fun v =>
      match v.phase with
      | .entering | .waitsFree => some (s.submit i v)
      | .waitsDone => s.finish i v
      | .returned => none

/-! ## The owner thread -/

/-- The task at an address runs. -/
def runTask (s : CameraOwnerThread σ ε α) (i : Nat) (v : Invocation σ ε α) :
    CameraOwnerThread σ ε α :=
  let (r, object) := v.function s.object
  { (s.record (.ended i r)).setInvocation i { v with outcome := some r } with
    object, owner := .finishing }

def ownerStep (s : CameraOwnerThread σ ε α) : Option (CameraOwnerThread σ ε α) :=
  match s.owner with
  | .waits =>
    if s.sleepers.contains .owner then none
    else if s.stop then some { s with owner := .ended }
    else
      match s.task with
      | none => some (s.sleeps .owner)
      | some address =>
        (s.taskAt address).map fun i => { s.record (.began i) with owner := .running address }
  | .running address =>
    (s.taskAt address).bind fun i => (s.invocations[i]?).map fun v => s.runTask i v
  | .finishing => some { s.notifyAll with task := none, owner := .waits }
  | .ended => none

/-! ## The transition system -/

/-- Every call has returned. -/
def unused (s : CameraOwnerThread σ ε α) : Bool := s.invocations.all fun v => !v.active

def call (s : CameraOwnerThread σ ε α) (address : Nat) (function : CameraTask σ ε α) :
    Option (CameraOwnerThread σ ε α) :=
  if s.stop || (s.taskAt address).isSome then none
  else
    some { s.record (.called function) with
      invocations := s.invocations ++ [{ address, function }] }

end CameraOwnerThread

inductive OwnerThreadAction (σ ε α : Type*)
  | call (address : Nat) (f : CameraTask σ ε α)
  | caller (i : Nat)
  | owner
  /-- A thread wakes up by itself. -/
  | wakes (w : Sleeper)
  | destroy

/-- A step of a thread that is in a call or serves one. -/
def OwnerThreadAction.proceeds {σ ε α : Type*} : OwnerThreadAction σ ε α → Bool
  | .caller _ | .owner => true
  | _ => false

def cameraOwnerStep {σ ε α : Type*} (s : CameraOwnerThread σ ε α) :
    OwnerThreadAction σ ε α → Option (CameraOwnerThread σ ε α)
  | .call address f => s.call address f
  | .caller i => s.callerStep i
  | .owner => s.ownerStep
  | .wakes w =>
    if s.sleepers.contains w then some { s with sleepers := s.sleepers.erase w } else none
  | .destroy =>
    if !s.stop && s.unused then some { s with stop := true }.notifyAll else none

end WSE.Impl.Tmr
