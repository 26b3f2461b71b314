import WapitiStew.Framework.History
import WapitiStew.Impl.Wse.Timer

/-!
# What a worker controller promises

`stopPromise` reads the promise of `stop` off a history: when a stop from outside returns,
the worker that was running when it was called has ended, no piece of work begins after
that but in a worker that was started later, and a stop waits for no worker that nobody
has asked to stop since it was started. `Truthful` says what `isRunning` and the threads
have to do with the bodies that exist.

The two conditions are what the code needs for them: `StopsItsWorker` of the second region of
`stop`, `CreatesThread` of the creation of a thread.
-/

namespace WSE.Spec.Wse

open WSE.Framework WSE.Impl.Wse

structure StopBooks where
  launched : Nat := 0
  live : List Nat := []
  /-- The workers up to here have been asked to stop since they were started. -/
  asked : Nat := 0
  /-- The stops from outside, with the workers that had been launched when they were called. -/
  stops : List (Nat × Nat) := []
  /-- The same of those that have returned. -/
  finished : List Nat := []

def stopPromise : Monitor WorkerEvent StopBooks where
  init := {}
  next
    | b, .called i none .stop => { b with stops := b.stops ++ [(i, b.launched)] }
    | b, .called _ _ _ => b
    | b, .requested _ => { b with asked := b.launched }
    | b, .launched w => { b with launched := b.launched + 1, live := b.live ++ [w] }
    | b, .ended w => { b with live := b.live.filter (· ≠ w) }
    | b, .returned i _ =>
      { b with finished := b.finished ++ (b.stops.filter (·.1 = i)).map (·.2) }
    | b, _ => b
  allowed
    | b, .waits _ w => w ∈ b.live → w < b.asked
    | b, .returned i _ => ∀ n, (i, n) ∈ b.stops → ∀ w ∈ b.live, n ≤ w
    | b, .worked w => ∀ n ∈ b.finished, n ≤ w
    | _, _ => True

/-- The worker has been launched, and has not ended. -/
def LiveWorker (s : WorkerController) (w : Nat) : Prop :=
  w < s.workers.length ∧ s.hasEnded w = false

/-- A stop that looks for the thread of the worker does not find that another stop has taken it
while a worker from before its call still runs, nor a running worker that nobody has asked to
stop. -/
def StopsItsWorker (s : WorkerController) : WorkerAction → Prop
  | .proceed i _ => ∀ c, s.calls[i]? = some c → c.phase = .stopTaking →
      (s.thread = none → c.caller = none → ∀ w, LiveWorker s w → c.launched ≤ w) ∧
      ∀ w, s.thread = some w → LiveWorker s w → s.stopRequested = true
  | _ => True

/-- The same of the controller of a timer. -/
def TimerStopsItsWorker {κ : Type*} (t : Timer κ) : TimerAction κ → Prop
  | .proceed i throws => StopsItsWorker t.worker (.proceed i throws)
  | _ => True

def joinedWorkers (log : List WorkerEvent) : List Nat :=
  log.filterMap fun
    | .joined w => some w
    | _ => none

/-- What a `start` does that nobody interferes with. -/
def startAlone (s : WorkerController) : List WorkerAction :=
  .call none (.start true) :: .proceed s.calls.length false ::
    if s.thread.isSome then
      [.proceed s.calls.length false, .proceed s.calls.length false]
    else [.proceed s.calls.length false]

structure Truthful (s : WorkerController) : Prop where
  running : s.isRunning = true ↔ ∃ w, LiveWorker s w
  one : ∀ w w', LiveWorker s w → LiveWorker s w' → w = w'
  joined : (joinedWorkers s.log).Nodup
  /-- While no worker exists a `start` launches one. -/
  starts : (∀ w, ¬LiveWorker s w) → ∃ s', run workerStep s (startAlone s) = some s' ∧
    LiveWorker s' s.workers.length ∧ .returned s.calls.length (.started true) ∈ s'.log

/-- A thread that is to be created is. -/
def CreatesThread (s : WorkerController) : WorkerAction → Prop
  | .proceed i throws => ∀ c, s.calls[i]? = some c → c.phase = .startSecond →
      s.running = false → s.thread = none → throws = false
  | _ => True

end WSE.Spec.Wse
