import WapitiStew.Framework.History
import WapitiStew.Impl.Log.AsyncLogRuntime

/-!
# What the asynchronous log promises

`Track` summarises what the writer has done: how many records it has completed
and lost, where the last `configure` and the last good flush stand, and whether
it has failed since (`FailedAfter` says the same without a summary).

* `Orderly`: a record is delivered exactly while the writer has not failed.
* `Delivered events n`: of the first `n` records, those since the last
  `configure` were written, and the writer was flushed after that.
-/

namespace WSE.Spec.Log

open WSE.Framework WSE.Impl.Log

structure Track where
  /-- Records that the writer has completed. -/
  handled : Nat := 0
  /-- Those of them that were dropped by a failed writer. -/
  lost : Nat := 0
  /-- Records completed before the last `configure`. -/
  configuredAt : Nat := 0
  /-- Records completed before the last flush of a writer that had not failed. -/
  flushedThrough : Nat := 0
  failed : Bool := false
  deriving DecidableEq

def Track.next (t : Track) : Event → Track
  | .written _ _ => { t with handled := t.handled + 1 }
  | .failed _ _ => { t with handled := t.handled + 1, lost := t.lost + 1, failed := true }
  | .skipped _ _ => { t with handled := t.handled + 1, lost := t.lost + 1 }
  | .flushed => { t with flushedThrough := if t.failed then t.flushedThrough else t.handled }
  | .flushFailed => { t with failed := true }
  | .configured => { t with configuredAt := t.handled, failed := false }

/-- A delivery is allowed where the writer has not failed, a skipped record where it has. -/
def Track.allowed (t : Track) : Event → Prop
  | .written _ _ | .failed _ _ => t.failed = false
  | .skipped _ _ => t.failed = true
  | _ => True

def writer : Monitor Event Track := ⟨{}, Track.next, Track.allowed⟩

def track (events : List Event) : Track := writer.after events

def Orderly (events : List Event) : Prop := writer.Accepts events

/-- The record that an event completes, with the settings it was delivered under. -/
def handledBy : Event → Option (AsyncLogRecord × AsyncLogSettings)
  | .written r settings | .failed r settings | .skipped r settings => some (r, settings)
  | _ => none

def handled (events : List Event) : List (AsyncLogRecord × AsyncLogSettings) :=
  events.filterMap handledBy

def isFailure : Event → Bool
  | .failed _ _ | .flushFailed => true
  | _ => false

/-- The writer has failed and no `configure` has succeeded since. -/
def FailedAfter (events : List Event) : Prop :=
  ∃ pre f post, events = pre ++ f :: post ∧ isFailure f = true ∧ .configured ∉ post

/-- Record `k` was written. -/
def WrittenIn (events : List Event) (k : Nat) : Prop :=
  ∃ pre r settings post, events = pre ++ .written r settings :: post ∧ (handled pre).length = k

def Delivered (events : List Event) (n : Nat) : Prop :=
  ∀ k, (track events).configuredAt ≤ k → k < n →
    ∃ pre post, events = pre ++ .flushed :: post ∧ WrittenIn pre k

/-- The entry that the writer is delivering. -/
def inFlight : Worker → List Entry
  | .delivering e _ => [e]
  | _ => []

def recordsOf (entries : List Entry) : List AsyncLogRecord :=
  entries.filterMap fun
    | .record r => some r
    | .barrier _ => none

/-- The entries that are not completed, oldest first. -/
def pipeline (s : LogState) : List Entry := inFlight s.worker ++ s.queue

/-- How many records were replaced by a `configure` or flushed since. -/
def flushedTo (events : List Event) : Nat :=
  max (track events).configuredAt (track events).flushedThrough

/-- Nothing that was accepted since the last `configure` waits for a flush. -/
def Covered (s : LogState) : Prop := s.accepted ≤ flushedTo s.events

/-- No `stop` fails to allocate its barrier while a running writer that has not failed owes a
flush. -/
def StopsFlushed (s : LogState) : LogAct → Prop
  | .control false =>
    (∃ n, s.control = .stopClosed n) → s.isRunning = true → s.writerFailed = true ∨ Covered s
  | _ => True

end WSE.Spec.Log
