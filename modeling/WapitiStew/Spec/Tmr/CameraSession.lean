import WapitiStew.Framework.History
import WapitiStew.Impl.Tmr.CameraSession

/-!
# The callback protocol of a camera session

`callbacks` is a monitor of the session's history: it knows how many frames the
backend has produced, the next one that may be delivered, whether a callback runs,
whether the run still has something to deliver (`finished`), and whether the run was
stopped from outside. `ownerUses` and `workerUses` say who is using the backend.
-/

namespace WSE.Spec.Tmr

open WSE.Framework WSE.Impl.Tmr

structure SessionTrack where
  produced : Nat := 0
  /-- The frames below are delivered or skipped. -/
  next : Nat := 0
  inCall : Bool := false
  /-- An error was delivered in this run, or a callback threw. -/
  finished : Bool := false
  /-- A `stop` outside the callback has returned since the run began. -/
  stopped : Bool := false
  /-- The run has a worker, or is about to get one. -/
  live : Bool := false
  deriving DecidableEq

def SessionTrack.step (t : SessionTrack) : SessionEvent → SessionTrack
  | .run => { t with finished := false, stopped := false, live := true }
  | .produced n => { t with produced := n + 1 }
  | .invoked (.frame n) => { t with next := n + 1, inCall := true }
  | .invoked (.error _) => { t with inCall := true, finished := true }
  | .returned threw => { t with inCall := false, finished := t.finished || threw }
  | .ended | .startReturned .threw => { t with live := false }
  | .startReturned _ => t
  | .stopReturned => { t with stopped := true }

def SessionTrack.allowed (t : SessionTrack) : SessionEvent → Prop
  | .run => t.live = false ∧ t.inCall = false
  | .produced n => n = t.produced
  | .invoked d => t.live = true ∧ t.inCall = false ∧ t.finished = false ∧ t.stopped = false ∧
      match d with
      | .frame n => t.next ≤ n ∧ n < t.produced
      | .error code => code ≠ .timedOut
  | .returned _ => t.inCall = true
  | .ended => t.inCall = false
  | .stopReturned => t.live = false ∧ t.inCall = false
  | .startReturned _ => True

def callbacks : Monitor SessionEvent SessionTrack :=
  ⟨{}, SessionTrack.step, SessionTrack.allowed⟩

/-- The frames that callbacks were given, in order. -/
def delivered (log : List SessionEvent) : List Nat :=
  log.filterMap fun
    | .invoked (.frame n) => some n
    | _ => none

/-- The frames of the backend, in order. -/
def producedFrames (log : List SessionEvent) : List Nat :=
  log.filterMap fun
    | .produced n => some n
    | _ => none

/-- Every callback of a history has returned. -/
def AllReturned (log : List SessionEvent) : Prop :=
  ∀ pre d post, log = pre ++ .invoked d :: post → ∃ threw, .returned threw ∈ post

/-- What the histories of a session keep to. -/
structure HistoryProtocol (log : List SessionEvent) : Prop where
  /-- No frame has the number of another. -/
  numbered : producedFrames log = List.range (producedFrames log).length
  ordered : (delivered log).Sublist (producedFrames log)
  /-- When a `stop` outside the callback returns no callback runs, and none does before a new run. -/
  stopped : ∀ pre post, log = pre ++ .stopReturned :: post →
    AllReturned pre ∧ ∀ mid d rest, post = mid ++ .invoked d :: rest → .run ∈ mid
  noTimeout : .invoked (.error .timedOut) ∉ log
  /-- What is not the last delivery of its run is a frame, and its callback does not throw. -/
  lastDelivery : ∀ pre d mid e post, log = pre ++ .invoked d :: (mid ++ .invoked e :: post) →
    .run ∉ mid → (∃ n, d = .frame n) ∧ .returned true ∉ mid
  /-- A run ends, or its launch fails, before the next one begins. -/
  oneRun : ∀ pre mid post, log = pre ++ .run :: (mid ++ .run :: post) →
    .ended ∈ mid ∨ .startReturned .threw ∈ mid

/-- The owner is inside a call of the backend. -/
def ownerUses : OwnerPhase → Bool
  | .startCheck | .startBackend | .startThrew | .launchStop | .launchClose | .stopBackend _ _
  | .stopThrew _ _ | .closing _ => true
  | _ => false

/-- The worker is inside a call of the backend, other than the one that closes it for a `close` in
the callback. -/
def workerUses : WorkerPhase → Bool
  | .reading | .inCallback _ (.stopBackend _ _) | .inCallback _ (.stopThrew _ _) => true
  | _ => false

/-- A `close` in the callback is closing the backend. -/
def callbackCloses : WorkerPhase → Bool
  | .inCallback _ .closing => true
  | _ => false

structure SessionProtocol (s : CameraSession) : Prop where
  history : HistoryProtocol s.log
  /-- While a worker is there `start` is refused, and changes nothing else. -/
  refused : s.joinable = false → ∀ empty, s.start empty = s.startReturns .refused
  /-- No `start` in a callback gets through. -/
  restarted : s.restarted = false
  /-- A `start` that fails or throws leaves no worker and no stream. -/
  failedStart : ∀ a s' r, sessionStep s a = some s' → s'.log = s.log ++ [.startReturned r] →
    r = .failed ∨ r = .threw → s'.worker = .none ∧ s'.attached = false ∧ s'.isStreaming = false
  exclusive : ownerUses s.owner = true → workerUses s.worker = false

end WSE.Spec.Tmr
