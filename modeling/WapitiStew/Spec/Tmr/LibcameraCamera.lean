import WapitiStew.Framework.History
import WapitiStew.Framework.Ring
import WapitiStew.Impl.Tmr.LibcameraCamera

/-!
# The requests of a libcamera backend

What becomes of the requests: each is in one place, the ledger counts those that
are queued, completed requests wait in a queue (`completions`, a monitor of the
history), and no request is freed that the camera may still write to.
-/

namespace WSE.Spec.Tmr

open WSE.Framework WSE.Impl.Tmr

/-- The requests of the ring, in order. -/
def waitingRequests {ρ : Type} (l : LibcameraRequests ρ) : List ρ :=
  (Ring.contents l.ready l.head l.count).filterMap id

def queuedRequests {ρ : Type} [DecidableEq ρ] (l : LibcameraRequests ρ) : List ρ :=
  l.owners.filter l.isPending

/-- The request that `readFrame` has taken, until it is queued again. -/
def heldRequest : LibcameraPhase → Option Nat
  | .copying r | .requeueing r _ | .marking (.read _) r => some r
  | _ => none

/-- The request that the ledger has as queued and that the camera has not taken yet, or has just
refused. -/
def beingQueued : LibcameraPhase → Option Nat
  | .handing _ r false | .refused _ r => some r
  | _ => none

/-- The requests that `createRequests` has built so far. -/
def builtRequests : LibcameraPhase → List Nat
  | .creating built => built
  | _ => []

/-- The request objects that exist. -/
def requestObjects (s : LibcameraCamera) : List Nat := s.requests.owners ++ builtRequests s.owner

inductive RequestPlace
  | idle | queued | waiting | held
  deriving DecidableEq

def InPlace (s : LibcameraCamera) (r : Nat) : RequestPlace → Prop
  | .idle => r ∉ queuedRequests s.requests ∧ r ∉ waitingRequests s.requests ∧
      heldRequest s.owner ≠ some r
  | .queued => r ∈ queuedRequests s.requests
  | .waiting => r ∈ waitingRequests s.requests
  | .held => heldRequest s.owner = some r

/-- The completed requests of a history wait in a queue, until they are handed over or discarded. -/
def completions : Monitor LibcameraEvent (List Nat) where
  init := []
  next
    | waiting, .completed r => waiting ++ [r]
    | waiting, .handed _ => waiting.tail
    | _, .discarded => []
    | waiting, .returned _ => waiting
  allowed
    | waiting, .handed r => waiting.head? = some r
    | _, _ => True

def completedRequests (log : List LibcameraEvent) : List Nat :=
  log.filterMap fun
    | .completed r => some r
    | _ => none

def handedRequests (log : List LibcameraEvent) : List Nat :=
  log.filterMap fun
    | .handed r => some r
    | _ => none

/-- A part of the history begins with an empty ring, and the ring is not discarded in it. -/
structure OneLedger (pre part : List LibcameraEvent) : Prop where
  fresh : pre = [] ∨ ∃ p, pre = p ++ [.discarded]
  kept : .discarded ∉ part

structure RequestProtocol (s : LibcameraCamera) : Prop where
  onePlace : ∀ r ∈ s.requests.owners, ∃! p, InPlace s r p
  /-- `readFrame` holds a request that the ledger owns. -/
  held : ∀ r, heldRequest s.owner = some r → r ∈ s.requests.owners
  outstanding : s.requests.outstanding = (queuedRequests s.requests).length
  /-- What is queued is at the camera, or was when it was stopped, or is on its way there. -/
  queued : ∀ r ∈ s.requests.owners, r ∈ queuedRequests s.requests ↔
    r ∈ s.cameraQueue ∨ r ∈ s.leftBehind ∨ beingQueued s.owner = some r ∨ r ∈ s.lost
  camera : ∀ r ∈ s.cameraQueue, r ∈ s.requests.owners
  /-- The ring has room for all that wait and all that are queued; no completion finds it full, or
  is of a request that is not queued. -/
  room : (waitingRequests s.requests).length + s.requests.outstanding ≤ s.requests.ready.length
  noFault : s.requests.fault = false
  /-- While a ledger lasts, what was handed over is what was completed first, in that order. -/
  inOrder : ∀ pre part post, s.log = pre ++ part ++ post → OneLedger pre part →
    handedRequests part <+: completedRequests part
  /-- A request is destroyed when the camera does not have it, or has been stopped successfully
  since, and then the camera has not reported its disconnection. -/
  destroyed : ∀ a s', libcameraStep s a = some s' → ∀ r ∈ requestObjects s,
    r ∉ requestObjects s' → r ∉ s.cameraQueue ∧ (r ∈ s.leftBehind → s.disconnected = false)
  buffers : ∀ a s', libcameraStep s a = some s' → s.buffers ≠ none → s'.buffers ≠ s.buffers →
    s.cameraQueue = []

end WSE.Spec.Tmr
