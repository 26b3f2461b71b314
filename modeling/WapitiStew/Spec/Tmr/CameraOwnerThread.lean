import WapitiStew.Framework.History
import WapitiStew.Impl.Tmr.CameraOwnerThread

/-!
# An object that is served one task at a time

What the callers of an owner thread may rely on, as a monitor of its history: one task is
stored at a time and stays until it has run, tasks run one after the other on the
object, each once, and a call returns what its own task came to.
-/

namespace WSE.Spec.Tmr

open WSE.Framework WSE.Impl.Tmr

variable {σ ε α : Type*}

/-- The object and the tasks that were called for, by invocation. `pending` is the stored task that
has not ended, `outcomes` what the tasks that have ended came to. -/
structure OwnerService (σ ε α : Type*) where
  object : σ
  functions : List (CameraTask σ ε α) := []
  pending : Option Nat := none
  running : Option Nat := none
  begun : List Nat := []
  outcomes : List (Nat × Except ε α) := []

def ownerService (object : σ) : Monitor (OwnerEvent σ ε α) (OwnerService σ ε α) where
  init := { object }
  next
    | b, .called f => { b with functions := b.functions ++ [f] }
    | b, .submitted i => { b with pending := some i }
    | b, .began i => { b with running := some i, begun := b.begun ++ [i] }
    | b, .ended i r =>
      { b with
        object := (b.functions[i]?).elim b.object fun f => (f b.object).2
        pending := none, running := none, outcomes := b.outcomes ++ [(i, r)] }
    | b, .returned _ _ => b
  allowed
    | _, .called _ => True
    | b, .submitted i => b.pending = none ∧ i < b.functions.length ∧ i ∉ b.begun
    | b, .began i => b.pending = some i ∧ b.running = none ∧ i ∉ b.begun
    | b, .ended i r =>
      b.running = some i ∧ ∃ f, b.functions[i]? = some f ∧ r = (f b.object).1
    | b, .returned i r => (i, r) ∈ b.outcomes

/-- The tasks that have begun to run, in order. -/
def begunTasks (log : List (OwnerEvent σ ε α)) : List Nat :=
  log.filterMap fun
    | .began i => some i
    | _ => none

structure OwnerThreadContract (object : σ) (s : CameraOwnerThread σ ε α) : Prop where
  serves : (ownerService object).Accepts s.log
  /-- The task of a call that has returned has run, and no task runs twice. -/
  once : ∀ i r, .returned i r ∈ s.log → (begunTasks s.log).count i = 1
  atMostOnce : (begunTasks s.log).Nodup
  /-- While a call is under way some thread can go on. -/
  proceeds : s.unused = false → ∃ a, a.proceeds ∧ (cameraOwnerStep s a).isSome
  /-- Without another call, and unless a thread wakes up by itself, the threads come to rest. -/
  rests : ∃ n, ∀ as s', run cameraOwnerStep s as = some s' → (∀ a ∈ as, a.proceeds) → as.length ≤ n

end WSE.Spec.Tmr
