import WapitiStew.Framework.History
import WapitiStew.Impl.Tmr.V4L2Camera

/-!
# Who owns a V4L2 buffer

`driver` reads the native calls that succeeded as the kernel does: which
descriptors are open, which mappings exist and through which descriptor they
were made, and which buffers the driver of a descriptor owns. It accepts a
history in which no buffer is queued that the driver owns already, no frame is
copied from a buffer it owns, and a mapping is removed while it exists and after
its descriptor was closed.
-/

namespace WSE.Spec.Tmr

open WSE.Framework WSE.Impl.Tmr

structure V4L2Driver where
  /-- How many descriptors and mappings there were. -/
  descriptors : Nat := 0
  mappings : Nat := 0
  opened : List Nat := []
  /-- A mapping and its descriptor. -/
  mapped : List (Nat × Nat) := []
  /-- A descriptor and the index of a buffer. -/
  queued : List (Nat × Nat) := []

def V4L2Driver.next (t : V4L2Driver) : NativeEvent → V4L2Driver
  | .opened d => { t with descriptors := d + 1, opened := d :: t.opened }
  | .closed d =>
    { t with opened := t.opened.filter (· ≠ d), queued := t.queued.filter (·.1 ≠ d) }
  | .mapped m d => { t with mappings := m + 1, mapped := t.mapped ++ [(m, d)] }
  | .unmapped m => { t with mapped := t.mapped.filter (·.1 ≠ m) }
  | .queued d i => { t with queued := (d, i) :: t.queued }
  | .dequeued d i => { t with queued := t.queued.filter (· ≠ (d, i)) }
  | .streamedOff d => { t with queued := t.queued.filter (·.1 ≠ d) }
  | .streamedOn _ | .copied _ _ => t

def V4L2Driver.allowed (t : V4L2Driver) : NativeEvent → Prop
  | .opened d => d = t.descriptors
  | .closed d => d ∈ t.opened
  | .mapped m d => m = t.mappings ∧ d ∈ t.opened
  | .unmapped m => ∃ d, (m, d) ∈ t.mapped ∧ d ∉ t.opened
  | .queued d i | .copied d i => d ∈ t.opened ∧ (d, i) ∉ t.queued
  | .dequeued d _ | .streamedOn d | .streamedOff d => d ∈ t.opened

def v4l2Driver : Monitor NativeEvent V4L2Driver := ⟨{}, V4L2Driver.next, V4L2Driver.allowed⟩

/-- What the driver knows in a state. -/
def driver (s : V4L2State) : V4L2Driver := v4l2Driver.after s.events

/-- The mappings that the backend holds. -/
def addresses (buffers : List MappedBuffer) : List Nat := buffers.filterMap (·.address)

/-- The backend is closed, and has no descriptor, mapping or buffer with the driver. -/
structure V4L2Closed (s : V4L2State) : Prop where
  backend : s.backend = {}
  opened : (driver s).opened = []
  mapped : (driver s).mapped = []
  queued : (driver s).queued = []

/-- The backend is open on `d`, with a mapping for each buffer; the driver owns all buffers when
the backend streams, and none when it does not. -/
structure V4L2Open (s : V4L2State) (d : Nat) (streaming : Bool) : Prop where
  descriptor : s.backend.descriptor = some d
  streams : s.backend.streaming = streaming
  dirty : s.backend.queueDirty = streaming
  buffers : ∀ b ∈ s.backend.buffers, b.address.isSome = true
  opened : (driver s).opened = [d]
  mapped : (driver s).mapped = (addresses s.backend.buffers).map (·, d)
  queued : ∀ e i, (e, i) ∈ (driver s).queued ↔
    e = d ∧ streaming = true ∧ i < s.backend.buffers.length

structure V4L2Owned (s : V4L2State) : Prop where
  accepted : v4l2Driver.Accepts s.events
  between : V4L2Closed s ∨ ∃ d streaming, V4L2Open s d streaming
  removedOnce : ∀ m, s.events.count (.unmapped m) ≤ 1
  removedAll : s.backend.descriptor = none →
    ∀ m d, .mapped m d ∈ s.events → .unmapped m ∈ s.events

end WSE.Spec.Tmr
