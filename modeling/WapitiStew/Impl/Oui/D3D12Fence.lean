import WapitiStew.Impl.Oui.RendererTypes

/-!
# The fence of the D3D12 backend

`submit`, `waitFenceValue`, `waitForGpuIdle` and their callers of
`platform/oui/win/renderer/D3D12RendererBackend.cpp`, with the command queue and the fence they
share with the GPU. One call of the backend is under way at a time; between its native calls the
GPU does what is queued, and the fence raises the event it was given. The values of the fence are
those of a 64-bit counter.
-/

namespace WSE.Impl.Oui

/-! ## The GPU -/

/-- What the command queue is given. -/
inductive QueueEntry
  /-- A command list, or a presentation. -/
  | work (id : Nat)
  | signal (value : Nat)
  deriving DecidableEq

/-- The queue, `m_fence` and `m_fence_event`. -/
structure D3D12Gpu where
  queue : List QueueEntry := []
  completedValue : Nat := 0
  event : Bool := false
  /-- The values the event has been registered for, and not been raised for. -/
  registered : List Nat := []
  deriving DecidableEq

def D3D12Gpu.push (g : D3D12Gpu) (e : QueueEntry) : D3D12Gpu := { g with queue := g.queue ++ [e] }

/-! ## The backend -/

/-- What `submit` keeps alive; a presentation keeps nothing. -/
structure PendingSubmission where
  fenceValue : Nat
  work : Option Nat := none
  deriving DecidableEq

inductive Submitter
  /-- `uploadTexture` or `executeRenderPass`. -/
  | command
  | readTexture (timeoutMs : UInt32)
  deriving DecidableEq

/-- Who asks for the next value of the fence. -/
inductive Signaller
  | submit (caller : Submitter) (work : Nat)
  | present
  | idle
  /-- `waitForGpuIdle` of a surface that a shutdown takes out of its display mode. -/
  | leave (failure : Option RendererError)
  | shutdown (failure : Option RendererError)
  deriving DecidableEq

inductive FenceWaiter
  | waitFence
  | readTexture (work : Nat)
  | idle
  | leave (failure : Option RendererError)
  | shutdown (failure : Option RendererError)
  deriving DecidableEq

/-- A call of `waitFenceValue`. -/
structure FenceWait where
  waiter : FenceWaiter
  value : Nat
  timeoutMs : UInt32
  deriving DecidableEq

inductive D3D12Phase
  | idle
  | initializing
  /-- Before the command list is closed. -/
  | recording (caller : Submitter)
  | presenting
  | signalling (k : Signaller)
  /-- The submission is kept. -/
  | retaining (k : Signaller) (value : Nat)
  | checking (w : FenceWait)
  | registering (w : FenceWait)
  | waiting (w : FenceWait)
  /-- The wait is over, and has succeeded. -/
  | collecting (w : FenceWait)
  /-- Before the frame is copied out of the read-back buffer that the work has written. -/
  | copying (work : Nat)
  /-- `shutdown` has waited. -/
  | closing (failure : Option RendererError)
  deriving DecidableEq

inductive D3D12Result
  | status (r : RendererStatus)
  | fence (r : RendererResult FenceHandle)
  /-- The frame holds what the work has written. -/
  | frame (r : RendererResult Nat)
  deriving DecidableEq

inductive FenceEvent
  | submitted (work : Nat)
  | executed (work : Nat)
  | reached (value : Nat)
  /-- `waitFenceValue` succeeds. -/
  | waited (value : Nat)
  | copied (work : Nat)
  /-- `waitForGpuIdle` succeeds. -/
  | idled
  /-- The queue and the fence are released. -/
  | released
  | returned (r : D3D12Result)
  deriving DecidableEq

structure D3D12Fence where
  initialized : Bool := false
  handleGeneration : Nat := 0
  lastFenceValue : Nat := 0
  pendingSubmissions : List PendingSubmission := []
  gpu : D3D12Gpu := {}
  /-- How many works have been queued. -/
  works : Nat := 0
  phase : D3D12Phase := .idle
  log : List FenceEvent := []

inductive D3D12Call
  | initializeWith (generation : Nat)
  | submit
  | presentSurface
  | waitFence (fence : FenceHandle) (timeoutMs : UInt32)
  | readTexture (timeoutMs : UInt32)
  | waitForGpuIdle
  | shutdown

/-- What `WaitForSingleObject` answers. -/
inductive WaitAnswer
  | object
  | timeout
  | failed (hr : Int)

inductive D3D12Action
  | call (c : D3D12Call)
  /-- A check or a native call fails before the one the backend is at. -/
  | refuse (e : RendererError)
  /-- `initialize` fails when a part of the device exists, before the fence and its event do. -/
  | abandon (e : RendererError)
  /-- What `initializeMeshPipeline` answers. -/
  | pipeline (failure : Option RendererError)
  /-- The answer of the native call the backend is at. -/
  | answer (hr : Int)
  | waits (r : WaitAnswer)
  /-- The backend goes on without a native call. -/
  | proceed
  /-- The shutdown takes another surface out of its display mode. -/
  | leaves
  /-- The GPU does what is first in the queue. -/
  | executes
  /-- The fence raises the event for a value it was registered for. -/
  | raises (value : Nat)

/-! ## Errors -/

def shutdownTimeoutMs : UInt32 := 30000

/-- The timeout that never passes. -/
def infiniteTimeout : UInt32 := 0xFFFFFFFF

def hresultFailed (hr : Int) : Bool := hr < 0

/-- `DXGI_ERROR_DEVICE_REMOVED` and `DXGI_ERROR_DEVICE_RESET`. -/
def deviceLost (hr : Int) : Bool := hr = 0x887A0005 - 2 ^ 32 || hr = 0x887A0007 - 2 ^ 32

def backendError (message : String) (hr : Int) : RendererError where
  category := if deviceLost hr then .backend else .resource
  code := if deviceLost hr then .deviceLost else .backendFailure
  message := message
  nativeCode := hr

def timedOutError : RendererError where
  category := .timeout
  code := .timedOut
  message := "Renderer fence wait timed out."

/-! ## The calls -/

namespace D3D12Fence

def record (s : D3D12Fence) (e : FenceEvent) : D3D12Fence := { s with log := s.log ++ [e] }

def returns (s : D3D12Fence) (r : D3D12Result) : D3D12Fence :=
  { s.record (.returned r) with phase := .idle }

def goes (s : D3D12Fence) (p : D3D12Phase) : D3D12Fence := { s with phase := p }

/-- Work is queued. -/
def queues (s : D3D12Fence) : D3D12Fence :=
  { s.record (.submitted s.works) with gpu := s.gpu.push (.work s.works), works := s.works + 1 }

def collectCompletedSubmissions (s : D3D12Fence) : D3D12Fence :=
  { s with pendingSubmissions :=
      s.pendingSubmissions.filter fun p => !(p.fenceValue ≤ s.gpu.completedValue) }

/-- What `shutdown` does after its wait. -/
def closes (s : D3D12Fence) (failure : Option RendererError) : D3D12Fence :=
  { s with pendingSubmissions := [], phase := .closing failure }

def call (s : D3D12Fence) : D3D12Call → Option D3D12Fence
  | .initializeWith generation =>
    if s.initialized then some (s.returns (.status (.ok ())))
    else if generation = 0 then some (s.returns (.status (.error exhaustedError)))
    else some { s with handleGeneration := generation, phase := .initializing }
  | .submit =>
    if s.initialized then some (s.goes (.recording .command))
    else some (s.returns (.fence (.error (resourceNotFoundError "Texture"))))
  | .presentSurface =>
    if s.initialized then some (s.goes .presenting)
    else some (s.returns (.fence (.error (resourceNotFoundError "Surface"))))
  | .waitFence fence timeoutMs =>
    if fence.generation ≠ s.handleGeneration ∨ fence.value = 0 ∨ fence.value > s.lastFenceValue then
      some (s.returns (.status (.error (resourceNotFoundError "Fence"))))
    else some (s.goes (.checking ⟨.waitFence, fence.value, timeoutMs⟩))
  | .readTexture timeoutMs =>
    if s.initialized then some (s.goes (.recording (.readTexture timeoutMs)))
    else some (s.returns (.frame (.error (resourceNotFoundError "Texture"))))
  -- only operations on an existing surface wait for the GPU
  | .waitForGpuIdle => if s.initialized then some (s.goes (.signalling .idle)) else none
  | .shutdown =>
    if s.initialized then some (s.goes (.signalling (.shutdown none)))
    else some (s.closes none)

def submitFails (s : D3D12Fence) (caller : Submitter) (e : RendererError) : D3D12Fence :=
  match caller with
  | .command => s.returns (.fence (.error e))
  | .readTexture _ => s.returns (.frame (.error e))

/-- Whether `Close` succeeded; then the list is executed. -/
def closeList (s : D3D12Fence) (caller : Submitter) (hr : Int) : D3D12Fence :=
  if hresultFailed hr then
    s.submitFails caller (backendError "Failed to close the command list." hr)
  else s.queues.goes (.signalling (.submit caller s.works))

def present (s : D3D12Fence) (hr : Int) : D3D12Fence :=
  if hresultFailed hr then
    s.returns (.fence (.error (backendError "Failed to present the window surface." hr)))
  else s.queues.goes (.signalling .present)

def signalFails (s : D3D12Fence) (hr : Int) : Signaller → D3D12Fence
  | .submit caller _ => s.submitFails caller (backendError "Failed to signal the renderer fence." hr)
  | .present => s.returns (.fence (.error (backendError "Failed to signal the present fence." hr)))
  | .idle =>
    s.returns (.status (.error (backendError "Failed to signal the surface-transition fence." hr)))
  | .leave failure | .shutdown failure => s.closes failure

def signalled (value : Nat) : Signaller → D3D12Phase
  | .submit caller work => .retaining (.submit caller work) value
  | .present => .retaining .present value
  | .idle => .checking ⟨.idle, value, shutdownTimeoutMs⟩
  | .leave failure => .checking ⟨.leave failure, value, shutdownTimeoutMs⟩
  | .shutdown failure => .checking ⟨.shutdown failure, value, shutdownTimeoutMs⟩

/-- The next value of the fence is queued. -/
def signal (s : D3D12Fence) (k : Signaller) (hr : Int) : D3D12Fence :=
  let value := (s.lastFenceValue + 1) % 2 ^ 64
  if hresultFailed hr then { s with lastFenceValue := value }.signalFails hr k
  else { s with
    lastFenceValue := value, gpu := s.gpu.push (.signal value), phase := signalled value k }

def retain (s : D3D12Fence) (k : Signaller) (value : Nat) : D3D12Fence :=
  let work := match k with
    | .submit _ work => some work
    | _ => none
  let pending : PendingSubmission := ⟨value, work⟩
  let s := { s with pendingSubmissions := s.pendingSubmissions ++ [pending] }
  match k with
  | .submit (.readTexture timeoutMs) work =>
    s.collectCompletedSubmissions.goes (.checking ⟨.readTexture work, value, timeoutMs⟩)
  | _ => s.collectCompletedSubmissions.returns (.fence (.ok ⟨value, s.handleGeneration⟩))

/-- `waitFenceValue` fails. -/
def waitFails (s : D3D12Fence) (e : RendererError) : FenceWaiter → D3D12Fence
  | .waitFence | .idle => s.returns (.status (.error e))
  | .readTexture _ => s.returns (.frame (.error e))
  | .leave failure | .shutdown failure => s.closes failure

def check (s : D3D12Fence) (w : FenceWait) : D3D12Fence :=
  s.goes (if s.gpu.completedValue ≥ w.value then .collecting w else .registering w)

def setEventOnCompletion (s : D3D12Fence) (w : FenceWait) (hr : Int) : D3D12Fence :=
  if hresultFailed hr then s.waitFails (backendError "Failed to register the fence event." hr) w.waiter
  else { s with
    gpu := { s.gpu with registered := s.gpu.registered ++ [w.value] }, phase := .waiting w }

/-- `WaitForSingleObject` returns; the event resets itself. -/
def waitForSingleObject (s : D3D12Fence) (w : FenceWait) : WaitAnswer → Option D3D12Fence
  | .object =>
    if s.gpu.event then
      some { s with gpu := { s.gpu with event := false }, phase := .collecting w }
    else none
  | .timeout =>
    if s.gpu.event = false ∧ w.timeoutMs ≠ infiniteTimeout then
      some (s.waitFails timedOutError w.waiter)
    else none
  | .failed hr => some (s.waitFails (backendError "Renderer fence wait failed." hr) w.waiter)

/-- `waitFenceValue` succeeds. -/
def waitSucceeds (s : D3D12Fence) (w : FenceWait) : D3D12Fence :=
  let s := s.collectCompletedSubmissions.record (.waited w.value)
  match w.waiter with
  | .waitFence => s.returns (.status (.ok ()))
  | .readTexture work => s.goes (.copying work)
  | .idle => (s.record .idled).returns (.status (.ok ()))
  | .leave failure => (s.record .idled).closes failure
  | .shutdown failure => s.closes failure

/-- `Map`, and the copy of the rows. -/
def copy (s : D3D12Fence) (work : Nat) (hr : Int) : D3D12Fence :=
  if hresultFailed hr then
    s.returns (.frame (.error (backendError "Failed to map the readback buffer." hr)))
  else (s.record (.copied work)).returns (.frame (.ok work))

/-- The end of `shutdown`, of its own or of an `initialize` that fails. -/
def release (s : D3D12Fence) (failure : Option RendererError) : D3D12Fence :=
  { s.record .released with
    initialized := false, handleGeneration := 0, lastFenceValue := 0, pendingSubmissions := [],
    gpu := {} }.returns (.status (match failure with
      | some e => .error e
      | none => .ok ()))

/-- The pipelines are built, or the backend is shut down. -/
def initializeMeshPipeline (s : D3D12Fence) : Option RendererError → D3D12Fence
  | some e => s.goes (.signalling (.shutdown (some e)))
  | none => { s with initialized := true }.returns (.status (.ok ()))

/-- The GPU does what is first in the queue. -/
def executes (s : D3D12Fence) : Option D3D12Fence :=
  match s.gpu.queue with
  | [] => none
  | .work id :: rest => some { s.record (.executed id) with gpu := { s.gpu with queue := rest } }
  | .signal value :: rest =>
    some { s.record (.reached value) with
      gpu := { s.gpu with queue := rest, completedValue := value } }

def raises (s : D3D12Fence) (value : Nat) : Option D3D12Fence :=
  if value ∈ s.gpu.registered ∧ value ≤ s.gpu.completedValue then
    some { s with
      gpu := { s.gpu with registered := s.gpu.registered.erase value, event := true } }
  else none

end D3D12Fence

open D3D12Fence in
def d3d12Step (s : D3D12Fence) : D3D12Action → Option D3D12Fence
  | .executes => s.executes
  | .raises value => s.raises value
  | .call c => if s.phase = .idle then s.call c else none
  | .refuse e =>
    match s.phase with
    | .initializing => some (s.returns (.status (.error e)))
    | .recording caller => some (s.submitFails caller e)
    | .presenting => some (s.returns (.fence (.error e)))
    | _ => none
  | .abandon e => if s.phase = .initializing then some (s.closes (some e)) else none
  | .pipeline failure =>
    if s.phase = .initializing then some (s.initializeMeshPipeline failure) else none
  | .answer hr =>
    match s.phase with
    | .recording caller => some (s.closeList caller hr)
    | .presenting => some (s.present hr)
    | .signalling k => some (s.signal k hr)
    | .registering w => some (s.setEventOnCompletion w hr)
    | .copying work => some (s.copy work hr)
    | _ => none
  | .waits r =>
    match s.phase with
    | .waiting w => s.waitForSingleObject w r
    | _ => none
  | .proceed =>
    match s.phase with
    | .retaining k value => some (s.retain k value)
    | .checking w => some (s.check w)
    | .collecting w => some (s.waitSucceeds w)
    | .closing failure => some (s.release failure)
    | _ => none
  | .leaves =>
    match s.phase with
    | .closing failure => if s.initialized then some (s.goes (.signalling (.leave failure))) else none
    | _ => none

end WSE.Impl.Oui
