import Mathlib.Logic.Function.Basic
import WapitiStew.Framework.Bytes
import WapitiStew.Framework.Transition

/-!
# The asynchronous log runtime

`AsyncLogRuntime` of `core/wse/utility/AsyncLogRuntime.cpp`: its records,
settings and limits, the delivery of one record (`write`, `flushSinks`), and the
runtime shared by the producers, the writer thread and the control calls.

A step (`logStep`) is what one thread does while it holds the mutex, or the
delivery that the writer makes without it. A control call holds the control mutex
from its first step to its last (`Control`), and a call made by a callback of the
writer is refused. A callback, a stream, an allocation and the start of the thread
end as the environment says.
-/

namespace WSE.Impl.Log

open WSE.Framework

/-! ## Errors -/

inductive LogErrorCategory
  | none | configuration | capacity | io | callback | lifecycle | internal
  deriving DecidableEq

inductive LogErrorCode
  | none | invalidSettings | notRunning | queueFull | recordTooLarge | openFailed | writeFailed
  | flushFailed | callbackFailed | reentrantControl | allocationFailed | threadFailed
  deriving DecidableEq

structure LogError where
  category : LogErrorCategory := .none
  code : LogErrorCode := .none
  message : Bytes := []
  nativeCode : Int := 0
  deriving DecidableEq

def LogError.ok (e : LogError) : Bool := e.category = .none

/-- A failure holds an error: `Status::failure` refuses an empty one. -/
inductive LogStatus
  | success
  | failure (e : LogError) (h : e.ok = false)
  deriving DecidableEq

def LogStatus.error : LogStatus → LogError
  | .success => {}
  | .failure e _ => e

/-- How a call into the environment, or a call of the runtime, ends. -/
inductive CallResult
  | returned (r : LogStatus)
  | threw
  deriving DecidableEq

def callbackFailed : LogStatus := .failure { category := .callback, code := .callbackFailed } rfl
def ioWriteFailed : LogStatus := .failure { category := .io, code := .writeFailed } rfl
def flushFailed : LogStatus := .failure { category := .io, code := .flushFailed } rfl
def reentrantControl : LogStatus :=
  .failure { category := .lifecycle, code := .reentrantControl } rfl
def allocationFailed : LogStatus :=
  .failure { category := .internal, code := .allocationFailed } rfl
def threadFailed : LogStatus := .failure { category := .internal, code := .threadFailed } rfl
def invalidSettings : LogStatus :=
  .failure { category := .configuration, code := .invalidSettings } rfl
def openFailed (path : Bytes) : LogStatus :=
  .failure { category := .io, code := .openFailed, message := path } rfl

/-! ## Records and settings -/

inductive LogPartKind
  | text | newLine
  /-- A value that no enumerator names. -/
  | other
  deriving DecidableEq

structure LogPart where
  kind : LogPartKind := .text
  text : Bytes := []
  deriving DecidableEq

structure AsyncLogRecord where
  level : Int32 := 2
  tag : Bytes := []
  source : Bytes := []
  file : Bytes := []
  verbosity : UInt32 := 1
  parts : List LogPart := []
  attributes : List (Bytes × Bytes) := []
  line : Int32 := 0
  /-- The nanoseconds from the epoch; the source's default is the time of construction. -/
  timestamp : Int := 0
  deriving DecidableEq

/-- `eLogMode`; the enumerations keep the values of the `int` under them. -/
def modeFile : Int32 := 1
def modeConsole : Int32 := 2
def modeFull : Int32 := 3

/-- `LogLevel::Off`. -/
def levelOff : Int32 := 5

/-- The settings. A formatter, a console writer and a sink are names of the environment's. -/
structure AsyncLogSettings where
  output : Int32 := 0
  filePath : Bytes := []
  consoleWriter : Option Nat := none
  formatter : Option Nat := none
  sinks : List (Option Nat) := []
  queueCapacity : Nat := 1024
  recordByteLimit : Nat := 16 * 1024
  recordPartLimit : Nat := 1024
  metadataByteLimit : Nat := 16 * 1024
  minimumLevel : Int32 := 0
  defaultVerbosity : UInt32 := 1
  tagVerbosity : List (Bytes × UInt32) := []
  separate : Int32 := 1
  logPrefix : Int32 := 3
  suffix : Int32 := 1
  flushEachRecord : Bool := false
  deriving DecidableEq

def hasFile (mode : Int32) : Bool := mode = modeFile || mode = modeFull
def hasConsole (mode : Int32) : Bool := mode = modeConsole || mode = modeFull

def addBytes (total count limit : Nat) : Option Nat :=
  if count > limit - total then none else some (total + count)

/-- The bytes that a part adds to a record, or `none` for a part that is refused. -/
def partBytes (endLine : Bytes) (part : LogPart) : Option Nat :=
  match part.kind with
  | .text => some part.text.length
  | .newLine => if part.text.isEmpty then some endLine.length else none
  | .other => none

def addAttribute (limit total : Nat) (pair : Bytes × Bytes) : Option Nat := do
  addBytes (← addBytes total pair.1.length limit) pair.2.length limit

def validRecord (endLine : Bytes) (record : AsyncLogRecord) (settings : AsyncLogSettings) : Bool :=
  let limit := settings.metadataByteLimit
  if record.parts.length > settings.recordPartLimit ||
      record.attributes.length > settings.recordPartLimit then false
  else
    (record.parts.foldlM (fun total part => do
      addBytes total (← partBytes endLine part) settings.recordByteLimit) 0).isSome &&
    (do
      let total ← addBytes 0 record.tag.length limit
      let total ← addBytes total record.source.length limit
      let total ← addBytes total record.file.length limit
      record.attributes.foldlM (addAttribute limit) total).isSome

def validSettings (settings : AsyncLogSettings) : Bool :=
  !(settings.output.toUInt32 > 3 || settings.minimumLevel.toUInt32 > levelOff.toUInt32 ||
    settings.separate.toUInt32 > 4 || settings.logPrefix.toUInt32 > 3 ||
    settings.suffix.toUInt32 > 1 || settings.queueCapacity = 0 || settings.recordByteLimit = 0 ||
    settings.recordPartLimit = 0 || settings.metadataByteLimit = 0 ||
    hasFile settings.output && settings.filePath.isEmpty) &&
  settings.sinks.all Option.isSome

/-- `enabled`, given that the runtime accepts records. -/
def enabled (settings : AsyncLogSettings) (tag : Bytes) (verbosity : UInt32) (level : Int32) :
    Bool :=
  !(verbosity = 0 || level.toUInt32 ≥ levelOff.toUInt32 || level < settings.minimumLevel ||
    settings.output = 0 && settings.sinks.isEmpty) &&
  verbosity ≤ (settings.tagVerbosity.lookup tag).getD settings.defaultVerbosity

/-! ## Delivery -/

/-- How the calls of one delivery end. -/
structure WriterEnv where
  /-- The formatter, or the default format, returns. -/
  formats : Bool := true
  consoleWriter : CallResult := .returned .success
  /-- Output to the standard console throws, or leaves the stream failed or not. -/
  consoleThrows : Bool := false
  consoleWrites : Bool := true
  fileWrites : Bool := true
  sinkWrite : Nat → CallResult := fun _ => .returned .success
  consoleFlushes : Bool := true
  fileFlushes : Bool := true
  sinkFlush : Nat → CallResult := fun _ => .returned .success
  /-- An allocation outside the guarded calls throws. -/
  allocationThrows : Bool := false

/-- The sinks in turn, up to the first one that fails. -/
def callSinks (call : Nat → CallResult) : List (Option Nat) → LogStatus
  | [] => .success
  | sink :: sinks =>
    match (sink.map call).getD .threw with
    | .returned .success => callSinks call sinks
    | .returned (.failure e h) => .failure e h
    | .threw => callbackFailed

def flushSinks (settings : AsyncLogSettings) (env : WriterEnv) : LogStatus :=
  if hasConsole settings.output && settings.consoleWriter.isNone && !env.consoleFlushes then
    flushFailed
  else if hasFile settings.output && !env.fileFlushes then flushFailed
  else callSinks env.sinkFlush settings.sinks

/-- The console part of `write`. -/
def writeConsole (settings : AsyncLogSettings) (env : WriterEnv) : CallResult :=
  if !hasConsole settings.output then .returned .success
  else if settings.consoleWriter.isSome then
    match env.consoleWriter with
    | .returned r => .returned r
    | .threw => .returned callbackFailed
  else if env.consoleThrows then .threw
  else if !env.consoleWrites then .returned ioWriteFailed
  else .returned .success

def write (settings : AsyncLogSettings) (env : WriterEnv) : CallResult :=
  if !env.formats then .returned callbackFailed
  else
    match writeConsole settings env with
    | .threw => .threw
    | .returned (.failure e h) => .returned (.failure e h)
    | .returned .success =>
      if hasFile settings.output && !env.fileWrites then .returned ioWriteFailed
      else
        match callSinks env.sinkWrite settings.sinks with
        | .failure e h => .returned (.failure e h)
        | .success =>
          .returned (if settings.flushEachRecord then flushSinks settings env else .success)

/-- What the writer makes of the end of a delivery. -/
def deliveryStatus (env : WriterEnv) : CallResult → LogStatus
  | .returned r => if env.allocationThrows then allocationFailed else r
  | .threw => allocationFailed

/-! ## The runtime -/

/-- An entry of the queue: a record, or the barrier of a control call. -/
inductive Entry
  | record (r : AsyncLogRecord)
  | barrier (id : Nat)
  deriving DecidableEq

def Entry.isRecord : Entry → Bool
  | .record _ => true
  | .barrier _ => false

/-- Where the writer thread is. -/
inductive Worker
  | absent
  /-- At the top of its loop. -/
  | idle
  /-- Delivering an entry, without the mutex; `skip` as it was decided with the entry. -/
  | delivering (entry : Entry) (skip : Bool)
  /-- Out of its loop and not joined yet. -/
  | exited
  deriving DecidableEq

inductive Call
  | configure | flush | stop
  deriving DecidableEq

/-- Where the control call that holds the control mutex is. `n` counts the records accepted
before it. -/
inductive Control
  | free
  | configureWait (candidate : AsyncLogSettings) (barrier : Nat)
  | flushEntered (n : Nat)
  | flushWait (barrier n : Nat)
  | stopEntered (n : Nat)
  /-- Acceptance is stopped. -/
  | stopClosed (n : Nat)
  | stopWait (barrier n : Nat)
  | stopBarrierDone (r : LogStatus) (n : Nat)
  | stopJoin (r : LogStatus) (n : Nat)
  | stopRelease (r : LogStatus) (n : Nat)
  deriving DecidableEq

/-- What the writer has done, in order. -/
inductive Event
  | written (r : AsyncLogRecord) (settings : AsyncLogSettings)
  /-- The delivery of a record was tried and failed. -/
  | failed (r : AsyncLogRecord) (settings : AsyncLogSettings)
  /-- A record was dropped by a failed writer. -/
  | skipped (r : AsyncLogRecord) (settings : AsyncLogSettings)
  | flushed
  | flushFailed
  /-- A `configure` has replaced the settings. -/
  | configured
  deriving DecidableEq

/-- A control call that has ended, with what had been accepted before it and what the writer had
done when it ended. -/
structure Return where
  call : Call
  result : CallResult
  accepted : Nat
  events : List Event
  deriving DecidableEq

/-- The runtime. The last three fields record its history: the records accepted, with the
settings in force at acceptance, what the writer did, and the calls that returned. -/
structure LogState where
  queue : List Entry := []
  worker : Worker := .absent
  settings : AsyncLogSettings := {}
  isRunning : Bool := false
  isAccepting : Bool := false
  queued : Nat := 0
  accepted : Nat := 0
  completed : Nat := 0
  dropped : Nat := 0
  filtered : Nat := 0
  lastError : LogError := {}
  /-- The path of the open file. -/
  file : Option Bytes := none
  stopping : Bool := false
  writerFailed : Bool := false
  /-- The error of each barrier that is done. -/
  barriers : Nat → Option LogError := fun _ => none
  nextBarrier : Nat := 0
  control : Control := .free
  /-- Producers that are in the exception handler of `tryAppend`. -/
  catching : Nat := 0
  history : List (AsyncLogRecord × AsyncLogSettings) := []
  events : List Event := []
  returned : List Return := []

def LogState.initial : LogState := {}

/-- A call ends. -/
def LogState.return (s : LogState) (call : Call) (r : CallResult) (n : Nat) : LogState :=
  { s with returned := s.returned ++ [⟨call, r, n, s.events⟩] }

/-- The control call ends and releases the control mutex. -/
def LogState.finish (s : LogState) (call : Call) (r : CallResult) (n : Nat) : LogState :=
  { s.return call r n with control := .free }

inductive LogSubmitResult
  | accepted | filtered | notRunning | queueFull | recordTooLarge | failed
  deriving DecidableEq

/-- `tryAppend`, called by the writer thread (`reentrant`) or another; where the copy into the
queue throws (`throws`), there is no result yet. -/
def tryAppend (endLine : Bytes) (s : LogState) (record : AsyncLogRecord)
    (reentrant throws : Bool) : LogState × Option LogSubmitResult :=
  if reentrant then
    ({ s with
        dropped := s.dropped + 1
        lastError := if s.writerFailed then s.lastError
          else { category := .lifecycle, code := .reentrantControl } }, some .failed)
  else if !s.isAccepting then (s, some .notRunning)
  else if !enabled s.settings record.tag record.verbosity record.level then
    ({ s with filtered := s.filtered + 1 }, some .filtered)
  else if s.writerFailed then ({ s with dropped := s.dropped + 1 }, some .failed)
  else if !validRecord endLine record s.settings then
    ({ s with
        dropped := s.dropped + 1
        lastError := { category := .capacity, code := .recordTooLarge } }, some .recordTooLarge)
  else if s.queued ≥ s.settings.queueCapacity then
    ({ s with
        dropped := s.dropped + 1
        lastError := { category := .capacity, code := .queueFull } }, some .queueFull)
  else if throws then ({ s with catching := s.catching + 1 }, none)
  else
    ({ s with
        queue := s.queue ++ [.record record]
        queued := s.queued + 1
        accepted := s.accepted + 1
        history := s.history ++ [(record, s.settings)] }, some .accepted)

/-- The exception handler of `tryAppend`. -/
def appendCatch (s : LogState) : LogState × LogSubmitResult :=
  ({ s with
      catching := s.catching - 1
      dropped := s.dropped + 1
      lastError := if s.writerFailed then s.lastError
        else { category := .internal, code := .allocationFailed } }, .failed)

/-- The writer takes the first entry of the queue. -/
def popEntry (s : LogState) : Option LogState :=
  match s.queue with
  | [] => none
  | .record r :: queue =>
    some { s with
      queue := queue
      queued := s.queued - 1
      worker := .delivering (.record r) s.writerFailed }
  | .barrier b :: queue =>
    some { s with queue := queue, worker := .delivering (.barrier b) false }

/-- The writer has `error` after a delivery, under the mutex again. -/
def LogState.noteError (s : LogState) (error : LogError) : LogState :=
  if error.ok then s else { s with lastError := error, writerFailed := true }

/-- The error that a barrier is given; copying it may fail. -/
def barrierError (s : LogState) (copies : Bool) : LogError :=
  if !s.writerFailed then {}
  else if copies then s.lastError
  else { category := .internal, code := .allocationFailed }

/-- The delivery of a record that is skipped or not. -/
def finishRecord (s : LogState) (r : AsyncLogRecord) (skip : Bool) (env : WriterEnv) : LogState :=
  let result := if skip then .success else deliveryStatus env (write s.settings env)
  let t := s.noteError result.error
  { t with
    worker := .idle
    completed := t.completed + 1
    dropped := if skip || t.writerFailed then t.dropped + 1 else t.dropped
    events := t.events ++
      (if skip then [.skipped r s.settings]
        else if !result.error.ok then [.failed r s.settings]
        else if s.settings.flushEachRecord then [.written r s.settings, .flushed]
        else [.written r s.settings]) }

def finishBarrier (s : LogState) (b : Nat) (env : WriterEnv) (copies : Bool) : LogState :=
  let result := deliveryStatus env (.returned (flushSinks s.settings env))
  let t := s.noteError result.error
  { t with
    worker := .idle
    barriers := Function.update t.barriers b (some (barrierError t copies))
    events := t.events ++ [if result.error.ok then .flushed else .flushFailed] }

/-! ## Control calls -/

/-- How the preparation of a candidate ends, outside all locks. -/
inductive PrepareResult
  | prepared | badAlloc | threw
  /-- The file does not open; only where the candidate has one. -/
  | notOpened
  deriving DecidableEq

structure ConfigureEnv where
  prepare : PrepareResult := .prepared
  pushes : Bool := true
  starts : Bool := true

/-- What `configure` returns before it locks anything, or `none`. -/
def prepareCandidate (candidate : AsyncLogSettings) (reentrant : Bool) (r : PrepareResult) :
    Option LogStatus :=
  if reentrant then some reentrantControl
  else if !validSettings candidate then some invalidSettings
  else
    match r with
    | .prepared => none
    | .badAlloc => some allocationFailed
    | .threw => some (openFailed [])
    | .notOpened => if hasFile candidate.output then some (openFailed candidate.filePath) else none

/-- The part of `configure` from its locks to its wait. -/
def configureLocked (s : LogState) (candidate : AsyncLogSettings) (env : ConfigureEnv) :
    LogState :=
  if !env.pushes then s.return .configure (.returned allocationFailed) s.accepted
  else if !s.isRunning && !env.starts then
    -- The slot that was pushed is popped again.
    { s.return .configure (.returned threadFailed) s.accepted with stopping := false }
  else
    { s with
      queue := s.queue ++ [.barrier s.nextBarrier]
      nextBarrier := s.nextBarrier + 1
      worker := if s.isRunning then s.worker else .idle
      stopping := if s.isRunning then s.stopping else false
      isRunning := true
      isAccepting := false
      control := .configureWait candidate s.nextBarrier }

def configure (s : LogState) (candidate : AsyncLogSettings) (reentrant : Bool)
    (env : ConfigureEnv) : Option LogState :=
  match prepareCandidate candidate reentrant env.prepare with
  | some r => some (s.return .configure (.returned r) s.accepted)
  | none => if s.control = .free then some (configureLocked s candidate env) else none

/-- `configure` once its barrier is done. -/
def configureDone (s : LogState) (candidate : AsyncLogSettings) : LogState :=
  LogState.finish
    { s with
      settings := candidate
      file := if hasFile candidate.output then some candidate.filePath else none
      lastError := {}
      writerFailed := false
      isAccepting := true
      events := s.events ++ [.configured] }
    .configure (.returned .success) s.accepted

/-- The status for an error that may be empty. -/
def LogError.toStatus (e : LogError) : LogStatus :=
  if h : e.ok = false then .failure e h else .success

/-- `barrier` of a runtime that is not running; `Status::failure` throws on an empty error. -/
def barrierStopped (s : LogState) : CallResult :=
  if !s.writerFailed then .returned .success
  else if h : s.lastError.ok = false then .returned (.failure s.lastError h)
  else .threw

/-- `barrier` queues its entry; the call goes on in `control`. -/
def pushBarrier (s : LogState) (control : Control) : LogState :=
  { s with
    queue := s.queue ++ [.barrier s.nextBarrier]
    nextBarrier := s.nextBarrier + 1
    control := control }

def flushBarrier (s : LogState) (n : Nat) (allocates : Bool) : LogState :=
  if !allocates then s.finish .flush .threw n
  else if !s.isRunning then s.finish .flush (barrierStopped s) n
  else pushBarrier s (.flushWait s.nextBarrier n)

/-- The result of `stop` for the end of its `barrier`. -/
def stopStatus : CallResult → LogStatus
  | .returned r => r
  | .threw => allocationFailed

def stopBarrier (s : LogState) (n : Nat) (allocates : Bool) : LogState :=
  if !allocates then { s with control := .stopBarrierDone (stopStatus .threw) n }
  else if !s.isRunning then { s with control := .stopBarrierDone (stopStatus (barrierStopped s)) n }
  else pushBarrier s (.stopWait s.nextBarrier n)

/-- The end of `stop`: the captures move out of the settings and the file is closed. -/
def stopRelease (s : LogState) (r : LogStatus) (n : Nat) : LogState :=
  LogState.finish
    { s with
      isRunning := false
      settings := { s.settings with formatter := none, consoleWriter := none, sinks := [] }
      file := none }
    .stop (.returned r) n

/-! ## Steps -/

inductive LogAct
  | tryAppend (record : AsyncLogRecord) (reentrant throws : Bool)
  | appendCatch
  | pop
  | deliver (env : WriterEnv) (copies : Bool)
  | exit
  | configure (candidate : AsyncLogSettings) (reentrant : Bool) (env : ConfigureEnv)
  | flush (reentrant : Bool)
  | stop (reentrant : Bool)
  /-- The call that holds the control mutex goes on; `allocates` for its barrier. -/
  | control (allocates : Bool)

/-- The writer is inside a callback, so a call from its thread is possible. -/
def LogState.inCallback (s : LogState) : Bool :=
  match s.worker with
  | .delivering _ skip => !skip
  | _ => false

/-- The next step of the control call. -/
def controlStep (s : LogState) (allocates : Bool) : Option LogState :=
  match s.control with
  | .free => none
  | .configureWait candidate b =>
    if (s.barriers b).isSome then some (configureDone s candidate) else none
  | .flushEntered n => some (flushBarrier s n allocates)
  | .flushWait b n => (s.barriers b).map fun e => s.finish .flush (.returned e.toStatus) n
  | .stopEntered n => some { s with isAccepting := false, control := .stopClosed n }
  | .stopClosed n => some (stopBarrier s n allocates)
  | .stopWait b n =>
    (s.barriers b).map fun e => { s with control := .stopBarrierDone e.toStatus n }
  | .stopBarrierDone r n => some { s with stopping := true, control := .stopJoin r n }
  | .stopJoin r n =>
    if s.worker = .exited ∨ s.worker = .absent then
      some { s with worker := .absent, control := .stopRelease r n }
    else none
  | .stopRelease r n => some (stopRelease s r n)

/-- The start of a `flush` or a `stop`. -/
def enterControl (s : LogState) (call : Call) (control : Control) (reentrant : Bool) :
    Option LogState :=
  if reentrant then some (s.return call (.returned reentrantControl) s.accepted)
  else if s.control = .free then some { s with control := control }
  else none

def logStep (endLine : Bytes) (s : LogState) : LogAct → Option LogState
  | .tryAppend record reentrant throws =>
    if reentrant && !s.inCallback then none
    else some (tryAppend endLine s record reentrant throws).1
  | .appendCatch => if s.catching > 0 then some (appendCatch s).1 else none
  | .pop => if s.worker = .idle then popEntry s else none
  | .deliver env copies =>
    match s.worker with
    | .delivering (.record r) skip => some (finishRecord s r skip env)
    | .delivering (.barrier b) _ => some (finishBarrier s b env copies)
    | _ => none
  | .exit =>
    if s.worker = .idle ∧ s.queue = [] ∧ s.stopping = true then some { s with worker := .exited }
    else none
  | .configure candidate reentrant env =>
    if reentrant && !s.inCallback then none else configure s candidate reentrant env
  | .flush reentrant =>
    if reentrant && !s.inCallback then none
    else enterControl s .flush (.flushEntered s.accepted) reentrant
  | .stop reentrant =>
    if reentrant && !s.inCallback then none
    else enterControl s .stop (.stopEntered s.accepted) reentrant
  | .control allocates => controlStep s allocates

end WSE.Impl.Log
