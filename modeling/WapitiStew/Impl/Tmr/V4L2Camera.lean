import WapitiStew.Framework.Running
import WapitiStew.Impl.Tmr.CameraTypes

/-!
# The V4L2 camera backend

`open`, `start`, `readFrame`, `stop` and `close` of `V4L2CameraBackend` in
`platform/tmr/linux/camera/V4L2CameraBackend.cpp`, with the rollback of `open`,
the lease of a dequeued buffer and `resetQueue`.

What the native calls, the clock and the allocator answer is part of the world,
in the order of the `tick`s at which they are asked. The native calls that
succeed are recorded in `events`; a descriptor and a mapping are their numbers.
A call that is left by an exception has no result. The strings that `open` makes of
the driver's name and the bus, and what it remembers of them, are left out: an
exception of theirs would leave through the same guard as one of the buffers.
-/

namespace WSE.Impl.Tmr

open WSE.Framework

/-! ## The platform -/

/-- `v4l2_capability`. -/
structure V4L2Capability where
  capabilities : UInt32
  deviceCaps : UInt32
  deriving DecidableEq, Repr

/-- The fields of `v4l2_pix_format` that are looked at. -/
structure V4L2PixFormat where
  width : UInt32
  height : UInt32
  pixelFormat : UInt32
  bytesPerLine : UInt32
  deriving DecidableEq, Repr

/-- The fields of `v4l2_buffer` that are looked at. -/
structure V4L2Buffer where
  index : Nat
  bytesUsed : Nat
  flags : UInt32
  sequence : UInt32
  seconds : Int
  microseconds : Int
  deriving DecidableEq, Repr

/-- What `poll` answers: `revents`, nothing in time, or an error. -/
inductive V4L2Poll
  | events (broken readable : Bool)
  | expired
  | failed (error : Int)
  deriving DecidableEq, Repr

/-- The answers of the native calls; an error is `errno`, and `none` stands for success. `errno` is
what an earlier call left there. The clock counts nanoseconds, and has passed `t` from the tick
`reaches t` on. -/
structure V4L2World where
  errno : Nat → Int
  allocates : Nat → Bool
  clock : Nat → Int
  reaches : Int → Nat
  clock_reaches : ∀ {t k}, reaches t ≤ k → t ≤ clock k
  openDevice : Nat → Option Int
  queryCapability : Nat → Except Int V4L2Capability
  setFormat : Nat → Except Int V4L2PixFormat
  setParameters : Nat → Option Int
  requestBuffers : Nat → Except Int UInt32
  queryBuffer : Nat → Except Int UInt32
  map : Nat → Option Int
  queue : Nat → Option Int
  streamOn : Nat → Option Int
  streamOff : Nat → Option Int
  poll : Nat → V4L2Poll
  dequeue : Nat → Except Int V4L2Buffer
  /-- The byte of a mapping at an offset. -/
  memory : Option Nat → Nat → Nat → Byte

/-- The native calls that succeeded. -/
inductive NativeEvent
  | opened (descriptor : Nat)
  | closed (descriptor : Nat)
  | mapped (mapping descriptor : Nat)
  | unmapped (mapping : Nat)
  | queued (descriptor index : Nat)
  | dequeued (descriptor index : Nat)
  | streamedOn (descriptor : Nat)
  | streamedOff (descriptor : Nat)
  /-- A frame is copied from a mapped buffer. -/
  | copied (descriptor index : Nat)
  deriving DecidableEq, Repr

/-! ## The backend -/

/-- `Buffer`; the address is `MAP_FAILED`, or a mapping. -/
structure MappedBuffer where
  address : Option Nat := none
  length : Nat := 0
  deriving DecidableEq, Repr

structure V4L2CameraBackend where
  descriptor : Option Nat := none
  streaming : Bool := false
  queueDirty : Bool := false
  buffers : List MappedBuffer := []
  frameDescription : CameraFrameDescription := {}
  deriving DecidableEq

structure V4L2State where
  tick : Nat := 0
  backend : V4L2CameraBackend := {}
  /-- The descriptors and the mappings that were made. -/
  descriptors : Nat := 0
  mappings : Nat := 0
  events : List NativeEvent := []
  deriving DecidableEq

abbrev V4L2M := Running V4L2State

/-- The state in which the world is asked next. -/
def V4L2State.asked (s : V4L2State) : V4L2State := { s with tick := s.tick + 1 }

def V4L2State.record (s : V4L2State) (event : NativeEvent) : V4L2State :=
  { s with events := s.events ++ [event] }

def V4L2State.setBackend (s : V4L2State) (backend : V4L2CameraBackend) : V4L2State :=
  { s with backend }

/-- The answer that is next in the world. -/
def ask {α : Type} (answer : Nat → α) : V4L2M α := fun s => some (answer s.tick, s.asked)

def errnoBadFile : Int := 9

/-- An `ioctl` on the descriptor of the backend. -/
def ioctl (answer : Nat → Option Int) (event : Nat → NativeEvent) : V4L2M (Option Int) := fun s =>
  match s.backend.descriptor with
  | none => some (some errnoBadFile, s.asked)
  | some descriptor =>
    match answer s.tick with
    | some error => some (some error, s.asked)
    | none => some (none, s.asked.record (event descriptor))

variable (w : V4L2World)

/-! ## Errors -/

/-- `ENODEV`, `ENXIO` and `EIO` say that the camera is gone. -/
def disconnected (error : Int) : Bool := error = 19 || error = 6 || error = 5

def errnoError (code : CameraErrorCode) (message : String) (error : Int) : CameraFailure :=
  if disconnected error then ⟨⟨.device, .deviceDisconnected, message, error⟩, rfl⟩
  else ⟨⟨.inputOutput, code, message, error⟩, rfl⟩

/-- A result with an error, if there is memory for it. -/
def failure {α : Type} (error : CameraFailure) : V4L2M (Option (CameraResult α)) := do
  return if ← ask w.allocates then some (.error error) else none

/-! ## Closing -/

/-- Where it returns `false`, the result is the `errno` it leaves. -/
def resetQueue : V4L2M (Option Int) := do
  if !(← get).backend.queueDirty then
    return none
  match ← ioctl w.streamOff .streamedOff with
  | some error => return some error
  | none =>
    modify fun s => s.setBackend { s.backend with queueDirty := false, streaming := false }
    return none

/-- `close` of the descriptor; what it returns is ignored. -/
def closeDescriptor : V4L2M Unit := modify fun s =>
  match s.backend.descriptor with
  | none => s
  | some descriptor =>
    (s.record (.closed descriptor)).setBackend { s.backend with descriptor := none }

def unmapBuffers : V4L2M Unit := modify fun s =>
  { s with events := s.events ++ (s.backend.buffers.filterMap (·.address)).map .unmapped,
           backend := { s.backend with buffers := [] } }

/-- The native owner is closed before unmapping, including when `STREAMOFF` cannot prove idle. -/
def close : V4L2M Unit := do
  discard (resetQueue w)
  closeDescriptor
  modify fun s => s.setBackend { s.backend with streaming := false, queueDirty := false }
  unmapBuffers
  modify fun s => s.setBackend { s.backend with frameDescription := {} }

/-! ## Opening -/

structure CameraOpenDescription where
  device : CameraDeviceInfo := {}
  format : CameraFormat := {}
  nativePixelFormat : CameraPixelFormat := .unknown
  allowFormatConversion : Bool := true
  deriving DecidableEq

/-- `v4l2_fourcc`. -/
def fourcc (a b c d : Char) : UInt32 :=
  a.val ||| b.val <<< 8 ||| c.val <<< 16 ||| d.val <<< 24

def toV4L2Format : CameraPixelFormat → UInt32
  | .gray8 => fourcc 'G' 'R' 'E' 'Y'
  | .rgb8 => fourcc 'R' 'G' 'B' '3'
  | .bgr8 => fourcc 'B' 'G' 'R' '3'
  | .yuyv422 => fourcc 'Y' 'U' 'Y' 'V'
  | .uyvy422 => fourcc 'U' 'Y' 'V' 'Y'
  | .nv12 => fourcc 'N' 'V' '1' '2'
  | .mjpeg => fourcc 'M' 'J' 'P' 'G'
  | _ => 0

/-- The capabilities of the node, where the driver tells them apart from those of the card. -/
def V4L2Capability.ofNode (c : V4L2Capability) : UInt32 :=
  if c.capabilities &&& 0x80000000 ≠ 0 then c.deviceCaps else c.capabilities

def V4L2Capability.captures (c : V4L2Capability) : Bool := c.ofNode &&& 1 ≠ 0

def V4L2Capability.streams (c : V4L2Capability) : Bool := c.ofNode &&& 0x04000000 ≠ 0

def openCode (code : CameraErrorCode) (message : String) (error : Int) :
    Option (CameraResult V4L2PixFormat) := some (.error (errnoError code message error))

def unsupportedFormat (message : String) : CameraFailure :=
  ⟨{ category := .unsupported, code := .unsupportedFormat, message }, rfl⟩

def unsupportedStreaming : CameraFailure :=
  ⟨{ category := .unsupported, code := .unsupportedBackend,
     message := "V4L2 camera does not support memory-mapped streaming." }, rfl⟩

/-- `mmap` of a buffer. -/
def mapBuffer (index length : Nat) : V4L2M (Option Int) := fun s =>
  match s.backend.descriptor, w.map s.tick with
  | some descriptor, none =>
    let buffers := s.backend.buffers.set index ⟨some s.mappings, length⟩
    let t := (s.asked.record (.mapped s.mappings descriptor)).setBackend { s.backend with buffers }
    some (none, { t with mappings := s.mappings + 1 })
  | _, error =>
    let buffers := s.backend.buffers.set index ⟨none, length⟩
    some (some (error.getD errnoBadFile), s.asked.setBackend { s.backend with buffers })

/-- The loop that maps the buffers from `index` on. -/
def mapBuffers (format : V4L2PixFormat) :
    Nat → Nat → V4L2M (Option (CameraResult V4L2PixFormat))
  | _, 0 => return some (.ok format)
  | index, remaining + 1 => do
    match ← ask w.queryBuffer with
    | .error error =>
      return openCode .resourceExhausted "Failed to query V4L2 camera buffer." error
    | .ok length =>
      match ← mapBuffer w index length.toNat with
      | some error => return openCode .resourceExhausted "Failed to map V4L2 camera buffer." error
      | none => mapBuffers format (index + 1) remaining

/-- The buffers are requested, and mapped. -/
def requestBuffers (format : V4L2PixFormat) : V4L2M (Option (CameraResult V4L2PixFormat)) := do
  match ← ask w.requestBuffers with
  | .error error =>
    return openCode .resourceExhausted "Failed to allocate V4L2 camera buffers." error
  | .ok count =>
    if count < 2 then
      return openCode .resourceExhausted "Failed to allocate V4L2 camera buffers." (← ask w.errno)
    else if !(← ask w.allocates) then
      return none
    else
      modify fun s => s.setBackend { s.backend with buffers := List.replicate count.toNat {} }
      mapBuffers w format 0 count.toNat

/-- The format and the frame rate are set, and the format that is applied is the requested one. -/
def configureFormat (description : CameraOpenDescription) (pixelFormat : UInt32) :
    V4L2M (Option (CameraResult V4L2PixFormat)) := do
  match ← ask w.setFormat with
  | .error error =>
    return openCode .configurationFailed "Failed to configure V4L2 camera format." error
  | .ok format =>
    if format.width ≠ description.format.width || format.height ≠ description.format.height ||
        format.pixelFormat ≠ pixelFormat then
      return some (.error (unsupportedFormat "V4L2 camera substituted a different format."))
    else
      match ← ask w.setParameters with
      | some error =>
        return openCode .configurationFailed "Failed to configure V4L2 camera frame rate." error
      | none => requestBuffers w format

/-- The part of `open` that its rollback guards. -/
def configureDevice (description : CameraOpenDescription) (pixelFormat : UInt32) :
    V4L2M (Option (CameraResult V4L2PixFormat)) := do
  match ← ask w.queryCapability with
  | .error error => return openCode .openFailed "V4L2 device is not a capture camera." error
  | .ok capability =>
    if !capability.captures then
      return openCode .openFailed "V4L2 device is not a capture camera." (← ask w.errno)
    else if !capability.streams then
      return some (.error unsupportedStreaming)
    else configureFormat w description pixelFormat

/-- `open` of the device. -/
def openDescriptor : V4L2M (Option Int) := fun s =>
  match w.openDevice s.tick with
  | some error => some (some error, s.asked)
  | none =>
    let t := (s.asked.record (.opened s.descriptors)).setBackend
      { s.backend with descriptor := some s.descriptors }
    some (none, { t with descriptors := s.descriptors + 1 })

/-- What all frames share. -/
def describeFrames (description : CameraOpenDescription) (format : V4L2PixFormat) :
    CameraFrameDescription :=
  { width := format.width
    height := format.height
    pixelFormat := description.format.pixelFormat
    rowStride :=
      if description.format.pixelFormat = .mjpeg then 0 else format.bytesPerLine.toNat }

/-- The end of `open`: unless it succeeded, the guard closes the backend again. -/
def finishOpen (description : CameraOpenDescription) :
    Option (CameraResult V4L2PixFormat) → V4L2M (Option CameraStatus)
  | some (.ok format) => do
    modify fun s => s.setBackend
      { s.backend with frameDescription := describeFrames description format }
    return some (.ok ())
  | some (.error error) => do
    close w
    let result ← failure w error
    close w
    return result
  | none => do
    close w
    return none

def openCamera (description : CameraOpenDescription) : V4L2M (Option CameraStatus) := do
  let nativeFormat := if description.nativePixelFormat = .unknown then
    description.format.pixelFormat else description.nativePixelFormat
  let pixelFormat := toV4L2Format nativeFormat
  if (← get).backend.descriptor.isSome then
    failure w ⟨{ category := .lifecycle, code := .alreadyOpen,
                 message := "V4L2 camera is already open." }, rfl⟩
  else if nativeFormat ≠ description.format.pixelFormat then
    failure w (unsupportedFormat "V4L2 adapter does not perform pixel-format conversion.")
  else if pixelFormat = 0 then
    failure w (unsupportedFormat "Requested pixel format is not supported by the V4L2 adapter.")
  else
    match ← openDescriptor w with
    | some error => failure w (errnoError .openFailed "Failed to open V4L2 camera." error)
    | none => finishOpen w description (← configureDevice w description pixelFormat)

/-! ## Starting and stopping -/

def failStart (message : String) (error : Int) : V4L2M (Option CameraStatus) := do
  match ← resetQueue w with
  | none => failure w (errnoError .backendFailure message error)
  | some _ =>
    close w
    failure w (errnoError .backendFailure message error)

def queueBuffer (index : Nat) : V4L2M (Option Int) := ioctl w.queue (.queued · index)

/-- The loop that queues the buffers from `index` on: the first error. -/
def queueBuffers : Nat → Nat → V4L2M (Option Int)
  | _, 0 => return none
  | index, remaining + 1 => do
    match ← queueBuffer w index with
    | some error => return some error
    | none => queueBuffers (index + 1) remaining

/-- `start`, for a backend that is open and does not stream. -/
def startStream (count : Nat) : V4L2M (Option CameraStatus) := do
  modify fun s => s.setBackend { s.backend with queueDirty := true }
  match ← queueBuffers w 0 count with
  | some error => failStart w "Failed to queue V4L2 camera buffer." error
  | none =>
    match ← ioctl w.streamOn .streamedOn with
    | some error => failStart w "Failed to start V4L2 camera stream." error
    | none =>
      modify fun s => s.setBackend { s.backend with streaming := true }
      return some (.ok ())

def start : V4L2M (Option CameraStatus) := do
  let s ← get
  if s.backend.descriptor.isNone then
    failure w ⟨{ category := .lifecycle, code := .notOpen,
                 message := "V4L2 camera is not open." }, rfl⟩
  else if s.backend.streaming then
    failure w ⟨{ category := .lifecycle, code := .alreadyStreaming,
                 message := "V4L2 camera stream is already active." }, rfl⟩
  else startStream w s.backend.buffers.length

def stop : V4L2M (Option CameraStatus) := do
  if !(← get).backend.streaming then
    return some (.ok ())
  match ← resetQueue w with
  | none =>
    modify fun s => s.setBackend { s.backend with streaming := false }
    return some (.ok ())
  | some error =>
    close w
    failure w (errnoError .backendFailure "Failed to stop V4L2 camera stream; camera closed." error)

/-! ## Reading -/

/-- How the loop of `readFrame` ends. -/
inductive ReadWait
  | timedOut
  | pollFailed (error : Int)
  | invalidStream
  | dequeueFailed (error : Int)
  | dequeued (buffer : V4L2Buffer)
  deriving DecidableEq, Repr

/-- `VIDIOC_DQBUF`. -/
def dequeueBuffer : V4L2M (Except Int V4L2Buffer) := fun s =>
  match s.backend.descriptor, w.dequeue s.tick with
  | some descriptor, .ok buffer =>
    some (.ok buffer, s.asked.record (.dequeued descriptor buffer.index))
  | some _, .error error => some (.error error, s.asked)
  | none, _ => some (.error errnoBadFile, s.asked)

def interrupted (error : Int) : Bool := error = 4

def tryAgain (error : Int) : Bool := error = 11

def readLoop (deadline : Int) : Nat → V4L2M ReadWait
  | 0 => stillRunning
  | fuel + 1 => do
    if deadline ≤ (← ask w.clock) then
      return .timedOut
    -- waits up to the deadline, for at most `INT_MAX` milliseconds
    match ← ask w.poll with
    | .failed error =>
      if interrupted error then readLoop deadline fuel else return .pollFailed error
    | .expired => readLoop deadline fuel
    | .events broken readable =>
      if broken then return .invalidStream
      else if !readable then readLoop deadline fuel
      else if deadline ≤ (← ask w.clock) then return .timedOut
      else
        match ← dequeueBuffer w with
        | .ok buffer => return .dequeued buffer
        | .error error =>
          if interrupted error || tryAgain error then readLoop deadline fuel
          else return .dequeueFailed error

/-- `DequeuedBuffer::release`: the error of a buffer that cannot be returned, or 0. -/
def release (index : Nat) : V4L2M Int := do
  match ← queueBuffer w index with
  | none => return 0
  | some error =>
    close w
    return error

def inputOutputError (message : String) : CameraFailure :=
  ⟨{ category := .inputOutput, code := .readFailed, message }, rfl⟩

/-- The time of the driver, where it is monotonic. -/
def timestamp (buffer : V4L2Buffer) : V4L2M Int := do
  if buffer.flags &&& 0x2000 ≠ 0 then
    return buffer.seconds * 1000000000 + buffer.microseconds * 1000
  else ask w.clock

/-- The bytes of a buffer, as they are in shared memory now. -/
def copyBytes (source : MappedBuffer) (buffer : V4L2Buffer) : V4L2M Bytes := fun s =>
  let bytes := (List.range buffer.bytesUsed).map (w.memory source.address s.tick)
  some (bytes, s.asked.record (.copied (s.backend.descriptor.getD 0) buffer.index))

/-- The frame of a leased buffer. -/
def copyFrame (source : MappedBuffer) (buffer : V4L2Buffer) :
    V4L2M (Option (CameraResult CameraFrame)) := do
  if source.length < buffer.bytesUsed || buffer.flags &&& 0x40 ≠ 0 then
    failure w (inputOutputError "V4L2 returned an invalid camera buffer payload.")
  else if !(← ask w.allocates) then
    return none
  else
    let data ← copyBytes w source buffer
    let monotonicTimestampNs ← timestamp w buffer
    let frame : CameraFrame :=
      { description := (← get).backend.frameDescription, data,
        sequence := buffer.sequence.toUInt64, monotonicTimestampNs }
    if !frame.valid then
      failure w (inputOutputError "V4L2 returned a truncated camera frame.")
    else return some (.ok frame)

/-- The buffer is leased until it is returned, by the frame's success or by the lease. -/
def leaseFrame (source : MappedBuffer) (buffer : V4L2Buffer) :
    V4L2M (Option (CameraResult CameraFrame)) := do
  let result ← copyFrame w source buffer
  let returnError ← release w buffer.index
  match result with
  | some (.ok frame) =>
    if returnError ≠ 0 then
      failure w (errnoError .readFailed "Failed to return V4L2 camera buffer." returnError)
    else return some (.ok frame)
  | result => return result

def timedOutError : CameraFailure :=
  ⟨{ category := .timeout, code := .timedOut,
     message := "Timed out waiting for a V4L2 camera frame." }, rfl⟩

/-- The end of `readFrame`, for an end of its loop. -/
def finishRead : ReadWait → V4L2M (Option (CameraResult CameraFrame))
  | .timedOut => failure w timedOutError
  | .pollFailed error => failure w (errnoError .readFailed "V4L2 camera poll failed." error)
  | .invalidStream => do
    close w
    failure w (inputOutputError "V4L2 camera poll reported an invalid stream.")
  | .dequeueFailed error => do
    close w
    failure w (errnoError .readFailed "Failed to dequeue V4L2 camera frame." error)
  | .dequeued buffer => do
    match (← get).backend.buffers[buffer.index]? with
    | none =>
      close w
      failure w (inputOutputError "V4L2 returned an invalid camera buffer index.")
    | some source => leaseFrame w source buffer

def readFrame (timeoutMs : UInt32) : V4L2M (Option (CameraResult CameraFrame)) := do
  if !(← get).backend.streaming then
    failure w ⟨{ category := .lifecycle, code := .notStreaming,
                 message := "V4L2 camera stream is not active." }, rfl⟩
  else
    let deadline := (← ask w.clock) + timeoutMs.toNat * 1000000
    finishRead w (← readLoop w deadline (w.reaches deadline + 1))

/-! ## Calls -/

inductive V4L2Call
  | open (description : CameraOpenDescription)
  | start
  | readFrame (timeoutMs : UInt32)
  | stop
  | close
  deriving DecidableEq

/-- A call of the owner, up to its return. -/
def v4l2Call : V4L2Call → V4L2M Unit
  | .open description => discard (openCamera w description)
  | .start => discard (start w)
  | .readFrame timeoutMs => discard (readFrame w timeoutMs)
  | .stop => discard (stop w)
  | .close => close w

/-- The state after a call, if the call returns. -/
def v4l2Step (s : V4L2State) (call : V4L2Call) : Option V4L2State :=
  (v4l2Call w call s).map (·.2)

end WSE.Impl.Tmr
