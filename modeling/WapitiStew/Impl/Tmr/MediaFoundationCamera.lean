import WapitiStew.Framework.Transition
import WapitiStew.Impl.Tmr.CameraTypes

/-!
# The Media Foundation backend

`MediaFoundationReadState` and `flushMediaFoundationReader` of
`platform/tmr/win/camera/MediaFoundationReadState.h`, and `open`, `start`, `readFrame`,
`stop` and `close` of `MediaFoundationCameraBackend` in
`platform/tmr/win/camera/MediaFoundationCameraBackend.cpp` where they use the source
reader. The owner thread moves from one region of the mutex or native call to the
next, one call at a time; the reader's callbacks come in between.

A `ReadSample` that succeeds may be answered by one `OnReadSample`, a `Flush` that
succeeds by one `OnFlush`, also before the call itself returns, and no request from
before an `OnFlush` is answered after it. Requests are numbered as they are accepted,
and a sample has the number of its request. The callback object exists while the camera is
open; a reader that `close` has released may still call its own.
-/

namespace WSE.Impl.Tmr

/-- `FAILED` of an `HRESULT`. -/
def hresultFailed (hr : Int) : Bool := hr < 0

def mfErrorShutdown : Int := -1072873851
def mfErrorDeviceInvalidated : Int := -1072873822
def win32DeviceNotConnected : Int := -2147023729

/-! ## The read state -/

structure MediaFoundationReadState where
  accepting : Bool := false
  flushing : Bool := false
  closed : Bool := false
  sample : Option Nat := none
  status : Int := 0
  flags : BitVec 32 := 0
  timestamp : Int := 0
  ready : Bool := false
  requestInFlight : Bool := false
  deriving DecidableEq

namespace MediaFoundationReadState

def reset (c : MediaFoundationReadState) : MediaFoundationReadState :=
  if c.closed || c.flushing then c
  else
    { c with
      sample := none, status := 0, flags := 0, timestamp := 0
      ready := false, requestInFlight := false, accepting := true }

/-- What `receive` gets is published. -/
def publishes (c : MediaFoundationReadState) : Bool := c.accepting && !c.closed

def receive (c : MediaFoundationReadState) (status : Int) (flags : BitVec 32) (timestamp : Int)
    (sample : Option Nat) : MediaFoundationReadState :=
  if !c.publishes then c
  else { c with sample, status, flags, timestamp, ready := true, requestInFlight := false }

def beginFlush (c : MediaFoundationReadState) : Bool × MediaFoundationReadState :=
  if c.closed then (false, c)
  else (true, { c with accepting := false, sample := none, ready := false, flushing := true })

def flushed (c : MediaFoundationReadState) : MediaFoundationReadState :=
  if !c.flushing || c.closed then c else { c with requestInFlight := false, flushing := false }

/-- What `waitFlushed` waits for. -/
def flushOver (c : MediaFoundationReadState) : Bool := !c.flushing || c.closed

def close (c : MediaFoundationReadState) : MediaFoundationReadState :=
  { c with closed := true, accepting := false, sample := none, ready := false }

end MediaFoundationReadState

/-! ## Frames and errors -/

/-- A buffer as its `Lock` and `Unlock` answer; `whole` if the frame that is made of its bytes is
valid. -/
structure MediaBuffer where
  locked : Int := 0
  bytes : Bool := true
  capacity : Nat := 0
  length : Nat := 0
  whole : Bool := true
  unlocked : Int := 0
  deriving DecidableEq

inductive MediaFoundationResult
  | succeeded
  | frame (sample sequence : Nat) (timestampNs : Int)
  | failed (e : CameraError)
  deriving DecidableEq

def mediaFoundationReadError (hr : Int) : CameraError :=
  let disconnected := hr = mfErrorDeviceInvalidated ∨ hr = win32DeviceNotConnected
  { category := if disconnected then .device else .backend
    code := if disconnected then .deviceDisconnected else .readFailed
    message := "Media Foundation frame acquisition ended; close and reopen the camera."
    nativeCode := hr }

/-- `timestamp` counts 100 ns. -/
def copyMediaFoundationFrame (b : MediaBuffer) (sample sequence : Nat) (timestamp : Int) :
    MediaFoundationResult :=
  if hresultFailed b.locked then
    .failed ⟨.backend, .readFailed, "Media Foundation frame mapping failed.", b.locked⟩
  else if !b.bytes || b.length > b.capacity || timestamp > (2 ^ 63 - 1) / 100 ||
      timestamp < Int.tdiv (-2 ^ 63) 100 then
    .failed ⟨.inputOutput, .readFailed, "Media Foundation returned invalid frame metadata.", 0⟩
  else if !b.whole then
    .failed ⟨.inputOutput, .readFailed, "Media Foundation returned a truncated camera frame.", 0⟩
  else if hresultFailed b.unlocked then
    .failed ⟨.backend, .readFailed, "Media Foundation frame unmapping failed.", b.unlocked⟩
  else .frame sample sequence (timestamp * 100)

/-- `MF_SOURCE_READERF_ERROR` or `MF_SOURCE_READERF_ENDOFSTREAM`, or a status that has failed. -/
def readerEnded (status : Int) (flags : BitVec 32) : Bool :=
  hresultFailed status || flags &&& 1#32 ≠ 0 || flags &&& 2#32 ≠ 0

/-! ## The backend -/

/-- A reader with its callback object; `requests` are the calls of `ReadSample` that it may still
answer, `flushes` those of `Flush`. -/
structure SourceReader where
  callback : MediaFoundationReadState := {}
  requests : List Nat := []
  flushes : Nat := 0
  deriving DecidableEq

inductive MediaFoundationStopCaller
  | stop | close
  deriving DecidableEq

/-- Where the owner is. -/
inductive MediaFoundationPhase
  | idle
  /-- At the head of the loop of `readFrame`. -/
  | reading
  /-- In `ReadSample`, without the mutex. -/
  | requesting
  /-- `ReadSample` has returned. -/
  | requested (hr : Int)
  | waiting
  /-- With what it has moved out of the read state. -/
  | took (sample : Option Nat) (status : Int) (flags : BitVec 32) (timestamp : Int)
  | copying (sample : Nat) (timestamp : Int)
  | flushBegin (k : MediaFoundationStopCaller)
  /-- In `Flush`. -/
  | flushing (k : MediaFoundationStopCaller)
  | flushWait (k : MediaFoundationStopCaller)
  /-- The flush has failed or timed out. -/
  | flushClose (k : MediaFoundationStopCaller) (status : Int) (timedOut : Bool)
  | closing
  deriving DecidableEq

inductive MediaFoundationEvent
  | opened
  | started
  /-- `ReadSample` answers; one that is accepted is request `r`. -/
  | requested (hr : Int) (r : Nat)
  /-- `OnReadSample`, which publishes what it brings or drops it. -/
  | answered (r : Nat) (status : Int) (flags : BitVec 32) (published : Bool)
  /-- `readFrame` moves out what was published. -/
  | taken
  /-- A stop discards what was published. -/
  | discarded
  /-- `Flush` answers. -/
  | flushRequested (hr : Int)
  /-- `OnFlush`. -/
  | flushed
  /-- The wait for `OnFlush` ends. -/
  | flushWaited
  | closed
  | returned (r : MediaFoundationResult)
  deriving DecidableEq

structure MediaFoundationCamera where
  owner : MediaFoundationPhase := .idle
  isOpen : Bool := false
  streaming : Bool := false
  readerFailed : Bool := false
  reader : SourceReader := {}
  /-- The readers that `close` has released. -/
  retired : List SourceReader := []
  sequence : Nat := 0
  accepted : Nat := 0
  log : List MediaFoundationEvent := []
  deriving DecidableEq

inductive MediaFoundationCall
  /-- With what fails in it, if something does, before the members are set. -/
  | «open» (failure : Option CameraError)
  | start
  | readFrame
  | stop
  | close
  deriving DecidableEq

namespace MediaFoundationCamera

def record (s : MediaFoundationCamera) (e : MediaFoundationEvent) : MediaFoundationCamera :=
  { s with log := s.log ++ [e] }

def returns (s : MediaFoundationCamera) (r : MediaFoundationResult) : MediaFoundationCamera :=
  { s.record (.returned r) with owner := .idle }

def fails (s : MediaFoundationCamera) (category : CameraErrorCategory) (code : CameraErrorCode)
    (message : String) : MediaFoundationCamera :=
  s.returns (.failed { category, code, message })

/-- `backendError`. -/
def backendFails (s : MediaFoundationCamera) (code : CameraErrorCode) (message : String)
    (hr : Int) : MediaFoundationCamera :=
  s.returns (.failed ⟨.backend, code, message, hr⟩)

def setCallback (s : MediaFoundationCamera) (c : MediaFoundationReadState) :
    MediaFoundationCamera :=
  { s with reader := { s.reader with callback := c } }

/-! ## The calls -/

def «open» (s : MediaFoundationCamera) (failure : Option CameraError) : MediaFoundationCamera :=
  if s.isOpen then
    s.fails .lifecycle .alreadyOpen "Media Foundation camera is already open."
  else
    match failure with
    | some e => s.returns (.failed e)
    | none =>
      { s.record .opened with isOpen := true, reader := {}, sequence := 0 }.returns .succeeded

def start (s : MediaFoundationCamera) : MediaFoundationCamera :=
  if !s.isOpen then s.fails .lifecycle .notOpen "Media Foundation camera is not open."
  else if s.readerFailed then
    s.fails .backend .backendFailure "Media Foundation reader failed; close and reopen the camera."
  else if s.streaming then
    s.fails .lifecycle .alreadyStreaming "Media Foundation camera stream is already active."
  else
    { (s.record .started).setCallback s.reader.callback.reset with streaming := true }.returns
      .succeeded

def readFrame (s : MediaFoundationCamera) : MediaFoundationCamera :=
  if !s.streaming then
    s.fails .lifecycle .notStreaming "Media Foundation camera stream is not active."
  else { s with owner := .reading }

def stop (s : MediaFoundationCamera) : MediaFoundationCamera :=
  if !s.streaming then s.returns .succeeded
  else { s with streaming := false, owner := .flushBegin .stop }

/-- `close` stops the stream first. -/
def close (s : MediaFoundationCamera) : MediaFoundationCamera :=
  if s.streaming then { s with streaming := false, owner := .flushBegin .close }
  else { s with owner := .closing }

def call (s : MediaFoundationCamera) : MediaFoundationCall → MediaFoundationCamera
  | .open failure => s.open failure
  | .start => s.start
  | .readFrame => s.readFrame
  | .stop => s.stop
  | .close => s.close

/-! ## The steps of `readFrame` -/

/-- The reader answers the call of `ReadSample`. -/
def readSample (s : MediaFoundationCamera) (hr : Int) : MediaFoundationCamera :=
  let t := s.record (.requested hr s.accepted)
  if hresultFailed hr then { t with owner := .requested hr }
  else
    { t with
      owner := .requested hr
      reader := { s.reader with requests := s.reader.requests ++ [s.accepted] }
      accepted := s.accepted + 1 }

/-- The reader is not used again. -/
def failReader (s : MediaFoundationCamera) : MediaFoundationCamera :=
  { s with readerFailed := true, streaming := false }

/-- What was published is moved out, under the mutex. -/
def take (s : MediaFoundationCamera) : MediaFoundationCamera :=
  let c := s.reader.callback
  { (s.record .taken).setCallback { c with sample := none, ready := false } with
    owner := .took c.sample c.status c.flags c.timestamp }

/-- `late`: the deadline has passed. -/
def examine (s : MediaFoundationCamera) (sample : Option Nat) (status : Int) (flags : BitVec 32)
    (timestamp : Int) (late : Bool) : MediaFoundationCamera :=
  if readerEnded status flags then
    s.failReader.returns (.failed (mediaFoundationReadError status))
  else
    match sample with
    | none =>
      if late then
        s.fails .timeout .timedOut "Camera produced no frame before the deadline."
      else { s with owner := .reading }
    | some r => { s with owner := .copying r timestamp }

/-- `converted` is what `ConvertToContiguousBuffer` returns. -/
def copy (s : MediaFoundationCamera) (r : Nat) (timestamp converted : Int) (b : MediaBuffer) :
    MediaFoundationCamera :=
  if hresultFailed converted then
    s.backendFails .readFailed "Media Foundation frame mapping failed." converted
  else
    { s with sequence := s.sequence + 1 }.returns
      (copyMediaFoundationFrame b r (s.sequence + 1) timestamp)

/-! ## The steps of `stop` and `close` -/

/-- `stop` has the result of the flush. `close` does not look at what it returns. -/
def flushReturns (s : MediaFoundationCamera) (k : MediaFoundationStopCaller) (status : Int)
    (timedOut : Bool) : MediaFoundationCamera :=
  let failure : Option CameraError :=
    if hresultFailed status then
      some ⟨.backend, .backendFailure, "Media Foundation camera flush failed.", status⟩
    else if timedOut then
      some ⟨.timeout, .timedOut,
        "Media Foundation flush completion timed out; close and reopen.", 0⟩
    else none
  let t := if failure.isSome then s.failReader else s
  match k with
  | .close => { t with owner := .closing }
  | .stop => t.returns (failure.elim .succeeded .failed)

def flushBegin (s : MediaFoundationCamera) (k : MediaFoundationStopCaller) :
    MediaFoundationCamera :=
  match s.reader.callback.beginFlush with
  | (false, c) => (s.setCallback c).flushReturns k mfErrorShutdown false
  | (true, c) => { (s.record .discarded).setCallback c with owner := .flushing k }

/-- The reader answers the call of `Flush`. -/
def flush (s : MediaFoundationCamera) (k : MediaFoundationStopCaller) (hr : Int) :
    MediaFoundationCamera :=
  let t := s.record (.flushRequested hr)
  if hresultFailed hr then { t with owner := .flushClose k hr false }
  else
    { t with
      owner := .flushWait k, reader := { s.reader with flushes := s.reader.flushes + 1 } }

/-- The wait of `waitFlushed` ends, in time or not. -/
def flushWaited (s : MediaFoundationCamera) (k : MediaFoundationStopCaller) :
    MediaFoundationCamera :=
  let t := s.record .flushWaited
  if s.reader.callback.flushOver && !s.reader.callback.closed then t.flushReturns k 0 false
  else { t with owner := .flushClose k 0 true }

def release (s : MediaFoundationCamera) : MediaFoundationCamera :=
  let t := { s with isOpen := false, streaming := false, readerFailed := false }
  if s.isOpen then
    { t.record .closed with
      retired := { s.reader with callback := s.reader.callback.close } :: s.retired
      reader := {} }
  else t

end MediaFoundationCamera

namespace SourceReader

/-- `OnReadSample` for request `r`. -/
def onReadSample (k : SourceReader) (r : Nat) (status : Int) (flags : BitVec 32)
    (timestamp : Int) (sample : Bool) : SourceReader :=
  { k with
    requests := k.requests.erase r
    callback := k.callback.receive status flags timestamp (if sample then some r else none) }

/-- `OnFlush`; the reader does not answer what was requested before. -/
def onFlush (k : SourceReader) : SourceReader :=
  { callback := k.callback.flushed, requests := [], flushes := k.flushes - 1 }

end SourceReader

end WSE.Impl.Tmr
