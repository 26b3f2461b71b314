import WapitiStew.Impl.Tmr.MediaFoundationCamera

/-!
# The DirectShow capture

`DirectShowRawCapture` of `platform/tmr/win/camera/DirectShowRawCapture.cpp`, by which the Media
Foundation backend streams packed profiles of odd height, with the format checks of
`DirectShowCaptureFormat.h`.

`configure` is given what its native calls answer (`DirectShowGraph`). Afterwards any number of
threads call `start`, `stop` and `readFrame`, and the graph calls `BufferCB`, each from one region
of the mutex or native call to the next. A `readFrame` that waits without the mutex may wake up at
any time. The capture is destroyed when no call is left; the graph may still call back then.
-/

namespace WSE.Impl.Tmr

open WSE.Framework

def eInvalidArg : Int := -2147024809
def eOutOfMemory : Int := -2147024882
def eNoInterface : Int := -2147467262
/-- `VFW_E_TYPE_NOT_ACCEPTED`. -/
def typeNotAccepted : Int := -2147220950

/-- `error`. -/
def directShowError (code : CameraErrorCode) (message : String) (native : Int) : CameraError where
  category := if code = .deviceDisconnected then .device else .inputOutput
  code := code
  message := message
  nativeCode := native

/-! ## Formats -/

inductive DirectShowSubtype
  | uyvy | yuy2 | other
  deriving DecidableEq

/-- `VIDEOINFOHEADER`. -/
structure VideoInfoHeader where
  avgTimePerFrame : Int
  width : Int
  height : Int
  bitCount : Nat
  sizeImage : UInt32
  deriving DecidableEq

/-- `AM_MEDIA_TYPE`; without a header if its format is another one, or absent or truncated. -/
structure MediaType where
  subtype : DirectShowSubtype
  header : Option VideoInfoHeader
  deriving DecidableEq

/-- `VIDEO_STREAM_CONFIG_CAPS`. -/
structure StreamCaps where
  minFrameInterval : Int := 0
  maxFrameInterval : Int := 0
  deriving DecidableEq

def directShowInterval (f : CameraFormat) : Int :=
  if f.frameRateNumerator = 0 || f.frameRateDenominator = 0 then 0
  else 10000000 * f.frameRateDenominator.toNat / f.frameRateNumerator.toNat

def matchesDirectShowInterval (actual requested : Int) : Bool :=
  requested > 0 && actual > 0 && actual ≥ requested - 1 && actual ≤ requested + 1

/-- The header with the requested interval, if that can be selected. -/
def selectDirectShowInterval (h : VideoInfoHeader) (caps : StreamCaps) (f : CameraFormat) :
    Option VideoInfoHeader :=
  let interval := directShowInterval f
  if interval ≤ 0 then none
  else if !matchesDirectShowInterval h.avgTimePerFrame interval &&
      !(caps.minFrameInterval > 0 && caps.minFrameInterval ≤ interval &&
        interval ≤ caps.maxFrameInterval) then none
  else some { h with avgTimePerFrame := interval }

def matchesDirectShowFormat (t : MediaType) (subtype : DirectShowSubtype) (f : CameraFormat)
    (checkInterval : Bool) : Bool :=
  match t.header with
  | none => false
  | some h =>
    t.subtype = subtype && f.width.toNat ≤ 2147483647 && h.width = f.width.toNat &&
      (if h.height < 0 then -h.height else h.height) = f.height.toNat && h.bitCount = 16 &&
      (!checkInterval || matchesDirectShowInterval h.avgTimePerFrame (directShowInterval f))

/-- A format that is opened: a valid one, as `Camera::open` checks. -/
abbrev RawFormat := { f : CameraFormat // f.valid = true }

def RawFormat.subtype (f : RawFormat) : DirectShowSubtype :=
  if f.val.pixelFormat = .uyvy422 then .uyvy else .yuy2

/-- The layout of the frames of a format, whose size is one of `std::size_t`. -/
structure RawDescription (f : RawFormat) where
  description : CameraFrameDescription
  width : description.width = f.val.width
  height : description.height = f.val.height
  pixelFormat : description.pixelFormat = f.val.pixelFormat
  rows : 2 * f.val.width.toNat ≤ description.rowStride
  bounded : description.rowStride * description.height.toNat < 2 ^ 64

/-- The bytes of a frame. -/
def RawDescription.required {f : RawFormat} (d : RawDescription f) : Nat :=
  d.description.rowStride * d.description.height.toNat

theorem matches_width {t : MediaType} {subtype : DirectShowSubtype} {f : CameraFormat} {c : Bool}
    (h : matchesDirectShowFormat t subtype f c = true) : f.width.toNat ≤ 2147483647 := by
  rw [matchesDirectShowFormat] at h
  split at h
  · cases h
  · simp only [Bool.and_eq_true, decide_eq_true_eq] at h
    exact h.1.1.1.1.2

theorem packed_bounded {f : CameraFormat} (h : f.width.toNat ≤ 2147483647) :
    2 * f.width.toNat * f.height.toNat < 2 ^ 64 := by
  have hheight := f.height.toNat_lt
  calc 2 * f.width.toNat * f.height.toNat
      ≤ 4294967294 * f.height.toNat := Nat.mul_le_mul_right _ (by omega)
    _ < 2 ^ 64 := by omega

theorem size_bounded (size height : UInt32) : size.toNat / height.toNat * height.toNat < 2 ^ 64 :=
  Nat.lt_of_le_of_lt (Nat.div_mul_le_self _ _) (Nat.lt_trans size.toNat_lt (by decide))

/-- The layout of the samples that the graph delivers. -/
def connectedDescription (f : RawFormat) (t : MediaType) : Option (RawDescription f) :=
  if h : matchesDirectShowFormat t f.subtype f.val true = true then
    let size := (t.header.map (·.sizeImage)).getD 0
    let description (rowStride : Nat) : CameraFrameDescription :=
      ⟨f.val.width, f.val.height, f.val.pixelFormat, rowStride⟩
    if size = 0 then
      some ⟨description (2 * f.val.width.toNat), rfl, rfl, rfl, Nat.le_refl _,
        packed_bounded (matches_width h)⟩
    else if hrow : size.toNat % f.val.height.toNat = 0 ∧
        2 * f.val.width.toNat ≤ size.toNat / f.val.height.toNat then
      some ⟨description (size.toNat / f.val.height.toNat), rfl, rfl, rfl, hrow.2,
        size_bounded size f.val.height⟩
    else none
  else none

/-! ## Opening -/

/-- What the native calls of `configure` answer. -/
structure DirectShowGraph where
  findSource : Int := 0
  createGraph : List Int := []
  findPin : Int := 0
  streamConfig : Int := 0
  capabilities : Int := 0
  capabilitySize : Int := 128
  /-- `GetStreamCaps`, with the interval range of each type; nothing where it fails. -/
  streamCaps : List (Option (MediaType × StreamCaps)) := []
  setFormat : Int := 0
  getFormat : Int := 0
  actual : Option MediaType := none
  createGrabber : List Int := []
  /-- The three pins are found. -/
  pins : Bool := true
  connect : List Int := []
  getConnected : Int := 0
  connected : MediaType
  finish : List Int := []

/-- The type that a candidate of the loop is selected as. -/
def selectCandidate (f : RawFormat) (size : Int) : Option (MediaType × StreamCaps) →
    Option MediaType
  | none => none
  | some (t, caps) =>
    if !matchesDirectShowFormat t f.subtype f.val false then none
    else
      -- a block that is too short for the range is not copied
      let caps := if size ≥ 128 then caps else {}
      (t.header.bind (selectDirectShowInterval · caps f.val)).map fun h => { t with header := some h }

/-- The result of a check that the code makes. -/
def checked (accepted : Bool) (hr : Int) : Int := if accepted then 0 else hr

/-- The phases of `configure`, each with the results on which it may fail, in their order. -/
def configurePhases (g : DirectShowGraph) (f : RawFormat) : List (String × List Int) :=
  [("DirectShow native source lookup failed.", [g.findSource]),
    ("DirectShow native graph creation failed.", g.createGraph),
    ("DirectShow native capture pin lookup failed.", [g.findPin]),
    ("DirectShow native format selection failed.",
      [g.streamConfig, g.capabilities, checked (g.capabilitySize > 0) eInvalidArg,
        checked (g.streamCaps.findSome? (selectCandidate f g.capabilitySize)).isSome
          typeNotAccepted]),
    ("DirectShow native format setting failed.", [g.setFormat]),
    ("DirectShow selected format readback failed.",
      [g.getFormat,
        checked (g.actual.any (matchesDirectShowFormat · f.subtype f.val true)) typeNotAccepted]),
    ("DirectShow sample grabber creation failed.", g.createGrabber),
    ("DirectShow native pin connection failed.", checked g.pins eNoInterface :: g.connect),
    ("DirectShow connected format verification failed.",
      g.getConnected :: checked (connectedDescription f g.connected).isSome typeNotAccepted ::
        g.finish)]

/-- `configure`, with its phase where it fails. -/
def configure (g : DirectShowGraph) (f : RawFormat) : Except (String × Int) (RawDescription f) :=
  let failed := (configurePhases g f).findSome? fun (phase, results) =>
    (results.find? hresultFailed).map (phase, ·)
  match failed, connectedDescription f g.connected with
  | none, some d => .ok d
  | none, none => .error ("DirectShow connected format verification failed.", typeNotAccepted)
  | some e, _ => .error e

/-! ## Capturing -/

/-- `SampleState`; the description is the one of the capture. -/
structure SampleState where
  latest : CameraFrame := {}
  active : Bool := false
  failure : Int := 0
  sequence : UInt64 := 0
  deriving DecidableEq

/-- What the grabber passes to `BufferCB`: a pointer to as many bytes as it says. -/
structure RawSample where
  buffer : Option Bytes
  size : Int
  fits : ∀ b, buffer = some b → size ≤ b.length

/-- An event of the graph. -/
inductive GraphEvent
  | deviceLost | complete
  | errorAbort (first : BitVec 64)
  | other
  deriving DecidableEq

/-- What `failure` is set to. -/
def GraphEvent.failure : GraphEvent → Option Int
  | .deviceLost | .complete => some win32DeviceNotConnected
  | .errorAbort first => some (first.setWidth 32).toInt
  | .other => none

/-- Where a call is. -/
inductive RawPhase
  | starting
  /-- In `Run`. -/
  | running
  /-- In `stop`, which a failing `start` calls with what `Run` returned. -/
  | stopping (run : Option Int)
  /-- In `Stop`. -/
  | halting (run : Option Int)
  /-- At the head of the loop of `readFrame`, for the first time or after a wait. -/
  | reading
  | returned
  deriving DecidableEq

inductive RawEvent
  /-- A call is in the region of `start`, or of `stop`. -/
  | started
  | stopped
  | destroyed
  /-- `BufferCB` is called; whether the copy of the bytes would be allocated. -/
  | arrived (buffer : Option Bytes) (size : Int) (allocates : Bool)
  | accepted (frame : CameraFrame)
  /-- `GetEvent` answers with an event. -/
  | noticed (e : GraphEvent)
  /-- A `readFrame` returns; whether its deadline was over. -/
  | read (call : Nat) (late : Bool) (result : Except CameraError CameraFrame)
  /-- A `start` or `stop` returns. -/
  | returned (call : Nat) (result : Except CameraError Unit)
  deriving DecidableEq

structure RawCapture where
  state : SampleState := {}
  /-- The calls, each with its phase. -/
  calls : List RawPhase := []
  destroyed : Bool := false
  history : List RawEvent := []
  deriving DecidableEq

namespace RawCapture

def record (s : RawCapture) (e : RawEvent) : RawCapture := { s with history := s.history ++ [e] }

def goto (s : RawCapture) (i : Nat) (phase : RawPhase) : RawCapture :=
  { s with calls := s.calls.set i phase }

/-- A sample that is accepted. -/
def frameOf {f : RawFormat} (d : RawDescription f) (bytes : Bytes) (sequence : UInt64)
    (now : Int) : CameraFrame :=
  ⟨d.description, bytes.take d.required, sequence, now⟩

def reject (s : RawCapture) (failure : Int) : RawCapture :=
  { s with state := { s.state with failure } }

def accept (s : RawCapture) (frame : CameraFrame) : RawCapture :=
  { s.record (.accepted frame) with
    state := { s.state with latest := frame, sequence := frame.sequence } }

/-- `BufferCB`; `allocates` if the copy of the bytes does. -/
def bufferCB {f : RawFormat} (d : RawDescription f) (s : RawCapture) (sample : RawSample)
    (allocates : Bool) (now : Int) : RawCapture :=
  let s := s.record (.arrived sample.buffer sample.size allocates)
  if !s.state.active then s
  else
    match sample.buffer with
    | none => s.reject eInvalidArg
    | some bytes =>
      if sample.size < d.required then s.reject eInvalidArg
      else if !allocates then s.reject eOutOfMemory
      else s.accept (frameOf d bytes (s.state.sequence + 1) now)

/-- The region of `start`. -/
def start (s : RawCapture) : RawCapture :=
  { s with state := { s.state with latest := {}, failure := 0, active := true } }

/-- The region of `stop`. -/
def stop (s : RawCapture) : RawCapture :=
  { s with state := { s.state with active := false, latest := {} } }

def returns (s : RawCapture) (i : Nat) (result : Except CameraError Unit) : RawCapture :=
  (s.record (.returned i result)).goto i .returned

/-- What a stop returns, or the start that called it. -/
def stopResult : Option Int → Int → Except CameraError Unit
  | some run, _ => .error (directShowError .configurationFailed
      "DirectShow native camera could not start." run)
  | none, hr =>
    if hresultFailed hr then
      .error (directShowError .deviceDisconnected "DirectShow native camera could not stop." hr)
    else .ok ()

/-- `GetEvent` answers with an event. -/
def notice (s : RawCapture) (e : GraphEvent) : RawCapture :=
  let t := s.record (.noticed e)
  match e.failure with
  | none => t
  | some failure => { t with state := { s.state with failure } }

/-- The condition of the loop of `readFrame`. -/
def waits (s : RawCapture) : Bool :=
  s.state.active && !hresultFailed s.state.failure && s.state.latest.data.isEmpty

/-- What follows the loop. -/
def readResult (s : SampleState) : Except CameraError CameraFrame :=
  if !s.active then .error ⟨.lifecycle, .notStreaming, "Native camera capture stopped.", 0⟩
  else if hresultFailed s.failure then
    .error (directShowError .deviceDisconnected
      "DirectShow native camera stopped producing frames." s.failure)
  else if s.latest.data.isEmpty then
    .error ⟨.timeout, .timedOut, "Native camera frame deadline expired.", 0⟩
  else .ok s.latest

def finishRead (s : RawCapture) (i : Nat) (late : Bool) : RawCapture :=
  let t := (s.record (.read i late (readResult s.state))).goto i .returned
  match readResult s.state with
  | .ok _ => { t with state := { s.state with latest := {} } }
  | .error _ => t

/-- One region of `readFrame`: it returns, or waits. The events of the graph are drained with the
mutex. -/
def readRegion (s : RawCapture) (i : Nat) (events : List GraphEvent) (late : Bool) : RawCapture :=
  if s.waits then
    let t := events.foldl notice s
    if hresultFailed t.state.failure || late then t.finishRead i late else t
  else s.finishRead i late

end RawCapture

inductive RawAction
  | bufferCB (sample : RawSample) (allocates : Bool) (now : Int)
  /-- A thread enters a call. -/
  | start
  | stop
  | readFrame
  /-- A call goes on: with what a native call returns, or the events of the graph and the clock. -/
  | turn (call : Nat) (hr : Int) (events : List GraphEvent) (late : Bool)
  | destroy

open RawCapture in
/-- A call goes on from where it is. -/
def rawTurn (s : RawCapture) (i : Nat) (hr : Int) (events : List GraphEvent) (late : Bool) :
    RawPhase → Option RawCapture
  | .starting => some ((s.record .started).start.goto i .running)
  | .running =>
    if hresultFailed hr then some (s.goto i (.stopping (some hr))) else some (s.returns i (.ok ()))
  | .stopping run => some ((s.record .stopped).stop.goto i (.halting run))
  | .halting run => some (s.returns i (stopResult run hr))
  | .reading => some (s.readRegion i events late)
  | .returned => none

def rawCaptureStep {f : RawFormat} (d : RawDescription f) (s : RawCapture) :
    RawAction → Option RawCapture
  | .bufferCB sample allocates now => some (s.bufferCB d sample allocates now)
  | .start => if s.destroyed then none else some { s with calls := s.calls ++ [.starting] }
  | .stop => if s.destroyed then none else some { s with calls := s.calls ++ [.stopping none] }
  | .readFrame => if s.destroyed then none else some { s with calls := s.calls ++ [.reading] }
  | .turn i hr events late => s.calls[i]?.bind (rawTurn s i hr events late)
  | .destroy =>
    if !s.destroyed && s.calls.all (· = .returned) then
      some { s.record .destroyed with
        destroyed := true, state := { s.state with active := false } }
    else none

end WSE.Impl.Tmr
