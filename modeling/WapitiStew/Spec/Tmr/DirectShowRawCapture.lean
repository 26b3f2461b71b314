import WapitiStew.Framework.History
import WapitiStew.Framework.Transition
import WapitiStew.Impl.Tmr.DirectShowRawCapture

/-!
# What a DirectShow capture reads

The graph delivers what was asked for (`OpensAs`). A monitor of the history (`rawReads`) judges
each sample as it arrives (`sampleFailure`), and knows whether the capture is active, its failure,
and the frame that nobody has read; what readers get is `RawReads`.
-/

namespace WSE.Spec.Tmr

open WSE.Framework WSE.Impl.Tmr

/-! ## The format -/

/-- A type of the shape of a format. -/
structure HasShape (f : RawFormat) (t : MediaType) (h : VideoInfoHeader) : Prop where
  header : t.header = some h
  subtype : t.subtype = f.subtype
  width : h.width = f.val.width.toNat
  /-- Rows may be stored from the bottom up. -/
  height : h.height = f.val.height.toNat ∨ h.height = -f.val.height.toNat
  bitCount : h.bitCount = 16

/-- Frames are as many 100 ns apart as was requested, one more or one less. -/
def HasRate (f : RawFormat) (h : VideoInfoHeader) : Prop :=
  0 < h.avgTimePerFrame ∧ directShowInterval f.val - 1 ≤ h.avgTimePerFrame ∧
    h.avgTimePerFrame ≤ directShowInterval f.val + 1

def Delivers (f : RawFormat) (t : MediaType) : Prop := ∃ h, HasShape f t h ∧ HasRate f h

/-- The graph was opened for a format: the device offers it, and it is what the device says that it
has selected, and what is connected. -/
structure OpensAs (g : DirectShowGraph) (f : RawFormat) (d : RawDescription f) : Prop where
  offered : ∃ t caps h, some (t, caps) ∈ g.streamCaps ∧ HasShape f t h ∧
    (HasRate f h ∨ caps.minFrameInterval ≤ directShowInterval f.val ∧
      directShowInterval f.val ≤ caps.maxFrameInterval)
  actual : ∃ t, g.actual = some t ∧ Delivers f t
  connected : Delivers f g.connected
  /-- The rows are packed, or share the size of a sample. -/
  rowStride : d.description.rowStride = 2 * f.val.width.toNat ∨
    ∃ h, g.connected.header = some h ∧ h.sizeImage.toNat = d.required

/-! ## Reading -/

/-- What is wrong with a sample: it has no bytes, too few of them, or no memory for its copy. -/
def sampleFailure {f : RawFormat} (d : RawDescription f) (buffer : Option Bytes) (size : Int)
    (allocates : Bool) : Option Int :=
  if buffer.isNone || size < d.required then some eInvalidArg
  else if allocates then none
  else some eOutOfMemory

structure RawBooks where
  active : Bool := false
  failure : Int := 0
  /-- The bytes of a good sample that has arrived and was not accepted. -/
  arrived : Option Bytes := none
  /-- Accepted since the latest start, and not read. -/
  unread : Option CameraFrame := none
  /-- A reader takes the events of the graph. -/
  draining : Bool := false

/-- What `readFrame` may return; whether its deadline is over. -/
def RawBooks.Answers (b : RawBooks) (late : Bool) : Except CameraError CameraFrame → Prop
  | .ok frame =>
    b.active = true ∧ hresultFailed b.failure = false ∧ b.arrived = none ∧ b.unread = some frame
  | .error e =>
    e.code = .notStreaming ∧ b.active = false ∨
      e.code = .deviceDisconnected ∧ b.active = true ∧ hresultFailed b.failure = true ∧
        e.nativeCode = b.failure ∨
      e.code = .timedOut ∧ b.active = true ∧ hresultFailed b.failure = false ∧ b.arrived = none ∧
        b.unread = none ∧ late = true

/-- A frame is accepted of a good sample that has arrived while the capture is active, and has its
bytes. Events of the graph are looked at while nothing is to be read and nothing has failed. -/
def rawReads {f : RawFormat} (d : RawDescription f) : Monitor RawEvent RawBooks where
  init := {}
  next
    | _, .started => { active := true }
    | b, .stopped => { b with active := false, unread := none, draining := false }
    | b, .destroyed => { b with active := false, draining := false }
    | b, .arrived buffer size allocates =>
      if b.active then
        match sampleFailure d buffer size allocates with
        | some cause => { b with failure := cause, arrived := none, draining := false }
        | none => { b with arrived := buffer, draining := false }
      else b
    | b, .accepted frame => { b with arrived := none, unread := some frame, draining := false }
    | b, .noticed e => { b with failure := e.failure.getD b.failure, draining := true }
    | b, .read _ _ (.ok _) => { b with unread := none, draining := false }
    | b, .read _ _ (.error _) => { b with draining := false }
    | b, .returned _ _ => { b with draining := false }
  allowed
    | b, .accepted frame =>
      b.active = true ∧ ∃ bytes, b.arrived = some bytes ∧ frame.data = bytes.take d.required
    | b, .noticed _ =>
      b.active = true ∧ b.unread = none ∧ (hresultFailed b.failure = false ∨ b.draining = true)
    | b, .read _ late result => b.Answers late result
    | _, _ => True

def acceptedFrames (history : List RawEvent) : List CameraFrame :=
  history.filterMap fun
    | .accepted frame => some frame
    | _ => none

def readFrames (history : List RawEvent) : List CameraFrame :=
  history.filterMap fun
    | .read _ _ (.ok frame) => some frame
    | _ => none

/-- The frame is returned. -/
def Reads (frame : CameraFrame) (e : RawEvent) : Prop := ∃ i late, e = .read i late (.ok frame)

/-- What was accepted before is not returned any more. -/
def Replaces (e : RawEvent) : Prop := e = .started ∨ e = .stopped ∨ ∃ frame, e = .accepted frame

/-- A sample is bad, or a reader is told that the device is lost. -/
def Loses {f : RawFormat} (d : RawDescription f) (e : RawEvent) : Prop :=
  (∃ buffer size allocates, e = .arrived buffer size allocates ∧
      (sampleFailure d buffer size allocates).isSome = true) ∨
    ∃ i late error, e = .read i late (.error error) ∧ error.code = .deviceDisconnected

def Ends (e : RawEvent) : Prop := e = .stopped ∨ e = .destroyed

/-- A frame of the layout, whose number is `k`. -/
structure IsFrame {f : RawFormat} (d : RawDescription f) (k : Nat) (frame : CameraFrame) : Prop where
  description : frame.description = d.description
  data : frame.data.length = d.required
  sequence : frame.sequence = UInt64.ofNat k
  /-- Packed rows hold whole pairs of pixels. -/
  valid : f.val.pixelFormat = .uyvy422 ∨ f.val.pixelFormat = .yuyv422 → f.val.width % 2 = 0 →
    frame.valid = true

structure RawReads {f : RawFormat} (d : RawDescription f) (s : RawCapture) : Prop where
  answers : (rawReads d).Accepts s.history
  frames : ∀ k frame, (acceptedFrames s.history)[k]? = some frame → IsFrame d (k + 1) frame
  /-- No frame is returned twice, or after a newer one. -/
  inOrder : (readFrames s.history).Sublist (acceptedFrames s.history)
  /-- A frame that is returned is the newest one, and of the latest start. -/
  newest : ∀ pre i late frame post, s.history = pre ++ .read i late (.ok frame) :: post →
    ∃ before since, pre = before ++ .accepted frame :: since ∧ ∀ e ∈ since, ¬Replaces e
  /-- A frame is returned unless a newer one, a start or a stop takes its place. -/
  kept : ∀ pre frame post, s.history = pre ++ .accepted frame :: post →
    (∃ e ∈ post, Reads frame e ∨ Replaces e) ∨ s.state.latest = frame
  lost : ∀ pre e mid g post, s.history = pre ++ e :: (mid ++ g :: post) → Loses d e →
    (∃ frame, Reads frame g) → .started ∈ mid
  ended : ∀ pre e mid g post, s.history = pre ++ e :: (mid ++ g :: post) → Ends e →
    (∃ frame, Reads frame g ∨ g = .accepted frame) → .started ∈ mid
  /-- A reader whose deadline is over returns when it goes on. -/
  returns : ∀ i, s.calls[i]? = some .reading → ∀ hr events,
    ∃ t, rawCaptureStep d s (.turn i hr events true) = some t ∧ t.calls[i]? = some .returned

end WSE.Spec.Tmr
