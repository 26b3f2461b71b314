import Mathlib.Data.Int.Bitwise
import WapitiStew.Impl.Tmr.CameraTypes
import WapitiStew.Impl.Wse.ImageInterleaved
import WapitiStew.Impl.Wse.ImageTransform

/-!
# Operations on camera frames

`core/tmr/camera/CameraFrameOps.cpp`, with what it uses of
`api/wse/data/wse_ImageDemosaic.h`, `api/wse/data/wse_ImageInterleaved.h` and
`CameraYuvConversion.h`. An image is its samples, row by row and pixel by pixel,
and what is used of the core is here over plain samples: the same as in `Impl.Wse`
(`convertFrameToImage_core`, `demosaicFrame_core`). Indices that the source computes
in `std::uint32_t` are reduced modulo `2 ^ 32`. A byte past the end of the data reads
as 0: no operation reads one in a frame that is valid.
-/

namespace WSE.Impl.Tmr

open WSE.Framework

/-- Whether an image of this width and height can be allocated. -/
abbrev Images := Nat → Nat → Bool

def frameOpsError (category : CameraErrorCategory) (code : CameraErrorCode) (message : String)
    (h : category ≠ .none) : CameraFailure :=
  cameraFailure category code message h

/-- `data()[ index ]`. -/
def CameraFrame.byteAt (f : CameraFrame) (index : Nat) : Byte := f.data.getD index 0

/-- `line[ index ]`, where `line` is `data() + row * row_stride`. -/
def CameraFrame.lineByte (f : CameraFrame) (row index : Nat) : Byte :=
  f.byteAt (row * f.description.rowStride + index)

def CameraFrame.width (f : CameraFrame) : Nat := f.description.width.toNat

def CameraFrame.height (f : CameraFrame) : Nat := f.description.height.toNat

namespace CameraPixelFormat

def channelCount : CameraPixelFormat → Nat
  | gray8 => 1
  | rgb8 => 3
  | bgr8 => 3
  | bgra8 => 4
  | gray16 => 1
  | rgb16 => 3
  | bgr16 => 3
  | _ => 0

def bytesPerSample : CameraPixelFormat → Nat
  | gray8 | rgb8 | bgr8 | bgra8 => 1
  | gray16 | rgb16 | bgr16 => 2
  | _ => 0

end CameraPixelFormat

inductive BayerPattern
  | rggb | bggr | grbg | gbrg
  deriving DecidableEq

def bayerPatternOf : CameraPixelFormat → Option BayerPattern
  | .bayer16Rggb => some .rggb
  | .bayer16Bggr => some .bggr
  | .bayer16Grbg => some .grbg
  | .bayer16Gbrg => some .gbrg
  | _ => none

def isBayerFormat (format : CameraPixelFormat) : Bool := (bayerPatternOf format).isSome

def accumulationChannels (format : CameraPixelFormat) : Nat :=
  if format.channelCount ≠ 0 then format.channelCount
  else if isBayerFormat format then 1 else 0

def accumulationSampleBytes (format : CameraPixelFormat) : Nat :=
  if format.bytesPerSample ≠ 0 then format.bytesPerSample
  else if isBayerFormat format then 2 else 0

def validateFrameData (f : CameraFrame) : CameraStatus :=
  if f.valid then .ok ()
  else .error (frameOpsError .validation .invalidArgument
    "The camera frame description and data do not agree." validation_ne)

/-! ## Orientation -/

def validateFrameForOrientation (f : CameraFrame) : CameraResult Nat :=
  let channels := f.description.pixelFormat.channelCount
  if channels = 0 then
    .error (frameOpsError .unsupported .unsupportedFormat
      (if isBayerFormat f.description.pixelFormat then
        "A Bayer frame carries a colour layout that moving its pixels destroys; " ++
          "convert it with demosaicFrame() first."
      else "This camera pixel format is subsampled or compressed and has no per-pixel operation.")
      unsupported_ne)
  else (validateFrameData f).map fun _ => channels

def packRows (f : CameraFrame) (rowBytes : Nat) : Bytes :=
  (List.range f.height).flatMap fun row => (List.range rowBytes).map (f.lineByte row)

/-- `applyOrientation`, up to the packed rows. The rest reads only these, the width, the height
and the format. -/
def orientationRows (f : CameraFrame) : CameraResult Bytes :=
  (validateFrameForOrientation f).map fun channels =>
    packRows f (f.width * channels * f.description.pixelFormat.bytesPerSample)

/-! ## Bayer frames -/

inductive ColorChannelOrder
  | rgb | bgr
  deriving DecidableEq

inductive DemosaicMethod
  | block2x2 | bilinear
  deriving DecidableEq

/-- The colours of a two-by-two block: 0 is red, 1 is green, 2 is blue. -/
def bayerBlockColors : BayerPattern → List Nat
  | .rggb => [0, 1, 1, 2]
  | .bggr => [2, 1, 1, 0]
  | .grbg => [1, 0, 2, 1]
  | .gbrg => [1, 2, 0, 1]

/-- The output channel of a colour, and the colour of an output channel. -/
def colorChannel (color : Nat) : ColorChannelOrder → Nat
  | .rgb => color
  | .bgr => 2 - color

def colorAt (pattern : BayerPattern) (y x : Nat) : Nat :=
  (bayerBlockColors pattern).getD (y % 2 * 2 + x % 2) 0

/-- The samples of a block that have the colour, by rows. -/
def samplesOf (source : Nat → Nat → Nat) (pattern : BayerPattern) (color : Nat)
    (rows columns : List Nat) : List Nat :=
  rows.flatMap fun y => (columns.filter fun x => colorAt pattern y x = color).map (source y)

/-- The start of the block that the pixel is in; where the edge is odd, the block before it. -/
def blockStart (size position : Nat) : Nat :=
  let start := position - position % 2
  if start + 1 < size then start else start - 1

/-- The positions from one before to one after. -/
def neighbours (size position : Nat) : List Nat :=
  let first := if position = 0 then 0 else position - 1
  let last := if position + 1 < size then position + 1 else position
  List.range' first (last + 1 - first)

/-- The colour of a pixel of `demosaic`. -/
def demosaic (source : Nat → Nat → Nat) (width height : Nat) (pattern : BayerPattern)
    (method : DemosaicMethod) (y x color : Nat) : Nat :=
  match method with
  | .block2x2 =>
    let row := blockStart height y
    let column := blockStart width x
    -- There are two green samples in a block; the first is taken.
    (samplesOf source pattern color [row, row + 1] [column, column + 1]).headD 0
  | .bilinear =>
    let samples := samplesOf source pattern color (neighbours height y) (neighbours width x)
    let divisor := samples.length
    (samples.sum + divisor / 2) / divisor % 2 ^ 16

/-- `demosaicFrame` writes a pixel of the result. -/
def writeColour (wide : Bool) (value : Nat → Nat) (line : Bytes) (column channel : Nat) : Bytes :=
  let index := column * 3 % 2 ^ 32 + channel
  if wide then
    (line.set (index * 2) (UInt8.ofNat (value channel))).set (index * 2 + 1)
      (UInt8.ofNat (value channel / 256))
  else line.set index (UInt8.ofNat (value channel / 256))

def colourLine (wide : Bool) (value : Nat → Nat → Nat) (width rowStride : Nat) : Bytes :=
  (List.range width).foldl (fun line column =>
    (List.range 3).foldl (fun line channel => writeColour wide (value column) line column channel)
      line) (List.replicate rowStride 0)

/-- The channel order and the width of the samples of an output format. -/
def demosaicOutput : CameraPixelFormat → Option (ColorChannelOrder × Bool)
  | .rgb8 => some (.rgb, false)
  | .bgr8 => some (.bgr, false)
  | .rgb16 => some (.rgb, true)
  | .bgr16 => some (.bgr, true)
  | _ => none

/-- A sample of a Bayer frame. -/
def bayerSample (f : CameraFrame) (row column : Nat) : Nat :=
  (f.lineByte row (column * 2 % 2 ^ 32)).toNat |||
    (f.lineByte row ((column * 2 + 1) % 2 ^ 32)).toNat <<< 8

/-- `none` is the exception of an image that cannot be allocated. -/
def demosaicFrame (images : Images) (f : CameraFrame) (outputFormat : CameraPixelFormat)
    (method : DemosaicMethod) : Option (CameraResult CameraFrame) :=
  match bayerPatternOf f.description.pixelFormat with
  | none => some (.error (frameOpsError .unsupported .unsupportedFormat
      "demosaicFrame requires a Bayer source frame." unsupported_ne))
  | some pattern =>
    if !f.valid then
      some (.error (frameOpsError .validation .invalidArgument
        "The camera frame description and data do not agree." validation_ne))
    else match demosaicOutput outputFormat with
      | none => some (.error (frameOpsError .unsupported .unsupportedFormat
          "demosaicFrame produces Rgb8, Bgr8, Rgb16 or Bgr16." unsupported_ne))
      | some (order, wide) =>
        if f.width < 2 || f.height < 2 then
          some (.error (frameOpsError .validation .invalidArgument
            "A Bayer frame smaller than two by two has no complete block." validation_ne))
        else if !images f.width f.height then none
        else
          let colour := demosaic (bayerSample f) f.width f.height pattern method
          let rowStride := f.width * 3 * (if wide then 2 else 1)
          some (.ok {
            description := ⟨f.description.width, f.description.height, outputFormat, rowStride⟩
            data := (List.range f.height).flatMap fun row =>
              colourLine wide (fun column channel => colour row column (colorChannel channel order))
                f.width rowStride
            sequence := f.sequence
            monotonicTimestampNs := f.monotonicTimestampNs })

/-! ## Averages -/

/-- `CameraFrameAccumulator::Impl`. -/
@[ext] structure FrameAccumulator where
  description : CameraFrameDescription := {}
  channels : Nat := 0
  sampleBytes : Nat := 0
  count : Nat := 0
  sum : List UInt32 := []
  sequence : UInt64 := 0
  timestamp : Int := 0
  fits : count ≠ 0 → channels = accumulationChannels description.pixelFormat ∧
    sum.length = description.height.toNat * (description.width.toNat * channels) := by simp
  deriving DecidableEq

/-- `readSample`, of the bytes of a line. -/
def readSample (byte : Nat → Byte) (sampleBytes : Nat) : UInt32 :=
  if sampleBytes = 1 then (byte 0).toUInt32
  else (byte 0).toUInt32 ||| (byte 1).toUInt32 <<< 8

def writeSample (value : UInt32) (sampleBytes : Nat) : Bytes :=
  (value &&& 0xFF).toUInt8 :: if sampleBytes ≠ 1 then [((value >>> 8) &&& 0xFF).toUInt8] else []

namespace FrameAccumulator

/-- The sums after the frame is added to those before. -/
def added (sum : List UInt32) (f : CameraFrame) (rowSamples sampleBytes : Nat) : List UInt32 :=
  (List.range f.height).flatMap fun row => (List.range rowSamples).map fun index =>
    sum.getD (row * rowSamples + index) 0 +
      readSample (fun k => f.lineByte row (index * sampleBytes + k)) sampleBytes

theorem length_added (sum : List UInt32) (f : CameraFrame) (rowSamples sampleBytes : Nat) :
    (added sum f rowSamples sampleBytes).length = f.height * rowSamples := by
  simp only [added, List.length_flatMap, List.length_map, List.length_range, List.map_const',
    List.sum_replicate_nat]

/-- The frame has the shape that is accumulated. -/
def sameShape (a : FrameAccumulator) (f : CameraFrame) : Bool :=
  a.description.width = f.description.width && a.description.height = f.description.height &&
    a.description.pixelFormat = f.description.pixelFormat

theorem fits_added {a : FrameAccumulator} {f : CameraFrame} (hcount : a.count ≠ 0)
    (h : a.sameShape f = true) :
    a.channels = accumulationChannels a.description.pixelFormat ∧
      (added a.sum f (f.width * accumulationChannels f.description.pixelFormat)
        (accumulationSampleBytes f.description.pixelFormat)).length =
      a.description.height.toNat * (a.description.width.toNat * a.channels) := by
  simp only [sameShape, Bool.and_eq_true, decide_eq_true_eq] at h
  obtain ⟨⟨hw, hh⟩, hf⟩ := h
  obtain ⟨hc, -⟩ := a.fits hcount
  rw [length_added, hc, hw, hh, hf]
  exact ⟨rfl, rfl⟩

def notAccumulable : CameraFailure :=
  frameOpsError .unsupported .unsupportedFormat
    "This camera pixel format is subsampled or compressed and has no per-pixel operation."
    unsupported_ne

def differs : CameraFailure :=
  frameOpsError .validation .invalidArgument
    "A frame whose description differs from the accumulation cannot be added." validation_ne

def add (a : FrameAccumulator) (f : CameraFrame) : FrameAccumulator × CameraStatus :=
  let channels := accumulationChannels f.description.pixelFormat
  let sampleBytes := accumulationSampleBytes f.description.pixelFormat
  if channels = 0 || sampleBytes = 0 then (a, .error notAccumulable)
  else match validateFrameData f with
    | .error e => (a, .error e)
    | .ok () =>
      if hcount : a.count = 0 then
        ({ description := f.description
           channels := channels
           sampleBytes := sampleBytes
           count := 1
           sum := added (List.replicate (f.width * f.height * channels) 0) f (f.width * channels)
             sampleBytes
           sequence := f.sequence
           timestamp := f.monotonicTimestampNs
           fits := fun _ => ⟨rfl, length_added ..⟩ }, .ok ())
      else if h : a.sameShape f then
        ({ description := a.description
           channels := a.channels
           sampleBytes := a.sampleBytes
           count := (a.count + 1) % 2 ^ 64
           sum := added a.sum f (f.width * channels) sampleBytes
           sequence := f.sequence
           timestamp := f.monotonicTimestampNs
           fits := fun _ => fits_added hcount h }, .ok ())
      else (a, .error differs)

/-- The average; a count that is a multiple of `2 ^ 32` has no divisor. -/
def average (a : FrameAccumulator) : CameraResult CameraFrame :=
  if a.count = 0 then
    .error (frameOpsError .validation .invalidArgument "No frame has been accumulated."
      validation_ne)
  else
    let divisor := UInt32.ofNat a.count
    let bias := divisor / 2
    .ok {
      description := { a.description with
        rowStride := a.description.width.toNat * a.channels * a.sampleBytes }
      data := a.sum.flatMap fun total => writeSample ((total + bias) / divisor) a.sampleBytes
      sequence := a.sequence
      monotonicTimestampNs := a.timestamp }

end FrameAccumulator

/-! ## Images -/

/-- The pixel formats of images that a frame converts to. -/
inductive PixFormat
  | ch1d8 | ch3d8 | bgr3d8 | bgra4d8 | ch1d16 | ch3d16 | bgr3d16
  deriving DecidableEq

namespace PixFormat

/-- `PixelSize`. -/
def channels : PixFormat → Nat
  | ch1d8 | ch1d16 => 1
  | ch3d8 | bgr3d8 | ch3d16 | bgr3d16 => 3
  | bgra4d8 => 4

/-- The size of `PixelType`. -/
def sampleSize : PixFormat → Nat
  | ch1d8 | ch3d8 | bgr3d8 | bgra4d8 => 1
  | ch1d16 | ch3d16 | bgr3d16 => 2

def interleavedPixelBytes (p : PixFormat) : Nat := p.channels * p.sampleSize

end PixFormat

/-- Rows of pixels, and the samples of each. -/
structure Image where
  width : Nat
  height : Nat
  rows : List (List (List Nat))
  deriving DecidableEq

def coreFormatOf : CameraPixelFormat → Option PixFormat
  | .gray8 => some .ch1d8
  | .rgb8 => some .ch3d8
  | .bgr8 => some .bgr3d8
  | .bgra8 => some .bgra4d8
  | .gray16 => some .ch1d16
  | .rgb16 => some .ch3d16
  | .bgr16 => some .bgr3d16
  | .bayer16Rggb | .bayer16Bggr | .bayer16Grbg | .bayer16Gbrg => some .ch1d16
  | _ => none

structure InterleavedView where
  data : Bytes
  width : Nat
  height : Nat
  rowStride : Nat
  accessibleBytes : Nat

def isInterleavedLayoutValid (p : PixFormat) (width height rowStride accessibleBytes : Nat) :
    Bool :=
  let pixelBytes := p.interleavedPixelBytes
  if width = 0 || height = 0 then false
  else if width > sizeMax / pixelBytes then false
  else
    let packedRowBytes := width * pixelBytes
    let stride := if rowStride ≠ 0 then rowStride else packedRowBytes
    if stride < packedRowBytes then false
    else if height > sizeMax / stride then false
    else
      let span := (height - 1) * stride
      if span > sizeMax - packedRowBytes then false
      else accessibleBytes ≥ span + packedRowBytes

def isInterleavedViewValid (p : PixFormat) (v : InterleavedView) : Bool :=
  !v.data.isEmpty && isInterleavedLayoutValid p v.width v.height v.rowStride v.accessibleBytes

def interleavedRowStride (p : PixFormat) (width rowStride : Nat) : Nat :=
  if rowStride ≠ 0 then rowStride else width * p.interleavedPixelBytes

/-- The sample at a place of the data, little-endian. -/
def interleavedSample (data : Bytes) (sampleSize index : Nat) : Nat :=
  if sampleSize = 1 then (data.getD index 0).toNat
  else (data.getD index 0).toNat ||| (data.getD (index + 1) 0).toNat <<< 8

def makeImageFromInterleaved (p : PixFormat) (v : InterleavedView) : Image :=
  let stride := interleavedRowStride p v.width v.rowStride
  { width := v.width
    height := v.height
    rows := (List.range v.height).map fun y => (List.range v.width).map fun x =>
      (List.range p.channels).map fun channel =>
        interleavedSample v.data p.sampleSize (y * stride + (x * p.channels + channel) *
          p.sampleSize) }

def buildInterleavedView (p : PixFormat) (f : CameraFrame) : CameraResult InterleavedView :=
  if coreFormatOf f.description.pixelFormat ≠ some p then
    .error (frameOpsError .unsupported .unsupportedFormat
      "This camera pixel format does not map onto the requested image format." unsupported_ne)
  else match validateFrameData f with
    | .error e => .error e
    | .ok () =>
      let view : InterleavedView :=
        ⟨f.data, f.width, f.height, f.description.rowStride, f.data.length⟩
      if !isInterleavedViewValid p view then
        .error (frameOpsError .validation .invalidArgument
          "The camera frame layout does not fit inside its own data." validation_ne)
      else .ok view

def imageExhausted : CameraFailure :=
  frameOpsError .backend .resourceExhausted
    "Allocating the image for this camera frame failed." backend_ne

/-- The image is the one that is stored when the conversion succeeds. -/
def convertFrameToImage (images : Images) (p : PixFormat) (f : CameraFrame) : CameraResult Image :=
  match buildInterleavedView p f with
  | .error e => .error e
  | .ok view =>
    if images view.width view.height then .ok (makeImageFromInterleaved p view)
    else .error imageExhausted

/-! ## YUV frames -/

/-- `yuvToRgb` clamps to a byte. -/
def clampByte (value : Int) : Nat := (max 0 (min 255 value)).toNat

def yuvToRgb (y u v : Int) : List Nat :=
  let c := max 0 (y - 16)
  let d := u - 128
  let e := v - 128
  [clampByte ((298 * c + 409 * e + 128) >>> 8),
    clampByte ((298 * c - 100 * d - 208 * e + 128) >>> 8),
    clampByte ((298 * c + 516 * d + 128) >>> 8)]

/-- The luma and the chroma of a pixel. -/
def yuvPixel (f : CameraFrame) (row column : Nat) : Byte × Byte × Byte :=
  let stride := f.description.rowStride
  if f.description.pixelFormat = .nv12 then
    let planeOffset := stride * f.height
    let chromaRow := row / 2
    let chromaPair := column / 2 * 2
    (f.byteAt (row * stride + column), f.byteAt (planeOffset + chromaRow * stride + chromaPair),
      f.byteAt (planeOffset + chromaRow * stride + chromaPair + 1))
  else
    let isUyvy := f.description.pixelFormat = .uyvy422
    let pairOffset := row * stride + column / 2 * 4
    (f.byteAt (pairOffset + column % 2 * 2 + if isUyvy then 1 else 0),
      f.byteAt (pairOffset + if isUyvy then 0 else 1),
      f.byteAt (pairOffset + if isUyvy then 2 else 3))

def convertYuvFrameToImage (images : Images) (f : CameraFrame) : CameraResult Image :=
  match validateFrameData f with
  | .error e => .error e
  | .ok () =>
    if images f.width f.height then
      .ok {
        width := f.width
        height := f.height
        rows := (List.range f.height).map fun row => (List.range f.width).map fun column =>
          let (y, u, v) := yuvPixel f row column
          yuvToRgb y.toNat u.toNat v.toNat }
    else .error imageExhausted

def isYuvFormat (format : CameraPixelFormat) : Bool :=
  format = .yuyv422 || format = .uyvy422 || format = .nv12

/-- `toImage`, by the format of the image. -/
def toImage (images : Images) (p : PixFormat) (f : CameraFrame) : CameraResult Image :=
  if p = .ch3d8 && isYuvFormat f.description.pixelFormat then convertYuvFrameToImage images f
  else convertFrameToImage images p f

/-! ## Addresses -/

section Addresses

variable (d : CameraFrameDescription)

/-- `row * row_stride + index`, or `none` where one of the two is not of 64 bits. -/
def lineAddress (row index : Nat) : Option Nat := do
  add64 (← mul64 row d.rowStride) index

/-- What `packRows` reads of a row. -/
def packedAddresses (rowBytes row : Nat) : List (Option Nat) :=
  (List.range rowBytes).map (lineAddress d row)

/-- What `demosaicFrame` reads of a pixel. -/
def bayerAddresses (row column : Nat) : List (Option Nat) :=
  [lineAddress d row (column * 2 % 2 ^ 32), lineAddress d row ((column * 2 + 1) % 2 ^ 32)]

/-- What `CameraFrameAccumulator::add` reads of a sample. -/
def sampleAddresses (sampleBytes row index : Nat) : List (Option Nat) :=
  (List.range sampleBytes).map fun k => do
    let line ← mul64 row d.rowStride
    add64 (← add64 line (← mul64 index sampleBytes)) k

/-- What `makeImageFromInterleaved` reads of a row. -/
def interleavedAddresses (p : PixFormat) (row : Nat) : List (Option Nat) :=
  (List.range (d.width.toNat * p.interleavedPixelBytes)).map fun k => do
    add64 (← mul64 row (interleavedRowStride p d.width.toNat d.rowStride)) k

/-- What `convertYuvFrameToImage` reads of a pixel. -/
def yuvAddresses (row column : Nat) : List (Option Nat) :=
  if d.pixelFormat = .nv12 then
    let chroma : Option Nat := do
      let planeOffset ← mul64 d.rowStride d.height.toNat
      let chromaPair ← mul64 (column / 2) 2
      add64 (← add64 planeOffset (← mul64 (row / 2) d.rowStride)) chromaPair
    [lineAddress d row column, chroma, do add64 (← chroma) 1]
  else
    let isUyvy := d.pixelFormat = .uyvy422
    let pairOffset : Option Nat := do
      lineAddress d row (← mul64 (column / 2) 4)
    [do add64 (← add64 (← pairOffset) (column % 2 * 2)) (if isUyvy then 1 else 0),
      do add64 (← pairOffset) (if isUyvy then 0 else 1),
      do add64 (← pairOffset) (if isUyvy then 2 else 3)]

end Addresses

/-!
## The orientation of camera frames

`buildFrame` and `applyOrientation` of `core/tmr/camera/CameraFrameOps.cpp`: the packed rows are
copied into an image of the core, which is turned there and copied out again.
-/

def buildFrame (source : CameraFrame) (width height channels : Nat) (packed : Bytes) :
    CameraFrame where
  description :=
    { width := UInt32.ofNat width
      height := UInt32.ofNat height
      pixelFormat := source.description.pixelFormat
      rowStride := (UInt32.ofNat width).toNat * channels *
        source.description.pixelFormat.bytesPerSample }
  data := packed
  sequence := source.sequence
  monotonicTimestampNs := source.monotonicTimestampNs

/-- The format of the core that the channels and the bytes of a sample select. -/
def orientFormat (channels sampleBytes : Nat) : Wse.PixFormat :=
  if sampleBytes = 1 then
    if channels = 1 then .ch1d8 else if channels = 3 then .ch3d8 else .ch4d8
  else if channels = 1 then .ch1d16 else .ch3d16

/-- An error of the outer kind is an exception of the core, which is not caught. -/
def applyOrientation (bigEndian : Bool) (f : CameraFrame)
    (orientation : Wse.ImageOrientation) : Except String (CameraResult CameraFrame) :=
  match validateFrameForOrientation f with
  | .error e => .ok (.error e)
  | .ok channels =>
    let sampleBytes := f.description.pixelFormat.bytesPerSample
    let packed := packRows f (f.width * channels * sampleBytes)
    let extent := Wse.orientedExtent f.width f.height orientation
    let p := orientFormat channels sampleBytes
    let image := Wse.imageOfBytes bigEndian p f.width f.height fun k => packed.getD k 0
    (Wse.applyOrientation image orientation).map fun oriented =>
      let result := (List.range (extent.1 * extent.2 * p.pixelBytes)).map
        (Wse.imageByte bigEndian oriented)
      .ok (buildFrame f extent.1 extent.2 channels result)

/-!
## Averages of the frames of a camera

`CameraFrameAccumulator::reset` and `readAveragedFrame` of `core/tmr/camera/CameraFrameOps.cpp`,
over what each read of the camera gives.
-/

theorem FrameAccumulator.fits_nothing : (0 : Nat) ≠ 0 →
    0 = accumulationChannels ({} : CameraFrameDescription).pixelFormat ∧
      ([] : List UInt32).length = ({} : CameraFrameDescription).height.toNat *
        (({} : CameraFrameDescription).width.toNat * 0) :=
  fun h => absurd rfl h

def FrameAccumulator.reset (_ : FrameAccumulator) : FrameAccumulator where
  fits := fits_nothing

/-- The frames from the one with this index on are read and added. -/
def readAndAdd (readFrame : Nat → CameraResult CameraFrame) (index : Nat) :
    Nat → FrameAccumulator → CameraResult FrameAccumulator
  | 0, a => .ok a
  | count + 1, a =>
    match readFrame index with
    | .error e => .error e
    | .ok frame =>
      match a.add frame with
      | (_, .error e) => .error e
      | (a', .ok ()) => readAndAdd readFrame (index + 1) count a'

def readAveragedFrame (readFrame : Nat → CameraResult CameraFrame) (count : Nat) :
    CameraResult CameraFrame :=
  if count = 0 then
    .error (frameOpsError .validation .invalidArgument
      "readAveragedFrame requires at least one frame." validation_ne)
  else match readAndAdd readFrame 0 count {} with
    | .error e => .error e
    | .ok a => a.average

/-!
## Images as camera frames

`convertImageToFrame` and `toCameraFrame` of `core/tmr/camera/CameraFrameOps.cpp`. `allocates` says
whether the data of a frame can be allocated; a result that is `none` stands for an access outside
of it.
-/

/-- The pixel format of the core. -/
def PixFormat.core : PixFormat → Wse.PixFormat
  | ch1d8 => .ch1d8
  | ch3d8 => .ch3d8
  | bgr3d8 => .bgr3d8
  | bgra4d8 => .bgra4d8
  | ch1d16 => .ch1d16
  | ch3d16 => .ch3d16
  | bgr3d16 => .bgr3d16

section

variable (littleEndian : Bool) (allocates : Nat → Bool)

def convertImageToFrame {p : Wse.PixFormat} (image : Wse.Image p) (format : CameraPixelFormat) :
    Option (CameraResult CameraFrame) :=
  if image.width = 0 || image.height = 0 then
    some (.error (frameOpsError .validation .invalidArgument
      "An empty image has no camera frame." validation_ne))
  else
    let rowBytes := Wse.packedRowBytes p image.width
    if rowBytes = 0 then
      some (.error (frameOpsError .validation .invalidArgument
        "The image extent overflows a packed camera frame." validation_ne))
    else
      -- The product is of `std::size_t`; new bytes are 0.
      let size := rowBytes * image.height % 2 ^ 64
      if !allocates size then
        some (.error (frameOpsError .backend .resourceExhausted
          "Allocating the camera frame for this image failed." backend_ne))
      else
        let target : Wse.InterleavedView :=
          { width := UInt64.ofNat image.width
            height := UInt64.ofNat image.height
            rowStride := UInt64.ofNat rowBytes
            accessibleBytes := UInt64.ofNat size
            data := if size = 0 then none else some fun _ => 0 }
        (Wse.writeImageToInterleaved littleEndian target image).map fun
          | (true, some written) => .ok
              { description :=
                  { width := UInt32.ofNat image.width
                    height := UInt32.ofNat image.height
                    pixelFormat := format
                    rowStride := rowBytes }
                data := (List.range size).map written }
          | _ => .error (frameOpsError .validation .invalidArgument
              "Writing the image into a camera frame failed." validation_ne)

/-- The camera format of images of a pixel format. -/
def cameraFormatOf : PixFormat → CameraPixelFormat
  | .ch1d8 => .gray8
  | .ch1d16 => .gray16
  | .ch3d8 => .rgb8
  | .bgr3d8 => .bgr8
  | .ch3d16 => .rgb16
  | .bgr3d16 => .bgr16
  | .bgra4d8 => .bgra8

/-- `toCameraFrame`, by the format of the image. -/
def toCameraFrame (p : PixFormat) (image : Wse.Image p.core) : Option (CameraResult CameraFrame) :=
  convertImageToFrame littleEndian allocates image (cameraFormatOf p)

end

/-!
## Packed YUV frames as BGRA

`packedYuvToBgra` of `core/tmr/camera/CameraYuvConversion.h`, which the Media Foundation backend
converts with; `yuvToRgb` is in `CameraFrameOps`. Whether a buffer of a size can be allocated is a
parameter.
-/

def isPackedYuv422 (format : CameraPixelFormat) : Bool := format = .uyvy422 || format = .yuyv422

/-- The luma and the chroma of a pixel, from the pair it is in. -/
def packedPixel (f : CameraFrame) (row column : Nat) : Byte × Byte × Byte :=
  let stride := if f.description.rowStride ≠ 0 then f.description.rowStride
    else f.description.minimumRowStride
  let uyvy := f.description.pixelFormat = .uyvy422
  let pair := row * stride + column / 2 * 4
  (f.byteAt (pair + (column % 2 * 2 + if uyvy then 1 else 0)),
    f.byteAt (pair + if uyvy then 0 else 1), f.byteAt (pair + if uyvy then 2 else 3))

/-- The four bytes of a pixel: blue, green, red, 255. -/
def bgraPixel (f : CameraFrame) (row column : Nat) : Bytes :=
  let (y, u, v) := packedPixel f row column
  (yuvToRgb y.toNat u.toNat v.toNat).reverse.map UInt8.ofNat ++ [255]

def packedYuvToBgra (buffers : Nat → Bool) (f : CameraFrame) : CameraResult CameraFrame :=
  let packed : CameraFrameDescription :=
    { width := f.description.width, height := f.description.height, pixelFormat := .bgra8 }
  let description := { packed with rowStride := packed.minimumRowStride }
  if !isPackedYuv422 f.description.pixelFormat then
    .error (frameOpsError .unsupported .unsupportedFormat
      "BGRA conversion requires a packed YUV422 frame." unsupported_ne)
  else if !f.valid then
    .error (frameOpsError .inputOutput .readFailed
      "Packed YUV frame layout or payload is invalid." inputOutput_ne)
  else if !description.valid then
    .error (frameOpsError .inputOutput .readFailed "BGRA output layout overflows." inputOutput_ne)
  else if !buffers description.memorySize then
    .error (frameOpsError .backend .resourceExhausted "Allocating converted BGRA frame failed."
      backend_ne)
  else
    .ok {
      description
      data := (List.range f.height).flatMap fun row =>
        (List.range f.width).flatMap fun column => bgraPixel f row column
      sequence := f.sequence
      monotonicTimestampNs := f.monotonicTimestampNs }

end WSE.Impl.Tmr
