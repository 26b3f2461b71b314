import WapitiStew.Impl.Tmr.CameraFrameOps
import WapitiStew.Spec.Wse.Image

/-!
# Frames with the same pixels

A frame stores its pixels in rows that are the effective stride apart: the row
stride, or the packed one where that is 0. Two frames have the same pixels when
they agree on every byte of every row, whatever their strides. An operation is
independent of the stride, between two strides, if it gives the same result on
every two such frames (`StrideIndependent`).

The memory that a frame takes is its rows, of all planes (`layoutBytes`). A frame operation stays
within it (`FrameMemory`).
-/

namespace WSE.Spec.Tmr

open WSE.Framework WSE.Impl.Tmr

def effectiveStride (d : CameraFrameDescription) : Nat :=
  if d.rowStride = 0 then d.minimumRowStride else d.rowStride

/-- The rows of all planes. -/
def planeRows (d : CameraFrameDescription) : Nat :=
  if d.pixelFormat = .nv12 then d.height.toNat + d.height.toNat / 2 else d.height.toNat

/-- Byte `k` of a row of pixels. -/
def pixelByte (f : CameraFrame) (row k : Nat) : Byte :=
  f.byteAt (row * effectiveStride f.description + k)

structure SamePixels (f g : CameraFrame) : Prop where
  width : f.description.width = g.description.width
  height : f.description.height = g.description.height
  pixelFormat : f.description.pixelFormat = g.description.pixelFormat
  sequence : f.sequence = g.sequence
  monotonicTimestampNs : f.monotonicTimestampNs = g.monotonicTimestampNs
  pixels : ∀ row < planeRows f.description, ∀ k < f.description.minimumRowStride,
    pixelByte f row k = pixelByte g row k

/-- The operations that read the pixels of a frame. -/
inductive FrameOperation
  | packRows
  | demosaicFrame (outputFormat : CameraPixelFormat) (method : DemosaicMethod)
  | add (a : FrameAccumulator)
  | toImage (p : PixFormat)

inductive FrameResult
  | packed (r : CameraResult Bytes)
  | frame (r : Option (CameraResult CameraFrame))
  | accumulated (a : FrameAccumulator) (status : CameraStatus)
  | image (r : CameraResult Image)
  deriving DecidableEq

/-- An accumulator, but for the stride of its first frame, which no average depends on. -/
def forgetStride (a : FrameAccumulator) : FrameAccumulator :=
  { a with description := { a.description with rowStride := 0 } }

def FrameOperation.perform (op : FrameOperation) (images : Images) (f : CameraFrame) :
    FrameResult :=
  match op with
  | packRows => .packed (orientationRows f)
  | demosaicFrame outputFormat method => .frame (Impl.Tmr.demosaicFrame images f outputFormat method)
  | add a => .accumulated (forgetStride (a.add f).1) (a.add f).2
  | toImage p => .image (Impl.Tmr.toImage images p f)

/-- The operation reads rows of such a frame that `row_stride` itself is apart: it is not refused,
and it does not convert with the effective stride. -/
def FrameOperation.usesRowStride (op : FrameOperation) (d : CameraFrameDescription) : Bool :=
  match op with
  | packRows => d.pixelFormat.channelCount ≠ 0
  | demosaicFrame outputFormat _ =>
    isBayerFormat d.pixelFormat && (demosaicOutput outputFormat).isSome && 2 ≤ d.width.toNat &&
      2 ≤ d.height.toNat
  | add a => accumulationChannels d.pixelFormat ≠ 0 &&
      (a.count = 0 || a.sameShape { description := d })
  | toImage p => p = .ch3d8 && isYuvFormat d.pixelFormat

def StrideIndependent (op : FrameOperation) (d : CameraFrameDescription) (a b : Nat) : Prop :=
  ∀ (images : Images) (f g : CameraFrame), f.description = { d with rowStride := a } →
    g.description = { d with rowStride := b } → f.valid = true → g.valid = true →
    SamePixels f g → op.perform images f = op.perform images g

/-! ## Memory -/

section Memory

variable (d : CameraFrameDescription)

/-- The bytes of the pixels of a row. -/
def rowBytes : Nat :=
  if d.pixelFormat = .nv12 then d.width.toNat else d.width.toNat * d.pixelFormat.bytesPerPixel

/-- The bytes of the rows of all planes, the last one too. -/
def layoutBytes : Nat := planeRows d * if d.rowStride = 0 then rowBytes d else d.rowStride

/-- Such a frame has rows of whole pixels, and their bytes can be counted in 64 bits. -/
structure HasLayout : Prop where
  height : d.height.toNat ≠ 0
  pixels : rowBytes d ≠ 0
  pairs : isYuvFormat d.pixelFormat = true → d.width.toNat % 2 = 0
  blocks : d.pixelFormat = .nv12 → d.height.toNat % 2 = 0
  stride : d.rowStride = 0 ∨ rowBytes d ≤ d.rowStride
  fits : layoutBytes d < 2 ^ 64

/-- The places that an operation reads of the data of a frame that it does not refuse. -/
def FrameOperation.addresses (op : FrameOperation) : List (Option Nat) :=
  let rows := List.range d.height.toNat
  let columns := List.range d.width.toNat
  let format := d.pixelFormat
  match op with
  | packRows =>
    rows.flatMap (packedAddresses d (d.width.toNat * format.channelCount * format.bytesPerSample))
  | demosaicFrame _ _ =>
    if isBayerFormat format then rows.flatMap fun row => columns.flatMap (bayerAddresses d row)
    else []
  | add _ =>
    rows.flatMap fun row => (List.range (d.width.toNat * accumulationChannels format)).flatMap
      (sampleAddresses d (accumulationSampleBytes format) row)
  | toImage p =>
    if p = .ch3d8 && isYuvFormat format then
      rows.flatMap fun row => columns.flatMap (yuvAddresses d row)
    else if coreFormatOf format = some p then rows.flatMap (interleavedAddresses d p)
    else []

/-- Frames with the same description that differ in no byte that the operation reads. -/
structure SameReads (op : FrameOperation) (f g : CameraFrame) : Prop where
  description : f.description = g.description
  sequence : f.sequence = g.sequence
  monotonicTimestampNs : f.monotonicTimestampNs = g.monotonicTimestampNs
  bytes : ∀ n, some n ∈ op.addresses f.description → f.byteAt n = g.byteAt n

/-- The size is that of the layout, or 0 where there is none. No operation computes a place past
it, and none depends on a byte at any other place. -/
structure FrameMemory : Prop where
  computed : d.memorySize64 = some d.memorySize
  laid : HasLayout d → d.memorySize = layoutBytes d
  refused : ¬HasLayout d → d.memorySize = 0
  inside : ∀ f : CameraFrame, f.description = d → f.valid = true → ∀ op : FrameOperation,
    ∀ place ∈ op.addresses d, ∃ n < d.memorySize, place = some n
  reads : ∀ f g : CameraFrame, f.description = d → f.valid = true → g.valid = true →
    ∀ (op : FrameOperation) (images : Images), SameReads op f g →
      op.perform images f = op.perform images g

end Memory

/-!
## The pixels of a frame as an image

The pixels of a frame, in the format of the core that its orientation uses, and what it means that
an orientation of the frame is that of its pixels.
-/

section

open WSE.Impl

/-- The pixels of a frame, from its rows of pixels. -/
def frameImage (bigEndian : Bool) (p : Wse.PixFormat) (f : CameraFrame) : Wse.Image p :=
  Grid.ofFn f.width f.height fun x y =>
    .ofBytes bigEndian p fun k => pixelByte f y (x * p.pixelBytes + k)

def frameFormat (format : CameraPixelFormat) : Wse.PixFormat :=
  orientFormat format.channelCount format.bytesPerSample

/-- A valid frame without a margin or a byte after its rows. -/
structure Packed (f : CameraFrame) : Prop where
  valid : f.valid = true
  stride : f.description.rowStride = f.description.minimumRowStride
  size : f.data.length = f.description.memorySize

/-- The result is a packed frame of the same format with the pixels that the core gives. -/
def OrientsPixels (bigEndian : Bool) (f : CameraFrame) (orientation : Wse.ImageOrientation) : Prop :=
  ∃ result, applyOrientation bigEndian f orientation = .ok (.ok result) ∧ Packed result ∧
    result.description.pixelFormat = f.description.pixelFormat ∧
    Wse.applyOrientation (frameImage bigEndian (frameFormat f.description.pixelFormat) f)
      orientation = .ok (frameImage bigEndian (frameFormat f.description.pixelFormat) result)

/-- Every row of pixels is the first one again. -/
def SameRows (f : CameraFrame) : Prop :=
  ∀ row < f.height, ∀ k < f.description.minimumRowStride, pixelByte f row k = pixelByte f 0 k

end

/-!
## The mean of frames

Frames of one layout have the same extent and pixel format; their row strides may differ. An
average of them is exact when each of its samples is the mean of theirs, rounded to nearest.
-/

/-- The frames, added one after another. -/
def addFrames (a : FrameAccumulator) : List CameraFrame → CameraResult FrameAccumulator
  | [] => .ok a
  | frame :: frames =>
    match a.add frame with
    | (a', .ok ()) => addFrames a' frames
    | (_, .error e) => .error e

def averageFrames (frames : List CameraFrame) : CameraResult CameraFrame :=
  match addFrames { fits := FrameAccumulator.fits_nothing } frames with
  | .ok a => a.average
  | .error e => .error e

/-- A sample of the rows of pixels of a frame. -/
def frameSample (f : CameraFrame) (row index : Nat) : Nat :=
  let sampleBytes := accumulationSampleBytes f.description.pixelFormat
  (readSample (fun k => pixelByte f row (index * sampleBytes + k)) sampleBytes).toNat

/-- The samples of a row. -/
def rowSamples (d : CameraFrameDescription) : Nat :=
  d.width.toNat * accumulationChannels d.pixelFormat

/-- Frames that an accumulator accepts one after another, at least one. -/
structure OneFormat (frames : List CameraFrame) (d : CameraFrameDescription) : Prop where
  nonempty : frames ≠ []
  accumulable : accumulationChannels d.pixelFormat ≠ 0
  valid : ∀ f ∈ frames, f.valid = true
  width : ∀ f ∈ frames, f.description.width = d.width
  height : ∀ f ∈ frames, f.description.height = d.height
  pixelFormat : ∀ f ∈ frames, f.description.pixelFormat = d.pixelFormat

structure ExactFrameMean (frames : List CameraFrame) (d : CameraFrameDescription)
    (result : CameraFrame) : Prop where
  width : result.description.width = d.width
  height : result.description.height = d.height
  pixelFormat : result.description.pixelFormat = d.pixelFormat
  samples : ∀ row < d.height.toNat, ∀ index < rowSamples d,
    frameSample result row index =
      WSE.Spec.Wse.roundedMean (frames.map fun f => frameSample f row index)

def FrameSumsFit (frames : List CameraFrame) (d : CameraFrameDescription) : Prop :=
  ∀ row < d.height.toNat, ∀ index < rowSamples d,
    (frames.map fun f => frameSample f row index).sum + frames.length / 2 < 2 ^ 32

/-- The lines that are added are the rows of pixels. -/
def LinesAreRows (frames : List CameraFrame) : Prop :=
  ∀ f ∈ frames, f.description.rowStride ≠ 0 ∨ SameRows f

/-!
## Conversions between frames and images

The two conversions are inverse on the images that a frame can describe (`Convertible`) and on valid
frames, up to what is not pixels: the frame that comes back is packed (`PackedCopy`).
-/

section

open WSE.Impl

/-- An image of the core, by the samples of its pixels. -/
def ofCore {p : Wse.PixFormat} (image : Wse.Image p) : Image where
  width := image.width
  height := image.height
  rows := (List.range image.height).map fun y => (List.range image.width).map fun x =>
    (List.range p.channels).map fun c => ((image.get x y).channel c).toNat

/-- The image is not empty, a frame has its extent, it is in memory, and so can its frame and an
image of its extent be. -/
structure Convertible (images : Images) (allocates : Nat → Bool) {p : Wse.PixFormat}
    (image : Wse.Image p) : Prop where
  width_pos : image.width ≠ 0
  height_pos : image.height ≠ 0
  width_lt : image.width < 2 ^ 32
  height_lt : image.height < 2 ^ 32
  size_lt : image.width * p.pixelBytes * image.height < 2 ^ 64
  frame_allocated : allocates (image.width * p.pixelBytes * image.height) = true
  image_allocated : images image.width image.height = true

/-- The packed frame with the pixels of another. -/
structure PackedCopy (f g : CameraFrame) : Prop where
  packed : Packed g
  width : g.description.width = f.description.width
  height : g.description.height = f.description.height
  pixelFormat : g.description.pixelFormat = f.description.pixelFormat
  pixels : ∀ row < f.height, ∀ k < f.description.minimumRowStride,
    pixelByte g row k = pixelByte f row k

end

/-!
## What the two YUV decoders agree on

An image and a BGRA buffer hold the same colours when the red, green and blue of every pixel are
the same. What a decoder computes in `int` fits when no sum is outside its 32 bits. A row repeats
the first one when every pixel of it decodes to the colours of the pixel above in the first row.
-/

/-- The red, green and blue of a pixel of a BGRA buffer. -/
def bufferColours (buffer : CameraFrame) (row column : Nat) : List Nat :=
  [buffer.lineByte row (column * 4 + 2), buffer.lineByte row (column * 4 + 1),
    buffer.lineByte row (column * 4)].map UInt8.toNat

structure SameColours (image : Image) (buffer : CameraFrame) : Prop where
  width : image.width = buffer.width
  height : image.height = buffer.height
  colours : image.rows = (List.range buffer.height).map fun row =>
    (List.range buffer.width).map (bufferColours buffer row)

def colours (pixel : Byte × Byte × Byte) : List Nat :=
  yuvToRgb pixel.1.toNat pixel.2.1.toNat pixel.2.2.toNat

/-- Every row decodes as the first one. -/
def RepeatsFirstRow (f : CameraFrame) : Prop :=
  ∀ row < f.height, ∀ column < f.width,
    colours (packedPixel f row column) = colours (packedPixel f 0 column)

/-- The numbers that `yuvToRgb` computes, in the order of their computation. -/
def yuvSums (y u v : Int) : List Int :=
  let c := max 0 (y - 16)
  let d := u - 128
  let e := v - 128
  [y - 16, c, d, e,
    298 * c, 409 * e, 298 * c + 409 * e, 298 * c + 409 * e + 128,
    100 * d, 298 * c - 100 * d, 208 * e, 298 * c - 100 * d - 208 * e,
    298 * c - 100 * d - 208 * e + 128,
    516 * d, 298 * c + 516 * d, 298 * c + 516 * d + 128]

def FitsInt (n : Int) : Prop := -2 ^ 31 ≤ n ∧ n < 2 ^ 31

/-- Where `convertYuvFrameToImage` reads the luma and the chroma of a pixel. -/
def yuvOffsets (d : CameraFrameDescription) (row column : Nat) : Nat × Nat × Nat :=
  if d.pixelFormat = .nv12 then
    (row * d.rowStride + column,
      d.rowStride * d.height.toNat + row / 2 * d.rowStride + column / 2 * 2,
      d.rowStride * d.height.toNat + row / 2 * d.rowStride + column / 2 * 2 + 1)
  else
    let pair := row * d.rowStride + column / 2 * 4
    (pair + column % 2 * 2 + (if d.pixelFormat = .uyvy422 then 1 else 0),
      pair + (if d.pixelFormat = .uyvy422 then 0 else 1),
      pair + (if d.pixelFormat = .uyvy422 then 2 else 3))

/-- Where `packedYuvToBgra` does. -/
def packedOffsets (d : CameraFrameDescription) (row column : Nat) : Nat × Nat × Nat :=
  let pair := row * effectiveStride d + column / 2 * 4
  (pair + (column % 2 * 2 + if d.pixelFormat = .uyvy422 then 1 else 0),
    pair + (if d.pixelFormat = .uyvy422 then 0 else 1),
    pair + (if d.pixelFormat = .uyvy422 then 2 else 3))

def offsetsBelow (offsets : Nat × Nat × Nat) (size : Nat) : Prop :=
  offsets.1 < size ∧ offsets.2.1 < size ∧ offsets.2.2 < size

/-- The bytes of a pixel are at the offsets. -/
def readsAt (f : CameraFrame) (pixel : Byte × Byte × Byte) (offsets : Nat × Nat × Nat) : Prop :=
  pixel = (f.byteAt offsets.1, f.byteAt offsets.2.1, f.byteAt offsets.2.2)

end WSE.Spec.Tmr
