import WapitiStew.Framework.Memory
import WapitiStew.Impl.Wse.Image

/-!
# Interleaved views of images

`isInterleavedViewValid`, `isInterleavedTargetValid`, `packedRowBytes`, `makeImageFromInterleaved`
and `writeImageToInterleaved` of `api/wse/data/wse_ImageInterleaved.h`. A result that is `none`
stands for a size that wraps or for a byte that is touched outside the accessible ones.
`littleEndian` is `WSE_INTERLEAVED_LITTLE_ENDIAN`; where it is false the host is big-endian.
-/

namespace WSE.Impl.Wse

open WSE.Framework

def sizeMax : Nat := 2 ^ 64 - 1

/-- What `sInterleavedView` and `sInterleavedTarget` say of their buffer. -/
structure InterleavedLayout where
  width : UInt64 := 0
  height : UInt64 := 0
  rowStride : UInt64 := 0
  accessibleBytes : UInt64 := 0
  deriving DecidableEq

/-- `sInterleavedView` and `sInterleavedTarget`, with the bytes that `data` points to. -/
structure InterleavedView extends InterleavedLayout where
  data : Option Memory := none

def isInterleavedLayoutValid (p : PixFormat) (l : InterleavedLayout) : Option Bool :=
  let width := l.width.toNat
  let height := l.height.toNat
  if width = 0 || height = 0 then some false
  else if width > sizeMax / p.pixelBytes then some false
  else do
    let packedRowBytes ← mul64 width p.pixelBytes
    let stride := if l.rowStride.toNat ≠ 0 then l.rowStride.toNat else packedRowBytes
    if stride < packedRowBytes then some false
    else if height > sizeMax / stride then some false
    else do
      let span ← mul64 (height - 1) stride
      if span > sizeMax - packedRowBytes then some false
      else do
        let size ← add64 span packedRowBytes
        some (l.accessibleBytes.toNat ≥ size)

def interleavedRowStride (p : PixFormat) (l : InterleavedLayout) : Option Nat :=
  if l.rowStride.toNat ≠ 0 then some l.rowStride.toNat else mul64 l.width.toNat p.pixelBytes

/-- 0 where the product does not fit. -/
def packedRowBytes (p : PixFormat) (width : Nat) : Nat :=
  if width ≠ 0 ∧ width ≤ sizeMax / p.pixelBytes then width * p.pixelBytes else 0

def isInterleavedViewValid (p : PixFormat) (v : InterleavedView) : Option Bool :=
  if v.data.isNone then some false else isInterleavedLayoutValid p v.toInterleavedLayout

def isInterleavedTargetValid (p : PixFormat) (t : InterleavedView) : Option Bool :=
  if t.data.isNone then some false else isInterleavedLayoutValid p t.toInterleavedLayout

section

variable (littleEndian : Bool) (p : PixFormat)

/-- A row is copied as it is where samples are one byte or the host is little-endian; else each
sample is put together from its first two bytes. -/
def readRow (m : Memory) (limit offset width rowBytes : Nat) : Option (Nat → Pixel p) :=
  if littleEndian || p.sampleSize = 1 then do
    let bytes ← m.read limit offset rowBytes
    some fun x => Pixel.ofBytes (!littleEndian) p fun k => bytes (x * p.pixelBytes + k)
  else do
    let samples ← (List.range (width * p.channels)).mapM fun index => do
      let place ← mul64 index p.sampleSize
      let low ← m.read limit (offset + place) 1
      let high ← m.read limit (offset + place + 1) 1
      some (BitVec.ofNat p.sampleBits (low 0).toNat |||
        (BitVec.ofNat p.sampleBits (high 0).toNat).shiftLeft 8)
    some fun x => .ofFn fun c => samples.getD (x * p.channels + c) 0

def makeImageFromInterleaved (v : InterleavedView) : Option (Except String (Image p)) := do
  let valid ← isInterleavedViewValid p v
  match valid, v.data with
  | true, some m => do
    let stride ← interleavedRowStride p v.toInterleavedLayout
    let rowSamples ← mul64 v.width.toNat p.channels
    let rowBytes ← mul64 rowSamples p.sampleSize
    let rows ← (List.range v.height.toNat).mapM fun y => do
      let offset ← mul64 y stride
      readRow littleEndian p m v.accessibleBytes.toNat offset v.width.toNat rowBytes
    some (.ok (Grid.ofFn v.width.toNat v.height.toNat fun x y => rows.getD y (fun _ => default) x))
  | _, _ => some (.error "the interleaved view is not valid for the pixel format")

/-- A row of the image is written as it is, or each sample as its two low bytes. -/
def writeRow {p : PixFormat} (image : Image p) (y : Nat) (m : Memory)
    (limit offset width rowBytes : Nat) : Option Memory :=
  if littleEndian || p.sampleSize = 1 then
    m.write limit offset rowBytes fun k =>
      (image.get (k / p.pixelBytes) y).byte (!littleEndian) (k % p.pixelBytes)
  else (List.range (width * p.channels)).foldlM (fun m index => do
    let place ← mul64 index p.sampleSize
    let sample := (image.get (index / p.channels) y).channel (index % p.channels)
    let m ← m.write limit (offset + place) 1 fun _ => UInt8.ofNat sample.toNat
    m.write limit (offset + place + 1) 1 fun _ => UInt8.ofNat (sample.toNat / 256)) m

/-- Whether the image was written, and what the target's data points to then. -/
def writeImageToInterleaved {p : PixFormat} (t : InterleavedView) (image : Image p) :
    Option (Bool × Option Memory) := do
  let valid ← isInterleavedTargetValid p t
  match valid, t.data with
  | true, some m =>
    if image.width ≠ t.width.toNat then some (false, t.data)
    else if image.height ≠ t.height.toNat then some (false, t.data)
    else do
      let stride ← interleavedRowStride p t.toInterleavedLayout
      let rowSamples ← mul64 t.width.toNat p.channels
      let rowBytes ← mul64 rowSamples p.sampleSize
      let written ← (List.range t.height.toNat).foldlM (fun m y => do
        let offset ← mul64 y stride
        writeRow littleEndian image y m t.accessibleBytes.toNat offset t.width.toNat rowBytes) m
      some (true, some written)
  | _, _ => some (false, t.data)

end

end WSE.Impl.Wse
