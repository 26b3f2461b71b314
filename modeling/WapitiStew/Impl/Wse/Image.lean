import Mathlib.Data.Fintype.Pi
import WapitiStew.Framework.Bytes
import WapitiStew.Framework.Grid

/-!
# Images

`PixelTraits` and `Image_` of `api/wse/data/wse_Image.h`, with `getDataNum` and `getBitDepth` of
`wse_PixelFormat.h`. A sample is a number of the underlying type of its format, which may be
wider than the bit depth. An image whose pixels cannot be allocated is not modelled.
-/

namespace WSE.Impl.Wse

open WSE.Framework

/-- `ePixFormat`. -/
inductive PixFormat
  | ch1d8 | ch1d10 | ch1d12 | ch1d14 | ch1d16 | ch1d32 | ch1d64
  | ch2d8 | ch2d10 | ch2d12 | ch2d14 | ch2d16 | ch2d32 | ch2d64
  | ch3d8 | ch3d10 | ch3d12 | ch3d14 | ch3d16 | ch3d32 | ch3d64
  | ch4d8 | ch4d10 | ch4d12 | ch4d14 | ch4d16 | ch4d32 | ch4d64
  | bgr3d8 | bgr3d16 | bgra4d8 | bgra4d16
  deriving DecidableEq

namespace PixFormat

/-- `getDataNum`, the `PixelSize` of a format. -/
def channels : PixFormat → Nat
  | ch1d8 | ch1d10 | ch1d12 | ch1d14 | ch1d16 | ch1d32 | ch1d64 => 1
  | ch2d8 | ch2d10 | ch2d12 | ch2d14 | ch2d16 | ch2d32 | ch2d64 => 2
  | ch3d8 | ch3d10 | ch3d12 | ch3d14 | ch3d16 | ch3d32 | ch3d64 | bgr3d8 | bgr3d16 => 3
  | ch4d8 | ch4d10 | ch4d12 | ch4d14 | ch4d16 | ch4d32 | ch4d64 | bgra4d8 | bgra4d16 => 4

/-- `getBitDepth`. -/
def bitDepth : PixFormat → Nat
  | ch1d8 | ch2d8 | ch3d8 | ch4d8 | bgr3d8 | bgra4d8 => 8
  | ch1d10 | ch2d10 | ch3d10 | ch4d10 => 10
  | ch1d12 | ch2d12 | ch3d12 | ch4d12 => 12
  | ch1d14 | ch2d14 | ch3d14 | ch4d14 => 14
  | ch1d16 | ch2d16 | ch3d16 | ch4d16 | bgr3d16 | bgra4d16 => 16
  | ch1d32 | ch2d32 | ch3d32 | ch4d32 => 32
  | ch1d64 | ch2d64 | ch3d64 | ch4d64 => 64

/-- The size of `PixelType`. -/
def sampleSize (p : PixFormat) : Nat :=
  if p.bitDepth = 8 then 1 else if p.bitDepth ≤ 16 then 2 else if p.bitDepth = 32 then 4 else 8

/-- The bits of `PixelType`. -/
abbrev sampleBits (p : PixFormat) : Nat := 8 * p.sampleSize

theorem sampleSize_cases (p : PixFormat) :
    p.sampleSize = 1 ∨ p.sampleSize = 2 ∨ p.sampleSize = 4 ∨ p.sampleSize = 8 := by
  cases p <;> decide

theorem sampleSize_pos (p : PixFormat) : 0 < p.sampleSize := by
  have := p.sampleSize_cases
  omega

theorem channels_pos (p : PixFormat) : 0 < p.channels := by
  cases p <;> decide

theorem bitDepth_le (p : PixFormat) : p.bitDepth ≤ p.sampleBits := by
  cases p <;> decide

/-- `interleavedPixelBytes`, the bytes of a pixel. -/
def pixelBytes (p : PixFormat) : Nat := p.channels * p.sampleSize

theorem pixelBytes_pos (p : PixFormat) : 0 < p.pixelBytes :=
  Nat.mul_pos p.channels_pos p.sampleSize_pos

end PixFormat

/-- `PixelType`. -/
abbrev Sample (p : PixFormat) := BitVec p.sampleBits

/-- `PixelAlias`: the samples of its channels. -/
def Pixel (p : PixFormat) := Fin p.channels → Sample p

instance (p : PixFormat) : DecidableEq (Pixel p) :=
  inferInstanceAs (DecidableEq (Fin p.channels → Sample p))

def Pixel.ofFn {p : PixFormat} (f : Fin p.channels → Sample p) : Pixel p := f

@[simp] theorem Pixel.ofFn_apply {p : PixFormat} (f : Fin p.channels → Sample p)
    (c : Fin p.channels) : Pixel.ofFn f c = f c := rfl

/-- A pixel that is not set is zero. -/
instance (p : PixFormat) : Inhabited (Pixel p) := ⟨Pixel.ofFn fun _ => 0⟩

/-- `pixel[ channel ]`. -/
def Pixel.channel {p : PixFormat} (pixel : Pixel p) (c : Nat) : Sample p :=
  if h : c < p.channels then pixel ⟨c, h⟩ else 0

@[simp] theorem Pixel.channel_fin {p : PixFormat} (pixel : Pixel p) (c : Fin p.channels) :
    pixel.channel c = pixel c := dif_pos c.isLt

/-- `Image_`. -/
abbrev Image (p : PixFormat) := Grid (Pixel p)

/-- `Image_( width, height )`. -/
def blank (p : PixFormat) (width height : Nat) : Image p := Grid.fill width height default

/-! ## Pixels in memory -/

section

variable (bigEndian : Bool)

/-- A byte of the object representation of a pixel, by the byte order of the host. -/
def Pixel.byte {p : PixFormat} (pixel : Pixel p) (k : Nat) : Byte :=
  (nativeBytes bigEndian p.sampleSize (pixel.channel (k / p.sampleSize)).toNat).getD
    (k % p.sampleSize) 0

/-- The pixel that has these bytes. -/
def Pixel.ofBytes (p : PixFormat) (bytes : Nat → Byte) : Pixel p :=
  .ofFn fun c => BitVec.ofNat p.sampleBits (nativeValue bigEndian
    ((List.range p.sampleSize).map fun k => bytes (c * p.sampleSize + k)))

/-- A byte of the pixels of an image. -/
def imageByte {p : PixFormat} (image : Image p) (k : Nat) : Byte :=
  (image.cells.getD (k / p.pixelBytes) default).byte bigEndian (k % p.pixelBytes)

/-- The image whose pixels are overwritten with these bytes. -/
def imageOfBytes (p : PixFormat) (width height : Nat) (bytes : Nat → Byte) : Image p :=
  Grid.ofFn width height fun x y =>
    Pixel.ofBytes bigEndian p fun k => bytes ((y * width + x) * p.pixelBytes + k)

end

end WSE.Impl.Wse
