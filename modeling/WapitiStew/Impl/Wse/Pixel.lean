import WapitiStew.Impl.Wse.Image

/-!
# Pixels

Access to the components of a pixel, and conversions between channel orders.
-/

namespace WSE.Impl.Wse

/-!
## Checked access to the components of a pixel

`get`, `set` and `checkSafetyArgs` of `Pixel_` in `api/wse/data/wse_Pixel.h`. An index is a number of
any integral type; `none` is a write outside the components.
-/

section

variable {p : PixFormat}

/-- `static_cast< uint8_t >`. -/
def narrowIndex (index : Int) : Nat := (index % 256).toNat

def indexOutside : String := "the channel index is outside the pixel"

def valueOutside : String := "the value does not fit in the pixel bit depth"

/-- The loop of `checkSafetyArgs` that shifts a value out; it takes a turn for each bit at most. -/
def countBits : Nat → Nat → Nat
  | 0, _ => 0
  | turns + 1, value => if value > 0 then countBits turns (value >>> 1) + 1 else 0

namespace Pixel

def get (pixel : Pixel p) (index : Int) : Except String (Sample p) :=
  if narrowIndex index ≥ p.channels then .error indexOutside
  else .ok (pixel.channel (narrowIndex index))

def checkSafetyArgs (p : PixFormat) (index : Nat) (value : Sample p) : Except String Unit :=
  if index ≥ p.channels then .error indexOutside
  else
    let bitDepth := if value = 0 then 1 else countBits p.sampleBits value.toNat
    if bitDepth = 0 || bitDepth > p.bitDepth then .error valueOutside else .ok ()

/-- `data[ index ] = value`. -/
def assign (pixel : Pixel p) (index : Int) (value : Sample p) : Option (Pixel p) :=
  if 0 ≤ index ∧ index < p.channels then
    some (.ofFn fun c => if c.val = index.toNat then value else pixel c)
  else none

def set (pixel : Pixel p) (index : Int) (value : Sample p) : Option (Except String (Pixel p)) :=
  match checkSafetyArgs p (narrowIndex index) value with
  | .error e => some (.error e)
  | .ok () => (pixel.assign index value).map .ok

end Pixel

end

/-!
## Channel orders

`getChannelOrder` of `api/wse/utility/wse_PixelFormat.h` and `convertChannelOrder` of
`api/wse/data/wse_ImageInterleaved.h`, with what the latter asserts of its two formats.
-/

section

open WSE.Framework

/-- `eColorChannelOrder`. -/
inductive ColorChannelOrder
  | rgb | bgr
  deriving DecidableEq

/-- `getChannelOrder`. -/
def PixFormat.channelOrder : PixFormat → ColorChannelOrder
  | .bgr3d8 | .bgr3d16 | .bgra4d8 | .bgra4d16 => .bgr
  | _ => .rgb

/-- The static assertions of `convertChannelOrder`. -/
structure Convertible (dst src : PixFormat) : Prop where
  channels : dst.channels = src.channels
  bitDepth : dst.bitDepth = src.bitDepth
  colour : dst.channels = 3 ∨ dst.channels = 4

/-- The pixel that `convertChannelOrder` writes. -/
def convertPixelOrder {src : PixFormat} (dst : PixFormat) (pixel : Pixel src) : Pixel dst :=
  .ofFn fun c =>
    (if c.val = 0 then pixel.channel 2
    else if c.val = 1 then pixel.channel 1
    else if c.val = 2 then pixel.channel 0
    else pixel.channel 3).setWidth dst.sampleBits

def convertChannelOrder {src : PixFormat} (dst : PixFormat) (source : Image src) :
    Except String (Image dst) :=
  if source.width = 0 || source.height = 0 then .error "the source image must not be empty"
  else .ok (source.map (convertPixelOrder dst))

end

end WSE.Impl.Wse
