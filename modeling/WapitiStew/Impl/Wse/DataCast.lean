import WapitiStew.Impl.Wse.Image

/-!
# Conversions between pixel formats

`castData::image` of `core/wse/utility/wse_DataCast.cpp`: the number of channels of the two
formats selects a conversion, their bit depths how a sample is converted. What the conversions
compute in `double` is a parameter.
-/

namespace WSE.Impl.Wse

open WSE.Framework

/-- What is computed in `double`: a sample of a greater depth, and the alpha of a 64-bit format,
where `std::pow( 2.0, 64 )` is not a value of `std::uint64_t`. -/
structure Doubles where
  expand : (src dst : PixFormat) → Sample src → Sample dst
  alpha64 : BitVec 64

namespace castData

/-- The formats that `image` is instantiated for. -/
def instantiated (p : PixFormat) : Bool :=
  p.channels ≠ 2 && p ≠ .bgr3d8 && p ≠ .bgr3d16 && p ≠ .bgra4d8 && p ≠ .bgra4d16

section

variable (doubles : Doubles) (src dst : PixFormat)

/-- A sample is copied, shifted down or expanded, by the two depths. -/
def castSample (sample : Sample src) : Sample dst :=
  if src.bitDepth = dst.bitDepth then sample.setWidth dst.sampleBits
  else if src.bitDepth > dst.bitDepth then
    (sample.ushiftRight (src.bitDepth - dst.bitDepth)).setWidth dst.sampleBits
  else doubles.expand src dst sample

/-- The mean of three colours, in `std::uint64_t`. -/
def meanSample (pixel : Pixel src) : Sample src :=
  (((pixel.channel 0).setWidth 64 + (pixel.channel 1).setWidth 64 + (pixel.channel 2).setWidth 64) /
    3#64).setWidth src.sampleBits

/-- The alpha that is added. -/
def alpha : Sample dst :=
  if dst.sampleSize = 8 then doubles.alpha64.setWidth dst.sampleBits
  else BitVec.ofNat dst.sampleBits (2 ^ dst.sampleBits - 1)

def copyImage (image : Image src) : Image dst :=
  image.map fun pixel => .ofFn fun c => (pixel.channel c).setWidth dst.sampleBits

def expandImage (image : Image src) : Image dst :=
  image.map fun pixel => .ofFn fun c => doubles.expand src dst (pixel.channel c)

def reduceImage (image : Image src) : Image dst :=
  image.map fun pixel => .ofFn fun c =>
    ((pixel.channel c).ushiftRight (src.bitDepth - dst.bitDepth)).setWidth dst.sampleBits

def mono2color (image : Image src) : Image dst :=
  image.map fun pixel => .ofFn fun _ => castSample doubles src dst (pixel.channel 0)

def mono2acolor (image : Image src) : Image dst :=
  image.map fun pixel => .ofFn fun c =>
    if c.val = 3 then alpha doubles dst else castSample doubles src dst (pixel.channel 0)

def color2mono (image : Image src) : Image dst :=
  image.map fun pixel => .ofFn fun _ => castSample doubles src dst (meanSample src pixel)

def color2acolor (image : Image src) : Image dst :=
  image.map fun pixel => .ofFn fun c =>
    if c.val = 3 then alpha doubles dst else castSample doubles src dst (pixel.channel c)

/-- The alpha of the source is left out. -/
def acolor2mono (image : Image src) : Image dst := color2mono doubles src dst image

def acolor2color (image : Image src) : Image dst :=
  image.map fun pixel => .ofFn fun c => castSample doubles src dst (pixel.channel c)

/-- Between formats with the same channels. -/
def sameChannels (image : Image src) : Image dst :=
  if dst.bitDepth < src.bitDepth then reduceImage src dst image
  else if dst.bitDepth > src.bitDepth then expandImage doubles src dst image
  else copyImage src dst image

def unsupported : String := "the pixel-size combination is not supported by this cast"

def image (source : Image src) : Except String (Image dst) :=
  if src.channels = 1 then
    if dst.channels = 3 then .ok (mono2color doubles src dst source)
    else if dst.channels = 4 then .ok (mono2acolor doubles src dst source)
    else if dst.channels = 1 then .ok (sameChannels doubles src dst source)
    else .error unsupported
  else if src.channels = 3 then
    if dst.channels = 1 then .ok (color2mono doubles src dst source)
    else if dst.channels = 4 then .ok (color2acolor doubles src dst source)
    else if dst.channels = 3 then .ok (sameChannels doubles src dst source)
    else .error unsupported
  else if src.channels = 4 then
    if dst.channels = 1 then .ok (acolor2mono doubles src dst source)
    else if dst.channels = 3 then .ok (acolor2color doubles src dst source)
    else if dst.channels = 4 then .ok (sameChannels doubles src dst source)
    else .error unsupported
  else .error unsupported

end

end castData

end WSE.Impl.Wse
