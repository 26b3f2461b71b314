import WapitiStew.Framework.Symmetry
import WapitiStew.Impl.Wse.DataCast
import WapitiStew.Impl.Wse.ImageInterleaved
import WapitiStew.Impl.Wse.ImageTransform
import WapitiStew.Impl.Wse.Pixel

/-!
# Images

What is right of a pixel, of a conversion of samples and channels, of an orientation, an average and
an interleaved view of an image.
-/

namespace WSE.Spec.Wse

open WSE.Impl.Wse

/-!
## Access to a component

An index names a component when it is not negative and below their number. Access by another index
is to be refused, and an accepted write to change its component and nothing else.
-/

section

variable {p : PixFormat}

def Names (p : PixFormat) (index : Int) : Prop := 0 ≤ index ∧ index < p.channels

/-- The write of a value is accepted. -/
def Accepts (pixel : Pixel p) (index : Int) (value : Sample p) : Prop :=
  ∃ after, pixel.set index value = some (.ok after) ∧ after.channel index.toNat = value ∧
    ∀ c, c ≠ index.toNat → after.channel c = pixel.channel c

structure ChecksAccess (pixel : Pixel p) (index : Int) : Prop where
  get : Names p index → pixel.get index = .ok (pixel.channel index.toNat)
  get_refused : ¬Names p index → pixel.get index = .error indexOutside
  set : Names p index → ∀ value, value.toNat < 2 ^ p.bitDepth → Accepts pixel index value
  set_value : ∀ value, 2 ^ p.bitDepth ≤ value.toNat → ∃ e, pixel.set index value = some (.error e)
  set_index : ¬Names p index → ∀ value, ∃ e, pixel.set index value = some (.error e)

end

/-!
## Colours of a pixel

Which channel holds red and which blue is a matter of the format's channel order. A conversion keeps
the colours when each pixel has the same ones before and after; between formats of one order it then
keeps the samples, and converting back gives the source.
-/

section

variable {src dst : PixFormat}

def red (pixel : Pixel src) : Nat :=
  (pixel.channel (if src.channelOrder = .rgb then 0 else 2)).toNat

def green (pixel : Pixel src) : Nat := (pixel.channel 1).toNat

def blue (pixel : Pixel src) : Nat :=
  (pixel.channel (if src.channelOrder = .rgb then 2 else 0)).toNat

/-- The alpha of a pixel that has one. -/
def alphaOf (pixel : Pixel src) : Option Nat :=
  if src.channels = 4 then some (pixel.channel 3).toNat else none

structure SameColours (a : Pixel src) (b : Pixel dst) : Prop where
  red : red b = red a
  green : green b = green a
  blue : blue b = blue a
  alpha : alphaOf b = alphaOf a

/-- What `convertChannelOrder` is to do with an image. -/
def KeepsColours (dst : PixFormat) (source : Image src) : Prop :=
  ∃ image : Image dst, convertChannelOrder dst source = .ok image ∧
    image.width = source.width ∧ image.height = source.height ∧
    (∀ x < source.width, ∀ y < source.height, SameColours (source.get x y) (image.get x y)) ∧
    (dst.channelOrder = src.channelOrder → ∀ x < source.width, ∀ y < source.height, ∀ c,
      ((image.get x y).channel c).toNat = ((source.get x y).channel c).toNat) ∧
    convertChannelOrder src image = .ok source

/-- Red and blue are to be exchanged, or are the same in each pixel of an image that has some. -/
def OrdersDiffer (dst : PixFormat) (source : Image src) : Prop :=
  0 < source.width ∧ 0 < source.height ∧ (dst.channelOrder ≠ src.channelOrder ∨
    ∀ x < source.width, ∀ y < source.height, red (source.get x y) = blue (source.get x y))

end

/-!
## Samples inside the depth of their format

A sample may be wider than its format's bit depth says. An image is in depth when no sample is.
A conversion gives an alpha that is out of depth where it adds one to a format whose samples are
wider than its depth.
-/

def InDepth {p : PixFormat} (image : Image p) : Prop :=
  ∀ pixel ∈ image.cells, ∀ c, (pixel c).toNat < 2 ^ p.bitDepth

/-- An alpha channel is added, and its format is narrower than the underlying type. -/
def addsWideAlpha (src dst : PixFormat) : Bool :=
  dst.channels = 4 && src.channels ≠ 4 && dst.bitDepth < dst.sampleBits

/-- The conversion gives an image of the same extent that is in depth. -/
def CastsInDepth (doubles : Doubles) (src dst : PixFormat) (source : Image src) : Prop :=
  ∃ image, castData.image doubles src dst source = .ok image ∧ image.width = source.width ∧
    image.height = source.height ∧ InDepth image

/-!
## The mean of three colours

Of the colours of a pixel the mean is taken over the integers and rounded down, and then adjusted to
the depth of the destination.
-/

section

variable {src : PixFormat} (pixel : Pixel src)

def colourSum : Nat :=
  (pixel.channel 0).toNat + (pixel.channel 1).toNat + (pixel.channel 2).toNat

def colourMean : Nat := colourSum pixel / 3

/-- The mono sample of a pixel. At equal depth it lies among the colours, and is the colour of a
grey pixel. -/
structure IsMono (doubles : Doubles) (dst : PixFormat) (sample : Sample dst) : Prop where
  equal : src.bitDepth = dst.bitDepth → sample.toNat = colourMean pixel ∧
    min (min (pixel.channel 0).toNat (pixel.channel 1).toNat) (pixel.channel 2).toNat ≤
      sample.toNat ∧
    sample.toNat ≤
      max (max (pixel.channel 0).toNat (pixel.channel 1).toNat) (pixel.channel 2).toNat ∧
    (pixel.channel 0 = pixel.channel 1 → pixel.channel 1 = pixel.channel 2 →
      sample.toNat = (pixel.channel 0).toNat)
  reduced : dst.bitDepth < src.bitDepth →
    sample.toNat = colourMean pixel >>> (src.bitDepth - dst.bitDepth)
  expanded : src.bitDepth < dst.bitDepth →
    sample = doubles.expand src dst (BitVec.ofNat src.sampleBits (colourMean pixel))

/-- The sum fits 64 bits and, where the depth is reduced, the mean fits the destination. -/
def MeanFits (dst : PixFormat) : Prop :=
  colourSum pixel < 2 ^ 64 ∧ (dst.bitDepth < src.bitDepth →
    colourMean pixel >>> (src.bitDepth - dst.bitDepth) < 2 ^ dst.sampleBits)

end

/-- The conversion gives the mono image of the same extent. -/
def CastsToMono (doubles : Doubles) (src dst : PixFormat) (source : Image src) : Prop :=
  ∃ image, castData.image doubles src dst source = .ok image ∧ image.width = source.width ∧
    image.height = source.height ∧ ∀ x < source.width, ∀ y < source.height,
      IsMono (source.get x y) doubles dst ((image.get x y).channel 0)

/-!
## Orientations as symmetries, averages as means

An orientation denotes an element of the dihedral group, and several of them one after another the
product. The average of images is exact when each of its samples is the mean of theirs, rounded to
nearest.
-/

section

open WSE.Framework

/-! ### Orientation -/

def symmetry : ImageOrientation → DihedralGroup 4
  | .none => 1
  | .rotate90CW => quarterTurn
  | .rotate180 => halfTurn
  | .rotate90CCW => threeQuarterTurn
  | .flipHorizontal => mirrorAcross
  | .flipVertical => mirrorDown

/-- The symmetry of orientations that are applied in the order of the list. -/
def denotes : List ImageOrientation → DihedralGroup 4
  | [] => 1
  | orientation :: orientations => denotes orientations * symmetry orientation

def inverse : ImageOrientation → ImageOrientation
  | .rotate90CW => .rotate90CCW
  | .rotate90CCW => .rotate90CW
  | orientation => orientation

/-- The orientations, each applied to what the one before it gives. -/
def applyAll {p : PixFormat} (source : Image p) :
    List ImageOrientation → Except String (Image p)
  | [] => .ok source
  | orientation :: orientations => do
    let target ← applyOrientation source orientation
    applyAll target orientations

/-- The pixels of the source, each at the place of the target that the orientation takes it to. -/
structure Moves {p : PixFormat} (source target : Image p) (orientation : ImageOrientation) :
    Prop where
  extent : (target.width, target.height) =
    orientedExtent source.width source.height orientation
  bijective : Set.BijOn
    (fun at_ => orientedPlace source.width source.height orientation at_.1 at_.2)
    {at_ : Nat × Nat | at_.1 < source.width ∧ at_.2 < source.height}
    {at_ | at_.1 < target.width ∧ at_.2 < target.height}
  pixels : ∀ x < source.width, ∀ y < source.height,
    let place := orientedPlace source.width source.height orientation x y
    target.get place.1 place.2 = source.get x y

/-! ### Averages -/

/-- The mean, rounded to nearest. -/
def roundedMean (samples : List Nat) : Nat :=
  (samples.sum + samples.length / 2) / samples.length

/-- The samples of the images at a place. -/
def samplesAt {p : PixFormat} (sources : List (Image p)) (x y : Nat) (c : Fin p.channels) :
    List Nat :=
  sources.map fun source => (source.get x y c).toNat

/-- Images of one extent, at least one, none of them empty. -/
structure OneLayout {p : PixFormat} (sources : List (Image p)) (width height : Nat) : Prop where
  nonempty : sources ≠ []
  width_pos : 0 < width
  height_pos : 0 < height
  widths : ∀ source ∈ sources, source.width = width
  heights : ∀ source ∈ sources, source.height = height

structure ExactMean {p : PixFormat} (sources : List (Image p)) (target : Image p)
    (w h : Nat) : Prop where
  width : target.width = w
  height : target.height = h
  samples : ∀ x < w, ∀ y < h, ∀ c,
    (target.get x y c).toNat = roundedMean (samplesAt sources x y c)

/-- No sum of samples, with half the number of images added for the rounding, leaves the type of
the sums. -/
def SumsFit {p : PixFormat} (sources : List (Image p)) (width height : Nat) : Prop :=
  ∀ x < width, ∀ y < height, ∀ c,
    (samplesAt sources x y c).sum + sources.length / 2 < 2 ^ accumulatorBits p

end

/-!
## What holds of interleaved views

A check that does not fail has not wrapped, and an operation that does not fail has stayed inside
the accessible bytes. The rows of a layout are the effective stride apart; what is not in a row is
padding.
-/

section

open WSE.Framework

def rowStride (p : PixFormat) (l : InterleavedLayout) : Nat :=
  if l.rowStride.toNat ≠ 0 then l.rowStride.toNat else l.width.toNat * p.pixelBytes

/-- The byte is in a row of pixels. -/
def InRow (p : PixFormat) (l : InterleavedLayout) (i : Nat) : Prop :=
  ∃ y < l.height.toNat,
    y * rowStride p l ≤ i ∧ i < y * rowStride p l + l.width.toNat * p.pixelBytes

/-- Neither the checks nor the operations on what they accept wrap a size or leave the buffer. -/
structure StaysInside (littleEndian : Bool) (p : PixFormat) : Prop where
  view_checked : ∀ v, (isInterleavedViewValid p v).isSome = true
  target_checked : ∀ t, (isInterleavedTargetValid p t).isSome = true
  view : ∀ v, isInterleavedViewValid p v = some true →
    ∃ image, makeImageFromInterleaved littleEndian p v = some (.ok image)
  target : ∀ t, isInterleavedTargetValid p t = some true → ∀ image : Image p,
    (writeImageToInterleaved littleEndian t image).isSome = true

/-- Writing an image and making one from the same layout gives the image again. -/
def RoundTrips (littleEndian : Bool) (p : PixFormat) : Prop :=
  ∀ t, isInterleavedTargetValid p t = some true → ∀ image : Image p,
    image.width = t.width.toNat → image.height = t.height.toNat →
    ∃ written, writeImageToInterleaved littleEndian t image = some (true, some written) ∧
      makeImageFromInterleaved littleEndian p { t with data := some written } = some (.ok image)

/-- What is not in a row is not modified. -/
def KeepsPadding (littleEndian : Bool) (p : PixFormat) : Prop :=
  ∀ t m, t.data = some m → ∀ (image : Image p) r written,
    writeImageToInterleaved littleEndian t image = some (r, some written) →
    ∀ i, ¬ InRow p t.toInterleavedLayout i → written i = m i

/-- A refused write modifies nothing. -/
def RefusalKeeps (littleEndian : Bool) (p : PixFormat) : Prop :=
  ∀ t (image : Image p) data,
    writeImageToInterleaved littleEndian t image = some (false, data) → data = t.data

/-- The two branches of the code define one byte layout. -/
def SameLayout (p : PixFormat) : Prop :=
  (∀ v, makeImageFromInterleaved true p v = makeImageFromInterleaved false p v) ∧
    ∀ t (image : Image p),
      writeImageToInterleaved true t image = writeImageToInterleaved false t image

end

end WSE.Spec.Wse
