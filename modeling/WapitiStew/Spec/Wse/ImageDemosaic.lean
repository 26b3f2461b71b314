import Mathlib.Algebra.BigOperators.Group.Finset.Basic
import Mathlib.Algebra.BigOperators.Group.Finset.Defs
import Mathlib.Data.Finset.Prod
import WapitiStew.Impl.Wse.ImageDemosaic

/-!
# Colours of a mosaic

A pattern says where the first red sample is. A sample whose column and row both have the parity of
that place is red, one whose column and row both have the other is blue, and the rest are green.
Bilinear demosaicing is to give each pixel the rounded means of the samples of each colour around
it, and block demosaicing samples of its block.
-/

namespace WSE.Spec.Wse

open WSE.Impl.Wse

/-- The column and the row of the first red sample. -/
def firstRed : BayerPattern → Nat × Nat
  | .bggr => (1, 1)
  | .grbg => (1, 0)
  | .gbrg => (0, 1)
  | _ => (0, 0)

def sensorColor (pattern : BayerPattern) (x y : Nat) : Fin 3 :=
  if x % 2 = (firstRed pattern).1 ∧ y % 2 = (firstRed pattern).2 then redColor
  else if x % 2 ≠ (firstRed pattern).1 ∧ y % 2 ≠ (firstRed pattern).2 then blueColor
  else greenColor

section

variable {src : PixFormat} (source : Image src) (pattern : BayerPattern)

def sample (p : Nat × Nat) : Nat := ((source.get p.1 p.2).channel 0).toNat

/-- The samples of a colour in the three-by-three neighbourhood of a place. -/
def neighbourhood (color : Fin 3) (x y : Nat) : Finset (Nat × Nat) :=
  (Finset.range source.width ×ˢ Finset.range source.height).filter fun p =>
    p.1 ≤ x + 1 ∧ x ≤ p.1 + 1 ∧ p.2 ≤ y + 1 ∧ y ≤ p.2 + 1 ∧ sensorColor pattern p.1 p.2 = color

/-- What is divided by the number of the samples, to round to the nearest mean. -/
def roundedSum (color : Fin 3) (x y : Nat) : Nat :=
  (neighbourhood source pattern color x y).sum (sample source) +
    (neighbourhood source pattern color x y).card / 2

/-- A component of a bilinear pixel; it lies between the samples that it is the mean of. -/
structure IsMean (color : Fin 3) (x y value : Nat) : Prop where
  mean : value = roundedSum source pattern color x y /
    (neighbourhood source pattern color x y).card
  nonempty : (neighbourhood source pattern color x y).Nonempty
  lower : ∀ bound, (∀ p ∈ neighbourhood source pattern color x y, bound ≤ sample source p) →
    bound ≤ value
  upper : ∀ bound, (∀ p ∈ neighbourhood source pattern color x y, sample source p ≤ bound) →
    value ≤ bound

/-- A component of a block pixel. -/
def IsBlockSample (color : Fin 3) (x y value : Nat) : Prop :=
  ∃ dx < 2, ∃ dy < 2,
    let p := (min (2 * (x / 2)) (source.width - 2) + dx, min (2 * (y / 2)) (source.height - 2) + dy)
    sensorColor pattern p.1 p.2 = color ∧ value = sample source p

end

/-- The channel of a colour. -/
def channelOf (order : ColorChannelOrder) (color : Fin 3) : Nat :=
  match order with
  | .rgb => color
  | .bgr => 2 - color

/-- Nothing outside an image is touched, and every pixel of the result is right. -/
def Demosaics {src : PixFormat} (dst : PixFormat) (source : Image src) (pattern : BayerPattern)
    (order : ColorChannelOrder) (method : DemosaicMethod) : Prop :=
  ∃ image : Image dst, demosaic dst source pattern order method = some (.ok image) ∧
    image.width = source.width ∧ image.height = source.height ∧
    ∀ x < source.width, ∀ y < source.height, ∀ color,
      let value := ((image.get x y).channel (channelOf order color)).toNat
      (method = .bilinear → IsMean source pattern color x y value) ∧
      (method = .block2x2 → IsBlockSample source pattern color x y value)

/-- No sum of a bilinear pixel exceeds 64 bits. -/
def BilinearSumsFit {src : PixFormat} (source : Image src) (pattern : BayerPattern)
    (method : DemosaicMethod) : Prop :=
  method = .block2x2 ∨ ∀ x < source.width, ∀ y < source.height, ∀ color,
    roundedSum source pattern color x y < 2 ^ 64

/-- What the header asks of the formats, the image and the pattern. -/
structure Mosaic {src : PixFormat} (dst : PixFormat) (source : Image src)
    (pattern : BayerPattern) : Prop where
  source_channels : src.channels = 1
  target_channels : dst.channels = 3
  sampleSize : dst.sampleSize = src.sampleSize
  width : 2 ≤ source.width
  height : 2 ≤ source.height
  pattern : ∀ value, pattern ≠ .other value

end WSE.Spec.Wse
