import WapitiStew.Impl.Wse.Image

/-!
# Orientation and averages of images

`orientedExtent`, `applyOrientation`, `ImageAccumulator` and `averageImages` of
`api/wse/data/wse_ImageTransform.h`. The sums of an accumulator are in the order of its running
index; they and the number of images wrap as their types do. A number of images whose divisor
wraps to 0 has no average in the source; here its samples are 0.
-/

namespace WSE.Impl.Wse

open WSE.Framework

/-! ## Orientation -/

inductive ImageOrientation
  | none | rotate90CW | rotate180 | rotate90CCW | flipHorizontal | flipVertical
  deriving DecidableEq

/-- The width and the height of the result. -/
def orientedExtent (width height : Nat) (orientation : ImageOrientation) : Nat × Nat :=
  let transposed := orientation = .rotate90CW || orientation = .rotate90CCW
  (if transposed then height else width, if transposed then width else height)

/-- `target_x` and `target_y` of a pixel of the source. -/
def orientedPlace (width height : Nat) (orientation : ImageOrientation) (x y : Nat) : Nat × Nat :=
  match orientation with
  | .none => (x, y)
  | .rotate90CW => (height - 1 - y, x)
  | .rotate180 => (width - 1 - x, height - 1 - y)
  | .rotate90CCW => (y, width - 1 - x)
  | .flipHorizontal => (width - 1 - x, y)
  | .flipVertical => (x, height - 1 - y)

def emptySource : String := "the source image must not be empty"

def applyOrientation {p : PixFormat} (source : Image p) (orientation : ImageOrientation) :
    Except String (Image p) :=
  if source.width = 0 || source.height = 0 then .error emptySource
  else
    let extent := orientedExtent source.width source.height orientation
    .ok ((blank p extent.1 extent.2).scatter
      (fun at_ => orientedPlace source.width source.height orientation at_.1 at_.2)
      (fun at_ => source.get at_.1 at_.2) (places source.width source.height))

/-! ## Averages -/

/-- The bits of `AccumulatorType`. -/
def accumulatorBits (p : PixFormat) : Nat := if p.sampleSize ≤ 2 then 32 else 64

/-- `ImageAccumulator`. -/
@[ext] structure ImageAccumulator (p : PixFormat) where
  sum : List (BitVec (accumulatorBits p)) := []
  count : Nat := 0
  width : Nat := 0
  height : Nat := 0
  fits : count ≠ 0 → sum.length = width * height * p.channels := by simp
  deriving DecidableEq

/-- The sample at a running index of an image. -/
def sampleAt {p : PixFormat} (image : Image p) (index : Nat) : Sample p :=
  (image.cells.getD (index / p.channels) default).channel (index % p.channels)

namespace ImageAccumulator

variable {p : PixFormat}

/-- The sums after an image is added to those before. -/
def added (sum : List (BitVec (accumulatorBits p))) (source : Image p) :
    List (BitVec (accumulatorBits p)) :=
  (List.range (source.width * source.height * p.channels)).map fun index =>
    sum.getD index 0 + (sampleAt source index).setWidth (accumulatorBits p)

theorem length_added (sum : List (BitVec (accumulatorBits p))) (source : Image p) :
    (added sum source).length = source.width * source.height * p.channels := by
  rw [added, List.length_map, List.length_range]

def differentSize : String := "every accumulated frame must share one size"

/-- The accumulator after a call, and what it throws. -/
def add (a : ImageAccumulator p) (source : Image p) : ImageAccumulator p × Except String Unit :=
  if source.width = 0 || source.height = 0 then (a, .error emptySource)
  else if a.count = 0 then
    ({ sum := added (List.replicate (source.width * source.height * p.channels) 0) source
       count := 1
       width := source.width
       height := source.height
       fits := fun _ => length_added _ _ }, .ok ())
  else if h : source.width ≠ a.width ∨ source.height ≠ a.height then
    (a, .error differentSize)
  else
    ({ a with
       sum := added a.sum source
       count := (a.count + 1) % 2 ^ 64
       fits := fun _ => by
        simp only [not_or, not_not] at h
        rw [length_added, h.1, h.2] }, .ok ())

def nothingAccumulated : String := "no frame has been accumulated"

def average (a : ImageAccumulator p) : Except String (Image p) :=
  if a.count = 0 then .error nothingAccumulated
  else
    let divisor := BitVec.ofNat (accumulatorBits p) a.count
    let bias := divisor / 2#(accumulatorBits p)
    .ok (Grid.ofFn a.width a.height fun x y => .ofFn fun c =>
      ((a.sum.getD ((y * a.width + x) * p.channels + c) 0 + bias) / divisor).setWidth p.sampleBits)

end ImageAccumulator

/-- The accumulator that the images are added to, or what the first refused one throws. -/
def accumulate {p : PixFormat} (a : ImageAccumulator p) :
    List (Image p) → Except String (ImageAccumulator p)
  | [] => .ok a
  | source :: sources =>
    match a.add source with
    | (a', .ok ()) => accumulate a' sources
    | (_, .error e) => .error e

def averageImages {p : PixFormat} (sources : List (Image p)) : Except String (Image p) :=
  match accumulate {} sources with
  | .ok a => a.average
  | .error e => .error e

end WSE.Impl.Wse
