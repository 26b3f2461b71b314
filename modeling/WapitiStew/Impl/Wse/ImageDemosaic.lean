import Mathlib.Data.Fin.VecNotation
import WapitiStew.Impl.Wse.Pixel

/-!
# Demosaicing

`bayerBlockColors`, `colorChannel` and `demosaic` of `api/wse/data/wse_ImageDemosaic.h`, with its
loops. A result that is `none` stands for an access outside an image or a division by zero. Sums are
taken in `std::uint64_t`; a count is at most nine.
-/

namespace WSE.Impl.Wse

open WSE.Framework

/-- `eBayerPattern`. -/
inductive BayerPattern
  | rggb | bggr | grbg | gbrg
  /-- A value that no enumerator names. -/
  | other (value : UInt8)
  deriving DecidableEq

/-- `eDemosaicMethod`; every other value is bilinear. -/
inductive DemosaicMethod
  | block2x2 | bilinear
  deriving DecidableEq

def redColor : Fin 3 := 0

def greenColor : Fin 3 := 1

def blueColor : Fin 3 := 2

/-- The colours of a two-by-two block: 0 is red, 1 is green, 2 is blue. -/
def bayerBlockColors : BayerPattern → Except String (Fin 4 → Fin 3)
  | .rggb => .ok ![0, 1, 1, 2]
  | .bggr => .ok ![2, 1, 1, 0]
  | .grbg => .ok ![1, 0, 2, 1]
  | .gbrg => .ok ![1, 2, 0, 1]
  | .other _ => .error "unknown Bayer pattern"

def colorChannel (color : Fin 3) (order : ColorChannelOrder) : Nat :=
  if order = .rgb then color else 2 - color

/-- `color_at`. -/
def colorAt (colors : Fin 4 → Fin 3) (x y : Nat) : Fin 3 :=
  colors ⟨y % 2 * 2 + x % 2, by omega⟩

/-- The places of a loop over rows and, in each row, over columns, in their order. -/
def windowPlaces (columns rows : List Nat) : List (Nat × Nat) :=
  rows.flatMap fun y => columns.map fun x => (x, y)

section

variable {src dst : PixFormat}

/-- `source_in[ y ][ x ][ 0 ]`. -/
def rawSample (source : Image src) (x y : Nat) : Option (Sample src) :=
  if x < source.width ∧ y < source.height then some ((source.get x y).channel 0) else none

/-- `target[ y ][ x ][ channel ] = value`. -/
def writeComponent (target : Image dst) (x y channel : Nat) (value : Sample dst) :
    Option (Image dst) :=
  if x < target.width ∧ y < target.height ∧ channel < dst.channels then
    some (target.write x y (.ofFn fun c => if c.val = channel then value else target.get x y c))
  else none

/-- The loop over the three colours of a pixel. -/
def writeColors (order : ColorChannelOrder) (value : Fin 3 → Option (Sample dst)) (x y : Nat)
    (target : Image dst) : Option (Image dst) :=
  [0, 1, 2].foldlM (fun t color => do
    writeComponent t x y (colorChannel color order) (← value color)) target

/-! ## Block mode -/

/-- The samples of a block, and how many of each colour it has so far. -/
structure Block (src : PixFormat) where
  block : Fin 3 → Sample src := fun _ => 0
  count : Fin 3 → Nat := fun _ => 0

/-- Of a colour that a block has twice, the first sample is taken. -/
def Block.add (colors : Fin 4 → Fin 3) (source : Image src) (b : Block src) (p : Nat × Nat) :
    Option (Block src) := do
  let color := colorAt colors p.1 p.2
  let block ← if b.count color = 0 then do
      let sample ← rawSample source p.1 p.2
      pure (Function.update b.block color sample)
    else pure b.block
  return { block, count := Function.update b.count color (b.count color + 1) }

def blockSamples (colors : Fin 4 → Fin 3) (source : Image src) (blockX blockY : Nat) :
    Option (Block src) :=
  (windowPlaces [blockX, blockX + 1] [blockY, blockY + 1]).foldlM (Block.add colors source) {}

/-- The pixels of a block, those of them that the image has. -/
def blockPixels (target : Image dst) (x y : Nat) : List (Nat × Nat) :=
  windowPlaces ([x, x + 1].filter (· < target.width)) ([y, y + 1].filter (· < target.height))

/-- A turn of the loop over the blocks; where the edge is odd, the block before is used. -/
def blockStep (colors : Fin 4 → Fin 3) (order : ColorChannelOrder) (source : Image src)
    (target : Image dst) (p : Nat × Nat) : Option (Image dst) := do
  let blockX := if p.1 + 1 < source.width then p.1 else p.1 - 1
  let blockY := if p.2 + 1 < source.height then p.2 else p.2 - 1
  let b ← blockSamples colors source blockX blockY
  (blockPixels target p.1 p.2).foldlM (fun t q =>
    writeColors order (fun color => some ((b.block color).setWidth dst.sampleBits)) q.1 q.2 t)
    target

/-- `0, 2, 4, ..` below a limit. -/
def evenPositions (limit : Nat) : List Nat := (List.range ((limit + 1) / 2)).map (2 * ·)

/-! ## Bilinear mode -/

/-- The sums and the numbers of the samples of each colour. -/
structure Tally where
  sum : Fin 3 → Nat := fun _ => 0
  count : Fin 3 → Nat := fun _ => 0

def Tally.add (colors : Fin 4 → Fin 3) (source : Image src) (t : Tally) (p : Nat × Nat) :
    Option Tally := do
  let color := colorAt colors p.1 p.2
  let sample ← rawSample source p.1 p.2
  return {
    sum := Function.update t.sum color ((t.sum color + sample.toNat) % 2 ^ 64)
    count := Function.update t.count color (t.count color + 1) }

/-- The positions from one before to one after. -/
def nearby (size position : Nat) : List Nat :=
  let first := if position = 0 then 0 else position - 1
  let last := if position + 1 < size then position + 1 else position
  List.range' first (last + 1 - first)

/-- `( sum + divisor / 2 ) / divisor`. -/
def bilinearMean (sum divisor : Nat) : Option Nat :=
  if divisor = 0 then none else some ((sum + divisor / 2) % 2 ^ 64 / divisor)

def bilinearStep (colors : Fin 4 → Fin 3) (order : ColorChannelOrder) (source : Image src)
    (target : Image dst) (p : Nat × Nat) : Option (Image dst) := do
  let t ← (windowPlaces (nearby source.width p.1) (nearby source.height p.2)).foldlM
    (Tally.add colors source) {}
  writeColors order (fun color =>
    (bilinearMean (t.sum color) (t.count color)).map (BitVec.ofNat dst.sampleBits)) p.1 p.2 target

end

def demosaic {src : PixFormat} (dst : PixFormat) (source : Image src) (pattern : BayerPattern)
    (order : ColorChannelOrder) (method : DemosaicMethod) : Option (Except String (Image dst)) :=
  if source.width < 2 || source.height < 2 then
    some (.error "demosaicing requires at least a 2x2 source")
  else
    match bayerBlockColors pattern with
    | .error e => some (.error e)
    | .ok colors => do
      let target := blank dst source.width source.height
      match method with
      | .block2x2 =>
        let target ← (windowPlaces (evenPositions source.width)
          (evenPositions source.height)).foldlM (blockStep colors order source) target
        return .ok target
      | .bilinear =>
        let target ← (places source.width source.height).foldlM (bilinearStep colors order source)
          target
        return .ok target

end WSE.Impl.Wse
