import WapitiStew.Proof.Tmr.FrameImages
import WapitiStew.Proof.Wse.ImageDemosaic

/-!
# What frame operations use of the core is the core's

The frame operations have interleaved views and demosaicing over plain samples. These are the
functions of the core, at its own images: `makeImage_core` for views, `demosaic_core` for mosaics
of 16 bits, whose sums never wrap. So are the results for frames (`convertFrameToImage_core`,
`demosaicFrame_core`).
-/

namespace WSE.Proof.Tmr

open WSE.Framework WSE.Impl WSE.Impl.Tmr WSE.Spec.Tmr WSE.Proof.Wse

/-! ## Interleaved views -/

section Views

variable (p : PixFormat)

/-- A view of a frame, as the core has it. -/
def coreView (v : InterleavedView) : Wse.InterleavedView where
  width := UInt64.ofNat v.width
  height := UInt64.ofNat v.height
  rowStride := UInt64.ofNat v.rowStride
  accessibleBytes := UInt64.ofNat v.accessibleBytes
  data := if v.data.isEmpty then none else some fun i => v.data.getD i 0

/-- The sizes of a view are of `std::size_t`. -/
structure SizesFit (v : InterleavedView) : Prop where
  width : v.width < 2 ^ 64
  height : v.height < 2 ^ 64
  rowStride : v.rowStride < 2 ^ 64
  accessibleBytes : v.accessibleBytes < 2 ^ 64

theorem layoutValid_core (l : Wse.InterleavedLayout) :
    Wse.isInterleavedLayoutValid p.core l = some (isInterleavedLayoutValid p l.width.toNat
      l.height.toNat l.rowStride.toNat l.accessibleBytes.toNat) := by
  have hmax : Wse.sizeMax = sizeMax := rfl
  unfold Wse.isInterleavedLayoutValid isInterleavedLayoutValid
  rw [← core_pixelBytes, hmax]
  dsimp only
  split
  · rfl
  split
  · rfl
  rename_i hempty hw
  simp only [Bool.or_eq_true, decide_eq_true_eq, not_or] at hempty
  have hrow : l.width.toNat * p.core.pixelBytes ≤ sizeMax :=
    (Nat.le_div_iff_mul_le p.core.pixelBytes_pos).mp (Nat.not_lt.mp hw)
  have hpos : 0 < l.width.toNat * p.core.pixelBytes :=
    Nat.mul_pos (by omega) p.core.pixelBytes_pos
  rw [mul64_eq (sizeMax_lt hrow), Option.bind_eq_bind, Option.bind_some]
  generalize hstride : (if l.rowStride.toNat ≠ 0 then l.rowStride.toNat
    else l.width.toNat * p.core.pixelBytes) = stride
  split
  · rfl
  split
  · rfl
  rename_i hwide htall
  have hrows : l.height.toNat * stride ≤ sizeMax :=
    (Nat.le_div_iff_mul_le (by omega)).mp (Nat.not_lt.mp htall)
  have hspan : (l.height.toNat - 1) * stride ≤ sizeMax :=
    Nat.le_trans (Nat.mul_le_mul_right _ (Nat.sub_le _ _)) hrows
  rw [mul64_eq (sizeMax_lt hspan), Option.bind_some]
  split
  · rfl
  rename_i hsize
  have hsize : (l.height.toNat - 1) * stride + l.width.toNat * p.core.pixelBytes ≤ sizeMax := by
    have : ¬_ > sizeMax - _ := hsize
    omega
  rw [add64_eq (sizeMax_lt hsize), Option.bind_some]

variable {v : InterleavedView}

theorem viewValid_core (h : SizesFit v) :
    Wse.isInterleavedViewValid p.core (coreView v) = some (isInterleavedViewValid p v) := by
  have hlayout := layoutValid_core p (coreView v).toInterleavedLayout
  simp only [coreView, UInt64.toNat_ofNat_of_lt' h.width, UInt64.toNat_ofNat_of_lt' h.height,
    UInt64.toNat_ofNat_of_lt' h.rowStride, UInt64.toNat_ofNat_of_lt' h.accessibleBytes] at hlayout
  unfold Wse.isInterleavedViewValid isInterleavedViewValid coreView
  cases hempty : v.data.isEmpty with
  | true => rfl
  | false => exact hlayout

/-- The two make one image of a valid view. -/
theorem makeImage_core (littleEndian : Bool) (h : SizesFit v)
    (hv : isInterleavedViewValid p v = true) :
    ∃ image, Wse.makeImageFromInterleaved littleEndian p.core (coreView v) = some (.ok image) ∧
      makeImageFromInterleaved p v = ofCore image := by
  have hvalid : Wse.isInterleavedViewValid p.core (coreView v) = some true :=
    hv ▸ viewValid_core p h
  have hdata : (coreView v).data = some fun i => v.data.getD i 0 := by
    rw [isInterleavedViewValid, Bool.and_eq_true, Bool.not_eq_true'] at hv
    exact if_neg (by rw [hv.1]; exact Bool.false_ne_true)
  have hw : (coreView v).width.toNat = v.width := UInt64.toNat_ofNat_of_lt' h.width
  have hh : (coreView v).height.toNat = v.height := UInt64.toNat_ofNat_of_lt' h.height
  have hstride : interleavedRowStride p v.width v.rowStride =
      Spec.Wse.rowStride p.core (coreView v).toInterleavedLayout := by
    have hs : (coreView v).rowStride.toNat = v.rowStride := UInt64.toNat_ofNat_of_lt' h.rowStride
    rw [interleavedRowStride, Spec.Wse.rowStride, hs, hw, core_pixelBytes]
  refine ⟨_, makeImage_eq littleEndian hvalid hdata, ?_⟩
  rw [hw, hh, ← hstride]
  unfold makeImageFromInterleaved ofCore
  show Image.mk _ _ _ = Image.mk _ _ _
  congr 1
  refine List.map_congr_left fun y hy => List.map_congr_left fun x hx => ?_
  have hx : x < v.width := List.mem_range.mp hx
  have hy : y < v.height := List.mem_range.mp hy
  rw [Grid.get_ofFn _ hx hy, pixelOf_small (.inr (core_small p)), core_channels]
  refine List.map_congr_left fun c hc => ?_
  have hc : c < p.core.channels := core_channels p ▸ List.mem_range.mp hc
  rw [interleavedSample_eq, channel_ofBytes false _ hc]
  congr 1
  refine List.map_congr_left fun k _ => ?_
  rw [← core_channels, ← core_sampleSize, sample_place, Nat.add_assoc, Nat.add_assoc]

/-- A valid frame becomes the image that the core makes of it. -/
theorem convertFrameToImage_core (littleEndian : Bool) (images : Images) {f : CameraFrame}
    (hf : f.valid = true) (hp : coreFormatOf f.description.pixelFormat = some p)
    (hstride : f.description.rowStride < 2 ^ 64) (hdata : f.data.length < 2 ^ 64) :
    ∃ image, Wse.makeImageFromInterleaved littleEndian p.core
        (coreView ⟨f.data, f.width, f.height, f.description.rowStride, f.data.length⟩) =
          some (.ok image) ∧
      convertFrameToImage images p f = if images f.width f.height then .ok (ofCore image)
        else .error imageExhausted := by
  have hw : f.width < 2 ^ 64 := Nat.lt_trans f.description.width.toNat_lt (by decide)
  have hh : f.height < 2 ^ 64 := Nat.lt_trans f.description.height.toNat_lt (by decide)
  obtain ⟨image, hmake, himage⟩ :=
    makeImage_core p littleEndian ⟨hw, hh, hstride, hdata⟩ (view_valid hf hp)
  exact ⟨image, hmake, by rw [convertFrameToImage_eq images hf hp, himage]⟩

end Views

/-! ## Mosaics -/

def corePattern : BayerPattern → Wse.BayerPattern
  | .rggb => .rggb
  | .bggr => .bggr
  | .grbg => .grbg
  | .gbrg => .gbrg

def coreMethod : DemosaicMethod → Wse.DemosaicMethod
  | .block2x2 => .block2x2
  | .bilinear => .bilinear

def coreOrder : ColorChannelOrder → Wse.ColorChannelOrder
  | .rgb => .rgb
  | .bgr => .bgr

/-- The image that is demosaiced. -/
def mosaicImage (source : Nat → Nat → Nat) (width height : Nat) : Wse.Image .ch1d16 :=
  Grid.ofFn width height fun x y => .ofFn fun _ => BitVec.ofNat _ (source y x)

section Mosaics

variable {source : Nat → Nat → Nat} {width height : Nat} {pattern : BayerPattern}
  {colors : Fin 4 → Fin 3}

theorem colorAt_core (h : Wse.bayerBlockColors (corePattern pattern) = .ok colors) (y x : Nat) :
    colorAt pattern y x = (Wse.colorAt colors x y).val := by
  obtain hx | hx := Nat.mod_two_eq_zero_or_one x <;>
    obtain hy | hy := Nat.mod_two_eq_zero_or_one y <;>
    rw [colorAt_of hx hy (by decide), colorAt, hx, hy] <;>
    cases pattern <;> cases h <;> rfl

theorem sample_mosaicImage (hs : ∀ y x, source y x < 2 ^ 16) {p : Nat × Nat} (hx : p.1 < width)
    (hy : p.2 < height) : Spec.Wse.sample (mosaicImage source width height) p = source p.2 p.1 := by
  rw [Spec.Wse.sample, mosaicImage, Grid.get_ofFn _ hx hy]
  exact Nat.mod_eq_of_lt (hs p.2 p.1)

/-- The samples of a window are those at its places. -/
theorem samplesOf_core (hs : ∀ y x, source y x < 2 ^ 16)
    (h : Wse.bayerBlockColors (corePattern pattern) = .ok colors) (color : Fin 3)
    {rows columns : List Nat}
    (hr : ∀ y ∈ rows, y < height) (hc : ∀ x ∈ columns, x < width) :
    samplesOf source pattern color rows columns =
      (ofColor colors color (Wse.windowPlaces columns rows)).map
        (Spec.Wse.sample (mosaicImage source width height)) := by
  rw [samplesOf, ofColor, Wse.windowPlaces, List.filter_flatMap, List.map_flatMap]
  refine List.flatMap_congr fun y hy => ?_
  rw [List.filter_map, List.map_map]
  have hcolor : columns.filter (fun x => colorAt pattern y x = color) =
      columns.filter
        ((fun p => decide (Wse.colorAt colors p.1 p.2 = color)) ∘ fun x => (x, y)) := by
    refine List.filter_congr fun x _ => ?_
    rw [colorAt_core h]
    exact decide_eq_decide.mpr Fin.val_inj
  rw [hcolor]
  refine List.map_congr_left fun x hx => ?_
  have hx := hc x (List.mem_filter.mp hx).1
  exact (sample_mosaicImage hs (p := (x, y)) hx (hr y hy)).symm

theorem blockStart_core (size position : Nat) :
    Impl.Tmr.blockStart size position = Proof.Wse.blockStart size (2 * (position / 2)) := by
  have hstart : position - position % 2 = 2 * (position / 2) := by omega
  rw [Impl.Tmr.blockStart, hstart]
  rfl

theorem corePattern_named (pattern : BayerPattern) (value : UInt8) :
    corePattern pattern ≠ .other value := by
  cases pattern <;> intro h <;> cases h

variable (source) in
theorem mosaic_core (hw : 2 ≤ width) (hh : 2 ≤ height) (pattern : BayerPattern) :
    Spec.Wse.Mosaic .ch3d16 (mosaicImage source width height) (corePattern pattern) :=
  ⟨rfl, rfl, rfl, hw, hh, corePattern_named pattern⟩

section Pixels

variable {x y : Nat} (hs : ∀ y x, source y x < 2 ^ 16)
  (hc : Wse.bayerBlockColors (corePattern pattern) = .ok colors) (hx : x < width) (hy : y < height)
include hs hc hx hy

/-- The mean of the neighbours is the core's, since its sums fit. -/
theorem bilinear_core (color : Fin 3) :
    (bilinearColors .ch3d16 (mosaicImage source width height) (corePattern pattern) x y
        color).toNat = demosaic source width height pattern .bilinear y x color := by
  have hfits : Spec.Wse.BilinearSumsFit (mosaicImage source width height) (corePattern pattern)
      .bilinear := sumsFit_of_narrow (by decide) (corePattern_named pattern) .bilinear
  have hfits := hfits.resolve_left (by decide) x hx y hy color
  have hx' : x < (mosaicImage source width height).width := hx
  have hsum := sum_neighbourhood hc hx' hy color
  have hcard := card_neighbourhood hc hx' hy color
  rw [demosaic, samplesOf_core hs hc color (neighbours_lt hy) (neighbours_lt hx), List.length_map,
    bilinearColors, BitVec.toNat_ofNat, Nat.mod_eq_of_lt hfits, Spec.Wse.roundedSum, hsum, hcard]
  rfl

/-- The first sample of a colour in its block is the core's. -/
theorem block_core (hw : 2 ≤ width) (hh : 2 ≤ height) (color : Fin 3) :
    (blockColors .ch3d16 colors (mosaicImage source width height) x y color).toNat =
      demosaic source width height pattern .block2x2 y x color := by
  have hcolumn : Proof.Wse.blockStart width (2 * (x / 2)) + 1 < width :=
    Proof.Wse.blockStart_lt hw (by omega)
  have hrow : Proof.Wse.blockStart height (2 * (y / 2)) + 1 < height :=
    Proof.Wse.blockStart_lt hh (by omega)
  have hcolumn' : Proof.Wse.blockStart width (2 * (x / 2)) + 1 <
      (mosaicImage source width height).width := hcolumn
  obtain ⟨b, hb, hfirst⟩ := blockSamples_first hc hcolumn' hrow
  obtain ⟨p, hp, hsample⟩ := hfirst color
  have hpair {start size : Nat} (h : start + 1 < size) : ∀ i ∈ [start, start + 1], i < size := by
    simp only [List.mem_cons, List.not_mem_nil, or_false]
    omega
  rw [demosaic, blockStart_core, blockStart_core,
    samplesOf_core hs hc color (hpair hrow) (hpair hcolumn), List.headD_eq_head?_getD,
    List.head?_map, hp, blockColors]
  change (BitVec.setWidth 16 (((Wse.blockSamples colors (mosaicImage source width height)
    (Proof.Wse.blockStart width (2 * (x / 2)))
    (Proof.Wse.blockStart height (2 * (y / 2)))).getD {}).block color)).toNat =
    Spec.Wse.sample _ p
  rw [hb, BitVec.toNat_setWidth, ← hsample]
  exact Nat.mod_eq_of_lt (b.block color).isLt

end Pixels

/-- A colour of a pixel is that of the core's image. -/
theorem demosaic_core (hs : ∀ y x, source y x < 2 ^ 16) (hw : 2 ≤ width) (hh : 2 ≤ height)
    (pattern : BayerPattern) (order : ColorChannelOrder) (method : DemosaicMethod) :
    ∃ image : Wse.Image .ch3d16, Wse.demosaic .ch3d16 (mosaicImage source width height)
        (corePattern pattern) (coreOrder order) (coreMethod method) = some (.ok image) ∧
      image.width = width ∧ image.height = height ∧
      ∀ x < width, ∀ y < height, ∀ color : Fin 3,
        ((image.get x y).channel (colorChannel color order)).toNat =
          demosaic source width height pattern method y x color := by
  have hm := mosaic_core source hw hh pattern
  obtain ⟨colors, hc⟩ := colors_of_named (corePattern_named pattern)
  have hchannel (color : Fin 3) : colorChannel color order =
      Spec.Wse.channelOf (coreOrder order) color := by cases order <;> rfl
  cases method with
  | bilinear =>
    obtain ⟨image, hrun, hiw, hih, hcells⟩ := bilinear_foldlM hm hc (coreOrder order)
    refine ⟨image, ?_, hiw, hih, fun x hx y hy color => ?_⟩
    · show Wse.demosaic _ _ _ _ .bilinear = _
      rw [Wse.demosaic, if_neg (not_small hm), hc]
      simp only [hrun]
      rfl
    rw [hcells x hx y hy, hchannel, colorPixel_channel rfl]
    exact bilinear_core hs hc hx hy color
  | block2x2 =>
    obtain ⟨image, hrun, hiw, hih, hcells⟩ := block_image hm hc (coreOrder order)
    refine ⟨image, ?_, hiw, hih, fun x hx y hy color => ?_⟩
    · show Wse.demosaic _ _ _ _ .block2x2 = _
      rw [Wse.demosaic, if_neg (not_small hm), hc]
      simp only [hrun]
      rfl
    rw [hcells x hx y hy, hchannel, colorPixel_channel rfl]
    exact block_core hs hc hx hy hw hh color

theorem bayerSample_lt (f : CameraFrame) (row column : Nat) :
    bayerSample f row column < 2 ^ 16 := by
  have hlow := (f.lineByte row (column * 2 % 2 ^ 32)).toNat_lt
  have hhigh := (f.lineByte row ((column * 2 + 1) % 2 ^ 32)).toNat_lt
  exact Nat.or_lt_two_pow (by omega) (by rw [Nat.shiftLeft_eq]; omega)

/-- A Bayer frame becomes the frame of the image that the core makes of its samples. -/
theorem demosaicFrame_core (images : Images) {f : CameraFrame} (hf : f.valid = true)
    (hp : bayerPatternOf f.description.pixelFormat = some pattern)
    (hw : 2 ≤ f.width) (hh : 2 ≤ f.height) (himages : images f.width f.height = true)
    {outputFormat : CameraPixelFormat} {order : ColorChannelOrder} {wide : Bool}
    (ho : demosaicOutput outputFormat = some (order, wide)) (method : DemosaicMethod) :
    ∃ image : Wse.Image .ch3d16, Wse.demosaic .ch3d16
        (mosaicImage (bayerSample f) f.width f.height) (corePattern pattern) (coreOrder order)
        (coreMethod method) = some (.ok image) ∧
      (demosaicFrame images f outputFormat method).map (Except.map CameraFrame.data) =
        some (.ok ((List.range f.height).flatMap fun row =>
          colourLine wide (fun column channel => ((image.get column row).channel channel).toNat)
            f.width (f.width * 3 * if wide then 2 else 1))) := by
  obtain ⟨image, hrun, -, -, hcells⟩ :=
    demosaic_core (bayerSample_lt f) hw hh pattern order method
  refine ⟨image, hrun, ?_⟩
  have hsize : ¬(f.width < 2 || f.height < 2) = true := by
    simp only [Bool.or_eq_true, decide_eq_true_eq]
    omega
  unfold demosaicFrame
  rw [hp, hf, ho]
  dsimp only
  rw [if_neg (by decide), if_neg hsize, himages, if_neg (by decide)]
  refine congrArg (fun data => some (Except.ok data)) ?_
  refine List.flatMap_congr fun row hr => colourLine_congr fun column hc channel hl => ?_
  -- the colour of a channel is in that channel
  obtain ⟨hcolor, hback⟩ : colorChannel channel order < 3 ∧
      colorChannel (colorChannel channel order) order = channel := by
    cases order with
    | rgb => exact ⟨hl, rfl⟩
    | bgr =>
      show 2 - channel < 3 ∧ 2 - (2 - channel) = channel
      omega
  have hcell := hcells column hc row (List.mem_range.mp hr) ⟨_, hcolor⟩
  rw [← hcell]
  exact congrArg (fun c => ((image.get column row).channel c).toNat) hback

end Mosaics

end WSE.Proof.Tmr
