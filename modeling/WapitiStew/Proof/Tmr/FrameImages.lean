import WapitiStew.Proof.Tmr.FrameRows
import WapitiStew.Proof.Wse.Image
import WapitiStew.Proof.Wse.ImageInterleaved
import WapitiStew.Spec.Tmr.CameraFrameOps

/-!
# The orientation of camera frames

The camera version packs the lines of a frame into an image (`lineImage`), turns it in the core and
packs the result (`applyOrientation_frame`, `frameImage_buildFrame`). Its pixels are those of the
frame turned exactly where the lines are the rows of pixels (`lineImage_eq_iff bigEndian`).
-/

namespace WSE.Proof.Tmr

open WSE.Framework WSE.Impl WSE.Impl.Tmr WSE.Spec.Tmr

section

open WSE.Proof.Wse (byte_ofBytes ofBytes_byte ofBytes_congr ofBytes_inj imageByte_get
  applyOrientation_eq)
open WSE.Spec.Wse (symmetry)

variable {bigEndian : Bool} {f : CameraFrame}

/-- The pixels of a frame, from its lines. -/
def lineImage (bigEndian : Bool) (p : Wse.PixFormat) (f : CameraFrame) : Wse.Image p :=
  Grid.ofFn f.width f.height fun x y =>
    .ofBytes bigEndian p fun k => f.lineByte y (x * p.pixelBytes + k)

theorem frameFormat_bytes {format : CameraPixelFormat} (h : format.channelCount ≠ 0) :
    (frameFormat format).pixelBytes = format.channelCount * format.bytesPerSample := by
  revert h
  cases format <;> decide

theorem frameFormat_stride {d : CameraFrameDescription} (h : d.pixelFormat.channelCount ≠ 0) :
    d.minimumRowStride = d.width.toNat * (frameFormat d.pixelFormat).pixelBytes := by
  rw [minimumRowStride_eq fun hn => h (by rw [hn]; rfl), bytesPerPixel_channels h,
    frameFormat_bytes h]

/-- A byte of a pixel is in its row. -/
theorem pixel_byte_lt {width x pb k : Nat} (hx : x < width) (hk : k < pb) :
    x * pb + k < width * pb := by
  have := Nat.mul_le_mul_right pb (Nat.succ_le_of_lt hx)
  rw [Nat.succ_mul] at this
  omega

theorem packRows_getD (f : CameraFrame) {rowBytes row k : Nat} (hr : row < f.height)
    (hk : k < rowBytes) : (packRows f rowBytes).getD (row * rowBytes + k) 0 = f.lineByte row k := by
  unfold packRows
  rw [List.getD_eq_getElem?_getD,
    getElem?_rows (fun _ _ => by rw [List.length_map, List.length_range]) hr hk, List.getElem?_map,
    List.getElem?_range hk]
  rfl

/-- The image that the packed rows are copied to. -/
theorem imageOfBytes_packRows (bigEndian : Bool) (p : Wse.PixFormat) (f : CameraFrame) :
    Wse.imageOfBytes bigEndian p f.width f.height
      (fun k => (packRows f (f.width * p.pixelBytes)).getD k 0) = lineImage bigEndian p f := by
  refine Grid.ext_get rfl rfl fun x hx y hy => ?_
  have hx : x < f.width := hx
  have hy : y < f.height := hy
  rw [WSE.Proof.Wse.get_imageOfBytes _ _ hx hy, lineImage, Grid.get_ofFn _ hx hy]
  refine ofBytes_congr bigEndian fun k hk => ?_
  rw [Nat.add_mul, Nat.mul_assoc, Nat.add_assoc, packRows_getD f hy (pixel_byte_lt hx hk)]

/-! ## The result -/

/-- The frame with the pixels of an image, in the format of another. -/
def builtFrame (bigEndian : Bool) (f : CameraFrame) {p : Wse.PixFormat} (image : Wse.Image p) :
    CameraFrame :=
  buildFrame f image.width image.height f.description.pixelFormat.channelCount
    ((List.range (image.width * image.height * p.pixelBytes)).map
      (Wse.imageByte bigEndian image))

theorem width_valid (h : f.valid = true) : f.width ≠ 0 := width_ne_zero (description_valid h)

theorem height_valid (h : f.valid = true) : f.height ≠ 0 := height_ne_zero (description_valid h)

theorem applyOrientation_frame (bigEndian : Bool) (hf : f.valid = true)
    (hc : f.description.pixelFormat.channelCount ≠ 0) (orientation : Wse.ImageOrientation) :
    applyOrientation bigEndian f orientation = .ok (.ok (builtFrame bigEndian f
      (symmetry orientation • lineImage bigEndian (frameFormat f.description.pixelFormat) f))) := by
  have hcheck : validateFrameForOrientation f =
      .ok f.description.pixelFormat.channelCount := by
    simp only [validateFrameForOrientation, hc, if_false, validateFrameData, hf, if_true]
    rfl
  have hrow : f.width * f.description.pixelFormat.channelCount *
      f.description.pixelFormat.bytesPerSample =
      f.width * (frameFormat f.description.pixelFormat).pixelBytes := by
    rw [frameFormat_bytes hc, Nat.mul_assoc]
  have hturn : Wse.applyOrientation (lineImage bigEndian (frameFormat f.description.pixelFormat) f)
      orientation = _ := applyOrientation_eq (width_valid hf) (height_valid hf) orientation
  have hextent := (WSE.Proof.Wse.moves_smul
    (lineImage bigEndian (frameFormat f.description.pixelFormat) f) orientation).extent
  change _ = Wse.orientedExtent f.width f.height orientation at hextent
  unfold applyOrientation
  rw [hcheck]
  dsimp only
  rw [hrow, ← hextent]
  show (Wse.applyOrientation (Wse.imageOfBytes bigEndian (frameFormat f.description.pixelFormat)
    f.width f.height _) orientation).map _ = _
  rw [imageOfBytes_packRows, hturn]
  rfl

section Built

variable (bigEndian)

variable {image : Wse.Image (frameFormat f.description.pixelFormat)}

/-- The extent of an image fits in the frame that it is built from. -/
structure FrameFits (f : CameraFrame) {p : Wse.PixFormat} (image : Wse.Image p) : Prop where
  width_pos : image.width ≠ 0
  height_pos : image.height ≠ 0
  width : image.width < 2 ^ 32
  height : image.height < 2 ^ 32
  size : image.width * p.pixelBytes * image.height ≤ sizeMax

theorem width_builtFrame (h : FrameFits f image) : (builtFrame bigEndian f image).width = image.width :=
  UInt32.toNat_ofNat_of_lt' h.width

theorem height_builtFrame (h : FrameFits f image) :
    (builtFrame bigEndian f image).height = image.height :=
  UInt32.toNat_ofNat_of_lt' h.height

theorem minimumRowStride_builtFrame (hc : f.description.pixelFormat.channelCount ≠ 0)
    (h : FrameFits f image) : (builtFrame bigEndian f image).description.minimumRowStride =
      image.width * (frameFormat f.description.pixelFormat).pixelBytes := by
  rw [frameFormat_stride (d := (builtFrame bigEndian f image).description) hc]
  exact congrArg (· * _) (width_builtFrame bigEndian h)

/-- What is built is a packed frame. -/
theorem packed_builtFrame (hc : f.description.pixelFormat.channelCount ≠ 0) (h : FrameFits f image) :
    Packed (builtFrame bigEndian f image) := by
  have hw : (builtFrame bigEndian f image).description.width.toNat = image.width :=
    width_builtFrame bigEndian h
  have hh : (builtFrame bigEndian f image).description.height.toNat = image.height :=
    height_builtFrame bigEndian h
  have hmin := minimumRowStride_builtFrame bigEndian hc h
  have hstride : (builtFrame bigEndian f image).description.rowStride =
      image.width * (frameFormat f.description.pixelFormat).pixelBytes := by
    show (builtFrame bigEndian f image).description.width.toNat * _ * _ = _
    rw [hw, Nat.mul_assoc, ← frameFormat_bytes hc]
  have hpos : image.width * (frameFormat f.description.pixelFormat).pixelBytes ≠ 0 :=
    Nat.mul_ne_zero h.width_pos (Wse.PixFormat.pixelBytes_pos _).ne'
  have heff : effectiveStride (builtFrame bigEndian f image).description =
      image.width * (frameFormat f.description.pixelFormat).pixelBytes := by
    rw [effectiveStride, hstride, if_neg hpos]
  obtain ⟨hsize, hvalid⟩ := layout_valid (d := (builtFrame bigEndian f image).description) hc
    (by rw [hw]; exact h.width_pos) (by rw [hh]; exact h.height_pos) (by rw [hmin, heff])
    (by rw [heff, hh]; exact h.size)
  have hlen : (builtFrame bigEndian f image).data.length =
      (builtFrame bigEndian f image).description.memorySize := by
    rw [hsize, heff, hh]
    show ((List.range _).map _).length = _
    rw [List.length_map, List.length_range, Nat.mul_right_comm]
  have hm : (builtFrame bigEndian f image).description.pixelFormat ≠ .mjpeg := fun hm =>
    hc (by rw [show f.description.pixelFormat = .mjpeg from hm]; rfl)
  refine ⟨?_, hstride.trans hmin.symm, hlen⟩
  unfold CameraFrame.valid
  rw [hvalid, if_neg (by decide), if_neg hm, hlen]
  exact decide_eq_true (Nat.le_refl _)

/-- Its pixels are those of the image. -/
theorem frameImage_builtFrame (hc : f.description.pixelFormat.channelCount ≠ 0)
    (h : FrameFits f image) :
    frameImage bigEndian (frameFormat f.description.pixelFormat) (builtFrame bigEndian f image) =
      image := by
  have hw := width_builtFrame bigEndian h
  have hh := height_builtFrame bigEndian h
  have hpacked := packed_builtFrame bigEndian hc h
  refine Grid.ext_get hw hh fun x hx y hy => ?_
  have hx : x < (builtFrame bigEndian f image).width := hx
  have hy : y < (builtFrame bigEndian f image).height := hy
  rw [frameImage, Grid.get_ofFn _ hx hy, ← ofBytes_byte bigEndian (image.get x y)]
  refine ofBytes_congr bigEndian fun k hk => ?_
  have hindex : (y * image.width + x) * (frameFormat f.description.pixelFormat).pixelBytes + k <
      image.width * image.height * (frameFormat f.description.pixelFormat).pixelBytes :=
    pixel_byte_lt (Framework.index_lt (hw ▸ hx) (hh ▸ hy)) hk
  have hmin := minimumRowStride_builtFrame bigEndian hc h
  rw [pixelByte, packed_stride hpacked.stride, hmin, ← Nat.add_assoc, ← Nat.mul_assoc,
    ← Nat.add_mul]
  show ((List.range _).map _).getD _ 0 = _
  rw [List.getD_eq_getElem?_getD, List.getElem?_map, List.getElem?_range hindex]
  exact imageByte_get bigEndian image x y hk

end Built

/-! ## The pixels of the result -/

/-- A turned image fits where the frame does. -/
theorem fits_smul (bigEndian : Bool) (hf : f.valid = true)
    (hc : f.description.pixelFormat.channelCount ≠ 0)
    (g : DihedralGroup 4) : FrameFits f
      (g • lineImage bigEndian (frameFormat f.description.pixelFormat) f) := by
  have hn : f.description.pixelFormat ≠ .mjpeg := fun hm => hc (by rw [hm]; rfl)
  have hl := (frame_layout hf hn).1
  have hw := width_valid hf
  have hh := height_valid hf
  have hw32 : f.width < 2 ^ 32 := f.description.width.toNat_lt
  have hh32 : f.height < 2 ^ 32 := f.description.height.toNat_lt
  have hsize : f.width * (frameFormat f.description.pixelFormat).pixelBytes * f.height ≤ sizeMax := by
    have hle := hl.packed_le
    rw [frameFormat_stride hc] at hle
    exact Nat.le_trans (Nat.mul_le_mul_right f.height hle) hl.fits
  obtain ⟨h1, h2⟩ | ⟨h1, h2⟩ := Grid.extent_smul g
    (lineImage bigEndian (frameFormat f.description.pixelFormat) f)
  · exact ⟨by rw [h1]; exact hw, by rw [h2]; exact hh, by rw [h1]; exact hw32,
      by rw [h2]; exact hh32, by rw [h1, h2]; exact hsize⟩
  · refine ⟨by rw [h1]; exact hh, by rw [h2]; exact hw, by rw [h1]; exact hh32,
      by rw [h2]; exact hw32, ?_⟩
    rw [h1, h2, Nat.mul_right_comm, Nat.mul_comm (Grid.height _), Nat.mul_right_comm]
    exact hsize

/-- The lines are the rows of pixels where the stride is not 0, or no row has pixels of its own. -/
theorem lineImage_eq_iff (bigEndian : Bool) (hc : f.description.pixelFormat.channelCount ≠ 0) :
    frameImage bigEndian (frameFormat f.description.pixelFormat) f =
        lineImage bigEndian (frameFormat f.description.pixelFormat) f ↔
      f.description.rowStride ≠ 0 ∨ SameRows f := by
  have hmin := frameFormat_stride hc
  have hpos := (frameFormat f.description.pixelFormat).pixelBytes_pos
  by_cases h0 : f.description.rowStride = 0
  · simp only [h0, ne_eq, not_true_eq_false, false_or]
    constructor
    · intro h row hr k hk
      rw [hmin] at hk
      have hx : k / (frameFormat f.description.pixelFormat).pixelBytes < f.width :=
        Nat.div_lt_of_lt_mul (by rw [Nat.mul_comm]; exact hk)
      have hget := congrArg (fun image : Wse.Image _ =>
        image.get (k / (frameFormat f.description.pixelFormat).pixelBytes) row) h
      simp only [frameImage, lineImage, Grid.get_ofFn _ hx hr] at hget
      have hbyte := (ofBytes_inj bigEndian).mp hget _ (Nat.mod_lt k hpos)
      rw [lineByte_eq, if_pos h0, Nat.mul_comm, Nat.div_add_mod] at hbyte
      exact hbyte
    · intro h
      refine Grid.ext_get rfl rfl fun x hx y hy => ?_
      have hx : x < f.width := hx
      have hy : y < f.height := hy
      rw [frameImage, lineImage, Grid.get_ofFn _ hx hy, Grid.get_ofFn _ hx hy]
      refine ofBytes_congr bigEndian fun k hk => ?_
      rw [lineByte_eq, if_pos h0]
      exact h y hy _ (by rw [hmin]; exact pixel_byte_lt hx hk)
  · simp only [h0, ne_eq, not_false_eq_true, true_or, iff_true]
    refine Grid.ext_get rfl rfl fun x hx y hy => ?_
    have hx : x < f.width := hx
    have hy : y < f.height := hy
    rw [frameImage, lineImage, Grid.get_ofFn _ hx hy, Grid.get_ofFn _ hx hy]
    exact ofBytes_congr bigEndian fun k _ => by rw [lineByte_eq, if_neg h0]

/-- The camera version orients the pixels of a frame exactly where its lines are its rows. -/
theorem orientsPixels_iff (hf : f.valid = true)
    (hc : f.description.pixelFormat.channelCount ≠ 0) (orientation : Wse.ImageOrientation) :
    OrientsPixels bigEndian f orientation ↔ f.description.rowStride ≠ 0 ∨ SameRows f := by
  have hfits := fits_smul bigEndian hf hc (symmetry orientation)
  have hcore : Wse.applyOrientation
      (frameImage bigEndian (frameFormat f.description.pixelFormat) f) orientation = _ :=
    applyOrientation_eq (width_valid hf) (height_valid hf) orientation
  have hpixels := frameImage_builtFrame bigEndian hc hfits
  rw [← lineImage_eq_iff bigEndian hc]
  unfold OrientsPixels
  rw [applyOrientation_frame bigEndian hf hc, hcore]
  constructor
  · rintro ⟨result, hresult, -, -, hsame⟩
    obtain rfl := Except.ok.inj (Except.ok.inj hresult)
    rw [hpixels] at hsame
    exact MulAction.injective (symmetry orientation) (Except.ok.inj hsame)
  · intro h
    exact ⟨_, rfl, packed_builtFrame bigEndian hc hfits, rfl, by rw [hpixels, h]⟩

/-- What the camera version accepts is a valid frame with a sample for each channel. -/
theorem accepted {orientation : Wse.ImageOrientation} {result : CameraFrame}
    (h : applyOrientation bigEndian f orientation = .ok (.ok result)) :
    f.valid = true ∧ f.description.pixelFormat.channelCount ≠ 0 := by
  unfold applyOrientation validateFrameForOrientation validateFrameData at h
  dsimp only at h
  by_cases hc : f.description.pixelFormat.channelCount = 0
  · rw [if_pos hc] at h
    cases h
  by_cases hf : f.valid = true
  · exact ⟨hf, hc⟩
  · rw [if_neg hc, if_neg hf] at h
    cases h

open WSE.Spec.Wse (Moves denotes applyAll inverse) in
/-- Orientation in the core is a group action: each one takes the pixels one to one to the extent it
gives and is undone by its inverse, and sequences of them that denote one symmetry give one image.
The camera version gives a packed frame with the pixels of the core's result exactly where the row
stride is not 0 or every row of pixels is the first one again. -/
theorem orientation_action (p : Wse.PixFormat) (source : Wse.Image p) (hw : source.width ≠ 0)
    (hh : source.height ≠ 0) (bigEndian : Bool) (f : CameraFrame)
    (orientation : Wse.ImageOrientation)
    (hf : ∃ result, applyOrientation bigEndian f orientation = .ok (.ok result)) :
    (∀ o, ∃ target, Wse.applyOrientation source o = .ok target ∧ Moves source target o ∧
      Wse.applyOrientation target (inverse o) = .ok source) ∧
    (∀ os os', denotes os = denotes os' → ∃ target, applyAll source os = .ok target ∧
      applyAll source os' = .ok target) ∧
    (OrientsPixels bigEndian f orientation ↔ f.description.rowStride ≠ 0 ∨ SameRows f) := by
  refine ⟨fun o => ⟨symmetry o • source, applyOrientation_eq hw hh o,
    WSE.Proof.Wse.moves_smul source o, WSE.Proof.Wse.applyOrientation_inverse hw hh o⟩,
    fun os os' h => ⟨denotes os • source, WSE.Proof.Wse.applyAll_eq hw hh os, ?_⟩, ?_⟩
  · rw [h]
    exact WSE.Proof.Wse.applyAll_eq hw hh os'
  · obtain ⟨result, hresult⟩ := hf
    obtain ⟨hvalid, hc⟩ := accepted hresult
    exact orientsPixels_iff hvalid hc orientation

/-- A black pixel over a white one. -/
def greyColumn (rowStride : Nat) : CameraFrame :=
  { description := { width := 1, height := 2, pixelFormat := .gray8, rowStride }
    data := [0, 255] }

theorem orientation_action_broken :
    (∃ result, applyOrientation false (greyColumn 0) .none = .ok (.ok result)) ∧
      ¬ OrientsPixels false (greyColumn 0) .none := by
  refine ⟨⟨_, applyOrientation_frame false (by decide) (by decide) .none⟩, fun h => ?_⟩
  obtain hs | hs := (orientsPixels_iff (by decide) (by decide) .none).mp h
  · exact hs rfl
  · exact absurd (hs 1 (by decide) 0 (by decide)) (by decide)

theorem orientation_action_column :
    OrientsPixels false (greyColumn 1) .rotate90CW :=
  (orientation_action .ch1d8 (Wse.blank .ch1d8 1 2) (by decide) (by decide) false (greyColumn 1)
    .rotate90CW ⟨_, applyOrientation_frame false (by decide) (by decide) .rotate90CW⟩).2.2.mpr
    (.inl (by decide))

end

/-!
## Conversions between frames and images are inverse

`writtenFrame` is the packed frame that an image becomes (`toCameraFrame_eq`), and `toImage_eq` says
what image any valid frame becomes: the one whose pixels have the bytes of the frame's rows. Both
directions follow, since the bytes of an image are those of the frame it became
(`pixelByte_writtenFrame`).
-/

section

open WSE.Proof.Wse

/-! ### Formats -/

section Formats

variable (p : PixFormat)

theorem core_channels : p.core.channels = p.channels := by cases p <;> rfl

theorem core_sampleSize : p.core.sampleSize = p.sampleSize := by cases p <;> rfl

theorem core_pixelBytes : p.core.pixelBytes = p.interleavedPixelBytes := by cases p <;> rfl

theorem core_small : p.core.sampleSize ≤ 2 := by cases p <;> decide

theorem coreFormatOf_cameraFormatOf : coreFormatOf (cameraFormatOf p) = some p := by
  cases p <;> rfl

theorem channelCount_cameraFormatOf : (cameraFormatOf p).channelCount ≠ 0 := by
  cases p <;> decide

theorem not_yuv_cameraFormatOf : isYuvFormat (cameraFormatOf p) = false := by
  cases p <;> rfl

end Formats

/-! ### From a frame to an image -/

variable {p : PixFormat}

theorem nativeValue_two (low high : Byte) :
    low.toNat ||| high.toNat <<< 8 = nativeValue false [low, high] := by
  have hlow := low.toNat_lt
  rw [Nat.shiftLeft_eq, Nat.or_comm, Nat.mul_comm, ← Nat.two_pow_add_eq_or_of_lt (i := 8) hlow]
  show _ = low.toNat + 256 * (high.toNat + 256 * 0)
  omega

/-- A sample of a view is the value of its bytes. -/
theorem interleavedSample_eq (data : Bytes) (p : PixFormat) (index : Nat) :
    interleavedSample data p.sampleSize index = nativeValue false
      ((List.range p.core.sampleSize).map fun k => data.getD (index + k) 0) := by
  have hs : p.core.sampleSize = p.sampleSize := core_sampleSize p
  obtain h1 | h2 : p.sampleSize = 1 ∨ p.sampleSize = 2 := by cases p <;> decide
  · rw [interleavedSample, if_pos h1, hs, h1]
    rfl
  · rw [interleavedSample, if_neg (by omega), nativeValue_two, hs, h2]
    rfl

/-- A valid frame becomes the image that has the bytes of its rows. -/
theorem toImage_eq {images : Images} {f : CameraFrame} (hf : f.valid = true)
    (hp : f.description.pixelFormat = cameraFormatOf p) (himages : images f.width f.height = true)
    {image : Wse.Image p.core} (hw : image.width = f.width) (hh : image.height = f.height)
    (hbytes : ∀ x < f.width, ∀ y < f.height, ∀ k < p.core.pixelBytes,
      (image.get x y).byte false k = pixelByte f y (x * p.core.pixelBytes + k)) :
    toImage images p f = .ok (ofCore image) := by
  have hformat : coreFormatOf f.description.pixelFormat = some p := by
    rw [hp, coreFormatOf_cameraFormatOf]
  have hstride : interleavedRowStride p f.width f.description.rowStride =
      effectiveStride f.description := interleavedRowStride_eq hformat
  rw [toImage, hp, not_yuv_cameraFormatOf, Bool.and_false, if_neg Bool.false_ne_true,
    convertFrameToImage_eq images hf hformat, himages, if_pos rfl]
  congr 1
  unfold makeImageFromInterleaved ofCore
  dsimp only
  rw [hstride, hw, hh, core_channels]
  congr 1
  refine List.map_congr_left fun y hy => List.map_congr_left fun x hx =>
    List.map_congr_left fun c hc => ?_
  have hx := List.mem_range.mp hx
  have hy := List.mem_range.mp hy
  have hc : c < p.core.channels := core_channels p ▸ List.mem_range.mp hc
  rw [interleavedSample_eq, ← ofBytes_byte false (image.get x y), channel_ofBytes false _ hc]
  congr 1
  refine List.map_congr_left fun k hk => ?_
  have hk : c * p.core.sampleSize + k < p.core.pixelBytes := by
    have := Framework.index_lt (List.mem_range.mp hk) hc
    rwa [Nat.mul_comm p.core.sampleSize] at this
  rw [hbytes x hx y hy _ hk, pixelByte, CameraFrame.byteAt, ← core_channels, ← core_sampleSize,
    sample_place, Nat.add_assoc, Nat.add_assoc]

/-! ### From an image to a frame -/

section Written

variable (littleEndian : Bool) (image : Wse.Image p.core)

/-- The frame that an image becomes. -/
def writtenFrame : CameraFrame where
  description :=
    { width := UInt32.ofNat image.width
      height := UInt32.ofNat image.height
      pixelFormat := cameraFormatOf p
      rowStride := image.width * p.core.pixelBytes }
  data := (List.range (image.width * p.core.pixelBytes * image.height)).map
    (writtenBytes littleEndian image)

variable {image} {images : Images} {allocates : Nat → Bool}
  (h : Convertible images allocates image)

include h

theorem convertible_fits : Proof.Wse.Fits image := ⟨h.width_pos, h.height_pos, h.size_lt⟩

theorem toCameraFrame_eq :
    toCameraFrame littleEndian allocates p image =
      some (.ok (writtenFrame littleEndian image)) := by
  have hpos := packedRow_pos (convertible_fits h)
  have hle := packedRow_le (convertible_fits h)
  unfold toCameraFrame convertImageToFrame
  rw [if_neg (by simp [h.width_pos, h.height_pos]), packedRowBytes_eq (convertible_fits h)]
  dsimp only
  rw [if_neg hpos.ne', Nat.mod_eq_of_lt h.size_lt, h.frame_allocated, if_neg (by decide),
    if_neg (by omega)]
  change Option.map _ (Wse.writeImageToInterleaved littleEndian (packedTarget image) image) = _
  rw [writePacked_eq (convertible_fits h)]
  rfl

theorem width_writtenFrame : (writtenFrame littleEndian image).width = image.width :=
  UInt32.toNat_ofNat_of_lt' h.width_lt

theorem height_writtenFrame : (writtenFrame littleEndian image).height = image.height :=
  UInt32.toNat_ofNat_of_lt' h.height_lt

theorem minimumRowStride_writtenFrame :
    (writtenFrame littleEndian image).description.minimumRowStride =
      image.width * p.core.pixelBytes := by
  have hn := (coreFormatOf_plain (coreFormatOf_cameraFormatOf p)).1
  rw [minimumRowStride_eq (d := (writtenFrame littleEndian image).description) hn, core_pixelBytes,
    ← coreFormatOf_bytes (coreFormatOf_cameraFormatOf p)]
  exact congrArg (· * _) (width_writtenFrame littleEndian h)

theorem packed_writtenFrame : Packed (writtenFrame littleEndian image) := by
  have hw : (writtenFrame littleEndian image).description.width.toNat = image.width :=
    width_writtenFrame littleEndian h
  have hh : (writtenFrame littleEndian image).description.height.toNat = image.height :=
    height_writtenFrame littleEndian h
  have hmin := minimumRowStride_writtenFrame littleEndian h
  have hstride : (writtenFrame littleEndian image).description.rowStride =
      image.width * p.core.pixelBytes := rfl
  have heff : effectiveStride (writtenFrame littleEndian image).description =
      image.width * p.core.pixelBytes := by
    rw [effectiveStride, hstride, if_neg (packedRow_pos (convertible_fits h)).ne']
  have hc := channelCount_cameraFormatOf p
  obtain ⟨hsize, hvalid⟩ := layout_valid (d := (writtenFrame littleEndian image).description) hc
    (by rw [hw]; exact h.width_pos) (by rw [hh]; exact h.height_pos) (by rw [hmin, heff])
    (by rw [heff, hh]; exact Nat.le_pred_of_lt h.size_lt)
  have hlen : (writtenFrame littleEndian image).data.length =
      (writtenFrame littleEndian image).description.memorySize := by
    rw [hsize, heff, hh]
    show ((List.range _).map _).length = _
    rw [List.length_map, List.length_range]
  have hm : (writtenFrame littleEndian image).description.pixelFormat ≠ .mjpeg :=
    (coreFormatOf_plain (coreFormatOf_cameraFormatOf p)).2
  refine ⟨?_, hstride.trans hmin.symm, hlen⟩
  unfold CameraFrame.valid
  rw [hvalid, if_neg (by decide), if_neg hm, hlen]
  exact decide_eq_true (Nat.le_refl _)

/-- A byte of a row of the frame is that of the pixel. -/
theorem pixelByte_writtenFrame {x y k : Nat} (hx : x < image.width) (hy : y < image.height)
    (hk : k < p.core.pixelBytes) :
    pixelByte (writtenFrame littleEndian image) y (x * p.core.pixelBytes + k) =
      (image.get x y).byte false k := by
  rw [pixelByte, packed_stride (packed_writtenFrame littleEndian h).stride,
    minimumRowStride_writtenFrame littleEndian h, CameraFrame.byteAt]
  exact writtenBytes_getD (convertible_fits h) (.inr (core_small p)) hx hy hk

end Written

/-! ### Both directions -/

variable (littleEndian : Bool) {images : Images} {allocates : Nat → Bool}

/-- The image that an image became a frame of. -/
theorem toImage_writtenFrame {image : Wse.Image p.core} (h : Convertible images allocates image) :
    toImage images p (writtenFrame littleEndian image) = .ok (ofCore image) := by
  have hw := width_writtenFrame littleEndian h
  have hh := height_writtenFrame littleEndian h
  refine toImage_eq (packed_writtenFrame littleEndian h).valid rfl
    (by rw [hw, hh]; exact h.image_allocated)
    hw.symm hh.symm fun x hx y hy k hk => ?_
  exact (pixelByte_writtenFrame littleEndian h (hw ▸ hx) (hh ▸ hy) hk).symm

/-- The image of a valid frame can become a frame again. -/
theorem convertible_frameImage {f : CameraFrame} (hf : f.valid = true)
    (hp : f.description.pixelFormat = cameraFormatOf p) (himages : images f.width f.height = true)
    (hall : allocates (f.width * p.core.pixelBytes * f.height) = true) :
    Convertible images allocates (frameImage false p.core f) where
  width_pos := width_valid hf
  height_pos := height_valid hf
  width_lt := f.description.width.toNat_lt
  height_lt := f.description.height.toNat_lt
  size_lt := by
    have hformat := coreFormatOf_plain (hp ▸ coreFormatOf_cameraFormatOf p)
    have hl := (frame_layout hf hformat.2).1
    have hle := hl.packed_le
    rw [minimumRowStride_eq hformat.1, hp, coreFormatOf_bytes (coreFormatOf_cameraFormatOf p),
      ← core_pixelBytes] at hle
    have hsize := Nat.le_trans (Nat.mul_le_mul_right f.height hle) hl.fits
    exact Nat.lt_of_le_of_lt hsize (by decide)
  frame_allocated := hall
  image_allocated := himages

/-- The frame that the image of a frame becomes has the same rows. -/
theorem packedCopy_writtenFrame {f : CameraFrame}
    (hp : f.description.pixelFormat = cameraFormatOf p)
    (h : Convertible images allocates (frameImage false p.core f)) :
    PackedCopy f (writtenFrame littleEndian (frameImage false p.core f)) where
  packed := packed_writtenFrame littleEndian h
  width := UInt32.ofNat_toNat
  height := UInt32.ofNat_toNat
  pixelFormat := hp.symm
  pixels := fun row hrow k hk => by
    have hformat := (coreFormatOf_plain (hp ▸ coreFormatOf_cameraFormatOf p)).1
    rw [minimumRowStride_eq hformat, hp, coreFormatOf_bytes (coreFormatOf_cameraFormatOf p),
      ← core_pixelBytes] at hk
    have hpos := p.core.pixelBytes_pos
    have hx : k / p.core.pixelBytes < f.width :=
      Nat.div_lt_of_lt_mul (by rwa [Nat.mul_comm])
    have hbyte := pixelByte_writtenFrame littleEndian h hx hrow
      (Nat.mod_lt k hpos)
    rw [frameImage, Grid.get_ofFn _ hx hrow, byte_ofBytes false _ (Nat.mod_lt k hpos), Nat.mul_comm,
      Nat.div_add_mod] at hbyte
    exact hbyte

/-- An image of the core is known by its samples. -/
theorem ofCore_injective : Function.Injective (ofCore (p := p.core)) := by
  intro image image' h
  obtain ⟨hw, hh, hrows⟩ := Image.mk.inj h
  refine Grid.ext_get hw hh fun x hx y hy => funext fun c => BitVec.eq_of_toNat_eq ?_
  have hsample : ∀ i : Wse.Image p.core, x < i.width → y < i.height →
      ((((ofCore i).rows[y]?).getD [])[x]?.getD [])[c.val]? =
        some ((i.get x y).channel c).toNat := by
    intro i hx hy
    simp only [ofCore, List.getElem?_map, List.getElem?_range hy, List.getElem?_range hx,
      List.getElem?_range c.isLt, Option.map_some, Option.getD_some]
  have hleft := hsample image hx hy
  rw [h, hsample image' (hw ▸ hx) (hh ▸ hy)] at hleft
  rw [Wse.Pixel.channel_fin, Wse.Pixel.channel_fin] at hleft
  exact (Option.some.inj hleft).symm

/-- The image of the frame of an image is the image, and the frame of the image of a valid frame is
the packed one with the same pixels. -/
theorem frame_image_inverse (p : PixFormat) (littleEndian : Bool) (images : Images)
    (allocates : Nat → Bool) :
    Function.Injective (ofCore (p := p.core)) ∧
    (∀ image : Wse.Image p.core, Convertible images allocates image →
      ∃ f, toCameraFrame littleEndian allocates p image = some (.ok f) ∧
        toImage images p f = .ok (ofCore image)) ∧
    ∀ f : CameraFrame, f.valid = true → f.description.pixelFormat = cameraFormatOf p →
      images f.width f.height = true →
      allocates (f.width * p.core.pixelBytes * f.height) = true →
      ∃ image : Wse.Image p.core, toImage images p f = .ok (ofCore image) ∧
        ∃ g, toCameraFrame littleEndian allocates p image = some (.ok g) ∧ PackedCopy f g := by
  refine ⟨ofCore_injective, fun image h => ⟨_, toCameraFrame_eq littleEndian h,
    toImage_writtenFrame littleEndian h⟩, fun f hf hp himages hall => ?_⟩
  have h := convertible_frameImage hf hp himages hall
  refine ⟨frameImage false p.core f, toImage_eq hf hp himages rfl rfl fun x hx y hy k hk => ?_, _,
    toCameraFrame_eq littleEndian h, packedCopy_writtenFrame littleEndian hp h⟩
  rw [frameImage, Grid.get_ofFn _ hx hy, byte_ofBytes false _ hk]

/-- One pixel, and a frame of one with a margin. -/
theorem frame_image_inverse_gray :
    (∃ f, toCameraFrame true (fun _ => true) .ch1d8 (Grid.fill 1 1 (.ofFn fun _ => 7)) =
        some (.ok f) ∧
      toImage (fun _ _ => true) .ch1d8 f =
        .ok (ofCore (p := .ch1d8) (Grid.fill 1 1 (.ofFn fun _ => 7)))) ∧
    ∃ image : Wse.Image .ch1d8,
      toImage (fun _ _ => true) .ch1d8 ⟨⟨1, 1, .gray8, 4⟩, [7, 0, 0, 0], 0, 0⟩ =
        .ok (ofCore image) ∧
      ∃ g, toCameraFrame true (fun _ => true) .ch1d8 image = some (.ok g) ∧
        PackedCopy ⟨⟨1, 1, .gray8, 4⟩, [7, 0, 0, 0], 0, 0⟩ g := by
  obtain ⟨-, himage, hframe⟩ := frame_image_inverse .ch1d8 true (fun _ _ => true) fun _ => true
  exact ⟨himage _ ⟨by decide, by decide, by decide, by decide, by decide, rfl, rfl⟩,
    hframe ⟨⟨1, 1, .gray8, 4⟩, [7, 0, 0, 0], 0, 0⟩ (by decide) rfl rfl rfl⟩

/-- An image without pixels has no frame. -/
theorem frame_image_inverse_broken :
    ¬ ∃ f, toCameraFrame true (fun _ => true) .ch1d8 (Wse.blank _ 0 0) = some (.ok f) := by
  rintro ⟨f, hf⟩
  cases hf

end

end WSE.Proof.Tmr
