import WapitiStew.Framework.Grid
import WapitiStew.Proof.Tmr.FrameRows
import WapitiStew.Spec.Tmr.CameraFrameOps

/-!
# The two YUV decoders

Both decode a pixel from the bytes of its pair; only the row they take it from differs. The decoder
of images takes the stride as it is, so that it reads the first row again where the stride is 0
(`yuvPixel_eq`). Neither reads a byte past the memory of a valid frame (`yuvOffsets_below`,
`packedOffsets_below`), and what they compute fits in `int` (`fits_yuvSums`).
-/

namespace WSE.Proof.Tmr

open WSE.Framework WSE.Impl.Tmr WSE.Spec.Tmr

/-! ## The colours of a pixel -/

theorem fits_yuvSums (y u v : Byte) : ∀ n ∈ yuvSums y.toNat u.toNat v.toNat, FitsInt n := by
  have hy := y.toNat_lt
  have hu := u.toNat_lt
  have hv := v.toNat_lt
  simp only [yuvSums, List.forall_mem_cons, FitsInt]
  refine ⟨?_, ?_, ?_, ?_, ?_, ?_, ?_, ?_, ?_, ?_, ?_, ?_, ?_, ?_, ?_, ?_, nofun⟩ <;>
  · constructor <;> omega

theorem clampByte_le (n : Int) : clampByte n ≤ 255 := by
  unfold clampByte
  omega

theorem colours_le (pixel : Byte × Byte × Byte) : ∀ n ∈ colours pixel, n ≤ 255 := by
  intro n hn
  simp only [colours, yuvToRgb, List.mem_cons, List.not_mem_nil, or_false] at hn
  obtain rfl | rfl | rfl := hn <;> exact clampByte_le _

/-! ## The bytes that are read -/

section Offsets

variable {f : CameraFrame}

theorem readsAt_yuvOffsets (f : CameraFrame) (row column : Nat) :
    readsAt f (yuvPixel f row column) (yuvOffsets f.description row column) := by
  unfold readsAt yuvPixel yuvOffsets
  dsimp only
  split
  · rfl
  · simp only

theorem readsAt_packedOffsets (f : CameraFrame) (row column : Nat) :
    readsAt f (packedPixel f row column) (packedOffsets f.description row column) := by
  unfold readsAt packedPixel packedOffsets effectiveStride
  simp only [ite_not]

/-- A place in a row of pixels is in the memory of the frame. -/
theorem row_below {d : CameraFrameDescription} (h : Layout d) {row k : Nat}
    (hr : row < planeRows d) (hk : k < d.minimumRowStride) :
    row * effectiveStride d + k < d.memorySize := by
  rw [h.size, Nat.mul_comm]
  have := Nat.mul_le_mul_left (effectiveStride d) (Nat.succ_le_of_lt hr)
  rw [Nat.mul_succ, Nat.mul_comm _ (planeRows d)] at this
  have := h.packed_le
  omega

/-- Also where the stride is taken as it is. -/
theorem line_below {d : CameraFrameDescription} (h : Layout d) {row k : Nat}
    (hr : row < planeRows d) (hk : k < d.minimumRowStride) :
    row * d.rowStride + k < d.memorySize := by
  by_cases h0 : d.rowStride = 0
  · rw [h0, Nat.mul_zero]
    have := row_below h (Nat.lt_of_le_of_lt (Nat.zero_le row) hr) hk
    omega
  · have heff : effectiveStride d = d.rowStride := if_neg h0
    rw [← heff]
    exact row_below h hr hk

theorem yuv_not_mjpeg {format : CameraPixelFormat} (h : isYuvFormat format = true) :
    format ≠ .mjpeg := by
  rintro rfl
  cases h

theorem minimumRowStride_packed {d : CameraFrameDescription} (hy : isYuvFormat d.pixelFormat = true)
    (hn : d.pixelFormat ≠ .nv12) : d.minimumRowStride = d.width.toNat * 2 := by
  rw [minimumRowStride_eq hn, bytesPerPixel_packed hy hn]

theorem packedOffsets_below (hf : f.valid = true) (hy : isYuvFormat f.description.pixelFormat = true)
    (hn : f.description.pixelFormat ≠ .nv12) {row column : Nat} (hr : row < f.height)
    (hc : column < f.width) :
    offsetsBelow (packedOffsets f.description row column) f.description.memorySize := by
  have hl := (frame_layout hf (yuv_not_mjpeg hy)).1
  have heven := width_even (description_valid hf) hy
  have hmin := minimumRowStride_packed hy hn
  have hc : column < f.description.width.toNat := hc
  have hr := Nat.lt_of_lt_of_le hr (height_le_planeRows f.description)
  simp only [offsetsBelow, packedOffsets, Nat.add_assoc]
  refine ⟨row_below hl hr ?_, row_below hl hr ?_, row_below hl hr ?_⟩ <;>
  · split <;> omega

theorem yuvOffsets_below (hf : f.valid = true) (hy : isYuvFormat f.description.pixelFormat = true)
    {row column : Nat} (hr : row < f.height) (hc : column < f.width) :
    offsetsBelow (yuvOffsets f.description row column) f.description.memorySize := by
  have hl := (frame_layout hf (yuv_not_mjpeg hy)).1
  have heven := width_even (description_valid hf) hy
  have hc : column < f.description.width.toNat := hc
  unfold yuvOffsets offsetsBelow
  split
  · rename_i hn
    have hheven := height_even (description_valid hf) hn
    have hmin : f.description.minimumRowStride = f.description.width.toNat := by
      unfold CameraFrameDescription.minimumRowStride
      rw [if_pos hn]
    have hrows : planeRows f.description =
        f.description.height.toNat + f.description.height.toNat / 2 := if_pos hn
    have hr : row < f.description.height.toNat := hr
    have hchroma : f.description.height.toNat + row / 2 < planeRows f.description := by omega
    rw [Nat.mul_comm f.description.rowStride, ← Nat.add_mul, Nat.add_assoc _ _ 1]
    exact ⟨line_below hl (by omega) (by omega), line_below hl hchroma (by omega),
      line_below hl hchroma (by omega)⟩
  · rename_i hn
    have hmin := minimumRowStride_packed hy hn
    have hr := Nat.lt_of_lt_of_le hr (height_le_planeRows f.description)
    simp only [Nat.add_assoc]
    refine ⟨line_below hl hr ?_, line_below hl hr ?_, line_below hl hr ?_⟩ <;>
    · split <;> omega

end Offsets

/-! ## The image -/

section Packed

variable {f : CameraFrame}

theorem packed_yuv {format : CameraPixelFormat} (h : isPackedYuv422 format = true) :
    isYuvFormat format = true ∧ format ≠ .nv12 := by
  cases format <;> first | exact ⟨rfl, by decide⟩ | cases h

/-- Where the row stride is 0, the image takes every row from the first one. -/
theorem yuvPixel_eq (hp : isPackedYuv422 f.description.pixelFormat = true) (row column : Nat) :
    yuvPixel f row column =
      packedPixel f (if f.description.rowStride = 0 then 0 else row) column := by
  unfold yuvPixel packedPixel
  dsimp only
  rw [if_neg (packed_yuv hp).2]
  by_cases h0 : f.description.rowStride = 0
  · simp only [h0, ne_eq, not_true_eq_false, if_false, if_true, Nat.mul_zero, Nat.zero_mul,
      Nat.add_assoc]
  · simp only [h0, ne_eq, not_false_eq_true, if_true, if_false, Nat.add_assoc]

theorem toImage_packed (images : Images) (hf : f.valid = true)
    (hp : isPackedYuv422 f.description.pixelFormat = true)
    (hi : images f.width f.height = true) :
    toImage images .ch3d8 f = .ok ⟨f.width, f.height, (List.range f.height).map fun row =>
      (List.range f.width).map fun column => colours (yuvPixel f row column)⟩ := by
  unfold toImage
  rw [(packed_yuv hp).1]
  simp only [decide_true, Bool.and_true, if_true]
  rw [convertYuvFrameToImage_eq images hf, if_pos hi]
  rfl

/-! ## The buffer -/

/-- The layout of the buffer that a frame is converted to. -/
def bgraDescription (d : CameraFrameDescription) : CameraFrameDescription :=
  { width := d.width, height := d.height, pixelFormat := .bgra8, rowStride := d.width.toNat * 4 }

theorem minimumRowStride_bgra {d : CameraFrameDescription} (h : d.pixelFormat = .bgra8) :
    d.minimumRowStride = d.width.toNat * 4 := by
  rw [minimumRowStride_eq (by rw [h]; decide), h]
  rfl

theorem layout_bgra {d : CameraFrameDescription} (hw : d.width.toNat ≠ 0)
    (hh : d.height.toNat ≠ 0) (hfit : d.width.toNat * 4 * d.height.toNat ≤ sizeMax) :
    (bgraDescription d).memorySize = d.width.toNat * 4 * d.height.toNat ∧
      (bgraDescription d).valid = true := by
  have hmin : (bgraDescription d).minimumRowStride = d.width.toNat * 4 :=
    minimumRowStride_bgra rfl
  have heff : effectiveStride (bgraDescription d) = d.width.toNat * 4 :=
    if_neg (show d.width.toNat * 4 ≠ 0 by omega)
  have hvalid := layout_valid (d := bgraDescription d)
    (show CameraPixelFormat.bgra8.channelCount ≠ 0 by decide) hw hh
    (by rw [hmin, heff]) (by rw [heff]; exact hfit)
  rw [heff] at hvalid
  exact hvalid

/-- A frame that is in memory leaves room for its buffer. -/
theorem bgra_fits (hf : f.valid = true) (hp : isPackedYuv422 f.description.pixelFormat = true)
    (hdata : f.data.length < 2 ^ 63) : f.width * 4 * f.height ≤ sizeMax := by
  obtain ⟨hy, hn⟩ := packed_yuv hp
  obtain ⟨hl, hlen⟩ := frame_layout hf (yuv_not_mjpeg hy)
  have hmin := minimumRowStride_packed hy hn
  have hrows := Nat.mul_le_mul (height_le_planeRows f.description) hl.packed_le
  rw [hl.size] at hlen
  rw [hmin] at hrows
  have hsize : f.height * (f.width * 2) ≤ f.data.length := Nat.le_trans hrows hlen
  rw [← Nat.mul_assoc, Nat.mul_comm f.height] at hsize
  rw [Nat.mul_right_comm]
  have hmax : sizeMax = 2 ^ 64 - 1 := rfl
  omega

theorem packedYuvToBgra_ok (buffers : Nat → Bool) (hf : f.valid = true)
    (hp : isPackedYuv422 f.description.pixelFormat = true) (hdata : f.data.length < 2 ^ 63)
    (hb : buffers (f.width * 4 * f.height) = true) :
    packedYuvToBgra buffers f = .ok
      { description := bgraDescription f.description
        data := (List.range f.height).flatMap fun row =>
          (List.range f.width).flatMap fun column => bgraPixel f row column
        sequence := f.sequence
        monotonicTimestampNs := f.monotonicTimestampNs } := by
  have hw : f.description.width.toNat ≠ 0 := width_ne_zero (description_valid hf)
  have hh : f.description.height.toNat ≠ 0 := height_ne_zero (description_valid hf)
  have hfit := bgra_fits hf hp hdata
  obtain ⟨hsize, hvalid⟩ := layout_bgra hw hh hfit
  have hbuffer : buffers (bgraDescription f.description).memorySize = true := by
    rw [hsize]
    exact hb
  unfold packedYuvToBgra
  dsimp only
  rw [minimumRowStride_bgra rfl]
  show (if (!isPackedYuv422 f.description.pixelFormat) = true then _
    else if (!f.valid) = true then _
    else if (!(bgraDescription f.description).valid) = true then _
    else if (!buffers (bgraDescription f.description).memorySize) = true then _ else _) = _
  simp only [hp, hf, hvalid, hbuffer, Bool.not_true, Bool.false_eq_true, if_false]
  rfl

/-! ## The colours of the buffer -/

theorem length_bgraPixel (f : CameraFrame) (row column : Nat) :
    (bgraPixel f row column).length = 4 := rfl

theorem bgraPixel_eq (f : CameraFrame) (row column : Nat) : bgraPixel f row column =
    (colours (packedPixel f row column)).reverse.map UInt8.ofNat ++ [255] := rfl

theorem toNat_colour {n : Nat} (h : n ≤ 255) : (UInt8.ofNat n).toNat = n := by
  rw [UInt8.toNat_ofNat']
  omega

theorem bufferColours_eq {buffer : CameraFrame}
    (hd : buffer.description = bgraDescription f.description)
    (hdata : buffer.data = (List.range f.height).flatMap fun row =>
      (List.range f.width).flatMap fun column => bgraPixel f row column)
    {row column : Nat} (hr : row < f.height) (hc : column < f.width) :
    bufferColours buffer row column = colours (packedPixel f row column) := by
  have hbyte : ∀ k < 4, buffer.lineByte row (column * 4 + k) =
      (bgraPixel f row column).getD k 0 := by
    intro k hk
    have hlen : ∀ row < f.height, ((List.range f.width).flatMap fun column =>
        bgraPixel f row column).length = f.width * 4 := by
      intro row _
      rw [List.length_flatMap]
      simp only [length_bgraPixel, List.map_const', List.length_range, List.sum_replicate_nat]
    have hin : column * 4 + k < f.width * 4 := by omega
    unfold CameraFrame.lineByte CameraFrame.byteAt
    rw [hdata, hd]
    show ((List.range f.height).flatMap _).getD (row * (f.width * 4) + (column * 4 + k)) 0 = _
    rw [List.getD_eq_getElem?_getD, getElem?_rows hlen hr hin,
      getElem?_rows (fun _ _ => length_bgraPixel f row _) hc hk, ← List.getD_eq_getElem?_getD]
  have hle := colours_le (packedPixel f row column)
  unfold bufferColours
  rw [hbyte 2 (by decide), hbyte 1 (by decide), show column * 4 = column * 4 + 0 from rfl,
    hbyte 0 (by decide), bgraPixel_eq]
  simp only [colours, yuvToRgb, List.forall_mem_cons] at hle ⊢
  obtain ⟨h0, h1, h2, -⟩ := hle
  show [(UInt8.ofNat _).toNat, (UInt8.ofNat _).toNat, (UInt8.ofNat _).toNat] = _
  rw [toNat_colour h0, toNat_colour h1, toNat_colour h2]

/-! ## The two decoders -/

/-- The colours of the image are those of the buffer when no row that is taken from the first one
has colours of its own. -/
theorem sameColours_iff {buffer : CameraFrame} (hp : isPackedYuv422 f.description.pixelFormat = true)
    (hd : buffer.description = bgraDescription f.description)
    (hdata : buffer.data = (List.range f.height).flatMap fun row =>
      (List.range f.width).flatMap fun column => bgraPixel f row column) :
    SameColours ⟨f.width, f.height, (List.range f.height).map fun row =>
        (List.range f.width).map fun column => colours (yuvPixel f row column)⟩ buffer ↔
      f.description.rowStride ≠ 0 ∨ RepeatsFirstRow f := by
  have hw : buffer.width = f.width := by
    unfold CameraFrame.width
    rw [hd]
    rfl
  have hh : buffer.height = f.height := by
    unfold CameraFrame.height
    rw [hd]
    rfl
  have hrows : ((List.range f.height).map fun row => (List.range f.width).map fun column =>
        colours (yuvPixel f row column)) =
      (List.range f.height).map (fun row => (List.range f.width).map (bufferColours buffer row)) ↔
      ∀ row < f.height, ∀ column < f.width, colours (yuvPixel f row column) =
        colours (packedPixel f row column) := by
    simp only [List.map_inj_left, List.mem_range]
    refine forall₂_congr fun row hr => forall₂_congr fun column hc => ?_
    rw [bufferColours_eq hd hdata hr hc]
  have hsame : SameColours ⟨f.width, f.height, (List.range f.height).map fun row =>
      (List.range f.width).map fun column => colours (yuvPixel f row column)⟩ buffer ↔
      ∀ row < f.height, ∀ column < f.width, colours (yuvPixel f row column) =
        colours (packedPixel f row column) := by
    rw [← hrows]
    constructor
    · rintro ⟨-, -, h⟩
      rwa [hw, hh] at h
    · intro h
      exact ⟨hw.symm, hh.symm, by rw [hw, hh]; exact h⟩
  rw [hsame]
  simp only [yuvPixel_eq hp]
  by_cases h0 : f.description.rowStride = 0
  · simp only [h0, if_true, ne_eq, not_true_eq_false, false_or, RepeatsFirstRow]
    exact forall₄_congr fun row _ column _ => eq_comm
  · simp only [h0, if_false, ne_eq, not_false_eq_true, true_or, iff_true]
    intros
    trivial

/-- Both decoders answer for every packed frame, and with the same colours exactly where the image
does not take rows from the first one that are not there. -/
theorem decoders_agree_iff (images : Images) (buffers : Nat → Bool) (hf : f.valid = true)
    (hp : isPackedYuv422 f.description.pixelFormat = true) (hdata : f.data.length < 2 ^ 63)
    (hi : images f.width f.height = true) (hb : buffers (f.width * 4 * f.height) = true) :
    (∃ image buffer, toImage images .ch3d8 f = .ok image ∧ packedYuvToBgra buffers f = .ok buffer ∧
      SameColours image buffer) ↔ f.description.rowStride ≠ 0 ∨ RepeatsFirstRow f := by
  rw [toImage_packed images hf hp hi, packedYuvToBgra_ok buffers hf hp hdata hb]
  constructor
  · rintro ⟨image, buffer, himage, hbuffer, hsame⟩
    obtain rfl := Except.ok.inj himage
    obtain rfl := Except.ok.inj hbuffer
    exact (sameColours_iff hp rfl rfl).mp hsame
  · exact fun h => ⟨_, _, rfl, rfl, (sameColours_iff hp rfl rfl).mpr h⟩

end Packed

/-- For every valid YUV frame, no decoder leaves `int` or the bytes of a component, or reads a byte
outside the memory of the frame; and of a packed frame both give the same colours exactly where the
row stride is not 0 or every row decodes as the first one. -/
theorem yuv_decoders (images : Images) (buffers : Nat → Bool) (f : CameraFrame)
    (hf : f.valid = true) (hy : isYuvFormat f.description.pixelFormat = true)
    (hdata : f.data.length < 2 ^ 63) (hi : images f.width f.height = true)
    (hb : buffers (f.width * 4 * f.height) = true) :
    (∀ y u v : Byte, (∀ n ∈ yuvSums y.toNat u.toNat v.toNat, FitsInt n) ∧
      ∀ n ∈ colours (y, u, v), n ≤ 255) ∧
    (∀ row < f.height, ∀ column < f.width,
      readsAt f (yuvPixel f row column) (yuvOffsets f.description row column) ∧
      offsetsBelow (yuvOffsets f.description row column) f.description.memorySize) ∧
    (isPackedYuv422 f.description.pixelFormat = true →
      (∀ row < f.height, ∀ column < f.width,
        readsAt f (packedPixel f row column) (packedOffsets f.description row column) ∧
        offsetsBelow (packedOffsets f.description row column) f.description.memorySize) ∧
      ((∃ image buffer, toImage images .ch3d8 f = .ok image ∧
        packedYuvToBgra buffers f = .ok buffer ∧ SameColours image buffer) ↔
          f.description.rowStride ≠ 0 ∨ RepeatsFirstRow f)) := by
  refine ⟨fun y u v => ⟨fits_yuvSums y u v, colours_le _⟩, fun row hr column hc =>
    ⟨readsAt_yuvOffsets f row column, yuvOffsets_below hf hy hr hc⟩, fun hp => ⟨?_, ?_⟩⟩
  · exact fun row hr column hc => ⟨readsAt_packedOffsets f row column,
      packedOffsets_below hf hy (packed_yuv hp).2 hr hc⟩
  · exact decoders_agree_iff images buffers hf hp hdata hi hb

/-- Two rows of one pair each, black and white, packed with row stride 0. -/
def blackAndWhite : CameraFrame :=
  { description := { width := 2, height := 2, pixelFormat := .yuyv422 }
    data := [16, 128, 16, 128, 235, 128, 235, 128] }

theorem yuv_decoders_broken : blackAndWhite.valid = true ∧
    ∀ image buffer, toImage (fun _ _ => true) .ch3d8 blackAndWhite = .ok image →
      packedYuvToBgra (fun _ => true) blackAndWhite = .ok buffer → ¬ SameColours image buffer := by
  refine ⟨by decide, fun image buffer himage hbuffer hsame => ?_⟩
  have hi := Except.ok.inj himage
  have hb := Except.ok.inj hbuffer
  have hrows := hsame.colours
  rw [← hi, ← hb] at hrows
  revert hrows
  decide

theorem yuv_decoders_strided :
    ∃ f : CameraFrame, f.valid = true ∧ isPackedYuv422 f.description.pixelFormat = true ∧
      ∃ image buffer, toImage (fun _ _ => true) .ch3d8 f = .ok image ∧
        packedYuvToBgra (fun _ => true) f = .ok buffer ∧ SameColours image buffer :=
  ⟨{ blackAndWhite with description := { blackAndWhite.description with rowStride := 4 } },
    by decide, by decide,
    ((yuv_decoders (fun _ _ => true) (fun _ => true) _ (by decide) (by decide) (by decide) rfl
      rfl).2.2 (by decide)).2.mpr (.inl (by decide))⟩

end WSE.Proof.Tmr
