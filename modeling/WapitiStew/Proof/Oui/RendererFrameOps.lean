import WapitiStew.Framework.Throwing
import WapitiStew.Proof.Wse.ImageInterleaved
import WapitiStew.Spec.Oui.RendererFrameOps

/-!
# Conversions between renderer frames and images are inverse

A valid frame is `Laid` out in rows, and becomes the image of them (`toImage_eq`); an image that
`Fits` becomes the packed frame of its low 32-bit extent (`toRendererFrame_eq`), and any other is
refused (`toRendererFrame_refused`). The two are inverse where the extent is the whole one.
-/

namespace WSE.Proof.Oui

open WSE.Framework WSE.Impl WSE.Impl.Oui WSE.Spec.Oui WSE.Proof.Wse

variable {q : ImageType}

/-! ## Formats and layouts -/

theorem coreFormatOf_rendererFormat (q : ImageType) :
    coreFormatOf q.rendererFormat = some q.core := by
  cases q <;> rfl

theorem known_rendererFormat (q : ImageType) : isKnownFormat q.rendererFormat = true := by
  cases q <;> rfl

theorem core_small (q : ImageType) : q.core.sampleSize ≤ 2 := by cases q <;> decide

theorem pixelBytes_le (q : ImageType) : q.core.pixelBytes ≤ 8 := by cases q <;> decide

theorem bytesPerPixel_eq {d : RendererFrameDescription} (h : d.format = q.rendererFormat) :
    d.bytesPerPixel = q.core.pixelBytes := by
  rw [RendererFrameDescription.bytesPerPixel, h]
  cases q <;> rfl

section Layout

variable {f : RendererFrameData} (hformat : f.format = q.rendererFormat)

include hformat

theorem minimumRowPitch_eq :
    f.description.minimumRowPitch = f.width.toNat * q.core.pixelBytes := by
  have hbytes : f.description.bytesPerPixel = q.core.pixelBytes := bytesPerPixel_eq hformat
  have hpos := q.core.pixelBytes_pos
  have hwidth : f.description.extent.width = f.width.toNat := rfl
  have hlt := f.width.toNat_lt
  have hle : f.width.toNat ≤ (2 ^ 64 - 1) / q.core.pixelBytes := by
    rw [Nat.le_div_iff_mul_le hpos]
    have := Nat.mul_le_mul_left f.width.toNat (pixelBytes_le q)
    omega
  rw [RendererFrameDescription.minimumRowPitch, hbytes, hwidth]
  by_cases hw : f.width.toNat = 0
  · rw [if_pos (.inr (.inl hw)), hw, Nat.zero_mul]
  · exact if_neg (by omega)

/-- The rows of a frame lie in its data. -/
structure Laid (q : ImageType) (f : RendererFrameData) : Prop where
  width_pos : f.width.toNat ≠ 0
  height_pos : f.height.toNat ≠ 0
  pitch : f.width.toNat * q.core.pixelBytes ≤ f.description.effectiveRowPitch
  size_lt : f.description.effectiveRowPitch * f.height.toNat < 2 ^ 64
  length : f.data.length = f.description.effectiveRowPitch * f.height.toNat

omit hformat in
theorem Laid.pitch_pos (h : Laid q f) : 0 < f.description.effectiveRowPitch :=
  Nat.lt_of_lt_of_le
    (Nat.mul_pos (Nat.pos_of_ne_zero h.width_pos) q.core.pixelBytes_pos) h.pitch

theorem laid_of_valid (h : f.validate = .ok ()) : Laid q f := by
  rw [RendererFrameData.validate, validateRendererFrame] at h
  obtain ⟨_, hd, h⟩ := except_bind_ok h
  rw [validateRendererFrameDescription] at hd
  obtain ⟨hempty, hd⟩ := unless_ok hd rfl
  obtain ⟨-, hd⟩ := unless_ok hd rfl
  obtain ⟨hpitch, -⟩ := unless_ok hd rfl
  obtain ⟨hsize, -⟩ := unless_ok h rfl
  simp only [RendererExtent2D.empty, Bool.or_eq_true, decide_eq_true_eq, not_or] at hempty
  simp only [Bool.or_eq_true, decide_eq_true_eq, not_or] at hpitch
  rw [minimumRowPitch_eq hformat] at hpitch
  have hsize : f.data.length = f.description.memorySize := not_not.mp hsize
  have hmemory := hpitch.2
  rw [RendererFrameDescription.memorySize] at hmemory hsize
  split at hmemory
  · exact absurd rfl hmemory
  rename_i hfits
  rw [if_neg hfits, Nat.mul_comm] at hsize
  simp only [not_or, Nat.not_lt] at hfits
  have hle := (Nat.le_div_iff_mul_le (Nat.pos_of_ne_zero hfits.1)).mp hfits.2.2
  rw [Nat.mul_comm] at hle
  exact ⟨hempty.1, hempty.2, Nat.not_lt.mp hpitch.1.2, Nat.lt_of_le_pred (by decide) hle, hsize⟩

theorem valid_of_laid (h : Laid q f) : f.validate = .ok () := by
  have hmin := minimumRowPitch_eq hformat
  have hrow := Nat.mul_pos (Nat.pos_of_ne_zero h.width_pos) q.core.pixelBytes_pos
  have hheight : f.description.extent.height = f.height.toNat := rfl
  have hmemory : f.description.memorySize = f.description.effectiveRowPitch * f.height.toNat := by
    have hle : f.height.toNat ≤ (2 ^ 64 - 1) / f.description.effectiveRowPitch := by
      rw [Nat.le_div_iff_mul_le h.pitch_pos, Nat.mul_comm]
      exact Nat.le_pred_of_lt h.size_lt
    have := h.pitch_pos
    have := h.height_pos
    rw [RendererFrameDescription.memorySize, hheight, if_neg (by omega), Nat.mul_comm]
  have hempty : f.description.extent.empty = false := by
    have hw : f.description.extent.width ≠ 0 := h.width_pos
    have hh : f.description.extent.height ≠ 0 := h.height_pos
    simp only [RendererExtent2D.empty, hw, hh, decide_false, Bool.or_self]
  have hknown : isKnownFormat f.description.format = true :=
    (congrArg isKnownFormat hformat).trans (known_rendererFormat q)
  have hpitch : ¬(f.description.minimumRowPitch = 0 ||
      f.description.effectiveRowPitch < f.description.minimumRowPitch ||
      f.description.memorySize = 0) = true := by
    have := h.pitch
    have := Nat.mul_pos h.pitch_pos (Nat.pos_of_ne_zero h.height_pos)
    simp only [Bool.or_eq_true, decide_eq_true_eq]
    omega
  have hlength : ¬f.data.length ≠ f.description.memorySize :=
    not_not.mpr (h.length.trans hmemory.symm)
  rw [RendererFrameData.validate, validateRendererFrame, validateRendererFrameDescription]
  simp only [hempty, hknown, hpitch, hlength, Bool.not_true, Bool.false_eq_true, if_false]
  rfl

end Layout

/-! ## From a frame to an image -/

/-- The view of the data of a frame. -/
def frameView (f : RendererFrameData) : Wse.InterleavedView :=
  { width := UInt64.ofNat f.width.toNat
    height := UInt64.ofNat f.height.toNat
    rowStride := UInt64.ofNat f.description.effectiveRowPitch
    accessibleBytes := UInt64.ofNat f.data.length
    data := some fun k => f.data.getD k 0 }

/-- The image whose pixels have the bytes of the rows. -/
def rowsImage (q : ImageType) (f : RendererFrameData) : Wse.Image q.core :=
  Grid.ofFn f.width.toNat f.height.toNat fun x y =>
    Wse.Pixel.ofBytes false q.core fun k => rowByte f y (x * q.core.pixelBytes + k)

section View

variable {f : RendererFrameData} (h : Laid q f)

include h

theorem frameView_sizes : (frameView f).width.toNat = f.width.toNat ∧
    (frameView f).height.toNat = f.height.toNat ∧
    (frameView f).rowStride.toNat = f.description.effectiveRowPitch ∧
    (frameView f).accessibleBytes.toNat = f.description.effectiveRowPitch * f.height.toNat := by
  have hw := f.width.toNat_lt
  have hh := f.height.toNat_lt
  have hle := Nat.le_mul_of_pos_right f.description.effectiveRowPitch
    (Nat.pos_of_ne_zero h.height_pos)
  have hsize := h.size_lt
  have hlen : (frameView f).accessibleBytes.toNat = f.data.length :=
    UInt64.toNat_ofNat_of_lt' (h.length ▸ hsize)
  exact ⟨UInt64.toNat_ofNat_of_lt' (Nat.lt_trans hw (by decide)),
    UInt64.toNat_ofNat_of_lt' (Nat.lt_trans hh (by decide)),
    UInt64.toNat_ofNat_of_lt' (Nat.lt_of_le_of_lt hle hsize), hlen.trans h.length⟩

theorem frameView_stride :
    WSE.Spec.Wse.rowStride q.core (frameView f).1 = f.description.effectiveRowPitch := by
  have hstride := (frameView_sizes h).2.2.1
  rw [WSE.Spec.Wse.rowStride, if_pos, hstride]
  rw [hstride]
  exact h.pitch_pos.ne'

theorem frameView_valid : Wse.isInterleavedViewValid q.core (frameView f) = some true := by
  obtain ⟨hw, hh, -, hsize⟩ := frameView_sizes h
  have hstride := frameView_stride h
  refine view_of_layout (l := (frameView f).1) _ (strided_layout_valid
    (by rw [hw]; exact h.width_pos) (by rw [hh]; exact h.height_pos) ?_ ?_)
  · rw [hw, hstride]
    exact h.pitch
  · rw [hstride, hh, hsize]

theorem buildInterleavedView_eq (hformat : f.format = q.rendererFormat) :
    buildInterleavedView q.core f = some (.ok (frameView f)) := by
  have hdata : f.data.isEmpty = false := by
    have hpos := Nat.mul_pos h.pitch_pos (Nat.pos_of_ne_zero h.height_pos)
    rw [← h.length] at hpos
    rw [List.isEmpty_eq_false_iff]
    exact List.ne_nil_of_length_pos hpos
  unfold buildInterleavedView
  rw [hformat, coreFormatOf_rendererFormat, if_neg (not_not.mpr rfl),
    valid_of_laid hformat h]
  dsimp only
  rw [hdata, if_neg Bool.false_ne_true]
  change Option.map _ (Wse.isInterleavedViewValid q.core (frameView f)) = _
  rw [frameView_valid h]
  rfl

/-- A valid frame becomes the image that has the bytes of its rows. -/
theorem toImage_eq (hformat : f.format = q.rendererFormat) {images : Nat → Nat → Bool}
    (himages : images f.width.toNat f.height.toNat = true) (littleEndian : Bool)
    (old : Wse.Image q.core) :
    toImage littleEndian images q old f = some (.ok (), rowsImage q f) := by
  obtain ⟨hw, hh, -, -⟩ := frameView_sizes h
  have hmake := makeImage_eq littleEndian (frameView_valid h) rfl
  rw [hw, hh, frameView_stride h] at hmake
  simp only [pixelOf_small (.inr (core_small q))] at hmake
  unfold toImage convertFrameToImage
  rw [buildInterleavedView_eq h hformat, Option.bind_eq_bind, Option.bind_some]
  dsimp only
  rw [hw, hh, himages, if_neg (by decide), hmake]
  rfl

end View

/-! ## From an image to a frame -/

/-- A write that finds its target too small or of another extent fails. -/
theorem write_wrapped (littleEndian : Bool) {p : Wse.PixFormat} {t : Wse.InterleavedView}
    {image : Wse.Image p} (hstride : t.rowStride.toNat = image.width * p.pixelBytes)
    (hlarge : t.accessibleBytes.toNat < image.width * p.pixelBytes * image.height) :
    ∃ data, Wse.writeImageToInterleaved littleEndian t image = some (false, data) := by
  obtain ⟨b, hb⟩ := Option.isSome_iff_exists.mp (valid_isSome p t)
  have hb : Wse.isInterleavedTargetValid p t = some b := hb
  have hsome : ∃ r, Wse.writeImageToInterleaved littleEndian t image = some r := by
    cases b with
    | true => exact Option.isSome_iff_exists.mp ((staysInside littleEndian p).target t hb image)
    | false =>
      rw [Wse.writeImageToInterleaved, hb]
      exact ⟨_, rfl⟩
  obtain ⟨⟨r, data⟩, hwrite⟩ := hsome
  obtain ⟨rfl, -⟩ | ⟨hvalid, hw, hh⟩ := writeImage_cases littleEndian hwrite
  · exact ⟨data, hwrite⟩
  · have hc := (target_checked hvalid).1
    have hrow : WSE.Spec.Wse.rowStride p t.1 = image.width * p.pixelBytes := by
      rw [WSE.Spec.Wse.rowStride, hstride, ← hw, ite_self]
    have hsize := hc.size
    rw [hrow, ← hh, ← hw, ← Nat.succ_mul, Nat.succ_eq_add_one,
      Nat.sub_add_cancel (Nat.pos_of_ne_zero (hh ▸ hc.height_pos)), Nat.mul_comm] at hsize
    exact absurd hsize (Nat.not_le.mpr hlarge)

/-- The frame that an image becomes. -/
def writtenFrame (littleEndian : Bool) (image : Wse.Image q.core) : RendererFrameData where
  width := UInt32.ofNat image.width
  height := UInt32.ofNat image.height
  format := q.rendererFormat
  data := (List.range (image.width * q.core.pixelBytes * image.height)).map
    (writtenBytes littleEndian image)

section Written

variable (littleEndian : Bool) {allocates : Nat → Bool} {image : Wse.Image q.core}

theorem toRendererFrame_eq (h : Fits image)
    (hall : allocates (image.width * q.core.pixelBytes * image.height) = true) :
    toRendererFrame littleEndian allocates q image =
      some (.ok (writtenFrame littleEndian image)) := by
  have hpos := packedRow_pos h
  have hle := packedRow_le h
  unfold toRendererFrame convertImageToFrame
  rw [if_neg (by simp [h.width_pos, h.height_pos]), packedRowBytes_eq h]
  dsimp only
  rw [if_neg hpos.ne', Nat.mod_eq_of_lt h.size_lt, hall, if_neg (by decide), if_neg (by omega)]
  change Option.map _ (Wse.writeImageToInterleaved littleEndian (packedTarget image) image) = _
  rw [writePacked_eq h]
  rfl

/-- Every image either fits in a frame that can be allocated or is refused. -/
theorem fits_or_refused (allocates : Nat → Bool) (image : Wse.Image q.core) :
    (Fits image ∧ allocates (image.width * q.core.pixelBytes * image.height) = true) ∨
      Refused allocates image := by
  by_cases hr : Refused allocates image
  · exact .inr hr
  · simp only [Refused, not_or, Nat.not_le, Bool.not_eq_false] at hr
    exact .inl ⟨⟨hr.1, hr.2.1, hr.2.2.1⟩, hr.2.2.2⟩

theorem toRendererFrame_refused (h : Refused allocates image) :
    ∃ e, toRendererFrame littleEndian allocates q image = some (.error e) := by
  unfold toRendererFrame convertImageToFrame
  by_cases hempty : image.width = 0 ∨ image.height = 0
  · rw [if_pos (by simpa using hempty)]
    exact ⟨_, rfl⟩
  rw [if_neg (by simpa using hempty)]
  rw [not_or] at hempty
  dsimp only
  split
  · exact ⟨_, rfl⟩
  rename_i hrow
  obtain ⟨hrow, hlt⟩ := packedRowBytes_ne_zero hrow
  rw [hrow]
  split
  · exact ⟨_, rfl⟩
  rename_i hall
  by_cases hsize : image.width * q.core.pixelBytes * image.height < 2 ^ 64
  · -- Only the allocation can have refused it.
    rw [Nat.mod_eq_of_lt hsize] at hall
    obtain h0 | h0 | hle | hfalse := h
    · exact absurd h0 hempty.1
    · exact absurd h0 hempty.2
    · exact absurd hsize (Nat.not_lt.mpr hle)
    · rw [hfalse] at hall
      exact absurd rfl hall
  · have hmod := Nat.mod_lt (image.width * q.core.pixelBytes * image.height)
      (Nat.two_pow_pos 64)
    generalize image.width * q.core.pixelBytes * image.height % 2 ^ 64 = n at hmod ⊢
    have haccess : (UInt64.ofNat n).toNat = n := UInt64.toNat_ofNat_of_lt' hmod
    obtain ⟨data, hwrite⟩ := write_wrapped littleEndian
      (t := { width := UInt64.ofNat image.width, height := UInt64.ofNat image.height,
              rowStride := UInt64.ofNat (image.width * q.core.pixelBytes),
              accessibleBytes := UInt64.ofNat n,
              data := if n = 0 then none else some fun _ => 0 })
      (UInt64.toNat_ofNat_of_lt' hlt)
      (lt_of_eq_of_lt haccess (Nat.lt_of_lt_of_le hmod (Nat.not_lt.mp hsize)))
    rw [hwrite]
    exact ⟨_, rfl⟩

/-! ### What is written -/

variable (h : Fits image) (hw : image.width < 2 ^ 32) (hh : image.height < 2 ^ 32)

include hw

theorem width_writtenFrame : (writtenFrame littleEndian image).width.toNat = image.width :=
  UInt32.toNat_ofNat_of_lt' hw

theorem pitch_writtenFrame : (writtenFrame littleEndian image).description.effectiveRowPitch =
    image.width * q.core.pixelBytes := by
  have hmin := minimumRowPitch_eq (q := q) (f := writtenFrame littleEndian image) rfl
  rw [width_writtenFrame littleEndian hw] at hmin
  rw [RendererFrameDescription.effectiveRowPitch, if_pos (by rfl), hmin]

include h

/-- A byte of a row of the frame is that of the pixel. -/
theorem rowByte_writtenFrame {x y k : Nat} (hx : x < image.width) (hy : y < image.height)
    (hk : k < q.core.pixelBytes) :
    rowByte (writtenFrame littleEndian image) y (x * q.core.pixelBytes + k) =
      (image.get x y).byte false k := by
  rw [rowByte, pitch_writtenFrame littleEndian hw]
  exact writtenBytes_getD h (.inr (core_small q)) hx hy hk

include hh

theorem laid_writtenFrame : Laid q (writtenFrame littleEndian image) := by
  have hwidth := width_writtenFrame littleEndian hw
  have hpitch := pitch_writtenFrame littleEndian hw
  have hheight : (writtenFrame littleEndian image).height.toNat = image.height :=
    UInt32.toNat_ofNat_of_lt' hh
  have hlen : (writtenFrame littleEndian image).data.length =
      image.width * q.core.pixelBytes * image.height := by
    rw [writtenFrame, List.length_map, List.length_range]
  exact ⟨hwidth.symm ▸ h.width_pos, hheight.symm ▸ h.height_pos, by rw [hwidth, hpitch],
    by rw [hpitch, hheight]; exact h.size_lt, by rw [hlen, hpitch, hheight]⟩

/-- The rows of the frame make the image. -/
theorem rowsImage_writtenFrame : rowsImage q (writtenFrame littleEndian image) = image := by
  have hwidth := width_writtenFrame littleEndian hw
  have hheight : (writtenFrame littleEndian image).height.toNat = image.height :=
    UInt32.toNat_ofNat_of_lt' hh
  refine Grid.ext_get hwidth hheight fun x hx y hy => ?_
  have hx : x < (writtenFrame littleEndian image).width.toNat := hx
  have hy : y < (writtenFrame littleEndian image).height.toNat := hy
  rw [rowsImage, Grid.get_ofFn _ hx hy, ← ofBytes_byte false (image.get x y)]
  exact ofBytes_congr false fun k hk =>
    rowByte_writtenFrame littleEndian h hw (hwidth ▸ hx) (hheight ▸ hy) hk

theorem frameOf_writtenFrame (images : Nat → Nat → Bool) :
    FrameOf littleEndian images image (writtenFrame littleEndian image) := by
  have hlaid := laid_writtenFrame littleEndian h hw hh
  have hwidth := width_writtenFrame littleEndian hw
  have hheight : (writtenFrame littleEndian image).height.toNat = image.height :=
    UInt32.toNat_ofNat_of_lt' hh
  refine ⟨valid_of_laid rfl hlaid, hwidth, hheight, fun himages old => ?_⟩
  rw [toImage_eq hlaid rfl (by rw [hwidth, hheight]; exact himages),
    rowsImage_writtenFrame littleEndian h hw hh]

end Written

/-! ## Both directions -/

section Directions

variable (littleEndian : Bool) (images : Nat → Nat → Bool) (allocates : Nat → Bool)

/-- Exactly the images that are refused or have the extent of a frame survive. -/
theorem survives_iff (image : Wse.Image q.core) :
    Survives littleEndian images allocates image ↔
      (image.width < 2 ^ 32 ∧ image.height < 2 ^ 32) ∨ Refused allocates image := by
  obtain ⟨hfits, hall⟩ | hrefused := fits_or_refused allocates image
  · have hframe := toRendererFrame_eq littleEndian hfits hall
    constructor
    · rintro ⟨result, hresult, hok⟩
      rw [hframe] at hresult
      cases hresult
      have hf := hok _ rfl
      refine .inl ⟨?_, ?_⟩
      · rw [← hf.width]
        exact UInt32.toNat_lt _
      · rw [← hf.height]
        exact UInt32.toNat_lt _
    · rintro (⟨hw, hh⟩ | h0 | h0 | hsize | hfalse)
      · refine ⟨_, hframe, fun f hf => ?_⟩
        cases hf
        exact frameOf_writtenFrame littleEndian hfits hw hh images
      · exact absurd h0 hfits.width_pos
      · exact absurd h0 hfits.height_pos
      · exact absurd hfits.size_lt (Nat.not_lt.mpr hsize)
      · rw [hall] at hfalse
        cases hfalse
  · obtain ⟨e, he⟩ := toRendererFrame_refused littleEndian hrefused
    exact iff_of_true ⟨_, he, nofun⟩ (.inr hrefused)

variable {f : RendererFrameData}

/-- The image of the rows of a frame fits in a frame again. -/
theorem fits_rowsImage (h : Laid q f) : Fits (rowsImage q f) where
  width_pos := h.width_pos
  height_pos := h.height_pos
  size_lt := Nat.lt_of_le_of_lt (Nat.mul_le_mul_right _ h.pitch) h.size_lt

theorem packedCopy_writtenFrame (hformat : f.format = q.rendererFormat) (h : Laid q f) :
    PackedCopy f (writtenFrame littleEndian (rowsImage q f)) where
  valid := valid_of_laid rfl (laid_writtenFrame littleEndian (fits_rowsImage h)
    f.width.toNat_lt f.height.toNat_lt)
  width := UInt32.ofNat_toNat
  height := UInt32.ofNat_toNat
  format := hformat.symm
  rowPitch := rfl
  pixels := fun row hrow k hk => by
    rw [minimumRowPitch_eq hformat] at hk
    have hpos := q.core.pixelBytes_pos
    have hx : k / q.core.pixelBytes < f.width.toNat :=
      Nat.div_lt_of_lt_mul (by rwa [Nat.mul_comm])
    have hbyte := rowByte_writtenFrame littleEndian (fits_rowsImage h) f.width.toNat_lt hx hrow
      (Nat.mod_lt k hpos)
    rw [rowsImage, Grid.get_ofFn _ hx hrow, byte_ofBytes false _ (Nat.mod_lt k hpos), Nat.mul_comm,
      Nat.div_add_mod] at hbyte
    exact hbyte

/-- The view that is built is one that was checked. -/
theorem buildInterleavedView_cases (p : Wse.PixFormat) (f : RendererFrameData) :
    (∃ e, buildInterleavedView p f = some (.error e)) ∨
      ∃ view, buildInterleavedView p f = some (.ok view) ∧
        Wse.isInterleavedViewValid p view = some true := by
  unfold buildInterleavedView
  split
  · exact .inl ⟨_, rfl⟩
  split
  · exact .inl ⟨_, rfl⟩
  dsimp only
  generalize ({ width := _, height := _, rowStride := _, accessibleBytes := _, data := _ } :
    Wse.InterleavedView) = view
  obtain ⟨b, hb⟩ := Option.isSome_iff_exists.mp (valid_isSome p view)
  rw [hb]
  cases b with
  | false => exact .inl ⟨_, rfl⟩
  | true => exact .inr ⟨view, rfl, hb⟩

/-- A conversion that fails leaves the image as it was, and none leaves the data of the frame. -/
theorem toImage_cases (old : Wse.Image q.core) (f : RendererFrameData) :
    ∃ status image, toImage littleEndian images q old f = some (status, image) ∧
      ∀ e, status = .error e → image = old := by
  unfold toImage convertFrameToImage
  obtain ⟨e, he⟩ | ⟨view, hview, hvalid⟩ := buildInterleavedView_cases q.core f
  · rw [he]
    exact ⟨_, _, rfl, fun _ _ => rfl⟩
  · rw [hview, Option.bind_eq_bind, Option.bind_some]
    dsimp only
    split
    · exact ⟨_, _, rfl, fun _ _ => rfl⟩
    · obtain ⟨made, hmade⟩ := (staysInside littleEndian q.core).view view hvalid
      rw [hmade]
      exact ⟨_, _, rfl, nofun⟩

end Directions

/-- Exactly the images of 32-bit extents, and those that are refused, survive their frame; every
valid frame of a format with images survives its image; and a conversion to an image that fails
leaves it as it was. -/
theorem renderer_frame_image (littleEndian : Bool) (images : Nat → Nat → Bool)
    (allocates : Nat → Bool) (q : ImageType) :
    (∀ image : Wse.Image q.core, Survives littleEndian images allocates image ↔
      (image.width < 2 ^ 32 ∧ image.height < 2 ^ 32) ∨ Refused allocates image) ∧
    (∀ f : RendererFrameData, f.validate = .ok () → f.format = q.rendererFormat →
      images f.width.toNat f.height.toNat = true →
      allocates (f.width.toNat * q.core.pixelBytes * f.height.toNat) = true →
      ∀ old, ∃ image, toImage littleEndian images q old f = some (.ok (), image) ∧
        ∃ g, toRendererFrame littleEndian allocates q image = some (.ok g) ∧ PackedCopy f g) ∧
    ∀ old f, ∃ status image, toImage littleEndian images q old f = some (status, image) ∧
      ∀ e, status = .error e → image = old := by
  refine ⟨survives_iff littleEndian images allocates, fun f hf hformat himages hall old => ?_,
    toImage_cases littleEndian images⟩
  have h := laid_of_valid hformat hf
  exact ⟨_, toImage_eq h hformat himages littleEndian old, _,
    toRendererFrame_eq littleEndian (fits_rowsImage h) hall,
    packedCopy_writtenFrame littleEndian hformat h⟩

/-- A frame of one pixel with a margin. -/
theorem renderer_frame_image_margin :
    ∃ image, toImage true (fun _ _ => true) .img1c08 (Wse.blank _ 0 0)
        ⟨1, 1, .r8Unorm, 4, [7, 0, 0, 0]⟩ = some (.ok (), image) ∧
      ∃ g, toRendererFrame true (fun _ => true) .img1c08 image = some (.ok g) ∧
        PackedCopy ⟨1, 1, .r8Unorm, 4, [7, 0, 0, 0]⟩ g :=
  (renderer_frame_image true (fun _ _ => true) (fun _ => true) .img1c08).2.1
    ⟨1, 1, .r8Unorm, 4, [7, 0, 0, 0]⟩ (by decide) rfl rfl rfl (Wse.blank _ 0 0)

/-- One row of more pixels than a frame is wide. -/
def wideImage : Wse.Image (ImageType.core .img1c08) := Wse.blank _ (2 ^ 32 + 1) 1

/-- It becomes a frame of one pixel that has the data of them all, and is not valid. -/
theorem renderer_frame_image_broken :
    ∃ f, toRendererFrame true (fun _ => true) .img1c08 wideImage = some (.ok f) ∧
      f.width = 1 ∧ f.height = 1 ∧ f.data.length = 2 ^ 32 + 1 ∧ f.validate ≠ .ok () ∧
      ¬ Survives (q := .img1c08) true (fun _ _ => true) (fun _ => true) wideImage := by
  have hfits : Fits wideImage := ⟨by decide, by decide, by decide⟩
  have hsize : wideImage.width * (ImageType.core .img1c08).pixelBytes * wideImage.height =
      2 ^ 32 + 1 := by decide
  have hlen : (writtenFrame true wideImage).data.length = 2 ^ 32 + 1 := by
    unfold writtenFrame
    rw [List.length_map, List.length_range, hsize]
  refine ⟨_, toRendererFrame_eq true hfits rfl, by decide, rfl, hlen, fun hv => ?_, fun h => ?_⟩
  · have hsize := (laid_of_valid (q := .img1c08) rfl hv).length
    rw [hlen] at hsize
    exact absurd hsize (by decide)
  · obtain ⟨hw, -⟩ | hrefused := (survives_iff true _ _ wideImage).mp h
    · exact absurd hw (by decide)
    · obtain ⟨e, he⟩ := toRendererFrame_refused true hrefused
      rw [toRendererFrame_eq true hfits rfl] at he
      cases he

end WSE.Proof.Oui
