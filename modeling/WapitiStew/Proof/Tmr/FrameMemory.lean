import WapitiStew.Proof.Tmr.FrameRows

/-!
# The memory of a frame

`memorySize` is 0 or the bytes of a layout (`memorySize_cases`), and it finds every layout that
there is (`memorySize_layout`). In a valid frame a place of a row is within that size
(`place_lt`), so no product or sum on the way to it wraps (`lineAddress_inside`); what each
operation reads is such places (`addresses_inside`), and its result is made of the bytes there
(`perform_reads`).
-/

namespace WSE.Proof.Tmr

open WSE.Framework WSE.Impl.Tmr WSE.Spec.Tmr

/-! ## The size -/

section Size

variable {d : CameraFrameDescription}

theorem even_iff (w : UInt32) : w % 2 = 0 ↔ w.toNat % 2 = 0 := by
  rw [← UInt32.toNat_inj, UInt32.toNat_mod]
  rfl

theorem minimumRowStride_rowBytes (d : CameraFrameDescription) :
    d.minimumRowStride = rowBytes d := by
  unfold rowBytes
  split
  · rename_i h
    unfold CameraFrameDescription.minimumRowStride
    rw [if_pos h]
  · rename_i h
    exact minimumRowStride_eq h

theorem layoutBytes_eq (d : CameraFrameDescription) :
    layoutBytes d = planeRows d * effectiveStride d := by
  rw [layoutBytes, effectiveStride, minimumRowStride_rowBytes]

theorem minimumRowStride64_eq (d : CameraFrameDescription) :
    d.minimumRowStride64 = some d.minimumRowStride := by
  unfold CameraFrameDescription.minimumRowStride64 CameraFrameDescription.minimumRowStride
  split
  · rfl
  dsimp only
  split
  · rfl
  · rename_i h
    simp only [Bool.or_eq_true, decide_eq_true_eq, not_or, not_lt] at h
    have hfit := (Nat.le_div_iff_mul_le (Nat.pos_of_ne_zero h.1.2)).mp h.2
    exact mul64_eq (Nat.lt_of_le_of_lt hfit (by decide))

/-- The checks before each product and sum keep it in 64 bits. -/
theorem memorySize64_eq (d : CameraFrameDescription) : d.memorySize64 = some d.memorySize := by
  unfold CameraFrameDescription.memorySize64 CameraFrameDescription.memorySize
  dsimp only
  by_cases hh : d.height.toNat = 0
  · rw [if_pos hh, if_pos hh]
  rw [if_neg hh, if_neg hh]
  by_cases hy : (d.pixelFormat = .uyvy422 || d.pixelFormat = .yuyv422) && d.width % 2 ≠ 0
  · rw [if_pos hy, if_pos hy]
  rw [if_neg hy, if_neg hy]
  by_cases hn : d.pixelFormat = .nv12
  · rw [if_pos hn, if_pos hn]
    by_cases heven : d.width = 0 || d.width % 2 ≠ 0 || d.height % 2 ≠ 0
    · rw [if_pos heven, if_pos heven]
    rw [if_neg heven, if_neg heven]
    generalize (if d.rowStride = 0 then d.width.toNat else d.rowStride) = stride
    split
    · rfl
    rename_i hfit
    simp only [Bool.or_eq_true, decide_eq_true_eq, not_or, not_lt, not_not] at heven hfit
    have hrows : 0 < d.height.toNat / 2 := by
      have := (even_iff d.height).mp heven.2
      omega
    have hluma := (Nat.le_div_iff_mul_le (Nat.pos_of_ne_zero hh)).mp hfit.2
    rw [mul64_eq (Nat.lt_of_le_of_lt hluma (by decide))]
    dsimp only [Option.bind_eq_bind, Option.bind_some]
    split
    · rfl
    rename_i hchroma
    have hchroma := (Nat.le_div_iff_mul_le hrows).mp (not_lt.mp hchroma)
    unfold sizeMax at hluma hchroma
    rw [mul64_eq (by omega), Option.bind_some, add64_eq (by omega)]
  rw [if_neg hn, if_neg hn]
  split
  · rfl
  rw [minimumRowStride64_eq]
  dsimp only [Option.bind_eq_bind, Option.bind_some]
  generalize (if d.rowStride = 0 then d.minimumRowStride else d.rowStride) = stride
  split
  · rfl
  rename_i hfit
  simp only [Bool.or_eq_true, decide_eq_true_eq, not_or, not_lt] at hfit
  have := (Nat.le_div_iff_mul_le (Nat.pos_of_ne_zero hh)).mp hfit.2
  exact mul64_eq (Nat.lt_of_le_of_lt this (by decide))

theorem memorySize_lt (d : CameraFrameDescription) : d.memorySize < 2 ^ 64 := by
  have hpos : 0 < 2 ^ 64 := by decide
  unfold CameraFrameDescription.memorySize
  dsimp only
  by_cases hh : d.height.toNat = 0
  · rwa [if_pos hh]
  rw [if_neg hh]
  by_cases hy : (d.pixelFormat = .uyvy422 || d.pixelFormat = .yuyv422) && d.width % 2 ≠ 0
  · rwa [if_pos hy]
  rw [if_neg hy]
  by_cases hn : d.pixelFormat = .nv12
  · rw [if_pos hn]
    by_cases heven : d.width = 0 || d.width % 2 ≠ 0 || d.height % 2 ≠ 0
    · rwa [if_pos heven]
    rw [if_neg heven]
    generalize (if d.rowStride = 0 then d.width.toNat else d.rowStride) = stride
    split
    · exact hpos
    rename_i hfit
    split
    · exact hpos
    rename_i hchroma
    simp only [Bool.or_eq_true, decide_eq_true_eq, not_or, not_lt, not_not] at heven hfit
    have hrows : 0 < d.height.toNat / 2 := by
      have := (even_iff d.height).mp heven.2
      omega
    have hluma := (Nat.le_div_iff_mul_le (Nat.pos_of_ne_zero hh)).mp hfit.2
    have hchroma := (Nat.le_div_iff_mul_le hrows).mp (not_lt.mp hchroma)
    unfold sizeMax at hluma hchroma
    omega
  rw [if_neg hn]
  split
  · exact hpos
  generalize (if d.rowStride = 0 then d.minimumRowStride else d.rowStride) = stride
  split
  · exact hpos
  rename_i hfit
  simp only [Bool.or_eq_true, decide_eq_true_eq, not_or, not_lt] at hfit
  have := (Nat.le_div_iff_mul_le (Nat.pos_of_ne_zero hh)).mp hfit.2
  exact Nat.lt_of_le_of_lt this (by decide)

/-- Only a frame that is valid and not compressed has a size. -/
theorem valid_of_size (h : d.memorySize ≠ 0) : d.valid = true ∧ d.pixelFormat ≠ .mjpeg := by
  have hm : d.pixelFormat ≠ .mjpeg := fun hm => h (by
    simp [CameraFrameDescription.memorySize, hm])
  have hh : d.height ≠ 0 := fun hh => h (by simp [CameraFrameDescription.memorySize, hh])
  have hw : d.width ≠ 0 := fun hw => h (by
    simp [CameraFrameDescription.memorySize, CameraFrameDescription.minimumRowStride, hw])
  have hu : d.pixelFormat ≠ .unknown := fun hu => h (by
    simp [CameraFrameDescription.memorySize, CameraFrameDescription.minimumRowStride, hu,
      CameraPixelFormat.bytesPerPixel])
  refine ⟨?_, hm⟩
  unfold CameraFrameDescription.valid
  rw [if_neg (by simp [hw, hh, hu]), if_neg hm]
  exact decide_eq_true (Nat.pos_of_ne_zero h)

theorem memorySize_cases (d : CameraFrameDescription) :
    d.memorySize = 0 ∨ HasLayout d ∧ d.memorySize = layoutBytes d := by
  by_cases h : d.memorySize = 0
  · exact .inl h
  obtain ⟨hv, hm⟩ := valid_of_size h
  have hl := valid_layout hv hm
  have hsize : d.memorySize = layoutBytes d := hl.size.trans (layoutBytes_eq d).symm
  have hpos := hl.packed_pos
  have hle := hl.packed_le
  rw [minimumRowStride_rowBytes] at hpos hle
  refine .inr ⟨?_, hsize⟩
  exact
    { height := height_ne_zero hv
      pixels := by omega
      pairs := width_even hv
      blocks := height_even hv
      stride := by
        unfold effectiveStride at hle
        split at hle
        · exact .inl ‹_›
        · exact .inr hle
      fits := hsize ▸ memorySize_lt d }

theorem memorySize_planar (h : HasLayout d) (hn : d.pixelFormat = .nv12) :
    d.memorySize = layoutBytes d := by
  have hw : rowBytes d = d.width.toNat := if_pos hn
  have hrows : planeRows d = d.height.toNat + d.height.toNat / 2 := if_pos hn
  have hpixels := h.pixels
  have hstride := h.stride
  have hfits := h.fits
  have hheight := h.height
  have heven := h.blocks hn
  have hw0 : d.width ≠ 0 := fun h0 => hpixels (by rw [hw, h0]; rfl)
  have hweven := (even_iff d.width).mpr (h.pairs (by rw [hn]; rfl))
  have hheven := (even_iff d.height).mpr heven
  rw [hw] at hstride
  unfold layoutBytes at hfits ⊢
  rw [hrows, hw] at hfits ⊢
  unfold CameraFrameDescription.memorySize
  simp only [hn, hw0, hweven, hheven, ne_eq, not_true, decide_false, Bool.or_self,
    Bool.and_false, Bool.false_eq_true, if_false, if_true, if_neg hheight]
  have hle : d.width.toNat ≤ if d.rowStride = 0 then d.width.toNat else d.rowStride := by
    split <;> omega
  generalize (if d.rowStride = 0 then d.width.toNat else d.rowStride) = stride at hle hfits ⊢
  rw [Nat.add_mul] at hfits ⊢
  have hluma : stride ≤ sizeMax / d.height.toNat := by
    rw [Nat.le_div_iff_mul_le (Nat.pos_of_ne_zero hheight), Nat.mul_comm, sizeMax]
    omega
  have hchroma : stride ≤ (sizeMax - stride * d.height.toNat) / (d.height.toNat / 2) := by
    rw [Nat.le_div_iff_mul_le (by omega), Nat.mul_comm, Nat.mul_comm stride, sizeMax]
    omega
  rw [if_neg (by simpa using ⟨hle, hluma⟩), if_neg (not_lt.mpr hchroma), Nat.mul_comm stride,
    Nat.mul_comm stride]

theorem memorySize_packed (h : HasLayout d) (hn : d.pixelFormat ≠ .nv12) :
    d.memorySize = layoutBytes d := by
  have hrows : planeRows d = d.height.toNat := if_neg hn
  have hpixels := h.pixels
  have hstride := h.stride
  have hfits := h.fits
  have hheight := h.height
  have hm : d.pixelFormat ≠ .mjpeg := fun hm => hpixels (by
    simp [rowBytes, hm, CameraPixelFormat.bytesPerPixel])
  have hpairs : ((decide (d.pixelFormat = .uyvy422) || decide (d.pixelFormat = .yuyv422)) &&
      decide (d.width % 2 ≠ 0)) = false := by
    by_cases hy : isYuvFormat d.pixelFormat = true
    · rw [(even_iff d.width).mpr (h.pairs hy)]
      simp
    · simp only [isYuvFormat, Bool.or_eq_true, decide_eq_true_eq, not_or] at hy
      simp [hy.1.1, hy.1.2]
  unfold layoutBytes at hfits ⊢
  rw [hrows] at hfits ⊢
  unfold CameraFrameDescription.memorySize
  simp only [hn, hm, hpairs, Bool.false_eq_true, if_false, if_neg hheight,
    minimumRowStride_rowBytes]
  have hle : rowBytes d ≤ if d.rowStride = 0 then rowBytes d else d.rowStride := by
    split <;> omega
  generalize (if d.rowStride = 0 then rowBytes d else d.rowStride) = stride at hle hfits ⊢
  have hsize : stride ≤ sizeMax / d.height.toNat := by
    rw [Nat.le_div_iff_mul_le (Nat.pos_of_ne_zero hheight), Nat.mul_comm, sizeMax]
    omega
  rw [if_neg (by simpa using ⟨⟨hpixels, hle⟩, hsize⟩), Nat.mul_comm]

theorem memorySize_layout (h : HasLayout d) : d.memorySize = layoutBytes d := by
  by_cases hn : d.pixelFormat = .nv12
  · exact memorySize_planar h hn
  · exact memorySize_packed h hn

end Size

/-! ## Places -/

section Places

variable {d : CameraFrameDescription} {row k : Nat}

/-- The place was computed, and is within the size. -/
def Inside (d : CameraFrameDescription) (place : Option Nat) : Prop :=
  ∃ n < d.memorySize, place = some n

theorem place_lt (hl : Layout d) (hr : row < planeRows d) (hk : k < d.minimumRowStride) :
    row * effectiveStride d + k < d.memorySize := by
  have hend := sample_le (effectiveStride d) hr
  have hle := hl.packed_le
  rw [hl.size]
  omega

theorem rowStride_le (d : CameraFrameDescription) : d.rowStride ≤ effectiveStride d := by
  unfold effectiveStride
  split <;> omega

theorem line_lt (hl : Layout d) (hr : row < planeRows d) (hk : k < d.minimumRowStride) :
    row * d.rowStride + k < d.memorySize := by
  have hplace := place_lt hl hr hk
  have hline := Nat.mul_le_mul_left row (rowStride_le d)
  omega

theorem lineAddress_eq (hl : Layout d) (hr : row < planeRows d) (hk : k < d.minimumRowStride) :
    lineAddress d row k = some (row * d.rowStride + k) := by
  have hlt := line_lt hl hr hk
  have hsize := memorySize_lt d
  rw [lineAddress, mul64_eq (by omega)]
  exact add64_eq (by omega)

theorem lineAddress_inside (hl : Layout d) (hr : row < planeRows d) (hk : k < d.minimumRowStride) :
    Inside d (lineAddress d row k) := ⟨_, line_lt hl hr hk, lineAddress_eq hl hr hk⟩

/-! ### Samples -/

theorem sampleAddress_eq (hl : Layout d) (hr : row < planeRows d) {sampleBytes index : Nat}
    (hk : index * sampleBytes + k < d.minimumRowStride) :
    (do
      let line ← mul64 row d.rowStride
      add64 (← add64 line (← mul64 index sampleBytes)) k) =
        some (row * d.rowStride + (index * sampleBytes + k)) := by
  have hlt := line_lt hl hr hk
  have hsize := memorySize_lt d
  rw [mul64_eq (show row * d.rowStride < 2 ^ 64 by omega),
    mul64_eq (show index * sampleBytes < 2 ^ 64 by omega)]
  simp only [Option.bind_eq_bind, Option.bind_some]
  rw [add64_eq (by omega), Option.bind_some, add64_eq (by omega), Nat.add_assoc]

theorem interleavedAddress_eq (hl : Layout d) {p : PixFormat}
    (hp : coreFormatOf d.pixelFormat = some p) (hr : row < planeRows d)
    (hk : k < d.minimumRowStride) :
    (do add64 (← mul64 row (interleavedRowStride p d.width.toNat d.rowStride)) k) =
      some (row * effectiveStride d + k) := by
  have hlt := place_lt hl hr hk
  have hsize := memorySize_lt d
  rw [interleavedRowStride_eq hp, mul64_eq (by omega)]
  exact add64_eq (by omega)

/-! ### YUV pixels -/

/-- The lines and the places in them that a pixel is read from. -/
def yuvPlaces (d : CameraFrameDescription) (row column : Nat) : List (Nat × Nat) :=
  if d.pixelFormat = .nv12 then
    [(row, column), (d.height.toNat + row / 2, column / 2 * 2),
      (d.height.toNat + row / 2, column / 2 * 2 + 1)]
  else
    [(row, column / 2 * 4 + column % 2 * 2 + if d.pixelFormat = .uyvy422 then 1 else 0),
      (row, column / 2 * 4 + if d.pixelFormat = .uyvy422 then 0 else 1),
      (row, column / 2 * 4 + if d.pixelFormat = .uyvy422 then 2 else 3)]

theorem yuvPlaces_lt (hd : d.valid = true) (hy : isYuvFormat d.pixelFormat = true) {column : Nat}
    (hr : row < d.height.toNat) (hc : column < d.width.toNat) :
    ∀ p ∈ yuvPlaces d row column, p.1 < planeRows d ∧ p.2 < d.minimumRowStride := by
  have heven := width_even hd hy
  have hrow := Nat.lt_of_lt_of_le hr (height_le_planeRows d)
  intro p hp
  unfold yuvPlaces at hp
  split at hp
  · rename_i hn
    have hheven := height_even hd hn
    have hrows : planeRows d = d.height.toNat + d.height.toNat / 2 := if_pos hn
    have hmin : d.minimumRowStride = d.width.toNat := by
      rw [minimumRowStride_rowBytes, rowBytes, if_pos hn]
    simp only [List.mem_cons, List.not_mem_nil, or_false] at hp
    obtain rfl | rfl | rfl := hp
    · exact ⟨hrow, by omega⟩
    · exact ⟨by omega, by omega⟩
    · exact ⟨by omega, by omega⟩
  · rename_i hn
    have hmin := minimumRowStride_eq hn
    rw [bytesPerPixel_packed hy hn] at hmin
    simp only [List.mem_cons, List.not_mem_nil, or_false] at hp
    obtain rfl | rfl | rfl := hp
    · exact ⟨hrow, by dsimp only; split <;> omega⟩
    · exact ⟨hrow, by dsimp only; split <;> omega⟩
    · exact ⟨hrow, by dsimp only; split <;> omega⟩

theorem planarAddresses_eq (hl : Layout d) (hn : d.pixelFormat = .nv12) {column : Nat}
    (hp : ∀ p ∈ yuvPlaces d row column, p.1 < planeRows d ∧ p.2 < d.minimumRowStride) :
    yuvAddresses d row column = (yuvPlaces d row column).map fun p => lineAddress d p.1 p.2 := by
  have hsize := memorySize_lt d
  unfold yuvAddresses yuvPlaces at *
  rw [if_pos hn] at hp ⊢
  rw [if_pos hn]
  obtain ⟨hr, hk⟩ := hp (d.height.toNat + row / 2, column / 2 * 2 + 1) (by simp)
  have hlt := line_lt hl hr hk
  have heq := lineAddress_eq hl hr hk
  have hfirst := lineAddress_eq (k := column / 2 * 2) hl hr (by omega)
  have hplane := Nat.mul_comm d.rowStride d.height.toNat
  rw [Nat.add_mul] at hlt heq hfirst
  have hchroma : (do
      let planeOffset ← mul64 d.rowStride d.height.toNat
      let chromaPair ← mul64 (column / 2) 2
      add64 (← add64 planeOffset (← mul64 (row / 2) d.rowStride)) chromaPair) =
        lineAddress d (d.height.toNat + row / 2) (column / 2 * 2) := by
    rw [hfirst, mul64_eq (show d.rowStride * d.height.toNat < 2 ^ 64 by omega),
      mul64_eq (show column / 2 * 2 < 2 ^ 64 by omega),
      mul64_eq (show row / 2 * d.rowStride < 2 ^ 64 by omega), hplane]
    simp only [Option.bind_eq_bind, Option.bind_some]
    rw [add64_eq (by omega), Option.bind_some, add64_eq (by omega)]
  dsimp only
  rw [hchroma]
  simp only [List.map_cons, List.map_nil, heq, hfirst, Option.bind_eq_bind, Option.bind_some]
  rw [add64_eq (by omega), Nat.add_assoc _ _ 1]

theorem packedYuvAddresses_eq (hl : Layout d) (hn : d.pixelFormat ≠ .nv12) {column : Nat}
    (hp : ∀ p ∈ yuvPlaces d row column, p.1 < planeRows d ∧ p.2 < d.minimumRowStride) :
    yuvAddresses d row column = (yuvPlaces d row column).map fun p => lineAddress d p.1 p.2 := by
  have hsize := memorySize_lt d
  unfold yuvAddresses yuvPlaces at *
  rw [if_neg hn] at hp ⊢
  rw [if_neg hn]
  simp only [List.forall_mem_cons] at hp
  obtain ⟨⟨hr, hy⟩, ⟨-, hu⟩, ⟨-, hv⟩, -⟩ := hp
  have hlt := line_lt hl hr hy
  have hlt' := line_lt hl hr hu
  have hlt'' := line_lt hl hr hv
  simp only [List.map_cons, List.map_nil, lineAddress_eq hl hr hy, lineAddress_eq hl hr hu,
    lineAddress_eq hl hr hv]
  rw [mul64_eq (show column / 2 * 4 < 2 ^ 64 by omega)]
  simp only [Option.bind_eq_bind, Option.bind_some]
  rw [lineAddress_eq hl hr (by omega), Option.bind_some, Option.bind_some, Option.bind_some,
    add64_eq (show row * d.rowStride + column / 2 * 4 + column % 2 * 2 < 2 ^ 64 by omega),
    Option.bind_some]
  rw [add64_eq (by omega), add64_eq (by omega), add64_eq (by omega)]
  simp only [Nat.add_assoc]

theorem yuvAddresses_eq (hl : Layout d) (hd : d.valid = true)
    (hy : isYuvFormat d.pixelFormat = true) {column : Nat} (hr : row < d.height.toNat)
    (hc : column < d.width.toNat) :
    yuvAddresses d row column = (yuvPlaces d row column).map fun p => lineAddress d p.1 p.2 := by
  have hp := yuvPlaces_lt hd hy hr hc
  by_cases hn : d.pixelFormat = .nv12
  · exact planarAddresses_eq hl hn hp
  · exact packedYuvAddresses_eq hl hn hp

end Places

/-! ## What the operations read -/

section Operations

variable {d : CameraFrameDescription}

theorem not_nv12 {format : CameraPixelFormat} (h : format.bytesPerPixel ≠ 0) : format ≠ .nv12 :=
  fun hn => h (by rw [hn]; rfl)

theorem packedRow_eq (hd : d.pixelFormat.channelCount ≠ 0) :
    d.width.toNat * d.pixelFormat.channelCount * d.pixelFormat.bytesPerSample =
      d.minimumRowStride := by
  have hn : d.pixelFormat ≠ .nv12 := fun hn => hd (by rw [hn]; rfl)
  rw [minimumRowStride_eq hn, bytesPerPixel_channels hd, Nat.mul_assoc]

theorem sampleRow_eq (hd : accumulationChannels d.pixelFormat ≠ 0) :
    d.width.toNat * accumulationChannels d.pixelFormat * accumulationSampleBytes d.pixelFormat =
      d.minimumRowStride := by
  have hn : d.pixelFormat ≠ .nv12 := fun hn => hd (by rw [hn]; rfl)
  rw [minimumRowStride_eq hn, bytesPerPixel_accumulation hd, Nat.mul_assoc]

theorem bayerRow_eq (hd : isBayerFormat d.pixelFormat = true) :
    d.width.toNat * 2 = d.minimumRowStride := by
  have hb := bytesPerPixel_bayer hd
  rw [minimumRowStride_eq (not_nv12 (by rw [hb]; decide)), hb]

theorem interleavedRow_eq {p : PixFormat} (hp : coreFormatOf d.pixelFormat = some p) :
    d.width.toNat * p.interleavedPixelBytes = d.minimumRowStride := by
  rw [minimumRowStride_eq (coreFormatOf_plain hp).1, coreFormatOf_bytes hp]

theorem sample_lt {samples sampleBytes index k : Nat} (hi : index < samples)
    (hk : k < sampleBytes) : index * sampleBytes + k < samples * sampleBytes := by
  have := sample_le sampleBytes hi
  omega

/-- A frame that is compressed is refused. -/
theorem addresses_compressed (hm : d.pixelFormat = .mjpeg) (op : FrameOperation) :
    op.addresses d = [] := by
  cases op with
  | packRows => simp [FrameOperation.addresses, packedAddresses, hm, CameraPixelFormat.channelCount]
  | demosaicFrame outputFormat method =>
    simp [FrameOperation.addresses, hm, isBayerFormat, bayerPatternOf]
  | add a =>
    simp [FrameOperation.addresses, hm, accumulationChannels, CameraPixelFormat.channelCount,
      isBayerFormat, bayerPatternOf]
  | toImage p => simp [FrameOperation.addresses, hm, isYuvFormat, coreFormatOf]

theorem addresses_inside (hd : d.valid = true) (op : FrameOperation) :
    ∀ place ∈ op.addresses d, Inside d place := by
  by_cases hm : d.pixelFormat = .mjpeg
  · rw [addresses_compressed hm]
    exact fun place h => absurd h List.not_mem_nil
  have hl := valid_layout hd hm
  have hrows : ∀ row ∈ List.range d.height.toNat, row < planeRows d := fun row hr =>
    Nat.lt_of_lt_of_le (List.mem_range.mp hr) (height_le_planeRows d)
  intro place hplace
  cases op with
  | packRows =>
    obtain ⟨row, hr, hplace⟩ := List.mem_flatMap.mp hplace
    obtain ⟨k, hk, rfl⟩ := List.mem_map.mp hplace
    have hk := List.mem_range.mp hk
    have hc : d.pixelFormat.channelCount ≠ 0 := fun hc => by
      rw [hc, Nat.mul_zero, Nat.zero_mul] at hk
      exact absurd hk (Nat.not_lt_zero k)
    exact lineAddress_inside hl (hrows row hr) (packedRow_eq hc ▸ hk)
  | demosaicFrame outputFormat method =>
    unfold FrameOperation.addresses at hplace
    dsimp only at hplace
    split at hplace
    · rename_i hb
      obtain ⟨row, hr, hplace⟩ := List.mem_flatMap.mp hplace
      obtain ⟨column, hc, hplace⟩ := List.mem_flatMap.mp hplace
      have hc := List.mem_range.mp hc
      have hrow := bayerRow_eq hb
      have h0 := Nat.mod_le (column * 2) (2 ^ 32)
      have h1 := Nat.mod_le (column * 2 + 1) (2 ^ 32)
      simp only [bayerAddresses, List.mem_cons, List.not_mem_nil, or_false] at hplace
      obtain rfl | rfl := hplace
      · exact lineAddress_inside hl (hrows row hr) (by omega)
      · exact lineAddress_inside hl (hrows row hr) (by omega)
    · exact absurd hplace List.not_mem_nil
  | add a =>
    obtain ⟨row, hr, hplace⟩ := List.mem_flatMap.mp hplace
    obtain ⟨index, hi, hplace⟩ := List.mem_flatMap.mp hplace
    obtain ⟨k, hk, rfl⟩ := List.mem_map.mp hplace
    have hi := List.mem_range.mp hi
    have hc : accumulationChannels d.pixelFormat ≠ 0 := fun hc => by
      rw [hc, Nat.mul_zero] at hi
      exact absurd hi (Nat.not_lt_zero index)
    have hk := sampleRow_eq hc ▸ sample_lt hi (List.mem_range.mp hk)
    exact ⟨_, line_lt hl (hrows row hr) hk, sampleAddress_eq hl (hrows row hr) hk⟩
  | toImage p =>
    unfold FrameOperation.addresses at hplace
    dsimp only at hplace
    split at hplace
    · rename_i hy
      simp only [Bool.and_eq_true] at hy
      obtain ⟨row, hr, hplace⟩ := List.mem_flatMap.mp hplace
      obtain ⟨column, hc, hplace⟩ := List.mem_flatMap.mp hplace
      have hr := List.mem_range.mp hr
      have hc := List.mem_range.mp hc
      rw [yuvAddresses_eq hl hd hy.2 hr hc] at hplace
      obtain ⟨q, hq, rfl⟩ := List.mem_map.mp hplace
      obtain ⟨hr, hk⟩ := yuvPlaces_lt hd hy.2 hr hc q hq
      exact lineAddress_inside hl hr hk
    split at hplace
    · rename_i hp
      obtain ⟨row, hr, hplace⟩ := List.mem_flatMap.mp hplace
      obtain ⟨k, hk, rfl⟩ := List.mem_map.mp hplace
      have hk := interleavedRow_eq hp ▸ List.mem_range.mp hk
      exact ⟨_, place_lt hl (hrows row hr) hk, interleavedAddress_eq hl hp (hrows row hr) hk⟩
    · exact absurd hplace List.not_mem_nil

end Operations

/-! ## What the results are made of -/

section Reads

variable {f g : CameraFrame} {op : FrameOperation}

theorem sameHeader_of_reads (h : SameReads op f g) : SameHeader f g where
  width := congrArg _ h.description
  height := congrArg _ h.description
  pixelFormat := congrArg _ h.description
  sequence := h.sequence
  monotonicTimestampNs := h.monotonicTimestampNs

theorem line_congr (h : SameReads op f g) {row k : Nat}
    (hn : some (row * f.description.rowStride + k) ∈ op.addresses f.description) :
    f.lineByte row k = g.lineByte row k := by
  rw [CameraFrame.lineByte, h.bytes _ hn, h.description]
  rfl

theorem address_congr (h : SameReads op f g) (hl : Layout f.description) {row k : Nat}
    (hr : row < planeRows f.description) (hk : k < f.description.minimumRowStride)
    (hn : lineAddress f.description row k ∈ op.addresses f.description) :
    f.lineByte row k = g.lineByte row k :=
  line_congr h (lineAddress_eq hl hr hk ▸ hn)

theorem planeRows_eq {d : CameraFrameDescription} (h : d.pixelFormat ≠ .nv12) :
    planeRows d = d.height.toNat := if_neg h

theorem packRows_reads (h : SameReads .packRows f g) (hf : f.valid = true)
    (hc : f.description.pixelFormat.channelCount ≠ 0) : SameLines f g := by
  have hm : f.description.pixelFormat ≠ .mjpeg := fun hm => hc (by rw [hm]; rfl)
  have hn : f.description.pixelFormat ≠ .nv12 := fun hn => hc (by rw [hn]; rfl)
  intro row hr k hk
  refine address_congr h (frame_layout hf hm).1 hr hk (List.mem_flatMap.mpr ⟨row, ?_, ?_⟩)
  · exact List.mem_range.mpr (planeRows_eq hn ▸ hr)
  · exact List.mem_map.mpr ⟨k, List.mem_range.mpr (packedRow_eq hc ▸ hk), rfl⟩

theorem bayerSample_reads {outputFormat : CameraPixelFormat} {method : DemosaicMethod}
    (h : SameReads (.demosaicFrame outputFormat method) f g) (hf : f.valid = true)
    (hb : isBayerFormat f.description.pixelFormat = true) {row column : Nat}
    (hr : row < f.height) (hc : column < f.width) :
    bayerSample f row column = bayerSample g row column := by
  have hm : f.description.pixelFormat ≠ .mjpeg := fun hm => by
    rw [hm] at hb
    cases hb
  have hl := (frame_layout hf hm).1
  have hrow := bayerRow_eq hb
  have hc : column < f.description.width.toNat := hc
  have hr' := Nat.lt_of_lt_of_le hr (height_le_planeRows f.description)
  have h0 := Nat.mod_le (column * 2) (2 ^ 32)
  have h1 := Nat.mod_le (column * 2 + 1) (2 ^ 32)
  have hmem : ∀ place ∈ bayerAddresses f.description row column,
      place ∈ (FrameOperation.demosaicFrame outputFormat method).addresses f.description := by
    intro place hplace
    unfold FrameOperation.addresses
    dsimp only
    rw [if_pos hb]
    exact List.mem_flatMap.mpr ⟨row, List.mem_range.mpr hr,
      List.mem_flatMap.mpr ⟨column, List.mem_range.mpr hc, hplace⟩⟩
  unfold bayerSample
  rw [address_congr h hl hr' (by omega) (hmem _ List.mem_cons_self),
    address_congr h hl hr' (by omega) (hmem _ (List.mem_cons_of_mem _ List.mem_cons_self))]

theorem add_reads {a : FrameAccumulator} (h : SameReads (.add a) f g) (hf : f.valid = true)
    (hc : accumulationChannels f.description.pixelFormat ≠ 0) : SameLines f g := by
  have hm : f.description.pixelFormat ≠ .mjpeg := fun hm => hc (by rw [hm]; rfl)
  have hn : f.description.pixelFormat ≠ .nv12 := fun hn => hc (by rw [hn]; rfl)
  have hl := (frame_layout hf hm).1
  intro row hr k hk
  have hs : 0 < accumulationSampleBytes f.description.pixelFormat := by
    have := sampleBytes_cases hc
    omega
  obtain ⟨sampleBytes, hsize⟩ : ∃ n, n = accumulationSampleBytes f.description.pixelFormat :=
    ⟨_, rfl⟩
  have hk' := hk
  rw [← sampleRow_eq hc, ← hsize] at hk'
  rw [← hsize] at hs
  -- the byte is in the sample that its place is divided to
  have hplace : k / sampleBytes * sampleBytes + k % sampleBytes = k := by
    rw [Nat.mul_comm, Nat.div_add_mod]
  have haddress := sampleAddress_eq hl hr (show k / sampleBytes * sampleBytes + k % sampleBytes <
    f.description.minimumRowStride by rwa [hplace])
  rw [hplace] at haddress
  refine line_congr h (haddress ▸ List.mem_flatMap.mpr ⟨row, ?_, ?_⟩)
  · exact List.mem_range.mpr (planeRows_eq hn ▸ hr)
  · refine List.mem_flatMap.mpr ⟨k / sampleBytes, List.mem_range.mpr ?_, ?_⟩
    · exact Nat.div_lt_of_lt_mul (by rwa [Nat.mul_comm])
    · rw [← hsize]
      exact List.mem_map.mpr ⟨k % sampleBytes, List.mem_range.mpr (Nat.mod_lt k hs), rfl⟩

theorem yuvPixel_reads {p : PixFormat} (h : SameReads (.toImage p) f g) (hf : f.valid = true)
    (hy : (decide (p = .ch3d8) && isYuvFormat f.description.pixelFormat) = true)
    {row column : Nat} (hr : row < f.height) (hc : column < f.width) :
    yuvPixel f row column = yuvPixel g row column := by
  have hyuv := hy
  simp only [Bool.and_eq_true] at hyuv
  have hm : f.description.pixelFormat ≠ .mjpeg := fun hm => by
    rw [hm] at hyuv
    cases hyuv.2
  have hd := description_valid hf
  have hl := (frame_layout hf hm).1
  have hlines : ∀ q ∈ yuvPlaces f.description row column,
      f.lineByte q.1 q.2 = g.lineByte q.1 q.2 := by
    intro q hq
    obtain ⟨hr', hk⟩ := yuvPlaces_lt hd hyuv.2 hr hc q hq
    refine address_congr h hl hr' hk ?_
    unfold FrameOperation.addresses
    dsimp only
    rw [if_pos hy]
    refine List.mem_flatMap.mpr ⟨row, List.mem_range.mpr hr,
      List.mem_flatMap.mpr ⟨column, List.mem_range.mpr hc, ?_⟩⟩
    rw [yuvAddresses_eq hl hd hyuv.2 hr hc]
    exact List.mem_map_of_mem hq
  have hheight : g.height = f.description.height.toNat := height_eq (sameHeader_of_reads h)
  rw [yuvPixel_lines, yuvPixel_lines, ← h.description, hheight]
  show (if f.description.pixelFormat = .nv12 then (_, f.lineByte (f.description.height.toNat + _) _,
    f.lineByte (f.description.height.toNat + _) _) else _) = _
  unfold yuvPlaces at hlines
  split
  · rename_i hn
    rw [if_pos hn] at hlines
    simp only [List.forall_mem_cons] at hlines
    rw [hlines.1, hlines.2.1, hlines.2.2.1]
  · rename_i hn
    rw [if_neg hn] at hlines
    simp only [List.forall_mem_cons] at hlines
    rw [hlines.1, hlines.2.1, hlines.2.2.1]

theorem image_reads {p : PixFormat} (h : SameReads (.toImage p) f g) (hf : f.valid = true)
    (hy : ¬(decide (p = .ch3d8) && isYuvFormat f.description.pixelFormat) = true)
    (hp : coreFormatOf f.description.pixelFormat = some p) :
    ∀ row < f.height, ∀ k < f.description.minimumRowStride,
      pixelByte f row k = pixelByte g row k := by
  have hl := (frame_layout hf (coreFormatOf_plain hp).2).1
  intro row hr k hk
  have hr' := Nat.lt_of_lt_of_le hr (height_le_planeRows f.description)
  rw [pixelByte, pixelByte, ← h.description]
  refine h.bytes _ ?_
  rw [← interleavedAddress_eq hl hp hr' hk]
  unfold FrameOperation.addresses
  dsimp only
  rw [if_neg hy, if_pos hp]
  refine List.mem_flatMap.mpr ⟨row, List.mem_range.mpr hr, ?_⟩
  exact List.mem_map.mpr ⟨k, List.mem_range.mpr (interleavedRow_eq hp ▸ hk), rfl⟩

/-- Frames that an operation reads the same bytes of are the same to it. -/
theorem perform_reads (images : Images) (h : SameReads op f g) (hf : f.valid = true)
    (hg : g.valid = true) : op.perform images f = op.perform images g := by
  have hh := sameHeader_of_reads h
  cases op with
  | packRows =>
    exact congrArg FrameResult.packed (orientationRows_congr hh hf hg (packRows_reads h hf))
  | demosaicFrame outputFormat method =>
    refine congrArg FrameResult.frame
      (demosaicFrame_congr images hh hf hg fun hu row hr column hc => ?_)
    simp only [FrameOperation.usesRowStride, Bool.and_eq_true] at hu
    exact bayerSample_reads h hf hu.1.1.1 hr hc
  | add a =>
    obtain ⟨ha, hs⟩ := add_congr a hh hf hg fun hu => add_reads h hf (by
      simp only [FrameOperation.usesRowStride, Bool.and_eq_true, decide_eq_true_eq] at hu
      exact hu.1)
    exact congrArg₂ FrameResult.accumulated ha hs
  | toImage p =>
    refine congrArg FrameResult.image ?_
    unfold toImage
    rw [← hh.pixelFormat]
    split
    · rename_i hy
      exact convertYuvFrameToImage_congr images hh hf hg fun row hr column hc =>
        yuvPixel_reads h hf hy hr hc
    · rename_i hy
      exact convertFrameToImage_congr images p hh hf hg (image_reads h hf hy)

end Reads

/-- The size of a frame is exact or 0, and the operations stay within it. -/
theorem frame_memory (d : CameraFrameDescription) : FrameMemory d where
  computed := memorySize64_eq d
  laid := memorySize_layout
  refused h := (memorySize_cases d).resolve_right fun hl => h hl.1
  inside _ hf hv op := addresses_inside (hf ▸ description_valid hv) op
  reads _ _ _ hf hg _ images h := perform_reads images h hf hg

end WSE.Proof.Tmr
