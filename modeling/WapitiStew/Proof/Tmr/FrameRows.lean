import Mathlib.Data.List.Basic
import WapitiStew.Spec.Tmr.CameraFrameOps

/-!
# What the frame operations read

`valid_layout` is what `valid` says of a frame that is not compressed. An operation
that uses `row_stride` as it is reads the lines of a frame (`SameLines`), and these
lie inside its rows: two frames with the same lines give the same result
(`orientationRows_congr`, `demosaicFrame_congr`, `add_congr`,
`convertYuvFrameToImage_congr`). `convertFrameToImage` reads the rows themselves
(`convertFrameToImage_congr`).
-/

namespace WSE.Proof.Tmr

open WSE.Framework WSE.Impl.Tmr WSE.Spec.Tmr

/-! ## The layout of a valid frame -/

theorem minimumRowStride_eq {d : CameraFrameDescription} (h : d.pixelFormat ≠ .nv12) :
    d.minimumRowStride = d.width.toNat * d.pixelFormat.bytesPerPixel := by
  have hw := d.width.toNat_lt
  have hle : d.pixelFormat.bytesPerPixel ≤ 6 := by
    cases d.pixelFormat <;> decide
  unfold CameraFrameDescription.minimumRowStride
  rw [if_neg h]
  dsimp only
  by_cases hb : d.pixelFormat.bytesPerPixel = 0
  · simp [hb]
  by_cases hz : d.width = 0
  · simp [hz]
  have hfit : d.width.toNat ≤ sizeMax / d.pixelFormat.bytesPerPixel := by
    rw [Nat.le_div_iff_mul_le (Nat.pos_of_ne_zero hb)]
    have := Nat.mul_le_mul (Nat.le_of_lt hw) hle
    unfold sizeMax
    omega
  rw [if_neg]
  simpa [hb, hz] using hfit

theorem width_ne_zero {d : CameraFrameDescription} (h : d.valid = true) : d.width.toNat ≠ 0 := by
  unfold CameraFrameDescription.valid at h
  split at h
  · cases h
  · rename_i hn
    simp only [Bool.or_eq_true, decide_eq_true_eq, not_or] at hn
    exact fun h0 => hn.1.1 (UInt32.toNat_inj.mp h0)

theorem height_ne_zero {d : CameraFrameDescription} (h : d.valid = true) : d.height.toNat ≠ 0 := by
  unfold CameraFrameDescription.valid at h
  split at h
  · cases h
  · rename_i hn
    simp only [Bool.or_eq_true, decide_eq_true_eq, not_or] at hn
    exact fun h0 => hn.1.2 (UInt32.toNat_inj.mp h0)

theorem memorySize_pos {d : CameraFrameDescription} (h : d.valid = true)
    (hf : d.pixelFormat ≠ .mjpeg) : 0 < d.memorySize := by
  unfold CameraFrameDescription.valid at h
  split at h
  · cases h
  · simpa [hf] using h

theorem packed_stride {d : CameraFrameDescription} (h : d.rowStride = d.minimumRowStride) :
    effectiveStride d = d.minimumRowStride := by
  unfold effectiveStride
  split
  · rfl
  · exact h

/-- The layout of the rows of a valid description. -/
structure Layout (d : CameraFrameDescription) : Prop where
  packed_pos : 0 < d.minimumRowStride
  packed_le : d.minimumRowStride ≤ effectiveStride d
  size : d.memorySize = planeRows d * effectiveStride d
  fits : effectiveStride d * d.height.toNat ≤ sizeMax

theorem valid_layout {d : CameraFrameDescription} (h : d.valid = true)
    (hf : d.pixelFormat ≠ .mjpeg) : Layout d := by
  have hw := width_ne_zero h
  have hh := height_ne_zero h
  have hpos := memorySize_pos h hf
  obtain ⟨m, hm⟩ : ∃ m, d.memorySize = m := ⟨_, rfl⟩
  have hsize := hm
  rw [hm] at hpos
  unfold CameraFrameDescription.memorySize at hm
  dsimp only at hm
  rw [if_neg hh] at hm
  split at hm
  · omega
  split at hm
  · rename_i hnv
    have hmin : d.minimumRowStride = d.width.toNat := by
      unfold CameraFrameDescription.minimumRowStride
      rw [if_pos hnv]
    have heff : effectiveStride d = if d.rowStride = 0 then d.width.toNat else d.rowStride := by
      unfold effectiveStride
      rw [hmin]
    rw [← heff] at hm
    split at hm
    · omega
    split at hm
    · omega
    rename_i hfit
    split at hm
    · omega
    simp only [Bool.or_eq_true, decide_eq_true_eq, not_or, not_lt] at hfit
    refine ⟨by omega, by omega, ?_, (Nat.le_div_iff_mul_le (by omega)).mp hfit.2⟩
    unfold planeRows
    rw [hsize, if_pos hnv, ← hm, Nat.add_mul, Nat.mul_comm, Nat.mul_comm (effectiveStride d)]
  · rename_i hnv
    have heff : effectiveStride d =
        if d.rowStride = 0 then d.minimumRowStride else d.rowStride := rfl
    rw [← heff] at hm
    split at hm
    · omega
    rename_i hfit
    simp only [Bool.or_eq_true, decide_eq_true_eq, not_or, not_lt] at hfit
    refine ⟨by omega, by omega, ?_, (Nat.le_div_iff_mul_le (by omega)).mp hfit.2⟩
    unfold planeRows
    rw [hsize, if_neg hnv, ← hm, Nat.mul_comm]

/-- A layout that fits is valid, of a format with a sample for each channel. -/
theorem layout_valid {d : CameraFrameDescription} (hc : d.pixelFormat.channelCount ≠ 0)
    (hw : d.width.toNat ≠ 0) (hh : d.height.toNat ≠ 0)
    (hle : d.minimumRowStride ≤ effectiveStride d)
    (hfit : effectiveStride d * d.height.toNat ≤ sizeMax) :
    d.memorySize = effectiveStride d * d.height.toNat ∧ d.valid = true := by
  have hn : d.pixelFormat ≠ .nv12 := fun h => hc (by rw [h]; rfl)
  have hm : d.pixelFormat ≠ .mjpeg := fun h => hc (by rw [h]; rfl)
  have hu : d.pixelFormat ≠ .uyvy422 := fun h => hc (by rw [h]; rfl)
  have hy : d.pixelFormat ≠ .yuyv422 := fun h => hc (by rw [h]; rfl)
  have hk : d.pixelFormat ≠ .unknown := fun h => hc (by rw [h]; rfl)
  have hmin : d.minimumRowStride ≠ 0 := by
    rw [minimumRowStride_eq hn]
    refine Nat.mul_ne_zero hw ?_
    revert hc
    cases d.pixelFormat <;> decide
  have hdiv : effectiveStride d ≤ sizeMax / d.height.toNat :=
    (Nat.le_div_iff_mul_le (Nat.pos_of_ne_zero hh)).mpr hfit
  have hsize : d.memorySize = effectiveStride d * d.height.toNat := by
    unfold CameraFrameDescription.memorySize
    simp only [hh, hn, hm, hu, hy, decide_false, Bool.or_self, Bool.false_and, Bool.false_eq_true,
      if_false]
    show (if (decide (d.minimumRowStride = 0) || decide (effectiveStride d < d.minimumRowStride) ||
      decide (effectiveStride d > sizeMax / d.height.toNat)) = true then 0 else
      effectiveStride d * d.height.toNat) = _
    rw [if_neg]
    simp only [Bool.or_eq_true, decide_eq_true_eq, not_or, not_lt]
    exact ⟨⟨hmin, hle⟩, hdiv⟩
  refine ⟨hsize, ?_⟩
  have hw0 : d.width ≠ 0 := fun h => hw (by rw [h]; rfl)
  have hh0 : d.height ≠ 0 := fun h => hh (by rw [h]; rfl)
  unfold CameraFrameDescription.valid
  rw [if_neg (by simp [hw0, hh0, hk]), if_neg hm, hsize]
  exact decide_eq_true (Nat.mul_pos (by omega) (Nat.pos_of_ne_zero hh))

/-- Pixels that share their chroma come in pairs. -/
theorem width_even {d : CameraFrameDescription} (h : d.valid = true)
    (hy : isYuvFormat d.pixelFormat = true) : d.width.toNat % 2 = 0 := by
  have hm : d.pixelFormat ≠ .mjpeg := fun hm => by
    rw [hm] at hy
    cases hy
  have hpos := memorySize_pos h hm
  have hw : d.width % 2 = 0 := by
    by_contra hodd
    have hz : d.memorySize = 0 := by
      simp only [isYuvFormat, Bool.or_eq_true, decide_eq_true_eq] at hy
      obtain (hy | hy) | hy := hy <;> simp [CameraFrameDescription.memorySize, hy, hodd]
    omega
  have := congrArg UInt32.toNat hw
  simpa using this

theorem height_even {d : CameraFrameDescription} (h : d.valid = true)
    (hn : d.pixelFormat = .nv12) : d.height.toNat % 2 = 0 := by
  have hpos := memorySize_pos h (by rw [hn]; decide)
  have hh : d.height % 2 = 0 := by
    by_contra hodd
    have hz : d.memorySize = 0 := by simp [CameraFrameDescription.memorySize, hn, hodd]
    omega
  have := congrArg UInt32.toNat hh
  simpa using this

theorem frame_layout {f : CameraFrame} (h : f.valid = true)
    (hf : f.description.pixelFormat ≠ .mjpeg) :
    Layout f.description ∧ f.description.memorySize ≤ f.data.length := by
  unfold CameraFrame.valid at h
  split at h
  · cases h
  · rename_i hd
    exact ⟨valid_layout (by simpa using hd) hf, by simpa using h⟩

/-! ## Lines and rows -/

/-- The lines of two frames agree, as far as the rows of pixels go. -/
def SameLines (f g : CameraFrame) : Prop :=
  ∀ row < planeRows f.description, ∀ k < f.description.minimumRowStride,
    f.lineByte row k = g.lineByte row k

/-- Where the row stride is 0, every line is the first row. -/
theorem lineByte_eq (f : CameraFrame) (row k : Nat) :
    f.lineByte row k = pixelByte f (if f.description.rowStride = 0 then 0 else row) k := by
  unfold CameraFrame.lineByte pixelByte effectiveStride
  by_cases h : f.description.rowStride = 0
  · rw [if_pos h, if_pos h, h, Nat.mul_zero, Nat.zero_mul]
  · rw [if_neg h, if_neg h]

theorem sameLines_of {f g : CameraFrame} (h : SamePixels f g)
    (hs : (f.description.rowStride = 0 ↔ g.description.rowStride = 0) ∨
      planeRows f.description ≤ 1) : SameLines f g := by
  intro row hrow k hk
  rw [lineByte_eq, lineByte_eq]
  obtain hs | hs := hs
  · simp only [hs]
    refine h.pixels _ ?_ k hk
    split
    · omega
    · exact hrow
  · obtain rfl : row = 0 := by omega
    simp only [ite_self]
    exact h.pixels 0 hrow k hk

/-! ## The operations that use `row_stride` as it is -/

/-- Frames that differ in their bytes and their strides at most. -/
structure SameHeader (f g : CameraFrame) : Prop where
  width : f.description.width = g.description.width
  height : f.description.height = g.description.height
  pixelFormat : f.description.pixelFormat = g.description.pixelFormat
  sequence : f.sequence = g.sequence
  monotonicTimestampNs : f.monotonicTimestampNs = g.monotonicTimestampNs

section Lines

variable {f g : CameraFrame}

theorem sameHeader_of_pixels (h : SamePixels f g) : SameHeader f g where
  width := h.width
  height := h.height
  pixelFormat := h.pixelFormat
  sequence := h.sequence
  monotonicTimestampNs := h.monotonicTimestampNs

theorem height_le_planeRows (d : CameraFrameDescription) : d.height.toNat ≤ planeRows d := by
  unfold planeRows
  split
  · omega
  · exact Nat.le_refl _

theorem width_eq (h : SameHeader f g) : g.width = f.width := by
  unfold CameraFrame.width
  rw [h.width]

theorem height_eq (h : SameHeader f g) : g.height = f.height := by
  unfold CameraFrame.height
  rw [h.height]

theorem bytesPerPixel_channels {format : CameraPixelFormat} (h : format.channelCount ≠ 0) :
    format.bytesPerPixel = format.channelCount * format.bytesPerSample := by
  cases format <;> first | rfl | exact absurd rfl h

theorem bytesPerPixel_accumulation {format : CameraPixelFormat}
    (h : accumulationChannels format ≠ 0) :
    format.bytesPerPixel = accumulationChannels format * accumulationSampleBytes format := by
  cases format <;> first | rfl | exact absurd rfl h

theorem orientationRows_congr (h : SameHeader f g) (hf : f.valid = true) (hg : g.valid = true)
    (hl : f.description.pixelFormat.channelCount ≠ 0 → SameLines f g) :
    orientationRows f = orientationRows g := by
  unfold orientationRows validateFrameForOrientation validateFrameData
  rw [hf, hg, ← h.pixelFormat]
  dsimp only
  split
  · rfl
  rename_i hc
  have hn : f.description.pixelFormat ≠ .nv12 := fun hn => hc (by rw [hn]; rfl)
  have hrow := minimumRowStride_eq hn
  rw [bytesPerPixel_channels hc, ← Nat.mul_assoc] at hrow
  simp only [if_true, Except.map, width_eq h, packRows, height_eq h]
  congr 1
  refine List.flatMap_congr fun row hr => List.map_congr_left fun k hk => ?_
  rw [List.mem_range] at hr hk
  exact hl hc row (Nat.lt_of_lt_of_le hr (height_le_planeRows _)) k (by rw [hrow]; exact hk)

/-! ### Demosaicing -/

theorem samplesOf_congr {source source' : Nat → Nat → Nat} {pattern : BayerPattern} {color : Nat}
    {rows columns : List Nat} (h : ∀ y ∈ rows, ∀ x ∈ columns, source y x = source' y x) :
    samplesOf source pattern color rows columns = samplesOf source' pattern color rows columns := by
  refine List.flatMap_congr fun y hy => List.map_congr_left fun x hx => ?_
  exact h y hy x (List.mem_of_mem_filter hx)

theorem blockStart_lt {size position : Nat} (h : position < size) (h2 : 2 ≤ size) :
    blockStart size position + 1 < size := by
  unfold blockStart
  dsimp only
  split <;> omega

theorem neighbours_lt {size position : Nat} (h : position < size) :
    ∀ k ∈ neighbours size position, k < size := by
  intro k hk
  unfold neighbours at hk
  dsimp only at hk
  rw [List.mem_range'_1] at hk
  split at hk <;> split at hk <;> omega

/-- A pixel is made of samples that are in the image. -/
theorem demosaic_congr {source source' : Nat → Nat → Nat} {width height : Nat} (hw : 2 ≤ width)
    (hh : 2 ≤ height) (h : ∀ y < height, ∀ x < width, source y x = source' y x)
    {pattern : BayerPattern} {method : DemosaicMethod} {y x color : Nat} (hy : y < height)
    (hx : x < width) :
    demosaic source width height pattern method y x color =
      demosaic source' width height pattern method y x color := by
  cases method with
  | block2x2 =>
    have hrow := blockStart_lt hy hh
    have hcolumn := blockStart_lt hx hw
    unfold demosaic
    dsimp only
    rw [samplesOf_congr fun j hj i hi => ?_]
    simp only [List.mem_cons, List.not_mem_nil, or_false] at hj hi
    exact h j (by omega) i (by omega)
  | bilinear =>
    unfold demosaic
    dsimp only
    rw [samplesOf_congr fun j hj i hi => h j (neighbours_lt hy j hj) i (neighbours_lt hx i hi)]

theorem bayerSample_congr (hn : f.description.pixelFormat.bytesPerPixel = 2)
    (hl : SameLines f g) {row column : Nat} (hr : row < f.height) (hc : column < f.width) :
    bayerSample f row column = bayerSample g row column := by
  have hnv : f.description.pixelFormat ≠ .nv12 := fun hnv => by
    rw [hnv] at hn
    cases hn
  have hrow := minimumRowStride_eq hnv
  rw [hn] at hrow
  have hc : column < f.description.width.toNat := hc
  have hr := Nat.lt_of_lt_of_le hr (height_le_planeRows f.description)
  have h0 := Nat.mod_le (column * 2) (2 ^ 32)
  have h1 := Nat.mod_le (column * 2 + 1) (2 ^ 32)
  unfold bayerSample
  rw [hl row hr _ (by omega), hl row hr _ (by omega)]

theorem colourLine_congr {wide : Bool} {value value' : Nat → Nat → Nat} {width rowStride : Nat}
    (h : ∀ column < width, ∀ channel < 3, value column channel = value' column channel) :
    colourLine wide value width rowStride = colourLine wide value' width rowStride := by
  unfold colourLine
  refine List.foldl_ext _ _ _ fun line column hc => List.foldl_ext _ _ _ fun line channel hl => ?_
  rw [writeColour, writeColour, h column (List.mem_range.mp hc) channel (List.mem_range.mp hl)]

theorem bytesPerPixel_bayer {format : CameraPixelFormat} (h : isBayerFormat format = true) :
    format.bytesPerPixel = 2 := by
  cases format <;> first | rfl | cases h

theorem demosaicFrame_congr (images : Images) {outputFormat : CameraPixelFormat}
    {method : DemosaicMethod} (h : SameHeader f g) (hf : f.valid = true) (hg : g.valid = true)
    (hl : (FrameOperation.demosaicFrame outputFormat method).usesRowStride f.description = true →
      ∀ row < f.height, ∀ column < f.width, bayerSample f row column = bayerSample g row column) :
    demosaicFrame images f outputFormat method = demosaicFrame images g outputFormat method := by
  unfold demosaicFrame
  rw [hf, hg, ← h.pixelFormat, width_eq h, height_eq h, ← h.width, ← h.height, ← h.sequence,
    ← h.monotonicTimestampNs]
  split
  · rfl
  rename_i pattern hp
  have hv : ¬(!true) = true := by decide
  rw [if_neg hv, if_neg hv]
  split
  · rfl
  rename_i order wide ho
  split
  · rfl
  rename_i hsize
  simp only [Bool.or_eq_true, decide_eq_true_eq, not_or, not_lt] at hsize
  have hl := hl (by
    simp only [FrameOperation.usesRowStride, isBayerFormat, hp, ho, Bool.and_eq_true,
      decide_eq_true_eq]
    exact ⟨⟨⟨rfl, rfl⟩, hsize.1⟩, hsize.2⟩)
  split
  · rfl
  have hdata : ∀ row ∈ List.range f.height,
      colourLine wide (fun column channel => demosaic (bayerSample f) f.width f.height pattern method
        row column (colorChannel channel order)) f.width (f.width * 3 * if wide then 2 else 1) =
      colourLine wide (fun column channel => demosaic (bayerSample g) f.width f.height pattern method
        row column (colorChannel channel order)) f.width (f.width * 3 * if wide then 2 else 1) :=
    fun row hr => colourLine_congr fun column hc channel _ =>
      demosaic_congr hsize.1 hsize.2 hl (List.mem_range.mp hr) hc
  dsimp only
  rw [List.flatMap_congr hdata]

/-! ### Averages -/

theorem readSample_congr {byte byte' : Nat → Byte} {sampleBytes : Nat}
    (h0 : byte 0 = byte' 0) (h1 : sampleBytes ≠ 1 → byte 1 = byte' 1) :
    readSample byte sampleBytes = readSample byte' sampleBytes := by
  unfold readSample
  split
  · rw [h0]
  · rename_i hs
    rw [h0, h1 hs]

theorem sampleBytes_cases {format : CameraPixelFormat} (h : accumulationChannels format ≠ 0) :
    accumulationSampleBytes format = 1 ∨ accumulationSampleBytes format = 2 := by
  cases format <;> first | exact .inl rfl | exact .inr rfl | exact absurd rfl h

/-- A sample ends before its row does. -/
theorem sample_le (sampleBytes : Nat) {index samples : Nat} (h : index < samples) :
    index * sampleBytes + sampleBytes ≤ samples * sampleBytes := by
  rw [← Nat.succ_mul]
  exact Nat.mul_le_mul_right _ h

theorem added_congr (h : SameHeader f g)
    (hc : accumulationChannels f.description.pixelFormat ≠ 0) (hl : SameLines f g)
    (sum : List UInt32) :
    FrameAccumulator.added sum f (f.width * accumulationChannels f.description.pixelFormat)
        (accumulationSampleBytes f.description.pixelFormat) =
      FrameAccumulator.added sum g (f.width * accumulationChannels f.description.pixelFormat)
        (accumulationSampleBytes f.description.pixelFormat) := by
  have hn : f.description.pixelFormat ≠ .nv12 := fun hn => hc (by rw [hn]; rfl)
  have hrow := minimumRowStride_eq hn
  rw [bytesPerPixel_accumulation hc, ← Nat.mul_assoc] at hrow
  unfold FrameAccumulator.added
  rw [height_eq h]
  refine List.flatMap_congr fun row hr => List.map_congr_left fun index hi => ?_
  rw [List.mem_range] at hr hi
  have hr := Nat.lt_of_lt_of_le hr (height_le_planeRows f.description)
  have hle := sample_le (accumulationSampleBytes f.description.pixelFormat) hi
  have hs := sampleBytes_cases hc
  rw [readSample_congr]
  · exact hl row hr _ (by rw [hrow]; exact Nat.lt_of_lt_of_le (by omega) hle)
  · exact fun h1 => hl row hr _ (by rw [hrow]; exact Nat.lt_of_lt_of_le (by omega) hle)

/-- What a frame that is added leaves. -/
structure Adds (a : FrameAccumulator) (f : CameraFrame) (r : FrameAccumulator) : Prop where
  description : r.description = if a.count = 0 then f.description else a.description
  channels : r.channels =
    if a.count = 0 then accumulationChannels f.description.pixelFormat else a.channels
  sampleBytes : r.sampleBytes =
    if a.count = 0 then accumulationSampleBytes f.description.pixelFormat else a.sampleBytes
  count : r.count = if a.count = 0 then 1 else (a.count + 1) % 2 ^ 64
  sum : r.sum = FrameAccumulator.added
    (if a.count = 0 then
      List.replicate (f.width * f.height * accumulationChannels f.description.pixelFormat) 0
    else a.sum) f (f.width * accumulationChannels f.description.pixelFormat)
    (accumulationSampleBytes f.description.pixelFormat)
  sequence : r.sequence = f.sequence
  timestamp : r.timestamp = f.monotonicTimestampNs

theorem add_cases (a : FrameAccumulator) (hf : f.valid = true) :
    (accumulationChannels f.description.pixelFormat = 0 ∧
      a.add f = (a, .error FrameAccumulator.notAccumulable)) ∨
    (accumulationChannels f.description.pixelFormat ≠ 0 ∧ a.count ≠ 0 ∧ a.sameShape f = false ∧
      a.add f = (a, .error FrameAccumulator.differs)) ∨
    (accumulationChannels f.description.pixelFormat ≠ 0 ∧
      (a.count = 0 ∨ a.sameShape f = true) ∧ ∃ r, a.add f = (r, .ok ()) ∧ Adds a f r) := by
  by_cases hc : accumulationChannels f.description.pixelFormat = 0
  · exact .inl ⟨hc, by simp [FrameAccumulator.add, hc]⟩
  have hs : accumulationSampleBytes f.description.pixelFormat ≠ 0 := by
    have := sampleBytes_cases hc
    omega
  have hdata : validateFrameData f = .ok () := by simp [validateFrameData, hf]
  refine .inr ?_
  by_cases h0 : a.count = 0
  · refine .inr ⟨hc, .inl h0, _, by simp [FrameAccumulator.add, hc, hs, hdata, h0]; rfl, ?_⟩
    constructor <;> simp [h0]
  by_cases hshape : a.sameShape f = true
  · refine .inr ⟨hc, .inr hshape, _,
      by simp [FrameAccumulator.add, hc, hs, hdata, h0, hshape]; rfl, ?_⟩
    constructor <;> simp [h0]
  · exact .inl ⟨hc, h0, by simpa using hshape,
      by simp [FrameAccumulator.add, hc, hs, hdata, h0, hshape]⟩

theorem add_congr (a : FrameAccumulator) (h : SameHeader f g) (hf : f.valid = true)
    (hg : g.valid = true)
    (hl : (FrameOperation.add a).usesRowStride f.description = true → SameLines f g) :
    forgetStride (a.add f).1 = forgetStride (a.add g).1 ∧ (a.add f).2 = (a.add g).2 := by
  have hshape : a.sameShape g = a.sameShape f := by
    unfold FrameAccumulator.sameShape
    rw [h.width, h.height, h.pixelFormat]
  have hgc := add_cases a hg
  rw [hshape, ← h.pixelFormat] at hgc
  obtain ⟨hc, ha⟩ | ⟨hc, h0, hs, ha⟩ | ⟨hc, hok, r, ha, hr⟩ := add_cases a hf
  · obtain ⟨-, hb⟩ | ⟨hn, -⟩ | ⟨hn, -⟩ := hgc
    · rw [ha, hb]
      exact ⟨rfl, rfl⟩
    · exact absurd hc hn
    · exact absurd hc hn
  · obtain ⟨hn, -⟩ | ⟨-, -, -, hb⟩ | ⟨-, hok, -⟩ := hgc
    · exact absurd hn hc
    · rw [ha, hb]
      exact ⟨rfl, rfl⟩
    · rw [hs] at hok
      exact absurd hok (by simp [h0])
  · obtain ⟨hn, -⟩ | ⟨-, h0, hs, -⟩ | ⟨-, -, t, hb, ht⟩ := hgc
    · exact absurd hn hc
    · rw [hs] at hok
      exact absurd hok (by simp [h0])
    · have hl : SameLines f g := hl (by
        simp only [FrameOperation.usesRowStride, Bool.and_eq_true, decide_eq_true_eq,
          Bool.or_eq_true]
        exact ⟨hc, hok⟩)
      rw [ha, hb]
      refine ⟨?_, rfl⟩
      have hsum := ht.sum
      rw [width_eq h, height_eq h, ← h.pixelFormat, ← added_congr h hc hl] at hsum
      have hd : { r.description with rowStride := 0 } = { t.description with rowStride := 0 } := by
        rw [hr.description, ht.description]
        split
        · dsimp only
          rw [h.width, h.height, h.pixelFormat]
        · rfl
      refine FrameAccumulator.ext hd ?_ ?_ (hr.count.trans ht.count.symm) (hr.sum.trans hsum.symm)
        ?_ ?_
      · show r.channels = t.channels
        rw [hr.channels, ht.channels, h.pixelFormat]
      · show r.sampleBytes = t.sampleBytes
        rw [hr.sampleBytes, ht.sampleBytes, h.pixelFormat]
      · exact hr.sequence.trans (h.sequence.trans ht.sequence.symm)
      · exact hr.timestamp.trans (h.monotonicTimestampNs.trans ht.timestamp.symm)

/-! ### YUV frames -/

theorem yuvPixel_lines (f : CameraFrame) (row column : Nat) :
    yuvPixel f row column =
      if f.description.pixelFormat = .nv12 then
        (f.lineByte row column, f.lineByte (f.height + row / 2) (column / 2 * 2),
          f.lineByte (f.height + row / 2) (column / 2 * 2 + 1))
      else
        (f.lineByte row (column / 2 * 4 + column % 2 * 2 +
            if f.description.pixelFormat = .uyvy422 then 1 else 0),
          f.lineByte row (column / 2 * 4 + if f.description.pixelFormat = .uyvy422 then 0 else 1),
          f.lineByte row (column / 2 * 4 + if f.description.pixelFormat = .uyvy422 then 2 else 3)) := by
  unfold yuvPixel CameraFrame.lineByte
  dsimp only
  split
  · rw [Nat.add_mul, Nat.mul_comm f.height]
    simp only [Nat.add_assoc]
  · simp only [Nat.add_assoc]

theorem bytesPerPixel_packed {format : CameraPixelFormat} (hy : isYuvFormat format = true)
    (hn : format ≠ .nv12) : format.bytesPerPixel = 2 := by
  cases format <;> first | rfl | exact absurd rfl hn | cases hy

theorem yuvPixel_congr (hf : f.description.valid = true)
    (hy : isYuvFormat f.description.pixelFormat = true) (h : SameHeader f g)
    (hl : SameLines f g) {row column : Nat} (hr : row < f.height) (hc : column < f.width) :
    yuvPixel f row column = yuvPixel g row column := by
  have hw : column < f.description.width.toNat := hc
  have hr : row < f.description.height.toNat := hr
  have heven := width_even hf hy
  rw [yuvPixel_lines, yuvPixel_lines, ← h.pixelFormat, height_eq h]
  split
  · rename_i hn
    have hheven := height_even hf hn
    have hmin : f.description.minimumRowStride = f.description.width.toNat := by
      unfold CameraFrameDescription.minimumRowStride
      rw [if_pos hn]
    have hrows : planeRows f.description =
        f.description.height.toNat + f.description.height.toNat / 2 := by
      unfold planeRows
      rw [if_pos hn]
    have hchroma : f.height + row / 2 < planeRows f.description := by
      rw [hrows]
      show f.description.height.toNat + row / 2 < _
      omega
    rw [hl row (by omega) _ (by omega), hl _ hchroma _ (by omega), hl _ hchroma _ (by omega)]
  · rename_i hn
    have hmin := minimumRowStride_eq hn
    rw [bytesPerPixel_packed hy hn] at hmin
    have hr := Nat.lt_of_lt_of_le hr (height_le_planeRows f.description)
    rw [hl row hr _ (by split <;> omega), hl row hr _ (by split <;> omega),
      hl row hr _ (by split <;> omega)]

theorem description_valid (h : f.valid = true) : f.description.valid = true := by
  unfold CameraFrame.valid at h
  split at h
  · cases h
  · rename_i hd
    simpa using hd

/-- The pixels of a YUV frame. -/
def yuvRows (f : CameraFrame) : List (List (List Nat)) :=
  (List.range f.height).map fun row => (List.range f.width).map fun column =>
    yuvToRgb (yuvPixel f row column).1.toNat (yuvPixel f row column).2.1.toNat
      (yuvPixel f row column).2.2.toNat

theorem convertYuvFrameToImage_eq (images : Images) (hf : f.valid = true) :
    convertYuvFrameToImage images f =
      if images f.width f.height then .ok ⟨f.width, f.height, yuvRows f⟩
      else .error imageExhausted := by
  simp only [convertYuvFrameToImage, validateFrameData, hf, if_true]
  rfl

theorem convertYuvFrameToImage_congr (images : Images) (h : SameHeader f g)
    (hf : f.valid = true) (hg : g.valid = true)
    (hp : ∀ row < f.height, ∀ column < f.width, yuvPixel f row column = yuvPixel g row column) :
    convertYuvFrameToImage images f = convertYuvFrameToImage images g := by
  have hrows : yuvRows f = yuvRows g := by
    unfold yuvRows
    rw [width_eq h, height_eq h]
    refine List.map_congr_left fun row hr => List.map_congr_left fun column hc => ?_
    rw [hp row (List.mem_range.mp hr) column (List.mem_range.mp hc)]
  rw [convertYuvFrameToImage_eq images hf, convertYuvFrameToImage_eq images hg, width_eq h,
    height_eq h, hrows]

end Lines

/-! ## The operation that uses the effective stride -/

section Rows

variable {f g : CameraFrame}

theorem coreFormatOf_bytes {format : CameraPixelFormat} {p : PixFormat}
    (h : coreFormatOf format = some p) : format.bytesPerPixel = p.interleavedPixelBytes := by
  cases format <;> first | cases h; rfl | cases h

theorem coreFormatOf_plain {format : CameraPixelFormat} {p : PixFormat}
    (h : coreFormatOf format = some p) : format ≠ .nv12 ∧ format ≠ .mjpeg := by
  refine ⟨fun hn => ?_, fun hn => ?_⟩
  · rw [hn] at h
    cases h
  · rw [hn] at h
    cases h

theorem interleavedRowStride_eq {d : CameraFrameDescription} {p : PixFormat}
    (h : coreFormatOf d.pixelFormat = some p) :
    interleavedRowStride p d.width.toNat d.rowStride = effectiveStride d := by
  unfold interleavedRowStride effectiveStride
  rw [minimumRowStride_eq (coreFormatOf_plain h).1, coreFormatOf_bytes h, ite_not]

/-- The view of a valid frame is valid. -/
theorem view_valid (hf : f.valid = true) {p : PixFormat}
    (h : coreFormatOf f.description.pixelFormat = some p) :
    isInterleavedViewValid p
      ⟨f.data, f.width, f.height, f.description.rowStride, f.data.length⟩ = true := by
  obtain ⟨hn, hm⟩ := coreFormatOf_plain h
  obtain ⟨hl, hlen⟩ := frame_layout hf hm
  have hw : f.width ≠ 0 := width_ne_zero (description_valid hf)
  have hh : f.height ≠ 0 := height_ne_zero (description_valid hf)
  have hmin : f.width * p.interleavedPixelBytes = f.description.minimumRowStride := by
    rw [minimumRowStride_eq hn, coreFormatOf_bytes h]
    rfl
  have hstride : (if f.description.rowStride ≠ 0 then f.description.rowStride
      else f.width * p.interleavedPixelBytes) = effectiveStride f.description :=
    interleavedRowStride_eq h
  rw [hmin] at hstride
  have hrows : planeRows f.description = f.height := if_neg hn
  have hpos := hl.packed_pos
  have hle := hl.packed_le
  have hfits : f.height * effectiveStride f.description ≤ sizeMax := by
    rw [Nat.mul_comm]
    exact hl.fits
  rw [hl.size, hrows] at hlen
  have hspan : (f.height - 1) * effectiveStride f.description + effectiveStride f.description =
      f.height * effectiveStride f.description := by
    rw [← Nat.succ_mul, Nat.succ_eq_add_one, Nat.sub_add_cancel (Nat.pos_of_ne_zero hh)]
  have hpixel : 0 < p.interleavedPixelBytes := by
    cases p <;> decide
  have hwfit : f.width ≤ sizeMax / p.interleavedPixelBytes := by
    rw [Nat.le_div_iff_mul_le hpixel, hmin]
    have := Nat.le_mul_of_pos_left (effectiveStride f.description) (Nat.pos_of_ne_zero hh)
    omega
  have hhfit : f.height ≤ sizeMax / effectiveStride f.description :=
    (Nat.le_div_iff_mul_le (by omega)).mpr hfits
  have hempty : f.data.isEmpty = false := by
    have := Nat.le_mul_of_pos_left (effectiveStride f.description) (Nat.pos_of_ne_zero hh)
    cases hd : f.data with
    | nil =>
      rw [hd] at hlen
      simp only [List.length_nil] at hlen
      omega
    | cons => rfl
  simp only [isInterleavedViewValid, isInterleavedLayoutValid, hempty, hstride, hmin]
  rw [if_neg (by simp [hw, hh]), if_neg (by omega), if_neg (by omega), if_neg (by omega),
    if_neg (by omega)]
  simp only [Bool.not_false, Bool.true_and, decide_eq_true_eq]
  omega

theorem convertFrameToImage_eq (images : Images) (hf : f.valid = true) {p : PixFormat}
    (h : coreFormatOf f.description.pixelFormat = some p) :
    convertFrameToImage images p f = if images f.width f.height then
      .ok (makeImageFromInterleaved p
        ⟨f.data, f.width, f.height, f.description.rowStride, f.data.length⟩)
      else .error imageExhausted := by
  unfold convertFrameToImage buildInterleavedView validateFrameData
  rw [if_neg (not_not.mpr h), hf]
  dsimp only [if_true]
  rw [view_valid hf h]
  rfl

/-- A sample of the image is made of bytes of its row. -/
theorem interleavedSample_congr {p : PixFormat}
    (hmin : f.description.minimumRowStride = f.width * p.interleavedPixelBytes)
    (hpix : ∀ row < f.height, ∀ k < f.description.minimumRowStride,
      pixelByte f row k = pixelByte g row k) {row x channel : Nat} (hr : row < f.height)
    (hx : x < f.width) (hc : channel < p.channels) :
    interleavedSample f.data p.sampleSize (row * effectiveStride f.description +
        (x * p.channels + channel) * p.sampleSize) =
      interleavedSample g.data p.sampleSize (row * effectiveStride g.description +
        (x * p.channels + channel) * p.sampleSize) := by
  have hs : p.sampleSize = 1 ∨ p.sampleSize = 2 := by
    cases p <;> first | exact .inl rfl | exact .inr rfl
  have hindex : x * p.channels + channel < f.width * p.channels := by
    have := sample_le p.channels hx
    omega
  have hend := sample_le p.sampleSize hindex
  rw [PixFormat.interleavedPixelBytes, ← Nat.mul_assoc] at hmin
  have h0 := hpix row hr ((x * p.channels + channel) * p.sampleSize) (by omega)
  unfold interleavedSample
  split
  · exact congrArg UInt8.toNat h0
  · have h1 := hpix row hr ((x * p.channels + channel) * p.sampleSize + 1) (by omega)
    simp only [pixelByte, CameraFrame.byteAt, ← Nat.add_assoc] at h0 h1
    rw [h0, h1]

theorem convertFrameToImage_congr (images : Images) (p : PixFormat) (h : SameHeader f g)
    (hf : f.valid = true) (hg : g.valid = true)
    (hpix : coreFormatOf f.description.pixelFormat = some p →
      ∀ row < f.height, ∀ k < f.description.minimumRowStride,
        pixelByte f row k = pixelByte g row k) :
    convertFrameToImage images p f = convertFrameToImage images p g := by
  by_cases hp : coreFormatOf f.description.pixelFormat = some p
  · have hgp : coreFormatOf g.description.pixelFormat = some p := h.pixelFormat ▸ hp
    have hn := (coreFormatOf_plain hp).1
    have hmin : f.description.minimumRowStride = f.width * p.interleavedPixelBytes := by
      rw [minimumRowStride_eq hn, coreFormatOf_bytes hp]
      rfl
    rw [convertFrameToImage_eq images hf hp, convertFrameToImage_eq images hg hgp, width_eq h,
      height_eq h]
    have himage : makeImageFromInterleaved p
          ⟨f.data, f.width, f.height, f.description.rowStride, f.data.length⟩ =
        makeImageFromInterleaved p
          ⟨g.data, f.width, f.height, g.description.rowStride, g.data.length⟩ := by
      have hstride := interleavedRowStride_eq hp
      have hstride' := interleavedRowStride_eq hgp
      rw [← h.width] at hstride'
      unfold makeImageFromInterleaved
      simp only [CameraFrame.width, hstride, hstride']
      congr 1
      refine List.map_congr_left fun row hr => List.map_congr_left fun x hx =>
        List.map_congr_left fun channel hc => ?_
      exact interleavedSample_congr hmin (hpix hp) (List.mem_range.mp hr) (List.mem_range.mp hx)
        (List.mem_range.mp hc)
    rw [himage]
  · have hgp : coreFormatOf g.description.pixelFormat ≠ some p := h.pixelFormat ▸ hp
    unfold convertFrameToImage buildInterleavedView
    rw [if_pos hp, if_pos hgp]

end Rows

end WSE.Proof.Tmr
