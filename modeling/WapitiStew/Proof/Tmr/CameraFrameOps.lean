import WapitiStew.Proof.Tmr.FrameRows

/-!
# Stride independence of the frame operations

An operation that uses `row_stride` as it is takes the first row for every row
where it is 0. So it is independent of the stride between two strides that are
both 0 or both not, and in a frame of one row (`perform_congr`); between others it is
not, since it tells the frame whose first row is dark and whose other rows are
bright (`striped`) from a dark one (`perform_striped`). `stride_independence` puts
the two together.
-/

namespace WSE.Proof.Tmr

open WSE.Framework WSE.Impl.Tmr WSE.Spec.Tmr

variable {f g : CameraFrame}

/-! ## Where the strides do not matter -/

/-- An operation that uses the row stride is given lines that agree. -/
theorem perform_congr (op : FrameOperation) (images : Images) (h : SamePixels f g)
    (hf : f.valid = true) (hg : g.valid = true)
    (hl : op.usesRowStride f.description = true → SameLines f g) :
    op.perform images f = op.perform images g := by
  have hh := sameHeader_of_pixels h
  cases op with
  | packRows =>
    show FrameResult.packed _ = .packed _
    rw [orientationRows_congr hh hf hg fun hc => hl (decide_eq_true hc)]
  | demosaicFrame outputFormat method =>
    show FrameResult.frame _ = .frame _
    refine congrArg _ (demosaicFrame_congr images hh hf hg fun hu row hr column hc => ?_)
    have hb := hu
    simp only [FrameOperation.usesRowStride, Bool.and_eq_true] at hb
    exact bayerSample_congr (bytesPerPixel_bayer hb.1.1.1) (hl hu) hr hc
  | add a =>
    show FrameResult.accumulated _ _ = .accumulated _ _
    obtain ⟨hr, hs⟩ := add_congr a hh hf hg hl
    rw [hr, hs]
  | toImage p =>
    show FrameResult.image _ = .image _
    unfold toImage
    rw [← h.pixelFormat]
    split
    · rename_i hy
      have hy' := hy
      simp only [Bool.and_eq_true, decide_eq_true_eq] at hy'
      rw [convertYuvFrameToImage_congr images hh hf hg fun row hr column hc =>
        yuvPixel_congr (description_valid hf) hy'.2 hh (hl hy) hr hc]
    · rw [convertFrameToImage_congr images p hh hf hg fun _ row hr k hk =>
        h.pixels row (Nat.lt_of_lt_of_le hr (height_le_planeRows _)) k hk]

/-! ## A frame that shows its stride -/

/-- The description, with another stride. -/
def strided (d : CameraFrameDescription) (stride : Nat) : CameraFrameDescription :=
  { d with rowStride := stride }

/-- The first row is dark, and the others are bright. -/
def striped (d : CameraFrameDescription) : CameraFrame where
  description := d
  data := List.replicate (effectiveStride d) 0 ++
    List.replicate (d.memorySize - effectiveStride d) 255

theorem striped_valid {d : CameraFrameDescription} (h : d.valid = true)
    (hm : d.pixelFormat ≠ .mjpeg) : (striped d).valid = true := by
  have hlen : (striped d).data.length ≥ d.memorySize := by
    simp only [striped, List.length_append, List.length_replicate]
    omega
  unfold CameraFrame.valid
  rw [if_neg (by simpa [striped] using h),
    if_neg (show (striped d).description.pixelFormat ≠ .mjpeg from hm)]
  exact decide_eq_true hlen

theorem striped_pixel {d : CameraFrameDescription} (h : d.valid = true)
    (hm : d.pixelFormat ≠ .mjpeg) {row k : Nat} (hr : row < planeRows d)
    (hk : k < d.minimumRowStride) :
    pixelByte (striped d) row k = if row = 0 then 0 else 255 := by
  have hl := valid_layout h hm
  have hle := hl.packed_le
  have hend : row * effectiveStride d + effectiveStride d ≤ d.memorySize := by
    rw [hl.size, ← Nat.succ_mul]
    exact Nat.mul_le_mul_right _ hr
  unfold pixelByte CameraFrame.byteAt striped
  dsimp only
  split
  · rename_i h0
    rw [h0, Nat.zero_mul, Nat.zero_add, List.getD_eq_getElem?_getD,
      List.getElem?_append_left (by rw [List.length_replicate]; omega),
      List.getElem?_replicate_of_lt (by omega)]
    rfl
  · rename_i h0
    have hge := Nat.le_mul_of_pos_left (effectiveStride d) (Nat.pos_of_ne_zero h0)
    rw [List.getD_eq_getElem?_getD,
      List.getElem?_append_right (by rw [List.length_replicate]; omega), List.length_replicate,
      List.getElem?_replicate_of_lt (by omega)]
    rfl

theorem striped_same {d e : CameraFrameDescription} (hd : d.valid = true) (he : e.valid = true)
    (hm : d.pixelFormat ≠ .mjpeg) (hw : d.width = e.width) (hh : d.height = e.height)
    (hf : d.pixelFormat = e.pixelFormat) : SamePixels (striped d) (striped e) where
  width := hw
  height := hh
  pixelFormat := hf
  sequence := rfl
  monotonicTimestampNs := rfl
  pixels row hr k hk := by
    have hrows : planeRows e = planeRows d := by
      unfold planeRows
      rw [hh, hf]
    have hmin : e.minimumRowStride = d.minimumRowStride := by
      unfold CameraFrameDescription.minimumRowStride
      rw [hw, hf]
    rw [striped_pixel hd hm hr hk,
      striped_pixel he (hf ▸ hm) (by rw [hrows]; exact hr) (by rw [hmin]; exact hk)]

/-- The lines of `f` are dark; those of `g` are as the rows of `striped`. -/
structure Stripes (f g : CameraFrame) : Prop where
  same : SamePixels f g
  left : f.valid = true
  right : g.valid = true
  rows : 2 ≤ f.height
  dark : ∀ row < planeRows f.description, ∀ k < f.description.minimumRowStride,
    f.lineByte row k = 0
  bright : ∀ row < planeRows f.description, ∀ k < f.description.minimumRowStride,
    g.lineByte row k = if row = 0 then 0 else 255

theorem stripes_striped {d : CameraFrameDescription} {b : Nat}
    (ha : (strided d 0).valid = true) (hb : (strided d b).valid = true)
    (hm : d.pixelFormat ≠ .mjpeg) (hb0 : b ≠ 0) (hh : 2 ≤ d.height.toNat) :
    Stripes (striped (strided d 0)) (striped (strided d b)) where
  same := striped_same ha hb hm rfl rfl rfl
  left := striped_valid ha hm
  right := striped_valid hb hm
  rows := hh
  dark row hr k hk := by
    rw [lineByte_eq, if_pos (show (striped (strided d 0)).description.rowStride = 0 from rfl),
      striped_pixel ha hm (Nat.zero_lt_of_lt hr) hk]
    rfl
  bright row hr k hk := by
    rw [lineByte_eq, if_neg (show (striped (strided d b)).description.rowStride ≠ 0 from hb0),
      striped_pixel hb hm hr hk]

/-- Chunks of the same lengths can be told apart. -/
theorem flatMap_range_inj {β : Type*} {F G : Nat → List β} (hlen : ∀ i, (F i).length = (G i).length)
    {n : Nat} (h : (List.range n).flatMap F = (List.range n).flatMap G) :
    ∀ i < n, F i = G i := by
  induction n with
  | zero => exact fun i hi => absurd hi (Nat.not_lt_zero i)
  | succ n ih =>
    rw [List.range_succ, List.flatMap_append, List.flatMap_append] at h
    simp only [List.flatMap_cons, List.flatMap_nil, List.append_nil] at h
    obtain ⟨hinit, hlast⟩ := List.append_inj' h (hlen n)
    intro i hi
    obtain hi | rfl := Nat.lt_succ_iff_lt_or_eq.mp hi
    · exact ih hinit i hi
    · exact hlast

/-! ### Dark and striped images -/

theorem demosaic_dark (width height : Nat) (pattern : BayerPattern) (method : DemosaicMethod)
    (y x color : Nat) : demosaic (fun _ _ => 0) width height pattern method y x color = 0 := by
  have hzero (rows columns : List Nat) :
      ∃ n, samplesOf (fun _ _ => 0) pattern color rows columns = List.replicate n 0 := by
    refine ⟨_, List.eq_replicate_of_mem fun s hs => ?_⟩
    obtain ⟨row, -, hs⟩ := List.mem_flatMap.mp hs
    obtain ⟨_, -, rfl⟩ := List.mem_map.mp hs
    rfl
  cases method with
  | block2x2 =>
    unfold demosaic
    dsimp only
    obtain ⟨n, hn⟩ := hzero [blockStart height y, blockStart height y + 1]
      [blockStart width x, blockStart width x + 1]
    rw [hn]
    cases n <;> rfl
  | bilinear =>
    unfold demosaic
    dsimp only
    obtain ⟨n, hn⟩ := hzero (neighbours height y) (neighbours width x)
    rw [hn, List.sum_replicate_nat, List.length_replicate, Nat.mul_zero, Nat.zero_add]
    obtain rfl | hpos := Nat.eq_zero_or_pos n
    · rfl
    · rw [Nat.div_eq_of_lt (Nat.div_lt_self hpos (by decide)), Nat.zero_mod]

/-- The colour in the second row of a block that its first row has not. -/
def secondColour : BayerPattern → Nat
  | .rggb | .grbg => 2
  | .bggr | .gbrg => 0

theorem secondColour_le (pattern : BayerPattern) : secondColour pattern ≤ 2 := by
  cases pattern <;> decide

def stripes (y _x : Nat) : Nat := if y = 0 then 0 else 65535

theorem colorChannel_le {color : Nat} (h : color ≤ 2) (order : ColorChannelOrder) :
    colorChannel color order ≤ 2 := by
  cases order with
  | rgb => exact h
  | bgr => exact Nat.sub_le 2 color

theorem colorChannel_colorChannel {color : Nat} (h : color ≤ 2) (order : ColorChannelOrder) :
    colorChannel (colorChannel color order) order = color := by
  cases order with
  | rgb => rfl
  | bgr => exact Nat.sub_sub_self h

theorem samplesOf_stripes (pattern : BayerPattern) (x : Nat) :
    samplesOf stripes pattern (secondColour pattern) [0, 1] [x, x + 1] = [65535] := by
  have hcolor (y n k : Nat) (hn : n % 2 = k) :
      colorAt pattern y n = (bayerBlockColors pattern).getD (y % 2 * 2 + k) 0 := by
    rw [colorAt, hn]
  have hx := Nat.mod_two_eq_zero_or_one x
  obtain hx | hx := hx
  · have hx' : (x + 1) % 2 = 1 := by omega
    simp only [samplesOf, List.flatMap_cons, List.flatMap_nil, List.filter_cons, List.filter_nil,
      hcolor _ _ _ hx, hcolor _ _ _ hx']
    cases pattern <;> rfl
  · have hx' : (x + 1) % 2 = 0 := by omega
    simp only [samplesOf, List.flatMap_cons, List.flatMap_nil, List.filter_cons, List.filter_nil,
      hcolor _ _ _ hx, hcolor _ _ _ hx']
    cases pattern <;> rfl

/-- The last pixel of the first row takes that colour from the second row. -/
theorem demosaic_stripes {width height : Nat} (hw : 2 ≤ width) (hh : 2 ≤ height)
    (pattern : BayerPattern) (method : DemosaicMethod) :
    demosaic stripes width height pattern method 0 (width - 1) (secondColour pattern) = 65535 := by
  obtain ⟨n, rfl⟩ := Nat.exists_eq_add_of_le hw
  cases method with
  | block2x2 =>
    have hrow : blockStart height 0 = 0 := by
      unfold blockStart
      rw [if_pos (by omega)]
    have hcolumn : blockStart (2 + n) (2 + n - 1) = n := by
      unfold blockStart
      dsimp only
      split <;> omega
    unfold demosaic
    dsimp only
    rw [hrow, hcolumn, samplesOf_stripes]
    rfl
  | bilinear =>
    have hrow : neighbours height 0 = [0, 1] := by
      unfold neighbours
      rw [if_pos rfl, if_pos (by omega)]
      rfl
    have hcolumn : neighbours (2 + n) (2 + n - 1) = [n, n + 1] := by
      unfold neighbours
      rw [if_neg (by omega), if_neg (by omega)]
      dsimp only
      rw [show 2 + n - 1 + 1 - (2 + n - 1 - 1) = 2 by omega, show 2 + n - 1 - 1 = n by omega]
      rfl
    unfold demosaic
    dsimp only
    rw [hrow, hcolumn, samplesOf_stripes]
    rfl

theorem length_writeColour (wide : Bool) (value : Nat → Nat) (line : Bytes) (column channel : Nat) :
    (writeColour wide value line column channel).length = line.length := by
  unfold writeColour
  cases wide <;> simp

theorem mem_writeColour {wide : Bool} {value : Nat → Nat} {line : Bytes} {column channel : Nat}
    (hv : value channel = 0) (h : ∀ b ∈ line, b = 0) :
    ∀ b ∈ writeColour wide value line column channel, b = 0 := by
  intro b hb
  unfold writeColour at hb
  rw [hv] at hb
  cases wide with
  | true =>
    obtain hb | rfl := List.mem_or_eq_of_mem_set hb
    · obtain hb | rfl := List.mem_or_eq_of_mem_set hb
      · exact h b hb
      · rfl
    · rfl
  | false =>
    obtain hb | rfl := List.mem_or_eq_of_mem_set hb
    · exact h b hb
    · rfl

/-- What is dark is written as zeros. -/
theorem colourLine_dark {wide : Bool} {value : Nat → Nat → Nat} {width rowStride : Nat}
    (h : ∀ column < width, ∀ channel, value column channel = 0) :
    ∀ b ∈ colourLine wide value width rowStride, b = 0 := by
  unfold colourLine
  refine List.foldlRecOn (motive := fun line => ∀ b ∈ line, b = 0) _ _
    (fun b hb => List.eq_of_mem_replicate hb) fun line hline column hc => ?_
  refine List.foldlRecOn (motive := fun line => ∀ b ∈ line, b = 0) _ _ hline
    fun line hline channel _ => ?_
  exact mem_writeColour (h column (List.mem_range.mp hc) channel) hline

theorem length_colourLine (wide : Bool) (value : Nat → Nat → Nat) (width rowStride : Nat) :
    (colourLine wide value width rowStride).length = rowStride := by
  unfold colourLine
  refine List.foldlRecOn (motive := fun line : Bytes => line.length = rowStride) _ _ List.length_replicate
    fun line hline column _ => ?_
  refine List.foldlRecOn (motive := fun line : Bytes => line.length = rowStride) _ _ hline
    fun line hline channel _ => ?_
  rw [length_writeColour, hline]

/-- The three channels of a pixel do not write over each other. -/
theorem mem_writeColours {wide : Bool} {value : Nat → Nat} {line : Bytes} {column channel : Nat}
    (hc : channel ≤ 2) (hv : value channel = 65535)
    (hlen : (column * 3 % 2 ^ 32 + 3) * (if wide then 2 else 1) ≤ line.length) :
    255 ∈ (List.range 3).foldl (fun line channel => writeColour wide value line column channel)
      line := by
  rw [show List.range 3 = [0, 1, 2] from rfl]
  simp only [List.foldl_cons, List.foldl_nil, writeColour]
  generalize column * 3 % 2 ^ 32 = base at hlen
  obtain rfl | rfl | rfl : channel = 0 ∨ channel = 1 ∨ channel = 2 := by omega
  all_goals cases wide
  all_goals simp only [if_true, Bool.false_eq_true, if_false] at hlen ⊢
  · refine List.mem_of_getElem? (i := base) ?_
    rw [List.getElem?_set_ne (by omega), List.getElem?_set_ne (by omega), Nat.add_zero,
      List.getElem?_set_self (by omega), hv]
    rfl
  · refine List.mem_of_getElem? (i := base * 2) ?_
    rw [List.getElem?_set_ne (by omega), List.getElem?_set_ne (by omega),
      List.getElem?_set_ne (by omega), List.getElem?_set_ne (by omega),
      List.getElem?_set_ne (by omega), Nat.add_zero, List.getElem?_set_self (by omega), hv]
    rfl
  · refine List.mem_of_getElem? (i := base + 1) ?_
    rw [List.getElem?_set_ne (by omega),
      List.getElem?_set_self (by simp only [List.length_set]; omega), hv]
    rfl
  · refine List.mem_of_getElem? (i := (base + 1) * 2) ?_
    rw [List.getElem?_set_ne (by omega), List.getElem?_set_ne (by omega),
      List.getElem?_set_ne (by omega),
      List.getElem?_set_self (by simp only [List.length_set]; omega), hv]
    rfl
  · refine List.mem_of_getElem? (i := base + 2) ?_
    rw [List.getElem?_set_self (by simp only [List.length_set]; omega), hv]
    rfl
  · refine List.mem_of_getElem? (i := (base + 2) * 2) ?_
    rw [List.getElem?_set_ne (by omega),
      List.getElem?_set_self (by simp only [List.length_set]; omega), hv]
    rfl

/-- A channel of the last pixel stays as it is written. -/
theorem colourLine_last {wide : Bool} {value : Nat → Nat → Nat} {width channel : Nat}
    (hw : 0 < width) (hc : channel ≤ 2) (h : value (width - 1) channel = 65535) :
    255 ∈ colourLine wide value width (width * 3 * if wide then 2 else 1) := by
  obtain ⟨n, rfl⟩ := Nat.exists_eq_succ_of_ne_zero (Nat.ne_of_gt hw)
  have hlen := length_colourLine wide value n ((n + 1) * 3 * if wide then 2 else 1)
  unfold colourLine at hlen ⊢
  rw [Nat.succ_eq_add_one, List.range_succ (n := n), List.foldl_append]
  refine mem_writeColours hc h ?_
  rw [hlen]
  have := Nat.mod_le (n * 3) (2 ^ 32)
  refine Nat.mul_le_mul_right _ ?_
  omega

section Stripes

variable (h : Stripes f g)
include h

theorem Stripes.row_one : 1 < planeRows f.description :=
  Nat.lt_of_lt_of_le (Nat.lt_of_succ_le h.rows) (height_le_planeRows f.description)

theorem Stripes.orientationRows (hc : f.description.pixelFormat.channelCount ≠ 0) :
    orientationRows f ≠ orientationRows g := by
  have hn : f.description.pixelFormat ≠ .nv12 := fun hn => hc (by rw [hn]; rfl)
  have hm : f.description.pixelFormat ≠ .mjpeg := fun hm => hc (by rw [hm]; rfl)
  have hpos := (frame_layout h.left hm).1.packed_pos
  have hrow := minimumRowStride_eq hn
  rw [bytesPerPixel_channels hc, ← Nat.mul_assoc] at hrow
  intro heq
  unfold Impl.Tmr.orientationRows validateFrameForOrientation validateFrameData at heq
  simp only [h.left, h.right, ← h.same.pixelFormat, hc, if_false, if_true, Except.map,
    Except.ok.injEq, CameraFrame.width, ← h.same.width, ← hrow] at heq
  -- The second row of `g` has a bright byte, and `f` has none.
  have hmem : (255 : Byte) ∈ packRows g f.description.minimumRowStride := by
    unfold packRows
    refine List.mem_flatMap.mpr ⟨1, List.mem_range.mpr ?_, List.mem_map.mpr
      ⟨0, List.mem_range.mpr hpos, ?_⟩⟩
    · rw [height_eq (sameHeader_of_pixels h.same)]
      exact h.rows
    · rw [h.bright 1 h.row_one 0 hpos]
      rfl
  rw [← heq] at hmem
  obtain ⟨row, hr, hk⟩ := List.mem_flatMap.mp hmem
  obtain ⟨k, hk, hbyte⟩ := List.mem_map.mp hk
  have hr := Nat.lt_of_lt_of_le (List.mem_range.mp hr) (height_le_planeRows f.description)
  rw [h.dark row hr k (List.mem_range.mp hk)] at hbyte
  exact absurd hbyte (by decide)

/-- The first pixel of the second row, where a pixel shares its chroma. -/
theorem Stripes.yuvPixel (hy : isYuvFormat f.description.pixelFormat = true) :
    yuvPixel f 1 0 = (0, 0, 0) ∧ yuvPixel g 1 0 = (255, 255, 255) := by
  have hd := description_valid h.left
  have heven := width_even hd hy
  have hw := width_ne_zero hd
  have hh : 2 ≤ f.description.height.toNat := h.rows
  have hone := h.row_one
  rw [yuvPixel_lines, yuvPixel_lines, ← h.same.pixelFormat, height_eq (sameHeader_of_pixels h.same)]
  split
  · rename_i hn
    have hmin : f.description.minimumRowStride = f.description.width.toNat := by
      unfold CameraFrameDescription.minimumRowStride
      rw [if_pos hn]
    have hchroma : f.height + 1 / 2 < planeRows f.description := by
      unfold planeRows
      rw [if_pos hn]
      show f.description.height.toNat + 1 / 2 < _
      omega
    have hc0 : f.height + 1 / 2 ≠ 0 := by
      show f.description.height.toNat + 1 / 2 ≠ 0
      omega
    constructor
    · rw [h.dark 1 hone _ (by omega), h.dark _ hchroma _ (by omega), h.dark _ hchroma _ (by omega)]
    · rw [h.bright 1 hone _ (by omega), h.bright _ hchroma _ (by omega),
        h.bright _ hchroma _ (by omega), if_neg hc0]
      rfl
  · rename_i hn
    have hmin := minimumRowStride_eq hn
    rw [bytesPerPixel_packed hy hn] at hmin
    constructor
    · rw [h.dark 1 hone _ (by split <;> omega), h.dark 1 hone _ (by split <;> omega),
        h.dark 1 hone _ (by split <;> omega)]
    · rw [h.bright 1 hone _ (by split <;> omega), h.bright 1 hone _ (by split <;> omega),
        h.bright 1 hone _ (by split <;> omega)]
      rfl

theorem Stripes.convertYuvFrameToImage
    (hy : isYuvFormat f.description.pixelFormat = true) :
    convertYuvFrameToImage (fun _ _ => true) f ≠ convertYuvFrameToImage (fun _ _ => true) g := by
  rw [convertYuvFrameToImage_eq _ h.left, convertYuvFrameToImage_eq _ h.right]
  intro heq
  simp only [if_true, Except.ok.injEq, Image.mk.injEq] at heq
  have hrows := heq.2.2
  unfold yuvRows at hrows
  rw [width_eq (sameHeader_of_pixels h.same), height_eq (sameHeader_of_pixels h.same)] at hrows
  have hw := width_ne_zero (description_valid h.left)
  have hone := List.map_inj_left.mp (List.map_inj_left.mp hrows 1 (List.mem_range.mpr h.rows)) 0
    (List.mem_range.mpr (Nat.pos_of_ne_zero hw))
  obtain ⟨hdark, hbright⟩ := h.yuvPixel hy
  rw [hdark, hbright] at hone
  exact absurd hone (by decide)

/-- The first sample of the second row. -/
theorem Stripes.readSample (hc : accumulationChannels f.description.pixelFormat ≠ 0) :
    readSample (f.lineByte 1) (accumulationSampleBytes f.description.pixelFormat) ≠
      readSample (g.lineByte 1) (accumulationSampleBytes f.description.pixelFormat) := by
  have hn : f.description.pixelFormat ≠ .nv12 := fun hn => hc (by rw [hn]; rfl)
  have hmin := minimumRowStride_eq hn
  rw [bytesPerPixel_accumulation hc, ← Nat.mul_assoc] at hmin
  have hpos := Nat.mul_pos (Nat.pos_of_ne_zero (width_ne_zero (description_valid h.left)))
    (Nat.pos_of_ne_zero hc)
  have hone := h.row_one
  obtain hs | hs := sampleBytes_cases hc
  · rw [hs] at hmin ⊢
    unfold Impl.Tmr.readSample
    rw [if_pos rfl, if_pos rfl, h.dark 1 hone 0 (by omega), h.bright 1 hone 0 (by omega)]
    decide
  · rw [hs] at hmin ⊢
    unfold Impl.Tmr.readSample
    rw [if_neg (by decide), if_neg (by decide), h.dark 1 hone 0 (by omega),
      h.bright 1 hone 0 (by omega), h.dark 1 hone 1 (by omega), h.bright 1 hone 1 (by omega)]
    decide

theorem Stripes.added (hc : accumulationChannels f.description.pixelFormat ≠ 0)
    (sum : List UInt32) :
    FrameAccumulator.added sum f (f.width * accumulationChannels f.description.pixelFormat)
        (accumulationSampleBytes f.description.pixelFormat) ≠
      FrameAccumulator.added sum g (f.width * accumulationChannels f.description.pixelFormat)
        (accumulationSampleBytes f.description.pixelFormat) := by
  have hpos := Nat.mul_pos (Nat.pos_of_ne_zero (width_ne_zero (description_valid h.left)))
    (Nat.pos_of_ne_zero hc)
  intro heq
  unfold FrameAccumulator.added at heq
  rw [height_eq (sameHeader_of_pixels h.same)] at heq
  have hrow := flatMap_range_inj (fun i => by simp only [List.length_map]) heq 1 h.rows
  have hsample := List.map_inj_left.mp hrow 0 (List.mem_range.mpr hpos)
  simp only [UInt32.add_right_inj, Nat.zero_mul, Nat.zero_add] at hsample
  exact h.readSample hc hsample

theorem Stripes.add (a : FrameAccumulator)
    (hu : (FrameOperation.add a).usesRowStride f.description = true) :
    forgetStride (a.add f).1 ≠ forgetStride (a.add g).1 := by
  simp only [FrameOperation.usesRowStride, Bool.and_eq_true, Bool.or_eq_true,
    decide_eq_true_eq] at hu
  obtain ⟨hc, hok⟩ := hu
  have hok : a.count = 0 ∨ a.sameShape f = true := hok
  have hshape : a.sameShape g = a.sameShape f := by
    unfold FrameAccumulator.sameShape
    rw [h.same.width, h.same.height, h.same.pixelFormat]
  have hgc := add_cases a h.right
  rw [hshape, ← h.same.pixelFormat] at hgc
  obtain ⟨hn, -⟩ | ⟨-, h0, hs, -⟩ | ⟨-, -, r, ha, hr⟩ := add_cases a h.left
  · exact absurd hn hc
  · rw [hs] at hok
    exact absurd hok (by simp [h0])
  obtain ⟨hn, -⟩ | ⟨-, h0, hs, -⟩ | ⟨-, -, t, hb, ht⟩ := hgc
  · exact absurd hn hc
  · rw [hs] at hok
    exact absurd hok (by simp [h0])
  intro heq
  rw [ha, hb] at heq
  have hsum : (forgetStride r).sum = (forgetStride t).sum := congrArg FrameAccumulator.sum heq
  have hsum : r.sum = t.sum := hsum
  rw [hr.sum, ht.sum, width_eq (sameHeader_of_pixels h.same),
    height_eq (sameHeader_of_pixels h.same), ← h.same.pixelFormat] at hsum
  exact h.added hc _ hsum

theorem Stripes.bayerSample (hb : isBayerFormat f.description.pixelFormat = true) {row column : Nat}
    (hr : row < f.height) (hc : column < f.width) :
    bayerSample f row column = 0 ∧ bayerSample g row column = stripes row column := by
  have hn : f.description.pixelFormat ≠ .nv12 := fun hn => by
    rw [hn] at hb
    cases hb
  have hmin := minimumRowStride_eq hn
  rw [bytesPerPixel_bayer hb] at hmin
  have hc : column < f.description.width.toNat := hc
  have hr := Nat.lt_of_lt_of_le hr (height_le_planeRows f.description)
  have h0 := Nat.mod_le (column * 2) (2 ^ 32)
  have h1 := Nat.mod_le (column * 2 + 1) (2 ^ 32)
  unfold Impl.Tmr.bayerSample
  rw [h.dark row hr _ (by omega), h.dark row hr _ (by omega), h.bright row hr _ (by omega),
    h.bright row hr _ (by omega)]
  unfold stripes
  refine ⟨rfl, ?_⟩
  split <;> rfl

theorem Stripes.demosaicFrame {outputFormat : CameraPixelFormat} {method : DemosaicMethod}
    (hu : (FrameOperation.demosaicFrame outputFormat method).usesRowStride f.description = true) :
    demosaicFrame (fun _ _ => true) f outputFormat method ≠
      demosaicFrame (fun _ _ => true) g outputFormat method := by
  simp only [FrameOperation.usesRowStride, Bool.and_eq_true, decide_eq_true_eq] at hu
  obtain ⟨⟨⟨hb, ho⟩, hw⟩, hh⟩ := hu
  have hw : 2 ≤ f.width := hw
  have hh : 2 ≤ f.height := hh
  obtain ⟨pattern, hp⟩ := Option.isSome_iff_exists.mp hb
  obtain ⟨⟨order, wide⟩, ho⟩ := Option.isSome_iff_exists.mp ho
  have hsize : ¬(decide (f.width < 2) || decide (f.height < 2)) = true := by
    simp only [Bool.or_eq_true, decide_eq_true_eq, not_or, not_lt]
    exact ⟨hw, hh⟩
  intro heq
  unfold Impl.Tmr.demosaicFrame at heq
  simp only [← h.same.pixelFormat, hp, ho, h.left, h.right,
    width_eq (sameHeader_of_pixels h.same), height_eq (sameHeader_of_pixels h.same),
    hsize, Bool.not_true, Bool.false_eq_true, if_false, Option.some.injEq, Except.ok.injEq,
    CameraFrame.mk.injEq] at heq
  have hrow := flatMap_range_inj (fun i => by rw [length_colourLine, length_colourLine])
    heq.2.1 0 (Nat.lt_of_lt_of_le (by decide) h.rows)
  have hrows : 0 < f.height := Nat.lt_of_lt_of_le (by decide) h.rows
  have hcolumns : 0 < f.width := Nat.lt_of_lt_of_le (by decide) hw
  have hbright : 255 ∈ colourLine wide (fun column channel => demosaic (Impl.Tmr.bayerSample g) f.width
      f.height pattern method 0 column (colorChannel channel order)) f.width
      (f.width * 3 * if wide then 2 else 1) := by
    refine colourLine_last hcolumns (colorChannel_le (secondColour_le pattern) order) ?_
    rw [colorChannel_colorChannel (secondColour_le pattern),
      demosaic_congr hw hh (fun y hy x hx => (h.bayerSample hb hy hx).2) hrows (by omega)]
    exact demosaic_stripes hw hh pattern method
  rw [← hrow] at hbright
  have hdark := colourLine_dark (fun column hc channel => ?_) _ hbright
  · exact absurd hdark (by decide)
  · rw [demosaic_congr hw hh (fun y hy x hx => (h.bayerSample hb hy hx).1) hrows hc]
    exact demosaic_dark ..

theorem Stripes.perform (op : FrameOperation) (hu : op.usesRowStride f.description = true) :
    op.perform (fun _ _ => true) f ≠ op.perform (fun _ _ => true) g := by
  intro heq
  cases op with
  | packRows =>
    exact h.orientationRows (of_decide_eq_true hu) (FrameResult.packed.inj heq)
  | demosaicFrame outputFormat method => exact h.demosaicFrame hu (FrameResult.frame.inj heq)
  | add a => exact h.add a hu (FrameResult.accumulated.inj heq).1
  | toImage p =>
    have himage := FrameResult.image.inj heq
    have hu' := hu
    simp only [FrameOperation.usesRowStride, Bool.and_eq_true, decide_eq_true_eq] at hu'
    unfold toImage at himage
    have hu : (decide (p = .ch3d8) && isYuvFormat f.description.pixelFormat) = true := hu
    rw [← h.same.pixelFormat, if_pos hu, if_pos hu] at himage
    exact h.convertYuvFrameToImage hu'.2 himage

end Stripes

theorem not_mjpeg_of_uses {op : FrameOperation} {d : CameraFrameDescription}
    (h : op.usesRowStride d = true) : d.pixelFormat ≠ .mjpeg := by
  intro hm
  cases op <;> simp [FrameOperation.usesRowStride, hm, isBayerFormat, bayerPatternOf,
    accumulationChannels, CameraPixelFormat.channelCount, isYuvFormat] at h

theorem usesRowStride_strided (op : FrameOperation) (d : CameraFrameDescription) (stride : Nat) :
    op.usesRowStride (strided d stride) = op.usesRowStride d := by
  cases op <;> rfl

theorem samePixels_symm (h : SamePixels f g) : SamePixels g f where
  width := h.width.symm
  height := h.height.symm
  pixelFormat := h.pixelFormat.symm
  sequence := h.sequence.symm
  monotonicTimestampNs := h.monotonicTimestampNs.symm
  pixels row hr k hk := by
    have hrows : planeRows g.description = planeRows f.description := by
      unfold planeRows
      rw [h.height, h.pixelFormat]
    have hmin : g.description.minimumRowStride = f.description.minimumRowStride := by
      unfold CameraFrameDescription.minimumRowStride
      rw [h.width, h.pixelFormat]
    exact (h.pixels row (hrows ▸ hr) k (hmin ▸ hk)).symm

theorem strideIndependent_symm {op : FrameOperation} {d : CameraFrameDescription} {a b : Nat}
    (h : StrideIndependent op d a b) : StrideIndependent op d b a :=
  fun images f g hf hg hfv hgv hs => (h images g f hg hf hgv hfv (samePixels_symm hs)).symm

/-- With a row stride of 0 an operation takes the first row for every row. -/
theorem not_strideIndependent {op : FrameOperation} {d : CameraFrameDescription} {b : Nat}
    (ha : (strided d 0).valid = true) (hb : (strided d b).valid = true)
    (hu : op.usesRowStride d = true) (hb0 : b ≠ 0) (hh : 2 ≤ d.height.toNat) :
    ¬StrideIndependent op d 0 b := by
  intro h
  have hs := stripes_striped ha hb (not_mjpeg_of_uses hu) hb0 hh
  exact hs.perform op ((usesRowStride_strided op d 0).trans hu)
    (h _ _ _ rfl rfl hs.left hs.right hs.same)

/-- An operation gives the same result with two strides exactly if it does not use the row stride
as it is, or both strides are 0 or both are not, or there is one row. -/
theorem stride_independence (op : FrameOperation) (d : CameraFrameDescription) (a b : Nat)
    (ha : { d with rowStride := a }.valid = true) (hb : { d with rowStride := b }.valid = true) :
    StrideIndependent op d a b ↔
      (op.usesRowStride d = true → (a = 0 ↔ b = 0) ∨ d.height = 1) := by
  constructor
  · intro h hu
    by_contra hn
    rw [not_or] at hn
    have hh : 2 ≤ d.height.toNat := by
      have h0 : d.height.toNat ≠ 0 := height_ne_zero (d := strided d a) ha
      have h1 : d.height.toNat ≠ 1 := fun h1 => hn.2 (UInt32.toNat_inj.mp h1)
      omega
    by_cases ha0 : a = 0
    · subst ha0
      have hb0 : b ≠ 0 := fun hb0 => hn.1 (iff_of_true rfl hb0)
      exact not_strideIndependent ha hb hu hb0 hh h
    · have hb0 : b = 0 := by
        by_contra hb0
        exact hn.1 (iff_of_false ha0 hb0)
      subst hb0
      exact not_strideIndependent hb ha hu ha0 hh (strideIndependent_symm h)
  · intro h images f g hf hg hfv hgv hs
    refine perform_congr op images hs hfv hgv fun hu => sameLines_of hs ?_
    rw [hf] at hu ⊢
    rw [hg]
    obtain h | h := h ((usesRowStride_strided op d a).symm.trans hu)
    · exact .inl h
    · refine .inr ?_
      unfold planeRows
      simp only [h]
      split <;> decide

/-- Two rows of one grey pixel, with and without a stride that is written out. -/
def tightFrame (stride : Nat) : CameraFrame :=
  { description := ⟨1, 2, .gray8, stride⟩, data := [0, 255] }

theorem stride_independence_gray :
    StrideIndependent .packRows ⟨1, 2, .gray8, 0⟩ 1 2 ∧
      ¬StrideIndependent .packRows ⟨1, 2, .gray8, 0⟩ 0 1 := by
  refine ⟨?_, fun h => ?_⟩
  · exact (stride_independence .packRows ⟨1, 2, .gray8, 0⟩ 1 2 (by decide) (by decide)).mpr
      fun _ => .inl (by decide)
  · have huse := (stride_independence .packRows ⟨1, 2, .gray8, 0⟩ 0 1 (by decide) (by decide)).mp h
    exact absurd (huse (by decide)) (by decide)

/-- The same two bytes, the same pixels: with stride 0 the second row is read as the first. -/
theorem packRows_rereads_row :
    (tightFrame 0).valid = true ∧ (tightFrame 1).valid = true ∧
      SamePixels (tightFrame 0) (tightFrame 1) ∧
      orientationRows (tightFrame 0) = .ok [0, 0] ∧
      orientationRows (tightFrame 1) = .ok [0, 255] := by
  refine ⟨by decide, by decide, ⟨rfl, rfl, rfl, rfl, rfl, by decide⟩, by decide, by decide⟩

end WSE.Proof.Tmr
