import WapitiStew.Proof.Tmr.FrameRows
import WapitiStew.Proof.Wse.ImageAverage
import WapitiStew.Spec.Tmr.CameraFrameOps

/-!
# The average of frames

As for images of the core: the sums are those of the samples of the lines, modulo `2 ^ 32`
(`FrameSums`), each frame adds its own (`frameSums_add`), and the average divides them
(`sample_average`). The samples of the lines are those of the rows where the row stride is not 0.
-/

namespace WSE.Proof.Tmr

open WSE.Framework WSE.Impl WSE.Impl.Tmr WSE.Spec.Tmr
open WSE.Spec.Wse (roundedMean)
open WSE.Proof.Wse (average_wraps_iff sum_le)

/-! ## Samples in bytes -/

theorem readSample_lt (byte : Nat → Byte) {sampleBytes : Nat}
    (h : sampleBytes = 1 ∨ sampleBytes = 2) :
    (readSample byte sampleBytes).toNat < 2 ^ (8 * sampleBytes) := by
  have h0 := (byte 0).toNat_lt
  have h1 := (byte 1).toNat_lt
  obtain rfl | rfl := h
  · exact h0
  · show ((byte 0).toUInt32 ||| (byte 1).toUInt32 <<< 8).toNat < 2 ^ 16
    rw [UInt32.toNat_or, UInt32.toNat_shiftLeft]
    refine Nat.or_lt_two_pow (Nat.lt_trans h0 (by decide)) ?_
    refine Nat.lt_of_le_of_lt (Nat.mod_le _ _) ?_
    show (byte 1).toNat <<< 8 < 2 ^ 16
    rw [Nat.shiftLeft_eq]
    omega

/-- What is written is read back, as far as the bytes of a sample go. -/
theorem readSample_writeSample (value : UInt32) {sampleBytes : Nat}
    (h : sampleBytes = 1 ∨ sampleBytes = 2) :
    (readSample (fun k => (writeSample value sampleBytes).getD k 0) sampleBytes).toNat =
      value.toNat % 2 ^ (8 * sampleBytes) := by
  have hlow : (value &&& 0xFF).toUInt8.toUInt32.toNat = value.toNat % 256 := by
    show (value &&& 0xFF).toNat % 256 = _
    rw [UInt32.toNat_and]
    show (value.toNat &&& (2 ^ 8 - 1)) % 256 = _
    rw [Nat.and_two_pow_sub_one_eq_mod]
    omega
  obtain rfl | rfl := h
  · exact hlow
  · have hhigh : ((value >>> 8) &&& 0xFF).toUInt8.toUInt32.toNat = value.toNat / 256 % 256 := by
      show ((value >>> 8) &&& 0xFF).toNat % 256 = _
      rw [UInt32.toNat_and, UInt32.toNat_shiftRight]
      show ((value.toNat >>> 8) &&& (2 ^ 8 - 1)) % 256 = _
      rw [Nat.and_two_pow_sub_one_eq_mod, Nat.shiftRight_eq_div_pow]
      omega
    show ((value &&& 0xFF).toUInt8.toUInt32 |||
      ((value >>> 8) &&& 0xFF).toUInt8.toUInt32 <<< 8).toNat = value.toNat % 2 ^ 16
    rw [UInt32.toNat_or, UInt32.toNat_shiftLeft, hlow, hhigh]
    have hshift : (value.toNat / 256 % 256) <<< 8 % 2 ^ 32 = (value.toNat / 256 % 256) <<< 8 :=
      Nat.mod_eq_of_lt (by rw [Nat.shiftLeft_eq]; omega)
    have hbyte : value.toNat % 256 < 2 ^ 8 := Nat.mod_lt _ (by decide)
    show value.toNat % 256 ||| (value.toNat / 256 % 256) <<< 8 % 2 ^ 32 = _
    rw [hshift, Nat.or_comm, ← Nat.shiftLeft_add_eq_or_of_lt hbyte, Nat.shiftLeft_eq]
    omega

/-- A sample of a line. -/
def lineSample (f : CameraFrame) (row index : Nat) : Nat :=
  let sampleBytes := accumulationSampleBytes f.description.pixelFormat
  (readSample (fun k => f.lineByte row (index * sampleBytes + k)) sampleBytes).toNat

theorem rowSamples_stride {d : CameraFrameDescription}
    (hc : accumulationChannels d.pixelFormat ≠ 0) :
    d.minimumRowStride = rowSamples d * accumulationSampleBytes d.pixelFormat := by
  rw [minimumRowStride_eq fun hn => hc (by rw [hn]; rfl), bytesPerPixel_accumulation hc, rowSamples,
    Nat.mul_assoc]

/-- Where the lines are the rows, so are their samples. -/
theorem lineSample_eq {f : CameraFrame} (hc : accumulationChannels f.description.pixelFormat ≠ 0)
    (hl : f.description.rowStride ≠ 0 ∨ SameRows f) {row index : Nat} (hr : row < f.height)
    (hi : index < rowSamples f.description) : lineSample f row index = frameSample f row index := by
  have hmin := rowSamples_stride hc
  have hend := sample_le (accumulationSampleBytes f.description.pixelFormat) hi
  have hs := sampleBytes_cases hc
  have hbyte : ∀ k < f.description.minimumRowStride, f.lineByte row k = pixelByte f row k := by
    intro k hk
    rw [lineByte_eq]
    obtain hl | hl := hl
    · rw [if_neg hl]
    · split
      · exact (hl row hr k hk).symm
      · rfl
  exact congrArg UInt32.toNat
    (readSample_congr (hbyte _ (by omega)) fun h1 => hbyte _ (by omega))

/-! ## The sums -/

/-- What an accumulator holds after these frames of one layout. -/
structure FrameSums (a : FrameAccumulator) (frames : List CameraFrame)
    (d : CameraFrameDescription) : Prop where
  count : a.count = frames.length
  width : frames ≠ [] → a.description.width = d.width
  height : frames ≠ [] → a.description.height = d.height
  pixelFormat : frames ≠ [] → a.description.pixelFormat = d.pixelFormat
  channels : frames ≠ [] → a.channels = accumulationChannels d.pixelFormat
  sampleBytes : frames ≠ [] → a.sampleBytes = accumulationSampleBytes d.pixelFormat
  sum : frames ≠ [] → ∀ row < d.height.toNat, ∀ index < rowSamples d,
    (a.sum.getD (row * rowSamples d + index) 0).toNat =
      (frames.map fun f => lineSample f row index).sum % 2 ^ 32

theorem frameSums_empty (d : CameraFrameDescription) : FrameSums {} [] d where
  count := rfl
  width h := absurd rfl h
  height h := absurd rfl h
  pixelFormat h := absurd rfl h
  channels h := absurd rfl h
  sampleBytes h := absurd rfl h
  sum h := absurd rfl h

theorem getD_added (sum : List UInt32) (f : CameraFrame) {row index : Nat} (hr : row < f.height)
    (hi : index < rowSamples f.description) :
    ((FrameAccumulator.added sum f (rowSamples f.description)
      (accumulationSampleBytes f.description.pixelFormat)).getD
        (row * rowSamples f.description + index) 0).toNat =
      ((sum.getD (row * rowSamples f.description + index) 0).toNat + lineSample f row index) %
        2 ^ 32 := by
  unfold FrameAccumulator.added
  rw [List.getD_eq_getElem?_getD,
    getElem?_rows (fun _ _ => by rw [List.length_map, List.length_range]) hr hi, List.getElem?_map,
    List.getElem?_range hi, Option.map_some, Option.getD_some, UInt32.toNat_add]
  rfl

variable {a : FrameAccumulator} {frames : List CameraFrame} {d : CameraFrameDescription}

/-- A frame of the layout is added to the sums. -/
theorem frameSums_add (hs : FrameSums a frames d) (hcount : frames.length + 1 < 2 ^ 64)
    (hc : accumulationChannels d.pixelFormat ≠ 0) {f : CameraFrame} (hf : f.valid = true)
    (hw : f.description.width = d.width) (hh : f.description.height = d.height)
    (hp : f.description.pixelFormat = d.pixelFormat) :
    ∃ r, a.add f = (r, .ok ()) ∧ FrameSums r (frames ++ [f]) d := by
  have hrow : rowSamples f.description = rowSamples d := by rw [rowSamples, hw, hp]; rfl
  have hheight : f.height = d.height.toNat := congrArg UInt32.toNat hh
  have hnil : a.count = 0 ↔ frames = [] := by rw [hs.count, List.length_eq_zero_iff]
  have hshape : a.count = 0 ∨ a.sameShape f = true := by
    by_cases h0 : a.count = 0
    · exact .inl h0
    · have hne := mt hnil.mpr h0
      refine .inr ?_
      simp [FrameAccumulator.sameShape, hs.width hne, hs.height hne, hs.pixelFormat hne, hw, hh, hp]
  obtain ⟨hn, -⟩ | ⟨-, h0, hno, -⟩ | ⟨-, -, r, hadd, hr⟩ := add_cases a hf
  · exact absurd (hp ▸ hn) hc
  · rw [hno] at hshape
    exact absurd hshape (by simp [h0])
  refine ⟨r, hadd, ?_⟩
  have hsum := hr.sum
  change r.sum = FrameAccumulator.added _ f (rowSamples f.description) _ at hsum
  obtain h0 | h0 := Nat.eq_zero_or_pos a.count
  · obtain rfl := hnil.mp h0
    have hd : r.description = f.description := by rw [hr.description, if_pos h0]
    rw [if_pos h0] at hsum
    refine ⟨?_, fun _ => by rw [hd, hw], fun _ => by rw [hd, hh], fun _ => by rw [hd, hp],
      fun _ => by rw [hr.channels, if_pos h0, hp], fun _ => by rw [hr.sampleBytes, if_pos h0, hp],
      fun _ row hrw index hi => ?_⟩
    · rw [hr.count, if_pos h0]
      rfl
    · have hzero : ∀ n i, ((List.replicate n (0 : UInt32)).getD i 0).toNat = 0 := fun n i => by
        rw [List.getD_eq_getElem?_getD, List.getElem?_replicate]
        split <;> rfl
      rw [← hrow] at hi ⊢
      rw [hsum, getD_added _ f (hheight ▸ hrw) hi, hzero]
      simp
  · have h0 : a.count ≠ 0 := h0.ne'
    have hne := mt hnil.mpr h0
    have hd : r.description = a.description := by rw [hr.description, if_neg h0]
    rw [if_neg h0] at hsum
    refine ⟨?_, fun _ => by rw [hd, hs.width hne], fun _ => by rw [hd, hs.height hne],
      fun _ => by rw [hd, hs.pixelFormat hne],
      fun _ => by rw [hr.channels, if_neg h0, hs.channels hne],
      fun _ => by rw [hr.sampleBytes, if_neg h0, hs.sampleBytes hne],
      fun _ row hrw index hi => ?_⟩
    · rw [hr.count, if_neg h0, hs.count, List.length_append, List.length_singleton,
        Nat.mod_eq_of_lt hcount]
    · have hold := hs.sum hne row hrw index hi
      rw [← hrow] at hi hold ⊢
      rw [hsum, getD_added _ f (hheight ▸ hrw) hi, hold, Nat.mod_add_mod, List.map_append,
        List.sum_append]
      rfl

/-- So is a list of frames. -/
theorem frameSums_addFrames (hs : FrameSums a frames d)
    (hc : accumulationChannels d.pixelFormat ≠ 0) {more : List CameraFrame}
    (hcount : frames.length + more.length < 2 ^ 64) (hf : ∀ f ∈ more, f.valid = true)
    (hw : ∀ f ∈ more, f.description.width = d.width)
    (hh : ∀ f ∈ more, f.description.height = d.height)
    (hp : ∀ f ∈ more, f.description.pixelFormat = d.pixelFormat) :
    ∃ r, addFrames a more = .ok r ∧ FrameSums r (frames ++ more) d := by
  induction more generalizing a frames with
  | nil => exact ⟨a, rfl, by rw [List.append_nil]; exact hs⟩
  | cons f more ih =>
    rw [List.length_cons] at hcount
    obtain ⟨r, hadd, hr⟩ := frameSums_add hs (by omega) hc (hf f List.mem_cons_self)
      (hw f List.mem_cons_self) (hh f List.mem_cons_self) (hp f List.mem_cons_self)
    obtain ⟨b, hb, hsb⟩ := ih hr (by rw [List.length_append, List.length_singleton]; omega)
      (fun g hg => hf g (List.mem_cons_of_mem f hg)) (fun g hg => hw g (List.mem_cons_of_mem f hg))
      (fun g hg => hh g (List.mem_cons_of_mem f hg)) (fun g hg => hp g (List.mem_cons_of_mem f hg))
    refine ⟨b, ?_, by rw [List.append_assoc] at hsb; exact hsb⟩
    rw [addFrames, hadd]
    exact hb

/-! ## The average -/

theorem length_writeSample (value : UInt32) {sampleBytes : Nat}
    (h : sampleBytes = 1 ∨ sampleBytes = 2) : (writeSample value sampleBytes).length = sampleBytes := by
  obtain rfl | rfl := h <;> rfl

/-- A packed frame of samples, one after another. -/
theorem frameSample_packed {r : CameraFrame} (values : List UInt32)
    (hc : accumulationChannels r.description.pixelFormat ≠ 0)
    (hstride : r.description.rowStride = r.description.minimumRowStride)
    (hdata : r.data = values.flatMap fun value =>
      writeSample value (accumulationSampleBytes r.description.pixelFormat))
    (hlen : values.length = r.height * rowSamples r.description) {row index : Nat}
    (hr : row < r.height) (hi : index < rowSamples r.description) : frameSample r row index =
      (values.getD (row * rowSamples r.description + index) 0).toNat %
        2 ^ (8 * accumulationSampleBytes r.description.pixelFormat) := by
  have hbytes := sampleBytes_cases hc
  have hindex : row * rowSamples r.description + index < values.length := by
    rw [hlen, Nat.mul_comm r.height]
    exact Framework.index_lt hi hr
  have hbyte : ∀ k < accumulationSampleBytes r.description.pixelFormat,
      pixelByte r row (index * accumulationSampleBytes r.description.pixelFormat + k) =
        (writeSample (values.getD (row * rowSamples r.description + index) 0)
          (accumulationSampleBytes r.description.pixelFormat)).getD k 0 := by
    intro k hk
    rw [pixelByte, packed_stride hstride, rowSamples_stride hc, ← Nat.add_assoc, ← Nat.mul_assoc,
      ← Nat.add_mul, CameraFrame.byteAt, hdata, List.getD_eq_getElem?_getD,
      getElem?_chunks (fun value _ => length_writeSample value hbytes) hindex hk,
      ← List.getD_eq_getElem?_getD, List.getD_eq_getElem _ _ hindex]
  rw [← readSample_writeSample _ hbytes]
  exact congrArg UInt32.toNat (readSample_congr (hbyte 0 (by omega)) fun h1 =>
    hbyte 1 (by omega))

/-- The samples that the average writes. -/
def meanSamples (a : FrameAccumulator) : List UInt32 :=
  a.sum.map fun total => (total + UInt32.ofNat a.count / 2) / UInt32.ofNat a.count

def averaged (a : FrameAccumulator) : CameraFrame :=
  { description := { a.description with
      rowStride := a.description.width.toNat * a.channels * a.sampleBytes }
    data := (meanSamples a).flatMap fun value => writeSample value a.sampleBytes
    sequence := a.sequence
    monotonicTimestampNs := a.timestamp }

theorem average_eq (h : a.count ≠ 0) : a.average = .ok (averaged a) := by
  unfold FrameAccumulator.average averaged meanSamples
  rw [if_neg h]
  simp only [List.flatMap_map]

/-- A sample of the average, in the arithmetic of its types. -/
theorem sample_averaged (hs : FrameSums a frames d) (hne : frames ≠ [])
    (hc : accumulationChannels d.pixelFormat ≠ 0) (hcount : frames.length < 2 ^ 32)
    {row index : Nat} (hr : row < d.height.toNat) (hi : index < rowSamples d) :
    frameSample (averaged a) row index =
      ((frames.map fun f => lineSample f row index).sum % 2 ^ 32 + frames.length / 2) % 2 ^ 32 /
        frames.length % 2 ^ (8 * accumulationSampleBytes d.pixelFormat) := by
  have h0 : a.count ≠ 0 := by
    rw [hs.count]
    exact fun h => hne (List.length_eq_zero_iff.mp h)
  have hpf : (averaged a).description.pixelFormat = d.pixelFormat := hs.pixelFormat hne
  have hrow : rowSamples (averaged a).description = rowSamples d := by
    rw [rowSamples, hpf]
    exact congrArg (·.toNat * _) (hs.width hne)
  have hheight : (averaged a).height = d.height.toNat := congrArg UInt32.toNat (hs.height hne)
  have hchannels : a.description.width.toNat * a.channels = rowSamples d := by
    rw [hs.width hne, hs.channels hne]
    rfl
  have hlen : a.sum.length = d.height.toNat * rowSamples d := by
    rw [(a.fits h0).2, hchannels, hs.height hne]
  have hstride : (averaged a).description.rowStride =
      (averaged a).description.minimumRowStride := by
    rw [rowSamples_stride (hpf ▸ hc), hrow, hpf]
    show a.description.width.toNat * a.channels * a.sampleBytes = _
    rw [hchannels, hs.sampleBytes hne]
  have hsample := frameSample_packed (meanSamples a) (hpf ▸ hc) hstride
    (by rw [hpf, ← hs.sampleBytes hne]; rfl)
    (by rw [meanSamples, List.length_map, hlen, hheight, hrow]) (hheight ▸ hr) (hrow ▸ hi)
  have hindex : row * rowSamples d + index < a.sum.length := by
    rw [hlen, Nat.mul_comm d.height.toNat]
    exact Framework.index_lt hi hr
  rw [hsample, hrow, hpf, meanSamples, List.getD_eq_getElem?_getD, List.getElem?_map,
    List.getElem?_eq_getElem hindex, Option.map_some, Option.getD_some,
    ← List.getD_eq_getElem a.sum 0 hindex, UInt32.toNat_div, UInt32.toNat_add, UInt32.toNat_div,
    hs.sum hne row hr index hi, UInt32.toNat_ofNat', hs.count, Nat.mod_eq_of_lt hcount]
  rfl

theorem samples_lineSample (hl : OneFormat frames d) (hlines : LinesAreRows frames)
    {row index : Nat} (hr : row < d.height.toNat) (hi : index < rowSamples d) :
    (frames.map fun f => lineSample f row index) =
      frames.map fun f => frameSample f row index := by
  refine List.map_congr_left fun f hf => ?_
  have hp := hl.pixelFormat f hf
  have hrow : rowSamples f.description = rowSamples d := by
    rw [rowSamples, hl.width f hf, hp]
    rfl
  exact lineSample_eq (hp ▸ hl.accumulable) (hlines f hf)
    (by rw [CameraFrame.height, hl.height f hf]; exact hr) (hrow ▸ hi)

theorem frameSample_lt {f : CameraFrame}
    (hc : accumulationChannels f.description.pixelFormat ≠ 0) (row index : Nat) :
    frameSample f row index < 2 ^ (8 * accumulationSampleBytes f.description.pixelFormat) :=
  readSample_lt _ (sampleBytes_cases hc)

/-- Frames of one layout have the exact mean exactly where no sum leaves its type, if the lines that
are added are their rows. -/
theorem average_frames_iff (hl : OneFormat frames d) (hcount : frames.length < 2 ^ 32)
    (hlines : LinesAreRows frames) :
    (∃ result, averageFrames frames = .ok result ∧ ExactFrameMean frames d result) ↔
      FrameSumsFit frames d := by
  obtain ⟨a, hacc, hs⟩ := frameSums_addFrames (frameSums_empty d) hl.accumulable
    (by rw [List.length_nil, Nat.zero_add]; omega) hl.valid hl.width hl.height hl.pixelFormat
  rw [List.nil_append] at hs
  have h0 : a.count ≠ 0 := by
    rw [hs.count]
    exact fun h => hl.nonempty (List.length_eq_zero_iff.mp h)
  have hsample : ∀ row < d.height.toNat, ∀ index < rowSamples d,
      frameSample (averaged a) row index =
        roundedMean (frames.map fun f => frameSample f row index) ↔
      (frames.map fun f => frameSample f row index).sum + frames.length / 2 < 2 ^ 32 := by
    intro row hr index hi
    have hlen : (frames.map fun f => frameSample f row index).length = frames.length :=
      List.length_map _
    have hle : (frames.map fun f => frameSample f row index).sum ≤
        frames.length * (2 ^ (8 * accumulationSampleBytes d.pixelFormat) - 1) := by
      rw [← hlen]
      refine sum_le fun s hs => ?_
      obtain ⟨f, hf, rfl⟩ := List.mem_map.mp hs
      have hp := hl.pixelFormat f hf
      have hlt := frameSample_lt (hp ▸ hl.accumulable) row index (f := f)
      rw [hp] at hlt
      exact Nat.le_sub_one_of_lt hlt
    rw [sample_averaged hs hl.nonempty hl.accumulable hcount hr hi,
      samples_lineSample hl hlines hr hi, roundedMean, hlen]
    exact average_wraps_iff (List.length_pos_iff.mpr hl.nonempty) hcount (Nat.two_pow_pos _) hle
  have hresult : averageFrames frames = .ok (averaged a) := by
    rw [averageFrames, hacc]
    exact average_eq h0
  constructor
  · rintro ⟨result, hresult', hexact⟩
    obtain rfl := Except.ok.inj (hresult.symm.trans hresult')
    exact fun row hr index hi => (hsample row hr index hi).mp (hexact.samples row hr index hi)
  · intro hfit
    exact ⟨averaged a, hresult, hs.width hl.nonempty, hs.height hl.nonempty,
      hs.pixelFormat hl.nonempty, fun row hr index hi =>
        (hsample row hr index hi).mpr (hfit row hr index hi)⟩

/-! ## Refused frames, and reads of a camera -/

/-- A refused frame leaves the accumulator as it was. -/
theorem add_frame_refused {e : CameraFailure} {f : CameraFrame} (h : (a.add f).2 = .error e) :
    (a.add f).1 = a := by
  by_cases hf : f.valid = true
  · obtain ⟨-, hadd⟩ | ⟨-, -, -, hadd⟩ | ⟨-, -, r, hadd, -⟩ := add_cases a hf
    · rw [hadd]
    · rw [hadd]
    · rw [hadd] at h
      cases h
  · have hdata : validateFrameData f = .error (frameOpsError .validation .invalidArgument
        "The camera frame description and data do not agree." (by decide)) := by
      rw [validateFrameData, if_neg hf]
    unfold FrameAccumulator.add
    rw [hdata]
    dsimp only
    split <;> rfl

/-- A frame of another layout is refused. -/
theorem add_other_layout {f : CameraFrame} (h0 : a.count ≠ 0)
    (h : a.sameShape f = false) : ∃ e, (a.add f).2 = .error e := by
  by_cases hf : f.valid = true
  · obtain ⟨-, hadd⟩ | ⟨-, -, -, hadd⟩ | ⟨-, hok, -⟩ := add_cases a hf
    · exact ⟨_, by rw [hadd]⟩
    · exact ⟨_, by rw [hadd]⟩
    · rw [h] at hok
      exact absurd hok (by simp [h0])
  · have hdata : validateFrameData f = .error (frameOpsError .validation .invalidArgument
        "The camera frame description and data do not agree." (by decide)) := by
      rw [validateFrameData, if_neg hf]
    unfold FrameAccumulator.add
    rw [hdata]
    dsimp only
    split <;> exact ⟨_, rfl⟩

/-- Reads that succeed are added one after another. -/
theorem readAndAdd_eq {readFrame : Nat → CameraResult CameraFrame} {frame : Nat → CameraFrame}
    {index count : Nat} (h : ∀ i < count, readFrame (index + i) = .ok (frame (index + i))) :
    readAndAdd readFrame index count a =
      addFrames a ((List.range' index count).map frame) := by
  induction count generalizing index a with
  | zero => rfl
  | succ count ih =>
    have hfirst : readFrame index = .ok (frame index) := h 0 (Nat.succ_pos count)
    rw [readAndAdd, List.range'_succ, List.map_cons, addFrames, hfirst]
    dsimp only
    split
    · rename_i hadd
      rw [hadd]
    · rename_i hadd
      rw [hadd]
      refine ih fun i hi => ?_
      have := h (i + 1) (Nat.succ_lt_succ hi)
      rwa [Nat.add_comm i, ← Nat.add_assoc] at this

theorem readAveragedFrame_eq {readFrame : Nat → CameraResult CameraFrame}
    {frame : Nat → CameraFrame} {count : Nat} (h : ∀ i < count, readFrame i = .ok (frame i))
    (hcount : count ≠ 0) : readAveragedFrame readFrame count =
      averageFrames ((List.range count).map frame) := by
  have hread : readAndAdd readFrame 0 count {} = _ := readAndAdd_eq (by simpa using h)
  rw [← List.range_eq_range'] at hread
  rw [readAveragedFrame, if_neg hcount, averageFrames, hread]
  split <;> rename_i hadd <;> rw [hadd]

open WSE.Spec.Wse (OneLayout ExactMean SumsFit) in
/-- Averages are the mean of their samples, rounded to nearest, exactly where no sum leaves its type:
of images, and of frames whose lines are their rows of pixels. What is refused changes nothing. -/
theorem averages_exact (p : Wse.PixFormat) (sources : List (Wse.Image p)) (w h : Nat)
    (hsources : OneLayout sources w h) (hs : sources.length < 2 ^ Wse.accumulatorBits p)
    (frames : List CameraFrame) (d : CameraFrameDescription) (hframes : OneFormat frames d)
    (hf : frames.length < 2 ^ 32) (hlines : LinesAreRows frames) :
    ((∃ target, Wse.averageImages sources = .ok target ∧ ExactMean sources target w h) ↔
      SumsFit sources w h) ∧
    ((∃ result, averageFrames frames = .ok result ∧ ExactFrameMean frames d result) ↔
      FrameSumsFit frames d) ∧
    (∀ (a : Wse.ImageAccumulator p) (source : Wse.Image p), a.count ≠ 0 →
      source.width ≠ a.width ∨ source.height ≠ a.height →
        (∃ e, (a.add source).2 = .error e) ∧ (a.add source).1 = a) ∧
    (∀ (a : FrameAccumulator) (f : CameraFrame), a.count ≠ 0 → a.sameShape f = false →
      (∃ e, (a.add f).2 = .error e) ∧ (a.add f).1 = a) := by
  refine ⟨WSE.Proof.Wse.average_exact_iff hsources hs, average_frames_iff hframes hf hlines,
    fun a source h0 hne => ?_, fun a f h0 hne => ?_⟩
  · obtain ⟨e, he⟩ := WSE.Proof.Wse.add_other_extent h0 hne
    exact ⟨⟨e, he⟩, WSE.Proof.Wse.add_refused he⟩
  · obtain ⟨e, he⟩ := add_other_layout h0 hne
    exact ⟨⟨e, he⟩, add_frame_refused he⟩

/-- A grey frame of two rows of one pixel. -/
def greyRows (rowStride : Nat) (first second : Byte) : CameraFrame :=
  { description := { width := 1, height := 2, pixelFormat := .gray8, rowStride }
    data := [first, second] }

theorem greyRows_oneFormat (rowStride : Nat) (h : rowStride = 0 ∨ rowStride = 1) :
    OneFormat [greyRows rowStride 0 255] (greyRows rowStride 0 255).description where
  nonempty := nofun
  accumulable := by
    show accumulationChannels .gray8 ≠ 0
    decide
  valid f hf := by
    obtain rfl := List.mem_singleton.mp hf
    obtain rfl | rfl := h <;> decide
  width f hf := by rw [List.mem_singleton.mp hf]
  height f hf := by rw [List.mem_singleton.mp hf]
  pixelFormat f hf := by rw [List.mem_singleton.mp hf]

/-- Two images of one pixel, the greatest 64-bit sample. -/
def brightest : List (Wse.Image .ch1d64) :=
  List.replicate 2 (Grid.fill 1 1 (.ofFn fun _ => BitVec.allOnes 64))

theorem brightest_oneLayout : WSE.Spec.Wse.OneLayout brightest 1 1 where
  nonempty := nofun
  width_pos := by decide
  height_pos := by decide
  widths s hs := by rw [List.eq_of_mem_replicate hs]; rfl
  heights s hs := by rw [List.eq_of_mem_replicate hs]; rfl

/-- One frame with row stride 0 is not its own mean; nor are two images of the greatest 64-bit
sample theirs. -/
theorem averages_exact_broken :
    (OneFormat [greyRows 0 0 255] (greyRows 0 0 255).description ∧
      ¬ ∃ result, averageFrames [greyRows 0 0 255] = .ok result ∧
        ExactFrameMean [greyRows 0 0 255] (greyRows 0 0 255).description result) ∧
    (WSE.Spec.Wse.OneLayout brightest 1 1 ∧
      ¬ ∃ target, Wse.averageImages brightest = .ok target ∧
        WSE.Spec.Wse.ExactMean brightest target 1 1) := by
  refine ⟨⟨greyRows_oneFormat 0 (.inl rfl), ?_⟩, brightest_oneLayout, ?_⟩
  · rintro ⟨result, hresult, hexact⟩
    have hout := Except.ok.inj hresult
    have hsample := hexact.samples 1 (by decide) 0 (by decide)
    rw [← hout] at hsample
    revert hsample
    decide
  · rintro ⟨target, htarget, hexact⟩
    have hfit := (WSE.Proof.Wse.average_exact_iff brightest_oneLayout (by decide)).mp
      ⟨target, htarget, hexact⟩
    exact absurd (hfit 0 (by decide) 0 (by decide) ⟨0, by decide⟩) (by decide)

theorem averages_exact_grey :
    (∃ target, Wse.averageImages [Wse.blank .ch1d8 1 1] = .ok target ∧
      WSE.Spec.Wse.ExactMean [Wse.blank .ch1d8 1 1] target 1 1) ∧
    ∃ result, averageFrames [greyRows 1 0 255] = .ok result ∧
      ExactFrameMean [greyRows 1 0 255] (greyRows 1 0 255).description result := by
  have h := averages_exact .ch1d8 [Wse.blank .ch1d8 1 1] 1 1
    ⟨nofun, by decide, by decide, fun s hs => by rw [List.mem_singleton.mp hs]; rfl,
      fun s hs => by rw [List.mem_singleton.mp hs]; rfl⟩ (by decide)
    [greyRows 1 0 255] (greyRows 1 0 255).description (greyRows_oneFormat 1 (.inr rfl)) (by decide)
    (fun f hf => .inl (by rw [List.mem_singleton.mp hf]; decide))
  refine ⟨h.1.mpr ?_, h.2.1.mpr ?_⟩
  · intro x hx y hy c
    revert x y c
    decide
  · intro row hr index hi
    revert row index
    decide

end WSE.Proof.Tmr
