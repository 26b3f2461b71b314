import WapitiStew.Spec.Wse.Image

/-!
# Conversions of sample depths

Which conversions keep their samples in depth, and which means of colours are exact.
-/

namespace WSE.Proof.Wse

open WSE.Framework WSE.Impl.Wse WSE.Impl.Wse.castData WSE.Spec.Wse

/-!
## Conversions stay inside the depth, but for the alpha

A sample that is copied or shifted down stays inside the depth of the destination
(`toNat_castSample_lt`), and the mean of three colours inside that of the source
(`toNat_meanSample_lt`). The alpha that a conversion adds fills the underlying type: it is in depth
only where the format uses the whole type (`toNat_alpha_lt`).
-/

section

variable {doubles : Doubles} {src dst : PixFormat}

/-! ### Samples -/

theorem toNat_setWidth_lt {v w d : Nat} {sample : BitVec v} (h : sample.toNat < 2 ^ d) :
    (sample.setWidth w).toNat < 2 ^ d := by
  rw [BitVec.toNat_setWidth]
  exact Nat.lt_of_le_of_lt (Nat.mod_le _ _) h

theorem toNat_shift_lt {v w s d : Nat} {sample : BitVec v} (hd : d ≤ s)
    (h : sample.toNat < 2 ^ s) :
    ((sample.ushiftRight (s - d)).setWidth w).toNat < 2 ^ d := by
  refine toNat_setWidth_lt ?_
  show (sample >>> (s - d)).toNat < 2 ^ d
  rw [BitVec.toNat_ushiftRight, Nat.shiftRight_eq_div_pow]
  refine Nat.div_lt_of_lt_mul ?_
  rw [← Nat.pow_add, Nat.sub_add_cancel hd]
  exact h

theorem toNat_castSample_lt {sample : Sample src} (hd : dst.bitDepth ≤ src.bitDepth)
    (h : sample.toNat < 2 ^ src.bitDepth) :
    (castSample doubles src dst sample).toNat < 2 ^ dst.bitDepth := by
  unfold castSample
  split
  · rename_i he
    exact toNat_setWidth_lt (he ▸ h)
  split
  · exact toNat_shift_lt hd h
  · omega

/-- The mean of three numbers below a bound is below it, also where their sum wraps. -/
theorem toNat_meanSample_lt {pixel : Pixel src}
    (h : ∀ c, (pixel.channel c).toNat < 2 ^ src.bitDepth) :
    (meanSample src pixel).toNat < 2 ^ src.bitDepth := by
  refine toNat_setWidth_lt ?_
  rw [BitVec.toNat_udiv, BitVec.toNat_add, BitVec.toNat_add]
  have h0 := toNat_setWidth_lt (w := 64) (h 0)
  have h1 := toNat_setWidth_lt (w := 64) (h 1)
  have h2 := toNat_setWidth_lt (w := 64) (h 2)
  have hsum := Nat.mod_le (((pixel.channel 0).setWidth 64).toNat +
    ((pixel.channel 1).setWidth 64).toNat) (2 ^ 64)
  refine Nat.div_lt_of_lt_mul (Nat.lt_of_le_of_lt (Nat.mod_le _ _) ?_)
  show _ < 3 * 2 ^ src.bitDepth
  omega

theorem toNat_channel_lt {pixel : Pixel src} (h : ∀ c, (pixel c).toNat < 2 ^ src.bitDepth)
    (c : Nat) : (pixel.channel c).toNat < 2 ^ src.bitDepth := by
  unfold Pixel.channel
  split
  · exact h _
  · exact Nat.two_pow_pos _

theorem toNat_alpha_lt :
    (castData.alpha doubles dst).toNat < 2 ^ dst.bitDepth ↔ dst.bitDepth = dst.sampleBits := by
  constructor
  · intro h
    by_contra hne
    have hle := dst.bitDepth_le
    have h8 : dst.sampleSize ≠ 8 := fun h8 => hne (by revert h8; cases dst <;> decide)
    unfold castData.alpha at h
    rw [if_neg h8, BitVec.toNat_ofNat, Nat.mod_eq_of_lt (Nat.sub_one_lt (Nat.two_pow_pos _).ne')] at h
    have hlt : 2 ^ dst.bitDepth < 2 ^ dst.sampleBits :=
      Nat.pow_lt_pow_right (by decide) (by omega)
    omega
  · intro h
    rw [h]
    exact (castData.alpha doubles dst).isLt

/-! ### Pixels -/

theorem inDepth_map {source : Image src} {f : Pixel src → Pixel dst} :
    InDepth (source.map f) ↔ ∀ pixel ∈ source.cells, ∀ c, (f pixel c).toNat < 2 ^ dst.bitDepth :=
  List.forall_mem_map

theorem inDepth_casts {source : Image src} (h : InDepth source)
    (hd : dst.bitDepth ≤ src.bitDepth) (channel : Fin dst.channels → Nat) :
    InDepth (source.map fun pixel => Pixel.ofFn (p := dst) fun c =>
      castSample doubles src dst (pixel.channel (channel c))) :=
  inDepth_map.mpr fun pixel hp _ =>
    toNat_castSample_lt hd (toNat_channel_lt (h pixel hp) _)

/-- With an alpha, the image is in depth when the alpha is, or there is no pixel. -/
theorem inDepth_alpha (doubles : Doubles) {source : Image src} (h : InDepth source)
    (hd : dst.bitDepth ≤ src.bitDepth) (h4 : dst.channels = 4)
    (channel : Fin dst.channels → Nat) :
    InDepth (source.map fun pixel => .ofFn fun c => if c.val = 3 then castData.alpha doubles dst
        else castSample doubles src dst (pixel.channel (channel c)) : Image dst) ↔
      dst.bitDepth = dst.sampleBits ∨ source.cells = [] := by
  rw [inDepth_map]
  constructor
  · intro hall
    by_cases hnil : source.cells = []
    · exact .inr hnil
    · obtain ⟨pixel, hp⟩ := List.exists_mem_of_ne_nil _ hnil
      have hlast := hall pixel hp ⟨3, by omega⟩
      rw [Pixel.ofFn_apply, if_pos rfl] at hlast
      exact .inl (toNat_alpha_lt.mp hlast)
  · rintro (hfull | hnil) pixel hp c
    · rw [Pixel.ofFn_apply]
      split
      · exact toNat_alpha_lt.mpr hfull
      · exact toNat_castSample_lt hd (toNat_channel_lt (h pixel hp) _)
    · rw [hnil] at hp
      exact absurd hp List.not_mem_nil

theorem inDepth_mean (doubles : Doubles) {source : Image src} (h : InDepth source)
    (hd : dst.bitDepth ≤ src.bitDepth) : InDepth (color2mono doubles src dst source) :=
  inDepth_map.mpr fun pixel hp _ =>
    toNat_castSample_lt hd (toNat_meanSample_lt (toNat_channel_lt (h pixel hp)))

theorem inDepth_sameChannels (doubles : Doubles) {source : Image src} (h : InDepth source)
    (hd : dst.bitDepth ≤ src.bitDepth) : InDepth (sameChannels doubles src dst source) := by
  unfold sameChannels
  split
  · exact inDepth_map.mpr fun pixel hp c =>
      toNat_shift_lt hd (toNat_channel_lt (h pixel hp) _)
  split
  · omega
  · have he : src.bitDepth = dst.bitDepth := by omega
    exact inDepth_map.mpr fun pixel hp c =>
      toNat_setWidth_lt (he ▸ toNat_channel_lt (h pixel hp) _)

/-! ### The conversions -/

theorem castsInDepth_iff {source : Image src} {image : Image dst}
    (h : castData.image doubles src dst source = .ok image) (hw : image.width = source.width)
    (hh : image.height = source.height) :
    CastsInDepth doubles src dst source ↔ InDepth image := by
  constructor
  · rintro ⟨image', h', -, -, hin⟩
    obtain rfl : image = image' := Except.ok.inj (h.symm.trans h')
    exact hin
  · exact fun hin => ⟨image, h, hw, hh, hin⟩

theorem addsWideAlpha_eq_false (h4 : dst.channels = 4) (hs : src.channels ≠ 4) :
    addsWideAlpha src dst = false ↔ dst.bitDepth = dst.sampleBits := by
  have hle := dst.bitDepth_le
  simp only [addsWideAlpha, h4, hs, decide_true, ne_eq, not_false_eq_true, Bool.true_and,
    decide_eq_false_iff_not]
  omega

theorem channels_of_instantiated {p : PixFormat} (h : instantiated p = true) :
    p.channels = 1 ∨ p.channels = 3 ∨ p.channels = 4 := by
  revert h
  cases p <;> decide

theorem extent_sameChannels (doubles : Doubles) (dst : PixFormat) (source : Image src) :
    (sameChannels doubles src dst source).width = source.width ∧
      (sameChannels doubles src dst source).height = source.height := by
  unfold sameChannels
  split_ifs <;> exact ⟨rfl, rfl⟩

theorem casts_without_alpha {source : Image src} (hs : instantiated src = true)
    (hd : instantiated dst = true) (hdepth : dst.bitDepth ≤ src.bitDepth) (h : InDepth source)
    (hno : dst.channels = 4 → src.channels = 4) : CastsInDepth doubles src dst source := by
  have hsame := inDepth_sameChannels doubles h hdepth
  have hmean := inDepth_mean doubles h hdepth
  obtain ⟨hw, hh⟩ := extent_sameChannels doubles dst source
  obtain hs | hs | hs := channels_of_instantiated hs
  · obtain hd | hd | hd := channels_of_instantiated hd
    · exact ⟨_, by simp [castData.image, hs, hd], hw, hh, hsame⟩
    · exact ⟨_, by simp only [castData.image, hs, hd, if_true, mono2color]; rfl, rfl, rfl,
        inDepth_casts h hdepth fun _ => 0⟩
    · omega
  · obtain hd | hd | hd := channels_of_instantiated hd
    · exact ⟨_, by simp [castData.image, hs, hd], rfl, rfl, hmean⟩
    · exact ⟨_, by simp [castData.image, hs, hd], hw, hh, hsame⟩
    · omega
  · obtain hd | hd | hd := channels_of_instantiated hd
    · exact ⟨_, by simp [castData.image, hs, hd, acolor2mono], rfl, rfl, hmean⟩
    · exact ⟨_, by simp only [castData.image, hs, hd]; rfl, rfl, rfl,
        inDepth_casts h hdepth fun c => c⟩
    · exact ⟨_, by simp [castData.image, hs, hd], hw, hh, hsame⟩

/-- A conversion that adds an alpha. -/
theorem casts_with_alpha {source : Image src} (hs : instantiated src = true)
    (hdepth : dst.bitDepth ≤ src.bitDepth) (h : InDepth source) (h4 : dst.channels = 4)
    (hne : src.channels ≠ 4) :
    CastsInDepth doubles src dst source ↔ dst.bitDepth = dst.sampleBits ∨ source.cells = [] := by
  obtain hs | hs | hs := channels_of_instantiated hs
  · rw [← inDepth_alpha doubles h hdepth h4 fun _ => 0]
    exact castsInDepth_iff (by simp [castData.image, hs, h4, mono2acolor]) rfl rfl
  · rw [← inDepth_alpha doubles h hdepth h4 fun c => c]
    exact castsInDepth_iff (by simp [castData.image, hs, h4, color2acolor]) rfl rfl
  · exact absurd hs hne

/-- Every conversion to no greater depth gives an image of the same extent; it is in depth unless a
pixel gets an alpha that is wider than the format. -/
theorem cast_in_depth (doubles : Doubles) (src dst : PixFormat) (source : Image src)
    (hs : instantiated src = true) (hd : instantiated dst = true)
    (hdepth : dst.bitDepth ≤ src.bitDepth) (h : InDepth source) :
    CastsInDepth doubles src dst source ↔
      addsWideAlpha src dst = false ∨ source.cells = [] := by
  by_cases hadd : dst.channels = 4 ∧ src.channels ≠ 4
  · rw [addsWideAlpha_eq_false hadd.1 hadd.2]
    exact casts_with_alpha hs hdepth h hadd.1 hadd.2
  · have hno : dst.channels = 4 → src.channels = 4 := fun h4 => by
      by_contra hne
      exact hadd ⟨h4, hne⟩
    have hfalse : addsWideAlpha src dst = false := by
      by_cases h4 : dst.channels = 4
      · simp [addsWideAlpha, hno h4]
      · simp [addsWideAlpha, h4]
    exact iff_of_true (casts_without_alpha hs hd hdepth h hno) (.inl hfalse)

/-- One pixel of a 10-bit grey image. -/
def greyPixel : Image .ch1d10 := blank .ch1d10 1 1

theorem greyPixel_inDepth : InDepth greyPixel := by
  intro pixel hp c
  obtain rfl := List.eq_of_mem_replicate hp
  exact Nat.two_pow_pos _

/-- What is computed in `double` does not come into it. -/
def noDoubles : Doubles := ⟨fun _ _ _ => 0, 0⟩

theorem cast_in_depth_broken : InDepth greyPixel ∧
    PixFormat.ch4d10.bitDepth ≤ PixFormat.ch1d10.bitDepth ∧
    ¬ CastsInDepth noDoubles .ch1d10 .ch4d10 greyPixel := by
  refine ⟨greyPixel_inDepth, by decide, ?_⟩
  rintro ⟨image, h, -, -, hin⟩
  have hout := Except.ok.inj h
  have halpha := hin (image.get 0 0) (by rw [← hout]; decide) ⟨3, by decide⟩
  rw [← hout] at halpha
  revert halpha
  decide

theorem cast_in_depth_grey :
    (instantiated .ch1d10 = true ∧ instantiated .ch1d8 = true ∧ InDepth greyPixel) ∧
      (CastsInDepth noDoubles .ch1d10 .ch1d8 greyPixel ↔
        addsWideAlpha .ch1d10 .ch1d8 = false ∨ greyPixel.cells = []) :=
  ⟨⟨by decide, by decide, greyPixel_inDepth⟩,
    cast_in_depth noDoubles .ch1d10 .ch1d8 greyPixel (by decide) (by decide) (by decide)
      greyPixel_inDepth⟩

end

/-!
## Colour to mono is the mean of the colours, where their sum fits 64 bits

The conversions sum in 64 bits (`toNat_meanSample`), which the colours of a 64-bit format may not fit.
A sum that does not fit gives another sample at every depth (`isMono_iff`).
-/

section

variable {doubles : Doubles} {src dst : PixFormat}

/-! ### The mean in 64 bits -/

theorem sampleBits_le_64 (p : PixFormat) : p.sampleBits ≤ 64 := by
  cases p <;> decide

theorem toNat_setWidth_64 (sample : Sample src) : (sample.setWidth 64).toNat = sample.toNat := by
  rw [BitVec.toNat_setWidth, Nat.mod_eq_of_lt]
  exact Nat.lt_of_lt_of_le sample.isLt (Nat.pow_le_pow_right (by decide) (sampleBits_le_64 src))

theorem colourSum_lt (pixel : Pixel src) : colourSum pixel < 3 * 2 ^ src.sampleBits := by
  have h0 := (pixel.channel 0).isLt
  have h1 := (pixel.channel 1).isLt
  have h2 := (pixel.channel 2).isLt
  unfold colourSum
  omega

theorem colourMean_lt (pixel : Pixel src) : colourMean pixel < 2 ^ src.sampleBits :=
  Nat.div_lt_of_lt_mul (colourSum_lt pixel)

theorem toNat_meanSample (pixel : Pixel src) :
    (meanSample src pixel).toNat = colourSum pixel % 2 ^ 64 / 3 := by
  have hlt : colourSum pixel % 2 ^ 64 / 3 < 2 ^ src.sampleBits :=
    Nat.div_lt_of_lt_mul (Nat.lt_of_le_of_lt (Nat.mod_le _ _) (colourSum_lt pixel))
  rw [meanSample, BitVec.toNat_setWidth, BitVec.toNat_udiv, BitVec.toNat_add, BitVec.toNat_add,
    toNat_setWidth_64, toNat_setWidth_64, toNat_setWidth_64, Nat.mod_add_mod, ← colourSum]
  exact Nat.mod_eq_of_lt hlt

/-- A sum that does not fit gives a smaller mean, also after it is shifted down. -/
theorem mean_lt_of_wraps {sum d : Nat} (hd : d ≤ 56) (h : 2 ^ 64 ≤ sum) :
    (sum % 2 ^ 64 / 3) >>> d < (sum / 3) >>> d := by
  rw [Nat.shiftRight_eq_div_pow, Nat.shiftRight_eq_div_pow, Nat.div_div_eq_div_mul,
    Nat.div_div_eq_div_mul]
  have hpos : 0 < 3 * 2 ^ d := Nat.mul_pos (by decide) (Nat.two_pow_pos d)
  have hle : 3 * 2 ^ d ≤ 2 ^ 64 :=
    Nat.le_trans (Nat.mul_le_mul_left 3 (Nat.pow_le_pow_right (by decide) hd)) (by decide)
  have hmod : sum % 2 ^ 64 ≤ sum - 2 ^ 64 := by omega
  calc sum % 2 ^ 64 / (3 * 2 ^ d) ≤ (sum - 2 ^ 64) / (3 * 2 ^ d) := Nat.div_le_div_right hmod
    _ < (sum - 2 ^ 64) / (3 * 2 ^ d) + 1 := Nat.lt_succ_self _
    _ = (sum - 2 ^ 64 + 3 * 2 ^ d) / (3 * 2 ^ d) := (Nat.add_div_right _ hpos).symm
    _ ≤ sum / (3 * 2 ^ d) := Nat.div_le_div_right (by omega)

theorem depth_difference (src dst : PixFormat) : src.bitDepth - dst.bitDepth ≤ 56 := by
  have hs : src.bitDepth ≤ 64 := by cases src <;> decide
  have hd : 8 ≤ dst.bitDepth := by cases dst <;> decide
  omega

theorem sampleBits_of_bitDepth (h : src.bitDepth = dst.bitDepth) :
    src.sampleBits = dst.sampleBits := by
  rw [PixFormat.sampleBits, PixFormat.sampleBits, PixFormat.sampleSize, PixFormat.sampleSize, h]

/-! ### A pixel -/

theorem toNat_castSample_equal (h : src.bitDepth = dst.bitDepth) (sample : Sample src) :
    (castSample doubles src dst sample).toNat = sample.toNat := by
  rw [castSample, if_pos h, BitVec.toNat_setWidth, ← sampleBits_of_bitDepth h,
    Nat.mod_eq_of_lt sample.isLt]

theorem toNat_castSample_reduced (h : dst.bitDepth < src.bitDepth) (sample : Sample src) :
    (castSample doubles src dst sample).toNat =
      (sample.toNat >>> (src.bitDepth - dst.bitDepth)) % 2 ^ dst.sampleBits := by
  rw [castSample, if_neg h.ne', if_pos h, BitVec.toNat_setWidth]
  rfl

theorem castSample_expanded (h : src.bitDepth < dst.bitDepth) (sample : Sample src) :
    castSample doubles src dst sample = doubles.expand src dst sample := by
  rw [castSample, if_neg h.ne, if_neg h.not_gt]

/-- The samples of a format that can be expanded have at most 32 bits. -/
theorem colourSum_fits (h : src.bitDepth < dst.bitDepth) (pixel : Pixel src) :
    colourSum pixel < 2 ^ 64 := by
  have hd : dst.bitDepth ≤ 64 := by cases dst <;> decide
  have hs : src.bitDepth < 64 → src.sampleBits ≤ 32 := by cases src <;> decide
  have hpow : 2 ^ src.sampleBits ≤ 2 ^ 32 := Nat.pow_le_pow_right (by decide) (hs (by omega))
  have := colourSum_lt pixel
  omega

theorem isMono_of_fits (pixel : Pixel src) (h : MeanFits pixel dst) :
    IsMono pixel doubles dst (castSample doubles src dst (meanSample src pixel)) := by
  have hmean : (meanSample src pixel).toNat = colourMean pixel := by
    rw [toNat_meanSample, Nat.mod_eq_of_lt h.1, colourMean]
  refine ⟨fun he => ?_, fun hr => ?_, fun hx => ?_⟩
  · rw [toNat_castSample_equal he, hmean]
    refine ⟨rfl, ?_, ?_, fun h01 h12 => ?_⟩
    · unfold colourMean colourSum
      omega
    · unfold colourMean colourSum
      omega
    · unfold colourMean colourSum
      rw [h01, h12]
      omega
  · rw [toNat_castSample_reduced hr, hmean, Nat.mod_eq_of_lt (h.2 hr)]
  · rw [castSample_expanded hx]
    refine congrArg _ (BitVec.eq_of_toNat_eq ?_)
    rw [hmean, BitVec.toNat_ofNat, Nat.mod_eq_of_lt (colourMean_lt pixel)]

theorem fits_of_isMono (pixel : Pixel src)
    (h : IsMono pixel doubles dst (castSample doubles src dst (meanSample src pixel))) :
    MeanFits pixel dst := by
  refine ⟨?_, fun hr => h.reduced hr ▸ BitVec.isLt _⟩
  by_contra hw
  have hwraps : 2 ^ 64 ≤ colourSum pixel := Nat.le_of_not_lt hw
  obtain he | hr | hx : src.bitDepth = dst.bitDepth ∨ dst.bitDepth < src.bitDepth ∨
      src.bitDepth < dst.bitDepth := by omega
  · have hlt := mean_lt_of_wraps (Nat.zero_le 56) hwraps
    have hsample := (h.equal he).1
    rw [toNat_castSample_equal he, toNat_meanSample, colourMean] at hsample
    rw [Nat.shiftRight_zero, Nat.shiftRight_zero, hsample] at hlt
    exact Nat.lt_irrefl _ hlt
  · have hlt := mean_lt_of_wraps (depth_difference src dst) hwraps
    have hsample := h.reduced hr
    rw [toNat_castSample_reduced hr, toNat_meanSample, colourMean] at hsample
    have hle := Nat.mod_le ((colourSum pixel % 2 ^ 64 / 3) >>> (src.bitDepth - dst.bitDepth))
      (2 ^ dst.sampleBits)
    omega
  · exact hw (colourSum_fits hx pixel)

theorem isMono_iff (pixel : Pixel src) :
    IsMono pixel doubles dst (castSample doubles src dst (meanSample src pixel)) ↔
      MeanFits pixel dst :=
  ⟨fits_of_isMono pixel, isMono_of_fits pixel⟩

/-! ### Images -/

theorem image_mono (hs : src.channels = 3 ∨ src.channels = 4) (hd : dst.channels = 1)
    (source : Image src) :
    castData.image doubles src dst source = .ok (color2mono doubles src dst source) := by
  obtain hs | hs := hs
  · simp [castData.image, hs, hd]
  · simp [castData.image, hs, hd, acolor2mono]

/-- A colour image is cast to its mono image exactly if each of its means fits. -/
theorem mono_mean (doubles : Doubles) (src dst : PixFormat) (source : Image src)
    (hs : src.channels = 3 ∨ src.channels = 4) (hd : dst.channels = 1) :
    CastsToMono doubles src dst source ↔
      ∀ x < source.width, ∀ y < source.height, MeanFits (source.get x y) dst := by
  have hchannel : ∀ x < source.width, ∀ y < source.height,
      ((color2mono doubles src dst source).get x y).channel 0 =
        castSample doubles src dst (meanSample src (source.get x y)) := by
    intro x hx y hy
    rw [color2mono, Grid.get_map _ _ hx hy, Pixel.channel, dif_pos (by omega), Pixel.ofFn_apply]
  constructor
  · rintro ⟨image, hok, -, -, hmono⟩ x hx y hy
    rw [image_mono hs hd] at hok
    cases hok
    have := hmono x hx y hy
    rwa [hchannel x hx y hy, isMono_iff] at this
  · intro hfits
    refine ⟨_, image_mono hs hd source, rfl, rfl, fun x hx y hy => ?_⟩
    rw [hchannel x hx y hy, isMono_iff]
    exact hfits x hx y hy

/-- A white pixel. -/
def whitePixel (p : PixFormat) : Image p := Grid.ofFn 1 1 fun _ _ => .ofFn fun _ => BitVec.allOnes _

theorem mono_mean_white : CastsToMono noDoubles .ch3d8 .ch1d8 (whitePixel .ch3d8) :=
  (mono_mean noDoubles .ch3d8 .ch1d8 (whitePixel .ch3d8) (.inl rfl) rfl).mpr (by
    intro x hx y hy
    obtain rfl : x = 0 := Nat.lt_one_iff.mp hx
    obtain rfl : y = 0 := Nat.lt_one_iff.mp hy
    exact ⟨by decide, fun h => absurd h (by decide)⟩)

/-- A white pixel of a 64-bit format does not stay white. -/
theorem white_darkened : ¬CastsToMono noDoubles .ch3d64 .ch1d64 (whitePixel .ch3d64) ∧
    (((color2mono noDoubles .ch3d64 .ch1d64 (whitePixel .ch3d64)).get 0 0).channel 0).toNat =
      6148914691236517204 := by
  refine ⟨?_, by decide +kernel⟩
  rintro ⟨image, hok, -, -, hmono⟩
  have hmean := ((hmono 0 (by decide) 0 (by decide)).equal rfl).1
  cases hok
  revert hmean
  decide +kernel

end

end WSE.Proof.Wse
