import WapitiStew.Spec.Wse.Image

/-!
# Pixels

Checked access to a component, and the conversion of channel orders.
-/

namespace WSE.Proof.Wse

open WSE.Impl.Wse WSE.Spec.Wse

/-!
## Access to a component is checked, but for indices that alias one

The loop over the bits of a value tells whether it is in depth (`checkSafetyArgs_ok`). The index is
checked as eight bits: an index that names no component is refused exactly if its low byte names
none (`pixel_access`).
-/

section

variable {p : PixFormat}

/-! ### The depth of a value -/

theorem countBits_pos {turns n : Nat} (h : n ≠ 0) (hn : n < 2 ^ turns) : countBits turns n ≠ 0 := by
  cases turns with
  | zero => exact absurd (Nat.lt_one_iff.mp hn) h
  | succ turns =>
    rw [countBits, if_pos (Nat.pos_of_ne_zero h)]
    exact Nat.succ_ne_zero _

/-- The loop counts no more bits than the value needs. -/
theorem countBits_le_iff {turns n : Nat} (hn : n < 2 ^ turns) (d : Nat) :
    countBits turns n ≤ d ↔ n < 2 ^ d := by
  induction turns generalizing n d with
  | zero =>
    obtain rfl := Nat.lt_one_iff.mp hn
    exact iff_of_true (Nat.zero_le d) (Nat.two_pow_pos d)
  | succ turns ih =>
    rw [countBits]
    split
    · have hhalf : n >>> 1 < 2 ^ turns := by
        rw [Nat.shiftRight_eq_div_pow]
        rw [Nat.pow_succ] at hn
        omega
      cases d with
      | zero =>
        simp only [Nat.pow_zero]
        omega
      | succ d =>
        rw [Nat.add_le_add_iff_right, ih hhalf, Nat.shiftRight_eq_div_pow, Nat.pow_succ]
        omega
    · have hpow := Nat.two_pow_pos d
      omega

theorem checkSafetyArgs_ok (index : Nat) (value : Sample p) :
    Pixel.checkSafetyArgs p index value = .ok () ↔
      index < p.channels ∧ value.toNat < 2 ^ p.bitDepth := by
  have hle := countBits_le_iff value.isLt p.bitDepth
  have hdepth : 1 ≤ p.bitDepth := by cases p <;> decide
  unfold Pixel.checkSafetyArgs
  split
  · rename_i hi
    exact iff_of_false (fun h => by cases h) fun h => Nat.not_le.mpr h.1 hi
  · rename_i hi
    have hi := Nat.not_le.mp hi
    by_cases hz : value = 0
    · rw [hz]
      simp only [if_true]
      rw [if_neg (by simp only [Bool.or_eq_true, decide_eq_true_eq]; omega)]
      exact iff_of_true rfl ⟨hi, Nat.two_pow_pos _⟩
    · have hpos := countBits_pos (fun h => hz (BitVec.eq_of_toNat_eq h)) value.isLt
      simp only [hz, if_false]
      split
      · rename_i hbad
        simp only [Bool.or_eq_true, decide_eq_true_eq] at hbad
        exact iff_of_false (fun h => by cases h) fun h => by
          have := hle.mpr h.2
          omega
      · rename_i hgood
        simp only [Bool.or_eq_true, decide_eq_true_eq] at hgood
        exact iff_of_true rfl ⟨hi, hle.mp (by omega)⟩

/-! ### The index -/

theorem channels_lt (p : PixFormat) : p.channels < 256 := by
  cases p <;> decide

theorem narrowIndex_of_names {index : Int} (h : Names p index) :
    narrowIndex index = index.toNat := by
  have := channels_lt p
  unfold Names at h
  unfold narrowIndex
  omega

theorem narrowIndex_lt {index : Int} (h : Names p index) : narrowIndex index < p.channels := by
  rw [narrowIndex_of_names h]
  unfold Names at h
  omega

theorem assign_of_names (pixel : Pixel p) {index : Int} (h : Names p index) (value : Sample p) :
    ∃ after, pixel.assign index value = some after ∧ after.channel index.toNat = value ∧
      ∀ c, c ≠ index.toNat → after.channel c = pixel.channel c := by
  have hlt : index.toNat < p.channels := by
    unfold Names at h
    omega
  refine ⟨_, if_pos h, ?_, fun c hc => ?_⟩
  · rw [Pixel.channel, dif_pos hlt, Pixel.ofFn_apply, if_pos rfl]
  · unfold Pixel.channel
    split
    · rw [Pixel.ofFn_apply, if_neg hc]
    · rfl

theorem set_refused (pixel : Pixel p) {index : Int} {value : Sample p}
    (h : ¬(narrowIndex index < p.channels ∧ value.toNat < 2 ^ p.bitDepth)) :
    ∃ e, pixel.set index value = some (.error e) := by
  cases hc : Pixel.checkSafetyArgs p (narrowIndex index) value with
  | ok u => exact absurd ((checkSafetyArgs_ok _ _).mp hc) h
  | error e => exact ⟨e, by rw [Pixel.set, hc]⟩

theorem set_checked (pixel : Pixel p) {index : Int} {value : Sample p}
    (hi : narrowIndex index < p.channels) (hv : value.toNat < 2 ^ p.bitDepth) :
    pixel.set index value = (pixel.assign index value).map .ok := by
  rw [Pixel.set, (checkSafetyArgs_ok _ _).mpr ⟨hi, hv⟩]

/-- Access by an index is checked exactly if the index names a component or its low byte names
none. -/
theorem pixel_access (p : PixFormat) (pixel : Pixel p) (index : Int) :
    ChecksAccess pixel index ↔ Names p index ∨ (p.channels : Int) ≤ index % 256 := by
  have hnarrow : p.channels ≤ narrowIndex index ↔ (p.channels : Int) ≤ index % 256 := by
    unfold narrowIndex
    omega
  constructor
  · intro h
    by_cases hn : Names p index
    · exact .inl hn
    · have hget := h.get_refused hn
      rw [Pixel.get] at hget
      split at hget
      · rename_i hle
        exact .inr (hnarrow.mp hle)
      · cases hget
  · intro h
    refine ⟨fun hn => ?_, fun hn => ?_, fun hn value hv => ?_, fun value hv => ?_, fun hn value => ?_⟩
    · rw [Pixel.get, if_neg (Nat.not_le.mpr (narrowIndex_lt hn)), narrowIndex_of_names hn]
    · rw [Pixel.get, if_pos (hnarrow.mpr (h.resolve_left hn))]
    · obtain ⟨after, ha, hself, hother⟩ := assign_of_names pixel hn value
      refine ⟨after, ?_, hself, hother⟩
      rw [set_checked pixel (narrowIndex_lt hn) hv, ha]
      rfl
    · exact set_refused pixel fun hin => Nat.not_le.mpr hin.2 hv
    · exact set_refused pixel fun hin =>
        Nat.not_le.mpr hin.1 (hnarrow.mpr (h.resolve_left hn))

/-- 256 names no component, but its low byte is 0. -/
theorem aliased_index : ¬Names .ch1d8 256 ∧ (default : Pixel .ch1d8).get 256 = .ok 0#8 ∧
    (default : Pixel .ch1d8).set 256 1#8 = none ∧
    ¬ChecksAccess (default : Pixel .ch1d8) 256 := by
  refine ⟨by unfold Names; decide, rfl, rfl, fun h => ?_⟩
  cases h.get_refused (by unfold Names; decide)

end

/-!
## The conversion of channel orders exchanges red and blue

The conversion of a pixel exchanges its first and its third channel, whatever the two orders are
(`toNat_convertPixelOrder`), so doing it twice gives the pixel back (`convertPixelOrder_twice`).
That keeps the colours where the orders differ, and where red is blue (`sameColours_iff`).
-/

section

open WSE.Framework

variable {src dst : PixFormat}

theorem sampleBits_convertible (h : Convertible dst src) : dst.sampleBits = src.sampleBits := by
  rw [PixFormat.sampleBits, PixFormat.sampleBits, PixFormat.sampleSize, PixFormat.sampleSize,
    h.bitDepth]

theorem convertible_symm (h : Convertible dst src) : Convertible src dst :=
  ⟨h.channels.symm, h.bitDepth.symm, h.channels ▸ h.colour⟩

/-- The channel whose sample comes to a channel. -/
def exchanged (c : Nat) : Nat := if c = 0 then 2 else if c = 1 then 1 else if c = 2 then 0 else 3

theorem exchanged_twice {c : Nat} (hc : c < 4) : exchanged (exchanged c) = c := by
  have hall : ∀ c < 4, exchanged (exchanged c) = c := by decide
  exact hall c hc

theorem channel_of_le {pixel : Pixel src} {c : Nat} (hc : src.channels ≤ c) :
    pixel.channel c = 0 := dif_neg (Nat.not_lt.mpr hc)

theorem toNat_convertPixelOrder (h : Convertible dst src) (pixel : Pixel src) {c : Nat}
    (hc : c < dst.channels) : ((convertPixelOrder dst pixel).channel c).toNat =
      (pixel.channel (exchanged c)).toNat := by
  have hbits := sampleBits_convertible h
  have hchannel : (convertPixelOrder dst pixel).channel c =
      (pixel.channel (exchanged c)).setWidth dst.sampleBits := by
    rw [Pixel.channel, dif_pos hc, convertPixelOrder, Pixel.ofFn_apply, exchanged]
    split_ifs <;> rfl
  rw [hchannel, BitVec.toNat_setWidth, hbits, Nat.mod_eq_of_lt (BitVec.isLt _)]

/-- Two pixels are the same when their samples are. -/
theorem pixel_ext {a b : Pixel src}
    (h : ∀ c < src.channels, (a.channel c).toNat = (b.channel c).toNat) : a = b := by
  funext c
  have hc := h c c.isLt
  rw [Pixel.channel_fin, Pixel.channel_fin] at hc
  exact BitVec.eq_of_toNat_eq hc

theorem convertPixelOrder_twice (h : Convertible dst src) (pixel : Pixel src) :
    convertPixelOrder src (convertPixelOrder dst pixel) = pixel := by
  refine pixel_ext fun c hc => ?_
  have hcolour := h.colour
  have hsame := h.channels
  rw [toNat_convertPixelOrder (convertible_symm h) _ hc]
  have hex : exchanged c < dst.channels := by
    unfold exchanged
    split_ifs <;> omega
  rw [toNat_convertPixelOrder h _ hex, exchanged_twice (by omega)]

theorem channelOrder_cases (p : PixFormat) : p.channelOrder = .rgb ∨ p.channelOrder = .bgr := by
  cases p.channelOrder
  · exact .inl rfl
  · exact .inr rfl

/-- The colours are kept when the orders differ, or red is blue. -/
theorem sameColours_iff (h : Convertible dst src) (pixel : Pixel src) :
    SameColours pixel (convertPixelOrder dst pixel) ↔
      dst.channelOrder ≠ src.channelOrder ∨ red pixel = blue pixel := by
  have h3 : 3 ≤ dst.channels := by
    have := h.colour
    omega
  have h0 := toNat_convertPixelOrder h pixel (show 0 < dst.channels by omega)
  have h1 := toNat_convertPixelOrder h pixel (show 1 < dst.channels by omega)
  have h2 := toNat_convertPixelOrder h pixel (show 2 < dst.channels by omega)
  have hgreen : green (convertPixelOrder dst pixel) = green pixel := h1
  have halpha : alphaOf (convertPixelOrder dst pixel) = alphaOf pixel := by
    rw [alphaOf, alphaOf, ← h.channels]
    split
    · rename_i h4
      rw [toNat_convertPixelOrder h pixel (by omega)]
      rfl
    · rfl
  have hiff : SameColours pixel (convertPixelOrder dst pixel) ↔
      red (convertPixelOrder dst pixel) = red pixel ∧
        blue (convertPixelOrder dst pixel) = blue pixel :=
    ⟨fun hs => ⟨hs.red, hs.blue⟩, fun hs => ⟨hs.1, hgreen, hs.2, halpha⟩⟩
  rw [hiff]
  simp only [red, blue]
  obtain hd | hd := channelOrder_cases dst
  · obtain hs | hs := channelOrder_cases src
    · simp only [hd, hs, if_true, h0, h2, exchanged, ne_eq, not_true_eq_false, false_or]
      exact ⟨fun he => he.2, fun he => ⟨he.symm, he⟩⟩
    · simp [hd, hs, h0, h2, exchanged]
  · obtain hs | hs := channelOrder_cases src
    · simp [hd, hs, h0, h2, exchanged]
    · simp only [hd, hs, reduceCtorEq, if_false, h0, h2, exchanged, if_true, ne_eq,
        not_true_eq_false, false_or]
      exact ⟨fun he => he.2, fun he => ⟨he.symm, he⟩⟩

/-- Where red is blue, an exchange changes no sample. -/
theorem samples_kept (h : Convertible dst src) {pixel : Pixel src} (he : red pixel = blue pixel)
    (c : Nat) : ((convertPixelOrder dst pixel).channel c).toNat = (pixel.channel c).toNat := by
  have h02 : (pixel.channel 0).toNat = (pixel.channel 2).toNat := by
    unfold red blue at he
    split at he
    · exact he
    · exact he.symm
  by_cases hc : c < dst.channels
  · rw [toNat_convertPixelOrder h pixel hc, exchanged]
    have hle := h.colour
    split_ifs with h0 h1 h2
    · rw [h0, h02]
    · rw [h1]
    · rw [h2, h02]
    · rw [show c = 3 by omega]
  · rw [channel_of_le (Nat.not_lt.mp hc), channel_of_le (h.channels ▸ Nat.not_lt.mp hc)]
    rfl

/-! ### Images -/

theorem convertChannelOrder_ok {source : Image src} (hw : 0 < source.width)
    (hh : 0 < source.height) :
    convertChannelOrder dst source = .ok (source.map (convertPixelOrder dst)) := by
  rw [convertChannelOrder, if_neg]
  simp only [Bool.or_eq_true, decide_eq_true_eq]
  omega

theorem convertChannelOrder_twice (h : Convertible dst src) (source : Image src) :
    (source.map (convertPixelOrder dst)).map (convertPixelOrder src) = source := by
  refine Grid.ext_get rfl rfl fun x (hx : x < source.width) y (hy : y < source.height) => ?_
  rw [Grid.get_map (convertPixelOrder src) (source.map (convertPixelOrder dst)) hx hy,
    Grid.get_map (convertPixelOrder dst) source hx hy, convertPixelOrder_twice h]

/-- A conversion keeps the colours of an image exactly if the image has pixels and red and blue are
to be exchanged in it, or do not differ. -/
theorem channel_orders (dst : PixFormat) (source : Image src) (h : Convertible dst src) :
    KeepsColours dst source ↔ OrdersDiffer dst source := by
  constructor
  · rintro ⟨image, hok, -, -, hcolours, -, -⟩
    by_cases hempty : source.width = 0 ∨ source.height = 0
    · rw [convertChannelOrder, if_pos (by simpa only [Bool.or_eq_true, decide_eq_true_eq])] at hok
      cases hok
    · have hw : 0 < source.width := by omega
      have hh : 0 < source.height := by omega
      rw [convertChannelOrder_ok hw hh] at hok
      cases hok
      refine ⟨hw, hh, ?_⟩
      by_cases ho : dst.channelOrder = src.channelOrder
      · refine .inr fun x hx y hy => ?_
        have hsame := hcolours x hx y hy
        rw [Grid.get_map _ _ hx hy, sameColours_iff h] at hsame
        exact hsame.resolve_left fun hn => hn ho
      · exact .inl ho
  · rintro ⟨hw, hh, hor⟩
    refine ⟨_, convertChannelOrder_ok hw hh, rfl, rfl, fun x hx y hy => ?_,
      fun ho x hx y hy c => ?_, ?_⟩
    · rw [Grid.get_map _ _ hx hy, sameColours_iff h]
      exact hor.imp_right fun he => he x hx y hy
    · rw [Grid.get_map _ _ hx hy]
      exact samples_kept h (hor.resolve_left (fun hn => hn ho) x hx y hy) c
    · have hback : convertChannelOrder src (source.map (convertPixelOrder dst)) = _ :=
        convertChannelOrder_ok hw hh
      rw [hback, convertChannelOrder_twice h]

/-- An image of one pixel. -/
def pixelImage (p : PixFormat) (samples : Nat → Nat) : Image p :=
  Grid.ofFn 1 1 fun _ _ => .ofFn fun c => BitVec.ofNat p.sampleBits (samples c)

theorem channel_orders_rgb_to_bgr : KeepsColours .bgr3d8 (pixelImage .ch3d8 (· + 1)) :=
  (channel_orders .bgr3d8 (pixelImage .ch3d8 (· + 1)) ⟨rfl, rfl, .inl rfl⟩).mpr
    ⟨by decide, by decide, .inl (by decide)⟩

/-- From a format to the same format, red and blue are exchanged. -/
theorem same_order_exchanged : ¬KeepsColours .ch3d8 (pixelImage .ch3d8 (· + 1)) ∧
    ∃ image : Image .ch3d8, convertChannelOrder .ch3d8 (pixelImage .ch3d8 (· + 1)) = .ok image ∧
      red ((pixelImage .ch3d8 (· + 1)).get 0 0) = 1 ∧ red (image.get 0 0) = 3 := by
  refine ⟨?_, _, rfl, by decide, by decide⟩
  rintro ⟨image, hok, -, -, hcolours, -, -⟩
  have hsame := (hcolours 0 (by decide) 0 (by decide)).red
  cases hok
  revert hsame
  decide

end

end WSE.Proof.Wse
