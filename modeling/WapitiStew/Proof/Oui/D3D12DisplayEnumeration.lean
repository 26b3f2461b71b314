import Mathlib.Algebra.Order.Field.Basic
import Mathlib.Algebra.Order.Ring.Rat
import WapitiStew.Framework.Throwing
import WapitiStew.Spec.Oui.D3D12DisplayEnumeration

/-!
# Lists of display modes

`displayModeLess` compares ranks (`compares_rank`), and `isSameDisplayMode` equates the modes of one
rank (`isSame_iff`). A normalized mode is told by its rank, unless its refresh rate is zero
(`eq_of_rank`).
-/

namespace WSE.Proof.Oui

open WSE.Framework WSE.Impl.Oui WSE.Spec.Oui

variable {a b m current : DisplayMode} {modes : List DisplayMode} {natives : List DxgiModeDesc}

/-! ## Comparisons -/

theorem refreshProduct_eq (ha : a.refreshRateNumerator < 2 ^ 32)
    (hb : b.refreshRateDenominator < 2 ^ 32) :
    refreshProduct a.refreshRateNumerator b.refreshRateDenominator =
      a.refreshRateNumerator * b.refreshRateDenominator := by
  have hlt := Nat.mul_lt_mul'' ha hb
  exact Nat.mod_eq_of_lt (by omega)

/-- A mode that the cross products can be trusted with. -/
structure Ratio (m : DisplayMode) : Prop where
  fits : Fits32 m
  denominator : m.refreshRateDenominator ≠ 0

section

variable (ha : Ratio a) (hb : Ratio b)

include ha hb

theorem product_lt_iff :
    refreshProduct a.refreshRateNumerator b.refreshRateDenominator <
        refreshProduct b.refreshRateNumerator a.refreshRateDenominator ↔
      (a.refreshRateNumerator : ℚ) / a.refreshRateDenominator <
        (b.refreshRateNumerator : ℚ) / b.refreshRateDenominator := by
  have hda : (0 : ℚ) < a.refreshRateDenominator :=
    Nat.cast_pos.mpr (Nat.pos_of_ne_zero ha.denominator)
  have hdb : (0 : ℚ) < b.refreshRateDenominator :=
    Nat.cast_pos.mpr (Nat.pos_of_ne_zero hb.denominator)
  rw [refreshProduct_eq ha.fits.numerator hb.fits.denominator,
    refreshProduct_eq hb.fits.numerator ha.fits.denominator, div_lt_div_iff₀ hda hdb]
  exact_mod_cast Iff.rfl

theorem product_eq_iff :
    refreshProduct a.refreshRateNumerator b.refreshRateDenominator =
        refreshProduct b.refreshRateNumerator a.refreshRateDenominator ↔
      (a.refreshRateNumerator : ℚ) / a.refreshRateDenominator =
        (b.refreshRateNumerator : ℚ) / b.refreshRateDenominator := by
  have hda : (a.refreshRateDenominator : ℚ) ≠ 0 := Nat.cast_ne_zero.mpr ha.denominator
  have hdb : (b.refreshRateDenominator : ℚ) ≠ 0 := Nat.cast_ne_zero.mpr hb.denominator
  rw [refreshProduct_eq ha.fits.numerator hb.fits.denominator,
    refreshProduct_eq hb.fits.numerator ha.fits.denominator, div_eq_div_iff hda hdb]
  exact_mod_cast Iff.rfl

end

/-- One level of a comparison: the first difference decides. -/
theorem ite_ne_lt {β : Type*} [LinearOrder β] {x y : β} {p : Bool} :
    (if x ≠ y then decide (x < y) else p) = true ↔ x < y ∨ x = y ∧ p = true := by
  by_cases h : x = y
  · rw [if_neg (not_not.mpr h), h]
    simp only [lt_irrefl, false_or, true_and]
  · rw [if_pos h, decide_eq_true_eq]
    simp only [h, false_and, or_false]

theorem not_eq_lt (x y : Bool) (h : x ≠ y) : (!x) = decide (x < y) := by
  revert x y
  decide

theorem displayModeLess_iff (ha : Ratio a) (hb : Ratio b) :
    displayModeLess a b = true ↔ rank a < rank b := by
  have hinterlaced : ∀ p : Bool, (if a.interlaced ≠ b.interlaced then !a.interlaced else p) =
      if a.interlaced ≠ b.interlaced then decide (a.interlaced < b.interlaced) else p := by
    intro p
    split
    · next h => exact not_eq_lt a.interlaced b.interlaced h
    · rfl
  unfold displayModeLess rank
  dsimp only
  rw [ite_ne_lt, ite_ne_lt, ite_ne_lt, hinterlaced, ite_ne_lt, product_lt_iff ha hb,
    product_eq_iff ha hb, decide_eq_true_eq]
  simp only [Prod.Lex.toLex_lt_toLex]

theorem toNat_inj {f g : RendererPixelFormat} (h : f.toNat = g.toNat) : f = g := by
  revert h
  cases f <;> cases g <;> decide

theorem isSame_iff (ha : Ratio a) (hb : Ratio b) :
    isSameDisplayMode a b = true ↔ rank a = rank b := by
  unfold isSameDisplayMode rank
  simp only [Bool.and_eq_true, decide_eq_true_eq, product_eq_iff ha hb,
    EmbeddingLike.apply_eq_iff_eq, Prod.mk.injEq]
  constructor
  · rintro ⟨⟨⟨⟨hw, hh⟩, hf⟩, hi⟩, hr⟩
    exact ⟨hw, hh, hr, hi, congrArg _ hf⟩
  · rintro ⟨hw, hh, hr, hi, hf⟩
    exact ⟨⟨⟨⟨hw, hh⟩, toNat_inj hf⟩, hi⟩, hr⟩

theorem sameDisplayMode_iff : sameDisplayMode a b = true ↔ a = b := by
  unfold sameDisplayMode
  simp only [Bool.and_eq_true, decide_eq_true_eq]
  constructor
  · rintro ⟨⟨⟨⟨⟨hw, hh⟩, hn⟩, hd⟩, hf⟩, hi⟩
    obtain ⟨⟨aw, ah⟩, an, ad, af, ai⟩ := a
    obtain ⟨⟨bw, bh⟩, bn, bd, bf, bi⟩ := b
    cases hw; cases hh; cases hn; cases hd; cases hf; cases hi
    rfl
  · rintro rfl
    exact ⟨⟨⟨⟨⟨rfl, rfl⟩, rfl⟩, rfl⟩, rfl⟩, rfl⟩

theorem compares_rank (h : ∀ m ∈ modes, Ratio m) : Compares displayModeLess rank modes :=
  fun a ha b hb => displayModeLess_iff (h a ha) (h b hb)

/-! ## Normalized modes -/

theorem validateDisplayMode_iff : validateDisplayMode m = .ok () ↔
    m.extent.empty = false ∧ isKnownFormat m.format = true ∧ m.refreshRateDenominator ≠ 0 := by
  constructor
  · intro h
    obtain ⟨hm, h⟩ := unless_ok h rfl
    obtain ⟨hd, -⟩ := unless_ok h rfl
    rw [Bool.or_eq_true, not_or, Bool.not_eq_true, Bool.not_eq_true, Bool.not_eq_false'] at hm
    exact ⟨hm.1, hm.2, hd⟩
  · rintro ⟨he, hk, hd⟩
    simp only [validateDisplayMode, he, hk, hd, Bool.not_true, Bool.or_self, Bool.false_eq_true,
      if_false]
    rfl

theorem isOk_iff {r : RendererStatus} : r.isOk = true ↔ r = .ok () := by
  cases r with
  | error e => exact iff_of_false Bool.false_ne_true nofun
  | ok u => exact iff_of_true rfl rfl

/-- The refresh rate is in lowest terms, or zero. -/
def LowestTerms (m : DisplayMode) : Prop :=
  m.refreshRateNumerator = 0 ∨ Nat.Coprime m.refreshRateNumerator m.refreshRateDenominator

theorem normalizeDisplayMode_cases (m : DisplayMode) :
    ((m.refreshRateNumerator = 0 ∨ m.refreshRateDenominator = 0) ∧ normalizeDisplayMode m = m) ∨
    (m.refreshRateNumerator ≠ 0 ∧ m.refreshRateDenominator ≠ 0 ∧ normalizeDisplayMode m = { m with
      refreshRateNumerator := m.refreshRateNumerator /
        Nat.gcd m.refreshRateNumerator m.refreshRateDenominator
      refreshRateDenominator := m.refreshRateDenominator /
        Nat.gcd m.refreshRateNumerator m.refreshRateDenominator }) := by
  unfold normalizeDisplayMode
  split
  · next h =>
    rw [Bool.or_eq_true, decide_eq_true_eq, decide_eq_true_eq] at h
    exact .inl ⟨h, rfl⟩
  · next h =>
    rw [Bool.or_eq_true, decide_eq_true_eq, decide_eq_true_eq, not_or] at h
    exact .inr ⟨h.1, h.2, rfl⟩

theorem fits_normalize (h : Fits32 m) : Fits32 (normalizeDisplayMode m) := by
  rcases normalizeDisplayMode_cases m with ⟨-, he⟩ | ⟨-, -, he⟩
  · rw [he]
    exact h
  · rw [he]
    exact ⟨h.width, h.height, (Nat.div_le_self _ _).trans_lt h.numerator,
      (Nat.div_le_self _ _).trans_lt h.denominator⟩

theorem lowestTerms_normalize (hd : (normalizeDisplayMode m).refreshRateDenominator ≠ 0) :
    LowestTerms (normalizeDisplayMode m) := by
  rcases normalizeDisplayMode_cases m with ⟨h, he⟩ | ⟨hn, -, he⟩
  · rw [he] at hd ⊢
    exact .inl (h.resolve_right hd)
  · rw [he]
    exact .inr (Nat.coprime_div_gcd_div_gcd (Nat.gcd_pos_of_pos_left _ (Nat.pos_of_ne_zero hn)))

/-- Two fractions in lowest terms that have the same value are the same. -/
theorem eq_of_cross {n d n' d' : Nat} (h : Nat.Coprime n d) (h' : Nat.Coprime n' d')
    (hd : d ≠ 0) (hcross : n * d' = n' * d) : n = n' ∧ d = d' := by
  have hdvd : d ∣ d' := h.symm.dvd_of_dvd_mul_left (Dvd.intro_left n' hcross.symm)
  have hdvd' : d' ∣ d := h'.symm.dvd_of_dvd_mul_left (Dvd.intro_left n hcross)
  have hden : d = d' := Nat.dvd_antisymm hdvd hdvd'
  rw [← hden] at hcross
  exact ⟨Nat.eq_of_mul_eq_mul_right (Nat.pos_of_ne_zero hd) hcross, hden⟩

/-- What is known of a mode that has been collected. -/
structure Collected (m : DisplayMode) : Prop extends Ratio m where
  valid : validateDisplayMode m = .ok ()
  lowest : LowestTerms m

theorem Collected.of_valid (hf : Fits32 m)
    (hv : validateDisplayMode (normalizeDisplayMode m) = .ok ()) :
    Collected (normalizeDisplayMode m) :=
  have hd := (validateDisplayMode_iff.mp hv).2.2
  ⟨⟨fits_normalize hf, hd⟩, hv, lowestTerms_normalize hd⟩

theorem collected (hf : Fits32 current)
    (hv : validateDisplayMode (normalizeDisplayMode current) = .ok ())
    (natives : List DxgiModeDesc) :
    ∀ m ∈ collectDisplayModes (normalizeDisplayMode current) natives, Collected m := by
  rw [collectDisplayModes, List.forall_mem_cons]
  refine ⟨.of_valid hf hv, fun m hm => ?_⟩
  obtain ⟨hm, hok⟩ := List.mem_filter.mp hm
  obtain ⟨native, -, rfl⟩ := List.mem_map.mp hm
  apply Collected.of_valid _ (isOk_iff.mp hok)
  exact ⟨native.width.toNat_lt, native.height.toNat_lt, native.numerator.toNat_lt,
    native.denominator.toNat_lt⟩

/-- Two modes of one rank are the same, unless zero is written in two ways. -/
theorem eq_of_rank (ha : Collected a) (hb : Collected b) (h : rank a = rank b)
    (hz : a.refreshRateNumerator = 0 → b.refreshRateNumerator = 0 → a.extent = b.extent →
      a.format = b.format → a.interlaced = b.interlaced →
      a.refreshRateDenominator = b.refreshRateDenominator) : a = b := by
  have hsame := (isSame_iff ha.toRatio hb.toRatio).mpr h
  unfold isSameDisplayMode at hsame
  simp only [Bool.and_eq_true, decide_eq_true_eq] at hsame
  obtain ⟨⟨⟨⟨hw, hh⟩, hf⟩, hi⟩, hr⟩ := hsame
  rw [refreshProduct_eq ha.fits.numerator hb.fits.denominator,
    refreshProduct_eq hb.fits.numerator ha.fits.denominator] at hr
  have he : a.extent = b.extent := by
    obtain ⟨⟨aw, ah⟩, _⟩ := a
    obtain ⟨⟨bw, bh⟩, _⟩ := b
    exact congrArg₂ RendererExtent2D.mk hw hh
  have hrate : a.refreshRateNumerator = b.refreshRateNumerator ∧
      a.refreshRateDenominator = b.refreshRateDenominator := by
    by_cases hna : a.refreshRateNumerator = 0
    · have hnb : b.refreshRateNumerator = 0 := by
        rw [hna, Nat.zero_mul] at hr
        exact (Nat.mul_eq_zero.mp hr.symm).resolve_right ha.denominator
      exact ⟨hna.trans hnb.symm, hz hna hnb he hf hi⟩
    · have hnb : b.refreshRateNumerator ≠ 0 := by
        intro hnb
        rw [hnb, Nat.zero_mul] at hr
        exact (Nat.mul_eq_zero.mp hr).elim hna hb.denominator
      exact eq_of_cross (ha.lowest.resolve_left hna) (hb.lowest.resolve_left hnb) ha.denominator hr
  apply sameDisplayMode_iff.mp
  unfold sameDisplayMode
  simp only [Bool.and_eq_true, decide_eq_true_eq]
  exact ⟨⟨⟨⟨⟨hw, hh⟩, hrate.1⟩, hrate.2⟩, hf⟩, hi⟩

/-! ## The list -/

theorem isSame_comm : isSameDisplayMode a b = isSameDisplayMode b a := by
  rw [Bool.eq_iff_iff]
  simp only [isSameDisplayMode, Bool.and_eq_true, decide_eq_true_eq]
  constructor <;>
  · rintro ⟨⟨⟨⟨hw, hh⟩, hf⟩, hi⟩, hr⟩
    exact ⟨⟨⟨⟨hw.symm, hh.symm⟩, hf.symm⟩, hi.symm⟩, hr.symm⟩

/-- Two rates of zero are the same. -/
theorem isSame_of_zero (hna : a.refreshRateNumerator = 0) (hnb : b.refreshRateNumerator = 0)
    (he : a.extent = b.extent) (hf : a.format = b.format) (hi : a.interlaced = b.interlaced) :
    isSameDisplayMode a b = true := by
  simp only [isSameDisplayMode, hna, hnb, he, hf, hi, refreshProduct, Nat.zero_mul, decide_true,
    Bool.and_self]

theorem isSame_refl (m : DisplayMode) : isSameDisplayMode m m = true := by
  simp only [isSameDisplayMode, decide_true, Bool.and_self]

section

variable (std : UnstableSort DisplayMode) (h : ∀ m ∈ modes, Collected m)

include h

theorem compares_modes : Compares displayModeLess rank modes :=
  compares_rank fun m hm => (h m hm).toRatio

theorem sort_mem : m ∈ std.sort displayModeLess modes ↔ m ∈ modes :=
  (std.perm (compares_modes h).strictWeakOn).mem_iff

/-- Every mode that was collected stays in the list as it is. -/
theorem listed_mem : m ∈ sortAndDeduplicateDisplayModes std modes ↔ m ∈ modes := by
  rw [sortAndDeduplicateDisplayModes, mem_unique sameDisplayMode_iff.mp, sort_mem std h]

theorem listed_increasing (hz : ZeroRatesAgree modes) :
    (sortAndDeduplicateDisplayModes std modes).Pairwise fun a b => displayModeLess a b = true := by
  have hmem : ∀ m ∈ std.sort displayModeLess modes, m ∈ modes := fun m hm => (sort_mem std h).mp hm
  have hsorted := compares_modes fun m hm => h m (hmem m hm)
  apply unique_increasing hsorted.strictWeakOn (std.ordered (compares_modes h).strictWeakOn)
  intro a ha b hb htie
  apply sameDisplayMode_iff.mpr
  apply eq_of_rank (h a (hmem a ha)) (h b (hmem b hb)) ((hsorted.tie ha hb).mp htie)
  exact hz a (hmem a ha) b (hmem b hb)

theorem listed_distinct (hz : ZeroRatesAgree modes) :
    (sortAndDeduplicateDisplayModes std modes).Pairwise
      fun a b => isSameDisplayMode a b = false := by
  apply (listed_increasing std h hz).imp_of_mem
  intro a b ha hb hless
  have ha := h a ((listed_mem std h).mp ha)
  have hb := h b ((listed_mem std h).mp hb)
  rw [Bool.eq_false_iff, ne_eq, isSame_iff ha.toRatio hb.toRatio]
  exact ((displayModeLess_iff ha.toRatio hb.toRatio).mp hless).ne

theorem zeroRatesAgree_of_distinct (hd : (sortAndDeduplicateDisplayModes std modes).Pairwise
    fun a b => isSameDisplayMode a b = false) : ZeroRatesAgree modes := by
  intro a ha b hb hna hnb he hf hi
  by_contra hne
  have hsymm : Std.Symm fun a b => isSameDisplayMode a b = false := ⟨fun a b hab => by
    rwa [isSame_comm]⟩
  have hab := hd.forall ((listed_mem std h).mpr ha) ((listed_mem std h).mpr hb)
    fun heq => hne (congrArg _ heq)
  rw [isSame_of_zero hna hnb he hf hi] at hab
  cases hab

theorem listed_valid (hc : current ∈ modes) {d : NamedDisplayDescription} (hd : Named d) :
    validateDisplayDescription { d with
      currentMode := current, modes := sortAndDeduplicateDisplayModes std modes } = .ok () := by
  have hlisted := (listed_mem std h).mpr hc
  have hnil : sortAndDeduplicateDisplayModes std modes ≠ [] := List.ne_nil_of_mem hlisted
  have hmodes : (sortAndDeduplicateDisplayModes std modes).forM validateDisplayMode = .ok () :=
    forM_ok.mpr fun m hm => (h m ((listed_mem std h).mp hm)).valid
  have hfound : (sortAndDeduplicateDisplayModes std modes).any (isSameDisplayMode · current) =
      true := List.any_eq_true.mpr ⟨current, hlisted, isSame_refl current⟩
  have hknown : isKnownDisplayRotation d.rotation = true := by
    cases d.rotation <;> rfl
  simp only [validateDisplayDescription, hd.id, hd.adapterId, hd.adapterName, hd.displayName,
    hd.desktop, hknown, (h current hc).valid, hnil, hmodes, hfound, decide_false, Bool.or_self,
    Bool.not_true, Bool.false_eq_true, if_false]
  rfl

theorem listed_sound (hc : current ∈ modes) (hz : ZeroRatesAgree modes) :
    ModesListed current modes (sortAndDeduplicateDisplayModes std modes) where
  order := (compares_modes h).strictWeakOn
  exact a ha b hb := by
    have hlt := Nat.mul_lt_mul'' (h a ha).fits.numerator (h b hb).fits.denominator
    omega
  increasing := listed_increasing std h hz
  distinct := listed_distinct std h hz
  kept a ha := ⟨a, (listed_mem std h).mpr ha, isSame_refl a⟩
  nothingElse b hb := ⟨b, (listed_mem std h).mp hb, isSame_refl b⟩
  found _ hd := listed_valid std h hc hd

end

theorem current_mem : current ∈ collectDisplayModes current natives := List.mem_cons_self

/-- The list of modes is as it should be exactly when the modes that were collected write a refresh
rate of zero in one way. -/
theorem display_modes_listed (std : UnstableSort DisplayMode) (natives : List DxgiModeDesc)
    (hf : Fits32 current) (hv : validateDisplayMode (normalizeDisplayMode current) = .ok ()) :
    ModesListed (normalizeDisplayMode current)
        (collectDisplayModes (normalizeDisplayMode current) natives)
        (sortAndDeduplicateDisplayModes std
          (collectDisplayModes (normalizeDisplayMode current) natives)) ↔
      ZeroRatesAgree (collectDisplayModes (normalizeDisplayMode current) natives) :=
  have h := collected hf hv natives
  ⟨fun hl => zeroRatesAgree_of_distinct std h hl.distinct, listed_sound std h current_mem⟩

/-- A mode of 60 Hz. -/
def sixtyHertz : DisplayMode := ⟨⟨640, 480⟩, 60, 1, .rgba8Unorm, false⟩

/-- It again, written in two ways. -/
def sixtyHertzNatives : List DxgiModeDesc := [⟨640, 480, 120, 2, .r8g8b8a8Unorm, .progressive⟩,
  ⟨640, 480, 60, 1, .r8g8b8a8Unorm, .progressive⟩]

theorem display_modes_listed_rates : ModesListed (normalizeDisplayMode sixtyHertz)
    (collectDisplayModes (normalizeDisplayMode sixtyHertz) sixtyHertzNatives)
    (sortAndDeduplicateDisplayModes (mergeSorts DisplayMode)
      (collectDisplayModes (normalizeDisplayMode sixtyHertz) sixtyHertzNatives)) :=
  (display_modes_listed (mergeSorts DisplayMode) sixtyHertzNatives
    ⟨by decide, by decide, by decide, by decide⟩ (by decide +kernel)).mpr (by decide +kernel)

/-- Settings whose frequency is not given. -/
def unknownFrequency : NativeDisplayMode := ⟨640, 480, 0, false, 0⟩

/-- The mode of such settings, as the output may list it. -/
def unknownRate : DxgiModeDesc := ⟨640, 480, 0, 2, .r8g8b8a8Unorm, .progressive⟩

/-- The mode of the settings. -/
def zeroRate : DisplayMode := ⟨⟨640, 480⟩, 0, 1, .rgba8Unorm, false⟩

/-- Both stay in the list, though they are the same mode. -/
theorem display_modes_listed_broken :
    queryCurrentDisplayMode unknownFrequency = .ok zeroRate ∧
      isSameDisplayMode zeroRate (toPortableDisplayMode unknownRate) = true ∧
      ¬ ModesListed zeroRate (collectDisplayModes zeroRate [unknownRate])
        (sortAndDeduplicateDisplayModes (mergeSorts DisplayMode)
          (collectDisplayModes zeroRate [unknownRate])) := by
  refine ⟨by decide +kernel, by decide +kernel, fun h => ?_⟩
  have hfits : Fits32 zeroRate := ⟨by decide, by decide, by decide, by decide⟩
  have hcollected := collected hfits (by decide +kernel) [unknownRate]
  have hz := zeroRatesAgree_of_distinct (mergeSorts DisplayMode) hcollected h.distinct
  revert hz
  decide +kernel

/-- The enumeration never refuses a display for its modes. -/
theorem enumerateD3D12Display_ok (std : UnstableSort DisplayMode) {d : NamedDisplayDescription}
    (hd : Named d) {settings : NativeDisplayMode} (natives : List DxgiModeDesc)
    (hs : settings.width < 2 ^ 32 ∧ settings.height < 2 ^ 32 ∧ settings.frequency < 2 ^ 32)
    (hq : queryCurrentDisplayMode settings = .ok current) :
    enumerateD3D12Display std d settings natives = .ok { d with
      currentMode := current
      modes := sortAndDeduplicateDisplayModes std (collectDisplayModes current natives) } := by
  have hq' := hq
  rw [queryCurrentDisplayMode] at hq'
  obtain ⟨u, hv, hq'⟩ := except_bind_ok hq'
  cases hq'
  have h := collected ⟨hs.1, hs.2.1, hs.2.2, Nat.one_lt_two_pow (by decide)⟩ hv natives
  have hlisted := listed_valid std h current_mem hd
  rw [enumerateD3D12Display, hq]
  simp only [bind, Except.bind, hlisted]
  rfl

end WSE.Proof.Oui
