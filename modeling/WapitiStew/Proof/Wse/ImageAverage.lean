import WapitiStew.Proof.Wse.Image
import WapitiStew.Spec.Wse.Image

/-!
# The average of images

The sums of an accumulator are those of the samples, modulo the type of the sums (`Sums`); one more
image keeps this (`sums_add`), and so does a list of them (`sums_accumulate`). `average_wraps_iff`
is the arithmetic of one sample: the rounded mean comes out exactly where nothing wraps.
-/

namespace WSE.Proof.Wse

open WSE.Framework WSE.Impl.Wse WSE.Spec.Wse

/-! ## One sample -/

/-- A sum of samples below `B` has a mean below it. -/
theorem mean_lt {S N B : Nat} (hN : 0 < N) (hB : 0 < B) (hS : S ≤ N * (B - 1)) :
    (S + N / 2) / N < B := by
  rw [Nat.div_lt_iff_lt_mul hN]
  have hmul : N * (B - 1) + N = B * N := by
    rw [Nat.mul_sub_one, Nat.mul_comm B]
    have := Nat.le_mul_of_pos_right N hB
    omega
  omega

theorem average_wraps_iff {S N M B : Nat} (hN : 0 < N) (hM : N < M) (hB : 0 < B)
    (hS : S ≤ N * (B - 1)) :
    (S % M + N / 2) % M / N % B = (S + N / 2) / N ↔ S + N / 2 < M := by
  have hmean := mean_lt hN hB hS
  rw [Nat.mod_add_mod]
  have hle : (S + N / 2) % M / N ≤ (S + N / 2) / N := Nat.div_le_div_right (Nat.mod_le _ _)
  rw [Nat.mod_eq_of_lt (Nat.lt_of_le_of_lt hle hmean)]
  constructor
  · intro h
    by_contra hge
    -- What is lost by wrapping is more than one divisor.
    have hsub : (S + N / 2) % M ≤ S + N / 2 - M := by
      rw [Nat.mod_eq_sub_mod (Nat.not_lt.mp hge)]
      exact Nat.mod_le _ _
    have hdiv : (S + N / 2) % M / N ≤ (S + N / 2 - N) / N :=
      Nat.div_le_div_right (Nat.le_trans hsub (Nat.sub_le_sub_left (Nat.le_of_lt hM) _))
    have hone : (S + N / 2 - N) / N = (S + N / 2) / N - 1 := by
      have := Nat.sub_mul_div (S + N / 2) N 1
      rwa [Nat.mul_one] at this
    have hpos : 0 < (S + N / 2) / N := Nat.div_pos (by omega) hN
    omega
  · intro h
    rw [Nat.mod_eq_of_lt h]

variable {p : PixFormat}

theorem accumulatorBits_cases (p : PixFormat) :
    accumulatorBits p = 32 ∧ p.sampleSize ≤ 2 ∨ accumulatorBits p = 64 := by
  unfold accumulatorBits
  split
  · exact .inl ⟨rfl, ‹_›⟩
  · exact .inr rfl

theorem sampleBits_le (p : PixFormat) : p.sampleBits ≤ accumulatorBits p := by
  cases p <;> decide

theorem accumulatorBits_le (p : PixFormat) : accumulatorBits p ≤ 64 := by
  obtain ⟨h, -⟩ | h := accumulatorBits_cases p <;> rw [h]
  decide

/-- The running index of a sample. -/
theorem sampleAt_index (image : Image p) (x y : Nat) {c : Nat} (hc : c < p.channels) :
    sampleAt image ((y * image.width + x) * p.channels + c) = image.get x y ⟨c, hc⟩ := by
  rw [sampleAt, Nat.mul_comm, Nat.mul_add_div p.channels_pos, Nat.div_eq_of_lt hc, Nat.add_zero,
    Nat.mul_add_mod, Nat.mod_eq_of_lt hc]
  exact dif_pos hc

/-! ## The sums -/

/-- What an accumulator holds after these images of one extent. -/
structure Sums (a : ImageAccumulator p) (images : List (Image p)) (w h : Nat) : Prop where
  count : a.count = images.length
  width : images ≠ [] → a.width = w
  height : images ≠ [] → a.height = h
  sum : ∀ index < w * h * p.channels, (images ≠ [] → (a.sum.getD index 0).toNat =
    (images.map fun image => (sampleAt image index).toNat).sum % 2 ^ accumulatorBits p)

theorem sums_empty (w h : Nat) : Sums ({} : ImageAccumulator p) [] w h where
  count := rfl
  width h := absurd rfl h
  height h := absurd rfl h
  sum _ _ h := absurd rfl h

theorem getD_added (sum : List (BitVec (accumulatorBits p))) (image : Image p) {index : Nat}
    (h : index < image.width * image.height * p.channels) :
    ((ImageAccumulator.added sum image).getD index 0).toNat =
      ((sum.getD index 0).toNat + (sampleAt image index).toNat) % 2 ^ accumulatorBits p := by
  rw [ImageAccumulator.added, List.getD_eq_getElem?_getD, List.getElem?_map,
    List.getElem?_range h, Option.map_some, Option.getD_some, BitVec.toNat_add,
    BitVec.toNat_setWidth, Nat.mod_eq_of_lt (Nat.lt_of_lt_of_le (sampleAt image index).isLt
      (Nat.pow_le_pow_right (by decide) (sampleBits_le p)))]

variable {a : ImageAccumulator p} {images : List (Image p)} {w h : Nat}

/-- An image of the extent is added to the sums. -/
theorem sums_add (hs : Sums a images w h) (hw : w ≠ 0) (hh : h ≠ 0)
    (hcount : images.length + 1 < 2 ^ 64) {image : Image p} (hiw : image.width = w)
    (hih : image.height = h) : ∃ a', a.add image = (a', .ok ()) ∧ Sums a' (images ++ [image]) w h := by
  have hne : (decide (image.width = 0) || decide (image.height = 0)) = false := by
    simp [hiw, hih, hw, hh]
  unfold ImageAccumulator.add
  rw [if_neg (by rw [hne]; decide)]
  by_cases h0 : a.count = 0
  · rw [if_pos h0]
    have hnil : images = [] := List.length_eq_zero_iff.mp (hs.count ▸ h0)
    subst hnil
    refine ⟨_, rfl, ⟨rfl, fun _ => hiw, fun _ => hih, fun index hi _ => ?_⟩⟩
    have hi : index < image.width * image.height * p.channels := by rw [hiw, hih]; exact hi
    show ((ImageAccumulator.added _ image).getD index 0).toNat = _
    rw [getD_added _ image hi, List.getD_eq_getElem?_getD, List.getElem?_replicate, if_pos hi]
    simp
  · rw [if_neg h0]
    have hnil : images ≠ [] := fun hnil => h0 (by rw [hs.count, hnil]; rfl)
    rw [dif_neg (by rw [hs.width hnil, hs.height hnil, hiw, hih]; simp)]
    refine ⟨_, rfl, ⟨?_, fun _ => hs.width hnil, fun _ => hs.height hnil, fun index hi _ => ?_⟩⟩
    · show (a.count + 1) % 2 ^ 64 = _
      rw [hs.count, List.length_append, List.length_singleton, Nat.mod_eq_of_lt hcount]
    · have hi' : index < image.width * image.height * p.channels := by rw [hiw, hih]; exact hi
      show ((ImageAccumulator.added _ image).getD index 0).toNat = _
      rw [getD_added _ image hi', hs.sum index hi hnil, Nat.mod_add_mod, List.map_append,
        List.sum_append]
      rfl

/-- So is a list of images. -/
theorem sums_accumulate (hs : Sums a images w h) (hw : w ≠ 0) (hh : h ≠ 0)
    {sources : List (Image p)} (hcount : images.length + sources.length < 2 ^ 64)
    (hiw : ∀ source ∈ sources, source.width = w) (hih : ∀ source ∈ sources, source.height = h) :
    ∃ a', accumulate a sources = .ok a' ∧ Sums a' (images ++ sources) w h := by
  induction sources generalizing a images with
  | nil => exact ⟨a, rfl, by rw [List.append_nil]; exact hs⟩
  | cons source sources ih =>
    rw [List.length_cons] at hcount
    obtain ⟨a', hadd, hs'⟩ := sums_add hs hw hh (by omega) (hiw source List.mem_cons_self)
      (hih source List.mem_cons_self)
    obtain ⟨b, hacc, hb⟩ := ih hs'
      (by rw [List.length_append, List.length_singleton]; omega)
      (fun s hs => hiw s (List.mem_cons_of_mem source hs))
      (fun s hs => hih s (List.mem_cons_of_mem source hs))
    refine ⟨b, ?_, by rw [List.append_assoc] at hb; exact hb⟩
    rw [accumulate, hadd]
    exact hacc

/-! ## The average -/

/-- A sample of the average, in the arithmetic of its types. -/
theorem get_average {images : List (Image p)} (hs : Sums a images w h) (hne : images ≠ [])
    (hcount : images.length < 2 ^ accumulatorBits p) :
    ∃ target, a.average = .ok target ∧ target.width = w ∧ target.height = h ∧
      ∀ x < w, ∀ y < h, ∀ c : Fin p.channels, (target.get x y c).toNat =
        (((images.map fun image => (sampleAt image ((y * w + x) * p.channels + c)).toNat).sum %
          2 ^ accumulatorBits p + images.length / 2) % 2 ^ accumulatorBits p) / images.length %
          2 ^ p.sampleBits := by
  have hpos : 0 < images.length := List.length_pos_iff.mpr hne
  have h0 : a.count ≠ 0 := by rw [hs.count]; omega
  have htwo : (2 : Nat) < 2 ^ accumulatorBits p := by
    obtain ⟨h, -⟩ | h := accumulatorBits_cases p <;> rw [h] <;> decide
  unfold ImageAccumulator.average
  rw [if_neg h0]
  refine ⟨_, rfl, hs.width hne, hs.height hne, fun x hx y hy c => ?_⟩
  have hx' : x < a.width := by rw [hs.width hne]; exact hx
  have hy' : y < a.height := by rw [hs.height hne]; exact hy
  have hindex : (y * w + x) * p.channels + c < w * h * p.channels := by
    have := Nat.mul_le_mul_right p.channels (Nat.succ_le_of_lt (index_lt hx hy))
    rw [Nat.succ_mul] at this
    omega
  rw [Grid.get_ofFn _ hx' hy', Pixel.ofFn_apply, BitVec.toNat_setWidth, BitVec.toNat_udiv,
    BitVec.toNat_add, BitVec.toNat_udiv, BitVec.toNat_ofNat, BitVec.toNat_ofNat, hs.width hne,
    hs.sum _ hindex hne, hs.count, Nat.mod_eq_of_lt hcount, Nat.mod_eq_of_lt htwo]

theorem sum_le {samples : List Nat} {B : Nat} (h : ∀ s ∈ samples, s ≤ B) :
    samples.sum ≤ samples.length * B := by
  have hle := List.sum_le_card_nsmul samples B h
  rwa [smul_eq_mul] at hle

/-- Images of one extent have the exact mean exactly where no sum leaves its type. -/
theorem average_exact_iff {sources : List (Image p)} (hl : OneLayout sources w h)
    (hcount : sources.length < 2 ^ accumulatorBits p) :
    (∃ target, averageImages sources = .ok target ∧ ExactMean sources target w h) ↔
      SumsFit sources w h := by
  have hcount64 : sources.length < 2 ^ 64 :=
    Nat.lt_of_lt_of_le hcount (Nat.pow_le_pow_right (by decide) (accumulatorBits_le p))
  obtain ⟨a, hacc, hs⟩ := sums_accumulate (sums_empty w h) hl.width_pos.ne' hl.height_pos.ne'
    (by rw [List.length_nil, Nat.zero_add]; exact hcount64) hl.widths hl.heights
  rw [List.nil_append] at hs
  obtain ⟨target, havg, htw, hth, hget⟩ := get_average hs hl.nonempty hcount
  have hsamples : ∀ x y (c : Fin p.channels),
      (sources.map fun image => (sampleAt image ((y * w + x) * p.channels + c)).toNat) =
        samplesAt sources x y c := by
    intro x y c
    refine List.map_congr_left fun image hi => ?_
    rw [← hl.widths image hi, sampleAt_index image x y c.isLt]
  have hsample : ∀ x < w, ∀ y < h, ∀ c : Fin p.channels,
      (target.get x y c).toNat = roundedMean (samplesAt sources x y c) ↔
        (samplesAt sources x y c).sum + sources.length / 2 < 2 ^ accumulatorBits p := by
    intro x hx y hy c
    have hlen : (samplesAt sources x y c).length = sources.length := List.length_map _
    have hle : (samplesAt sources x y c).sum ≤ sources.length * (2 ^ p.sampleBits - 1) := by
      rw [← hlen]
      refine sum_le fun s hs => ?_
      obtain ⟨image, -, rfl⟩ := List.mem_map.mp hs
      exact Nat.le_sub_one_of_lt (image.get x y c).isLt
    rw [hget x hx y hy c, hsamples, roundedMean, hlen]
    exact average_wraps_iff (List.length_pos_iff.mpr hl.nonempty) hcount (Nat.two_pow_pos _) hle
  have hresult : averageImages sources = .ok target := by
    rw [averageImages, hacc]
    exact havg
  constructor
  · rintro ⟨target', htarget', hexact⟩
    obtain rfl := Except.ok.inj (hresult.symm.trans htarget')
    exact fun x hx y hy c => (hsample x hx y hy c).mp (hexact.samples x hx y hy c)
  · intro hfit
    exact ⟨target, hresult, htw, hth, fun x hx y hy c =>
      (hsample x hx y hy c).mpr (hfit x hx y hy c)⟩

/-- A refused image leaves the accumulator as it was. -/
theorem add_refused {a : ImageAccumulator p} {source : Image p} {e : String}
    (h : (a.add source).2 = .error e) : (a.add source).1 = a := by
  unfold ImageAccumulator.add at h ⊢
  split
  · rfl
  rename_i hne
  rw [if_neg hne] at h
  split
  · rename_i h0
    rw [if_pos h0] at h
    cases h
  rename_i h0
  rw [if_neg h0] at h
  split
  · rfl
  · rename_i hsame
    rw [dif_neg hsame] at h
    cases h

/-- An image of another extent is refused. -/
theorem add_other_extent {a : ImageAccumulator p} {source : Image p} (h0 : a.count ≠ 0)
    (h : source.width ≠ a.width ∨ source.height ≠ a.height) :
    ∃ e, (a.add source).2 = .error e := by
  unfold ImageAccumulator.add
  rw [if_neg h0, dif_pos h]
  split <;> exact ⟨_, rfl⟩

end WSE.Proof.Wse
