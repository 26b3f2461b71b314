import Mathlib.Algebra.BigOperators.Group.Finset.Basic
import Mathlib.Algebra.Group.Action.Defs
import Mathlib.Algebra.Order.BigOperators.Group.Finset
import WapitiStew.Framework.Lists
import WapitiStew.Spec.Wse.ImageDemosaic

/-!
# Demosaicing

* `colorAt_eq`: the table of a pattern is the colour of each place.
* `tally_foldlM`, `block_foldlM`: what the loops over a window leave.
* `mem_nearby`, `neighbourhood_eq`: the window of a pixel is its clipped neighbourhood.
* `bilinearStep_covers`, `blockStep_covers`: what one turn writes.
-/

namespace WSE.Proof.Wse

open WSE.Framework WSE.Impl.Wse WSE.Spec.Wse

variable {src dst : PixFormat} {source : Image src} {pattern : BayerPattern}
  {colors : Fin 4 → Fin 3} {order : ColorChannelOrder}

/-! ## Colours -/

theorem colorAt_of {x y i j : Nat} (hx : x % 2 = i) (hy : y % 2 = j) (h : j * 2 + i < 4) :
    colorAt colors x y = colors ⟨j * 2 + i, h⟩ := by
  subst hx hy
  rfl

theorem colorAt_eq (h : bayerBlockColors pattern = .ok colors) (x y : Nat) :
    colorAt colors x y = sensorColor pattern x y := by
  obtain hx | hx := Nat.mod_two_eq_zero_or_one x <;>
    obtain hy | hy := Nat.mod_two_eq_zero_or_one y <;>
    rw [colorAt_of hx hy (by decide), sensorColor, hx, hy] <;>
    cases pattern <;> cases h <;> rfl

/-- Next to each place, or at it, there is one of either parity. -/
theorem exists_parity {size x b : Nat} (hs : 2 ≤ size) (hx : x < size) (hb : b < 2) :
    ∃ x', x' < size ∧ x' ≤ x + 1 ∧ x ≤ x' + 1 ∧ x' % 2 = b := by
  by_cases h : x % 2 = b
  · exact ⟨x, hx, by omega, by omega, h⟩
  · by_cases h0 : x = 0
    · exact ⟨1, by omega, by omega, by omega, by omega⟩
    · exact ⟨x - 1, by omega, by omega, by omega, by omega⟩

theorem firstRed_lt (pattern : BayerPattern) :
    (firstRed pattern).1 < 2 ∧ (firstRed pattern).2 < 2 := by
  cases pattern <;> exact ⟨by simp [firstRed], by simp [firstRed]⟩

/-- Each colour is at places of some parity. -/
theorem exists_color (pattern : BayerPattern) (color : Fin 3) : ∃ i < 2, ∃ j < 2,
    ∀ x y, x % 2 = i → y % 2 = j → sensorColor pattern x y = color := by
  obtain ⟨hx, hy⟩ := firstRed_lt pattern
  obtain hc | hc | hc : color = redColor ∨ color = greenColor ∨ color = blueColor := by
    unfold redColor greenColor blueColor
    omega
  · refine ⟨_, hx, _, hy, fun x y hx hy => ?_⟩
    rw [sensorColor, if_pos ⟨hx, hy⟩, hc]
  · refine ⟨_, hx, 1 - (firstRed pattern).2, by omega, fun x y hx hy => ?_⟩
    rw [sensorColor, if_neg (by omega), if_neg (by omega), hc]
  · refine ⟨1 - (firstRed pattern).1, by omega, 1 - (firstRed pattern).2, by omega,
      fun x y hx hy => ?_⟩
    rw [sensorColor, if_neg (by omega), if_pos (by omega), hc]

/-! ## Pixels -/

/-- The pixel with these colours. -/
def colorPixel (order : ColorChannelOrder) (value : Fin 3 → Sample dst) : Pixel dst :=
  .ofFn fun c =>
    if h : c.val < 3 then value (if order = .rgb then ⟨c, h⟩ else Fin.rev ⟨c, h⟩) else 0

theorem colorPixel_channel (h : dst.channels = 3) (value : Fin 3 → Sample dst) (color : Fin 3) :
    (colorPixel order value).channel (channelOf order color) = value color := by
  have hlt : channelOf order color < dst.channels := by
    rw [h]
    cases order
    · exact color.isLt
    · show 2 - color.val < 3
      omega
  have hlt' : channelOf order color < 3 := h ▸ hlt
  rw [Pixel.channel, dif_pos hlt, colorPixel, Pixel.ofFn_apply, dif_pos hlt']
  congr 1
  apply Fin.ext
  cases order
  · rfl
  · show 3 - (2 - color.val + 1) = color.val
    omega

theorem writeComponent_inside {target : Image dst} {x y channel : Nat} (hx : x < target.width)
    (hy : y < target.height) (hc : channel < dst.channels) (value : Sample dst) :
    writeComponent target x y channel value = some (target.write x y
      (.ofFn fun c => if c.val = channel then value else target.get x y c)) :=
  if_pos ⟨hx, hy, hc⟩

theorem colorChannel_lt (h : dst.channels = 3) (color : Fin 3) :
    colorChannel color order < dst.channels := by
  have := color.isLt
  rw [h, colorChannel]
  split <;> omega

theorem get_write_self {target : Image dst} {x y : Nat} (hx : x < target.width)
    (hy : y < target.height) (pixel : Pixel dst) : (target.write x y pixel).get x y = pixel := by
  rw [Grid.get_write target pixel hx hy hx, if_pos ⟨rfl, rfl⟩]

/-- A component of a pixel that is written already. -/
theorem writeComponent_write {target : Image dst} {x y channel : Nat} (hx : x < target.width)
    (hy : y < target.height) (hc : channel < dst.channels) (pixel : Pixel dst)
    (value : Sample dst) : writeComponent (target.write x y pixel) x y channel value =
      some (target.write x y (.ofFn fun c => if c.val = channel then value else pixel c)) := by
  have hx' : x < (target.write x y pixel).width := hx
  have hy' : y < (target.write x y pixel).height := hy
  rw [writeComponent_inside hx' hy' hc, get_write_self hx hy, Grid.write_write]

theorem writeColors_inside (h : dst.channels = 3) {target : Image dst} {x y : Nat}
    (hx : x < target.width) (hy : y < target.height) {value : Fin 3 → Option (Sample dst)}
    {samples : Fin 3 → Sample dst} (hv : ∀ color, value color = some (samples color)) :
    writeColors order value x y target = some (target.write x y (colorPixel order samples)) := by
  have hc (color : Fin 3) : colorChannel color order < dst.channels := colorChannel_lt h color
  simp only [writeColors, List.foldlM_cons, List.foldlM_nil, hv, Option.bind_eq_bind,
    Option.bind_some, Option.pure_def]
  rw [writeComponent_inside hx hy (hc 0), Option.bind_some, writeComponent_write hx hy (hc 1),
    Option.bind_some, writeComponent_write hx hy (hc 2), Option.bind_some]
  congr 2
  funext c
  have hlt : c.val < 3 := h ▸ c.isLt
  obtain hv | hv | hv : c.val = 0 ∨ c.val = 1 ∨ c.val = 2 := by omega
  all_goals
    cases order <;> simp [Pixel.ofFn, colorPixel, colorChannel, hv]

/-! ## Sums and counts -/

/-- The samples of a colour among the places. -/
def ofColor (colors : Fin 4 → Fin 3) (color : Fin 3) (ps : List (Nat × Nat)) : List (Nat × Nat) :=
  ps.filter fun p => colorAt colors p.1 p.2 = color

/-- The sums and the numbers of the samples at the places. -/
structure Tallied (colors : Fin 4 → Fin 3) (source : Image src) (ps : List (Nat × Nat))
    (t : Tally) : Prop where
  sum : ∀ color, t.sum color = ((ofColor colors color ps).map (sample source)).sum % 2 ^ 64
  count : ∀ color, t.count color = (ofColor colors color ps).length

theorem sampleAt_inside {x y : Nat} (hx : x < source.width) (hy : y < source.height) :
    rawSample source x y = some ((source.get x y).channel 0) := if_pos ⟨hx, hy⟩

theorem ofColor_append (color : Fin 3) (ps : List (Nat × Nat)) (p : Nat × Nat) :
    ofColor colors color (ps ++ [p]) =
      ofColor colors color ps ++ if colorAt colors p.1 p.2 = color then [p] else [] := by
  by_cases h : colorAt colors p.1 p.2 = color
  · simp [ofColor, List.filter_append, h]
  · simp [ofColor, List.filter_append, h]

theorem tally_add {t : Tally} {p : Nat × Nat} (hx : p.1 < source.width)
    (hy : p.2 < source.height) : Tally.add colors source t p = some
      { sum := Function.update t.sum (colorAt colors p.1 p.2)
          ((t.sum (colorAt colors p.1 p.2) + sample source p) % 2 ^ 64)
        count := Function.update t.count (colorAt colors p.1 p.2)
          (t.count (colorAt colors p.1 p.2) + 1) } := by
  rw [Tally.add, sampleAt_inside hx hy]
  rfl

theorem Tallied.add {ps : List (Nat × Nat)} {t : Tally} {p : Nat × Nat}
    (h : Tallied colors source ps t) (hx : p.1 < source.width) (hy : p.2 < source.height) :
    ∃ t', Tally.add colors source t p = some t' ∧ Tallied colors source (ps ++ [p]) t' := by
  refine ⟨_, tally_add hx hy, fun color => ?_, fun color => ?_⟩
  · rw [ofColor_append]
    dsimp only
    by_cases hc : colorAt colors p.1 p.2 = color
    · subst hc
      rw [Function.update_self, if_pos rfl, List.map_append, List.sum_append, h.sum,
        Nat.mod_add_mod]
      rfl
    · rw [Function.update_of_ne (Ne.symm hc), if_neg hc, List.append_nil]
      exact h.sum color
  · rw [ofColor_append]
    dsimp only
    by_cases hc : colorAt colors p.1 p.2 = color
    · subst hc
      rw [Function.update_self, if_pos rfl, List.length_append, h.count]
      rfl
    · rw [Function.update_of_ne (Ne.symm hc), if_neg hc, List.append_nil]
      exact h.count color

/-- The loop over a window of the image. -/
theorem tally_foldlM (colors : Fin 4 → Fin 3) {ps : List (Nat × Nat)}
    (hps : ∀ p ∈ ps, p.1 < source.width ∧ p.2 < source.height) :
    ∃ t, ps.foldlM (Tally.add colors source) {} = some t ∧ Tallied colors source ps t :=
  foldlM_invariant (fun _ p hp _ h => h.add (hps p hp).1 (hps p hp).2)
    (⟨fun _ => rfl, fun _ => rfl⟩ : Tallied colors source [] {})

/-- The first samples and the numbers of the samples at the places. -/
structure Blocked (colors : Fin 4 → Fin 3) (source : Image src) (ps : List (Nat × Nat))
    (b : Block src) : Prop where
  count : ∀ color, b.count color = (ofColor colors color ps).length
  block : ∀ color p, (ofColor colors color ps).head? = some p →
    (b.block color).toNat = sample source p

theorem block_add {b : Block src} {p : Nat × Nat} (hx : p.1 < source.width)
    (hy : p.2 < source.height) : Block.add colors source b p = some
      { block := if b.count (colorAt colors p.1 p.2) = 0 then
          Function.update b.block (colorAt colors p.1 p.2) ((source.get p.1 p.2).channel 0)
          else b.block
        count := Function.update b.count (colorAt colors p.1 p.2)
          (b.count (colorAt colors p.1 p.2) + 1) } := by
  rw [Block.add, sampleAt_inside hx hy]
  simp only
  split <;> rfl

theorem Blocked.add {ps : List (Nat × Nat)} {b : Block src} {p : Nat × Nat}
    (h : Blocked colors source ps b) (hx : p.1 < source.width) (hy : p.2 < source.height) :
    ∃ b', Block.add colors source b p = some b' ∧ Blocked colors source (ps ++ [p]) b' := by
  refine ⟨_, block_add hx hy, fun color => ?_, fun color q hq => ?_⟩
  · rw [ofColor_append]
    dsimp only
    by_cases hc : colorAt colors p.1 p.2 = color
    · subst hc
      rw [Function.update_self, if_pos rfl, List.length_append, h.count]
      rfl
    · rw [Function.update_of_ne (Ne.symm hc), if_neg hc, List.append_nil]
      exact h.count color
  · rw [ofColor_append] at hq
    dsimp only
    by_cases hc : colorAt colors p.1 p.2 = color
    · subst hc
      rw [if_pos rfl] at hq
      split
      · -- the first sample of its colour
        rename_i h0
        rw [h.count, List.length_eq_zero_iff] at h0
        rw [h0] at hq
        cases hq
        rw [Function.update_self]
        rfl
      · rename_i h0
        rw [h.count, List.length_eq_zero_iff] at h0
        rw [List.head?_append_of_ne_nil _ h0] at hq
        exact h.block _ q hq
    · rw [if_neg hc, List.append_nil] at hq
      split
      · rw [Function.update_of_ne (Ne.symm hc)]
        exact h.block color q hq
      · exact h.block color q hq

theorem block_foldlM (colors : Fin 4 → Fin 3) {ps : List (Nat × Nat)}
    (hps : ∀ p ∈ ps, p.1 < source.width ∧ p.2 < source.height) :
    ∃ b, ps.foldlM (Block.add colors source) {} = some b ∧ Blocked colors source ps b :=
  foldlM_invariant (fun _ p hp _ h => h.add (hps p hp).1 (hps p hp).2)
    (⟨fun _ => rfl, fun _ _ h => by cases h⟩ : Blocked colors source [] {})

/-! ## Windows -/

theorem mem_windowPlaces {columns rows : List Nat} {p : Nat × Nat} :
    p ∈ windowPlaces columns rows ↔ p.1 ∈ columns ∧ p.2 ∈ rows := by
  simp only [windowPlaces, List.mem_flatMap, List.mem_map]
  constructor
  · rintro ⟨y, hy, x, hx, rfl⟩
    exact ⟨hx, hy⟩
  · rintro ⟨hx, hy⟩
    exact ⟨p.2, hy, p.1, hx, rfl⟩

theorem nodup_windowPlaces {columns rows : List Nat} (hc : columns.Nodup) (hr : rows.Nodup) :
    (windowPlaces columns rows).Nodup := by
  rw [windowPlaces, List.nodup_flatMap]
  refine ⟨fun y _ => hc.map fun a b h => congrArg Prod.fst h, hr.imp fun {y z} hne => ?_⟩
  intro p hy hz
  obtain ⟨x, -, rfl⟩ := List.mem_map.mp hy
  obtain ⟨x', -, h⟩ := List.mem_map.mp hz
  exact hne (congrArg Prod.snd h).symm

theorem length_windowPlaces (columns rows : List Nat) :
    (windowPlaces columns rows).length = rows.length * columns.length := by
  simp [windowPlaces, List.length_flatMap]

theorem mem_nearby {size position x : Nat} (h : position < size) :
    x ∈ nearby size position ↔ x < size ∧ x ≤ position + 1 ∧ position ≤ x + 1 := by
  simp only [nearby, List.mem_range'_1]
  split <;> split <;> omega

theorem length_nearby (size position : Nat) : (nearby size position).length ≤ 3 := by
  simp only [nearby, List.length_range']
  split <;> split <;> omega

/-- The places that the loops of a bilinear pixel visit. -/
def visited (source : Image src) (x y : Nat) : List (Nat × Nat) :=
  windowPlaces (nearby source.width x) (nearby source.height y)

theorem nodup_ofColor (color : Fin 3) (x y : Nat) :
    (ofColor colors color (visited source x y)).Nodup :=
  (nodup_windowPlaces (List.nodup_range' ..) (List.nodup_range' ..)).filter _

variable {x y : Nat}

theorem neighbourhood_eq (h : bayerBlockColors pattern = .ok colors) (hx : x < source.width)
    (hy : y < source.height) (color : Fin 3) :
    (ofColor colors color (visited source x y)).toFinset =
      neighbourhood source pattern color x y := by
  ext p
  rw [List.mem_toFinset, ofColor, List.mem_filter, visited, mem_windowPlaces, mem_nearby hx,
    mem_nearby hy, decide_eq_true_eq, colorAt_eq h, neighbourhood, Finset.mem_filter,
    Finset.mem_product, Finset.mem_range, Finset.mem_range]
  tauto

theorem card_neighbourhood (h : bayerBlockColors pattern = .ok colors) (hx : x < source.width)
    (hy : y < source.height) (color : Fin 3) :
    (neighbourhood source pattern color x y).card =
      (ofColor colors color (visited source x y)).length := by
  rw [← neighbourhood_eq h hx hy, List.toFinset_card_of_nodup (nodup_ofColor color x y)]

theorem sum_neighbourhood (h : bayerBlockColors pattern = .ok colors) (hx : x < source.width)
    (hy : y < source.height) (color : Fin 3) :
    (neighbourhood source pattern color x y).sum (sample source) =
      ((ofColor colors color (visited source x y)).map (sample source)).sum := by
  rw [← neighbourhood_eq h hx hy, List.sum_toFinset _ (nodup_ofColor color x y)]

theorem card_neighbourhood_le (h : bayerBlockColors pattern = .ok colors) (hx : x < source.width)
    (hy : y < source.height) (color : Fin 3) :
    (neighbourhood source pattern color x y).card ≤ 9 := by
  have hfilter : (ofColor colors color (visited source x y)).length ≤ (visited source x y).length :=
    List.length_filter_le ..
  have hlen : (visited source x y).length ≤ 3 * 3 := by
    rw [visited, length_windowPlaces]
    exact Nat.mul_le_mul (length_nearby ..) (length_nearby ..)
  rw [card_neighbourhood h hx hy]
  omega

theorem neighbourhood_nonempty (hw : 2 ≤ source.width) (hh : 2 ≤ source.height)
    (hx : x < source.width) (hy : y < source.height) (pattern : BayerPattern) (color : Fin 3) :
    (neighbourhood source pattern color x y).Nonempty := by
  obtain ⟨i, hi, j, hj, hcolor⟩ := exists_color pattern color
  obtain ⟨x', hx', hle, hge, hpx⟩ := exists_parity hw hx hi
  obtain ⟨y', hy', hle', hge', hpy⟩ := exists_parity hh hy hj
  refine ⟨(x', y'), Finset.mem_filter.mpr ⟨?_, hle, hge, hle', hge', hcolor x' y' hpx hpy⟩⟩
  exact Finset.mem_product.mpr ⟨Finset.mem_range.mpr hx', Finset.mem_range.mpr hy'⟩

/-! ## Means -/

/-- The rounded mean of some numbers is one of them or between two of them. -/
theorem roundedMean_between {ι : Type} {s : Finset ι} {f : ι → Nat} (hs : s.Nonempty) :
    (∀ bound, (∀ p ∈ s, bound ≤ f p) → bound ≤ (s.sum f + s.card / 2) / s.card) ∧
    ∀ bound, (∀ p ∈ s, f p ≤ bound) → (s.sum f + s.card / 2) / s.card ≤ bound := by
  have hpos : 0 < s.card := hs.card_pos
  constructor
  · intro bound h
    have hsum := Finset.card_nsmul_le_sum s f bound h
    rw [smul_eq_mul, Nat.mul_comm] at hsum
    rw [Nat.le_div_iff_mul_le hpos]
    omega
  · intro bound h
    have hsum := Finset.sum_le_card_nsmul s f bound h
    rw [smul_eq_mul, Nat.mul_comm] at hsum
    rw [← Nat.lt_succ_iff, Nat.div_lt_iff_lt_mul hpos, Nat.succ_mul]
    omega

theorem isMean_of_eq (h : (neighbourhood source pattern color x y).Nonempty) :
    IsMean source pattern color x y (roundedSum source pattern color x y /
      (neighbourhood source pattern color x y).card) where
  mean := rfl
  nonempty := h
  lower := (roundedMean_between h).1
  upper := (roundedMean_between h).2

/-- The value that the code computes is the mean exactly if the sum fits 64 bits. -/
theorem isMean_iff {color : Fin 3} {bits : Nat}
    (hn : (neighbourhood source pattern color x y).Nonempty)
    (h9 : (neighbourhood source pattern color x y).card ≤ 9)
    (hbits : ∀ p, sample source p < 2 ^ bits) :
    IsMean source pattern color x y ((roundedSum source pattern color x y % 2 ^ 64 /
      (neighbourhood source pattern color x y).card) % 2 ^ bits) ↔
      roundedSum source pattern color x y < 2 ^ 64 := by
  have hpos := hn.card_pos
  constructor
  · intro h
    by_contra hge
    have hmean := h.mean
    generalize roundedSum source pattern color x y = sum at *
    generalize (neighbourhood source pattern color x y).card = n at *
    have hle : sum % 2 ^ 64 / n % 2 ^ bits ≤ sum % 2 ^ 64 / n := Nat.mod_le _ _
    have hmod : sum % 2 ^ 64 + n ≤ sum := by omega
    have hdiv : (sum % 2 ^ 64 + n) / n ≤ sum / n := Nat.div_le_div_right hmod
    rw [Nat.add_div_right _ hpos] at hdiv
    omega
  · intro h
    have hmean := isMean_of_eq hn
    have hlt : roundedSum source pattern color x y /
        (neighbourhood source pattern color x y).card < 2 ^ bits := by
      have hle := hmean.upper (2 ^ bits - 1) fun p _ => by have := hbits p; omega
      have := Nat.two_pow_pos bits
      omega
    rw [Nat.mod_eq_of_lt h, Nat.mod_eq_of_lt hlt]
    exact hmean

/-! ## Bilinear mode -/

theorem sample_lt (p : Nat × Nat) : sample source p < 2 ^ src.sampleBits :=
  ((source.get p.1 p.2).channel 0).isLt

/-- The colours of a bilinear pixel. -/
def bilinearColors (dst : PixFormat) (source : Image src) (pattern : BayerPattern) (x y : Nat)
    (color : Fin 3) : Sample dst :=
  .ofNat dst.sampleBits (roundedSum source pattern color x y % 2 ^ 64 /
    (neighbourhood source pattern color x y).card)

theorem visited_inside (hx : x < source.width) (hy : y < source.height) :
    ∀ p ∈ visited source x y, p.1 < source.width ∧ p.2 < source.height := by
  intro p hp
  obtain ⟨hpx, hpy⟩ := mem_windowPlaces.mp hp
  exact ⟨((mem_nearby hx).mp hpx).1, ((mem_nearby hy).mp hpy).1⟩

/-- A turn writes its pixel. -/
theorem bilinearStep_eq (hm : Mosaic dst source pattern)
    (h : bayerBlockColors pattern = .ok colors) {target : Image dst}
    (hw : target.width = source.width) (hh : target.height = source.height)
    (hx : x < source.width) (hy : y < source.height) :
    bilinearStep colors order source target (x, y) =
      some (target.write x y (colorPixel order (bilinearColors dst source pattern x y))) := by
  obtain ⟨t, ht, htally⟩ := tally_foldlM colors (visited_inside hx hy)
  rw [bilinearStep]
  simp only
  rw [show windowPlaces (nearby source.width x) (nearby source.height y) = visited source x y
    from rfl, ht, Option.bind_eq_bind, Option.bind_some]
  refine writeColors_inside hm.target_channels (hw ▸ hx) (hh ▸ hy) fun color => ?_
  have hpos := (neighbourhood_nonempty hm.width hm.height hx hy pattern color).card_pos
  rw [htally.sum, htally.count, ← card_neighbourhood h hx hy, ← sum_neighbourhood h hx hy,
    bilinearMean, if_neg (Nat.ne_of_gt hpos), Nat.mod_add_mod]
  rfl

/-- A turn that writes the pixel of a place. -/
theorem write_covers {g : Image dst} {p : Nat × Nat} {x y : Nat} (cell : Nat → Nat → Pixel dst)
    (hpx : p.1 < g.width) (hpy : p.2 < g.height) (hx : x < g.width) :
    (p = (x, y) → (g.write p.1 p.2 (cell p.1 p.2)).get x y = cell x y) ∧
      (p ≠ (x, y) → (g.write p.1 p.2 (cell p.1 p.2)).get x y = g.get x y) := by
  rw [Grid.get_write g _ hpx hpy hx]
  constructor
  · rintro rfl
    exact if_pos ⟨rfl, rfl⟩
  · intro hne
    exact if_neg fun he => hne (Prod.ext he.1.symm he.2.symm)

/-- The pixel of a place is written in its turn. -/
theorem bilinear_foldlM (hm : Mosaic dst source pattern)
    (h : bayerBlockColors pattern = .ok colors) (order : ColorChannelOrder) :
    ∃ image, (places source.width source.height).foldlM (bilinearStep colors order source)
        (blank dst source.width source.height) = some image ∧
      image.width = source.width ∧ image.height = source.height ∧
      ∀ x < source.width, ∀ y < source.height,
        image.get x y = colorPixel order (bilinearColors dst source pattern x y) := by
  have hstep : ∀ p ∈ places source.width source.height, ∀ g : Image dst,
      g.width = source.width → g.height = source.height →
      ∃ k, bilinearStep colors order source g p = some k ∧ k.width = source.width ∧
        k.height = source.height ∧ ∀ x < source.width, ∀ y < source.height,
          (p = (x, y) → k.get x y = colorPixel order (bilinearColors dst source pattern x y)) ∧
          (¬p = (x, y) → k.get x y = g.get x y) := by
    intro p hp g hw hh
    obtain ⟨hpx, hpy⟩ := mem_places.mp hp
    refine ⟨_, bilinearStep_eq hm h hw hh hpx hpy, hw, hh, fun x hx y hy => ?_⟩
    exact write_covers (fun x y => colorPixel order (bilinearColors dst source pattern x y))
      (hw ▸ hpx) (hh ▸ hpy) (hw ▸ hx)
  have hblank : (blank dst source.width source.height).width = source.width := rfl
  obtain ⟨image, hrun, hw, hh, hcells⟩ := Grid.foldlM_covers hstep hblank rfl
  refine ⟨image, hrun, hw, hh, fun x hx y hy => ?_⟩
  exact (hcells x hx y hy).1 ⟨(x, y), mem_places.mpr ⟨hx, hy⟩, rfl⟩

/-! ## Block mode -/

theorem mem_evenPositions {limit x : Nat} :
    x ∈ evenPositions limit ↔ x % 2 = 0 ∧ x < limit := by
  simp only [evenPositions, List.mem_map, List.mem_range]
  constructor
  · rintro ⟨k, hk, rfl⟩
    omega
  · intro ⟨h, hlt⟩
    exact ⟨x / 2, by omega, by omega⟩

/-- Where the block of a position starts. -/
def blockStart (size position : Nat) : Nat := if position + 1 < size then position else position - 1

theorem blockStart_eq {size position : Nat} (hs : 2 ≤ size) (h : position < size) :
    blockStart size (2 * (position / 2)) = min (2 * (position / 2)) (size - 2) := by
  unfold blockStart
  split <;> omega

theorem blockStart_lt {size position : Nat} (hs : 2 ≤ size) (h : position < size) :
    blockStart size position + 1 < size := by
  unfold blockStart
  split <;> omega

/-- A block has a sample of each colour, and the first one is taken. -/
theorem blockSamples_first (h : bayerBlockColors pattern = .ok colors) {i j : Nat}
    (hi : i + 1 < source.width) (hj : j + 1 < source.height) :
    ∃ b, blockSamples colors source i j = some b ∧ ∀ color, ∃ p,
      (ofColor colors color (windowPlaces [i, i + 1] [j, j + 1])).head? = some p ∧
        (b.block color).toNat = sample source p := by
  have hmem {p : Nat × Nat} : p ∈ windowPlaces [i, i + 1] [j, j + 1] ↔
      (p.1 = i ∨ p.1 = i + 1) ∧ (p.2 = j ∨ p.2 = j + 1) := by
    rw [mem_windowPlaces]
    simp
  have hinside : ∀ p ∈ windowPlaces [i, i + 1] [j, j + 1],
      p.1 < source.width ∧ p.2 < source.height := by
    intro p hp
    have hp := hmem.mp hp
    omega
  obtain ⟨b, hb, hblocked⟩ := block_foldlM colors hinside
  refine ⟨b, hb, fun color => ?_⟩
  -- one of the four places has the parity of the colour
  obtain ⟨u, hu, v, hv, hcolor⟩ := exists_color pattern color
  have hthere : (i + (i + u) % 2, j + (j + v) % 2) ∈
      ofColor colors color (windowPlaces [i, i + 1] [j, j + 1]) := by
    refine List.mem_filter.mpr ⟨hmem.mpr ?_, ?_⟩
    · have := Nat.mod_two_eq_zero_or_one (i + u)
      have := Nat.mod_two_eq_zero_or_one (j + v)
      simp only
      omega
    · rw [decide_eq_true_eq, colorAt_eq h]
      exact hcolor _ _ (by omega) (by omega)
  obtain ⟨p, hp⟩ := Option.ne_none_iff_exists'.mp (mt List.head?_eq_none_iff.mp
    (List.ne_nil_of_mem hthere))
  exact ⟨p, hp, hblocked.block color p hp⟩

theorem blockSamples_eq (h : bayerBlockColors pattern = .ok colors) {i j : Nat}
    (hi : i + 1 < source.width) (hj : j + 1 < source.height) :
    ∃ b, blockSamples colors source i j = some b ∧ ∀ color, ∃ dx < 2, ∃ dy < 2,
      sensorColor pattern (i + dx) (j + dy) = color ∧
        (b.block color).toNat = sample source (i + dx, j + dy) := by
  obtain ⟨b, hb, hfirst⟩ := blockSamples_first h hi hj
  refine ⟨b, hb, fun color => ?_⟩
  obtain ⟨p, hhead, hsample⟩ := hfirst color
  obtain ⟨hp, hc⟩ := List.mem_filter.mp (List.mem_of_mem_head? hhead)
  have hp : (p.1 = i ∨ p.1 = i + 1) ∧ (p.2 = j ∨ p.2 = j + 1) := by
    simpa using mem_windowPlaces.mp hp
  have hx : i + (p.1 - i) = p.1 := by omega
  have hy : j + (p.2 - j) = p.2 := by omega
  refine ⟨p.1 - i, by omega, p.2 - j, by omega, ?_, ?_⟩
  · rw [hx, hy, ← colorAt_eq h]
    exact of_decide_eq_true hc
  · rw [hx, hy, hsample]

/-- The colours of the pixels of a block. -/
def blockColors (dst : PixFormat) (colors : Fin 4 → Fin 3) (source : Image src) (x y : Nat)
    (color : Fin 3) : Sample dst :=
  (((blockSamples colors source (blockStart source.width (2 * (x / 2)))
    (blockStart source.height (2 * (y / 2)))).getD {}).block color).setWidth dst.sampleBits

/-- A turn writes the pixels of its block. -/
theorem blockStep_covers (hm : Mosaic dst source pattern)
    (h : bayerBlockColors pattern = .ok colors) (order : ColorChannelOrder) {i j : Nat}
    (hi : i % 2 = 0 ∧ i < source.width) (hj : j % 2 = 0 ∧ j < source.height) {g : Image dst}
    (hw : g.width = source.width) (hh : g.height = source.height) :
    ∃ k, blockStep colors order source g (i, j) = some k ∧ k.width = source.width ∧
      k.height = source.height ∧ ∀ x < source.width, ∀ y < source.height,
        (i = 2 * (x / 2) ∧ j = 2 * (y / 2) →
          k.get x y = colorPixel order (blockColors dst colors source x y)) ∧
        (¬(i = 2 * (x / 2) ∧ j = 2 * (y / 2)) → k.get x y = g.get x y) := by
  obtain ⟨b, hb, -⟩ :=
    blockSamples_eq h (blockStart_lt hm.width hi.2) (blockStart_lt hm.height hj.2)
  have hmem {p : Nat × Nat} : p ∈ blockPixels g i j ↔
      (p.1 = i ∨ p.1 = i + 1) ∧ p.1 < source.width ∧ (p.2 = j ∨ p.2 = j + 1) ∧
        p.2 < source.height := by
    rw [blockPixels, mem_windowPlaces, hw, hh]
    simp
    tauto
  have hstep : ∀ p ∈ blockPixels g i j, ∀ m : Image dst,
      m.width = source.width → m.height = source.height →
      ∃ k, writeColors order (fun color => some ((b.block color).setWidth dst.sampleBits)) p.1 p.2
          m = some k ∧ k.width = source.width ∧ k.height = source.height ∧
        ∀ x < source.width, ∀ y < source.height,
          (p = (x, y) → k.get x y =
            colorPixel order fun color => (b.block color).setWidth dst.sampleBits) ∧
          (¬p = (x, y) → k.get x y = m.get x y) := by
    intro p hp m hmw hmh
    obtain ⟨-, hpx, -, hpy⟩ := hmem.mp hp
    refine ⟨_, writeColors_inside hm.target_channels (hmw ▸ hpx) (hmh ▸ hpy) fun color => rfl, hmw,
      hmh, fun x hx y hy => ?_⟩
    exact write_covers (fun _ _ => colorPixel order fun color =>
      (b.block color).setWidth dst.sampleBits) (hmw ▸ hpx) (hmh ▸ hpy) (hmw ▸ hx)
  obtain ⟨k, hk, hkw, hkh, hcells⟩ := Grid.foldlM_covers hstep hw hh
  refine ⟨k, ?_, hkw, hkh, fun x hx y hy => ⟨fun hxy => ?_, fun hxy => ?_⟩⟩
  · rw [blockStep]
    simp only
    rw [show (if i + 1 < source.width then i else i - 1) = blockStart source.width i from rfl,
      show (if j + 1 < source.height then j else j - 1) = blockStart source.height j from rfl, hb]
    exact hk
  · have hin : (x, y) ∈ blockPixels g i j := hmem.mpr (by simp only; omega)
    rw [(hcells x hx y hy).1 ⟨(x, y), hin, rfl⟩]
    congr 1
    funext color
    rw [blockColors, ← hxy.1, ← hxy.2, hb]
    rfl
  · refine (hcells x hx y hy).2 fun p hp he => hxy ?_
    subst he
    have hp := hmem.mp hp
    simp only at hp
    omega

theorem block_image (hm : Mosaic dst source pattern)
    (h : bayerBlockColors pattern = .ok colors) (order : ColorChannelOrder) :
    ∃ image, (windowPlaces (evenPositions source.width) (evenPositions source.height)).foldlM
        (blockStep colors order source) (blank dst source.width source.height) = some image ∧
      image.width = source.width ∧ image.height = source.height ∧
      ∀ x < source.width, ∀ y < source.height,
        image.get x y = colorPixel order (blockColors dst colors source x y) := by
  have hblank : (blank dst source.width source.height).width = source.width := rfl
  obtain ⟨image, hrun, hw, hh, hcells⟩ := Grid.foldlM_covers (fun p hp g hgw hgh => by
    obtain ⟨hpx, hpy⟩ := mem_windowPlaces.mp hp
    exact blockStep_covers hm h order (mem_evenPositions.mp hpx) (mem_evenPositions.mp hpy) hgw
      hgh) hblank rfl
  refine ⟨image, hrun, hw, hh, fun x hx y hy => ?_⟩
  refine (hcells x hx y hy).1 ⟨(2 * (x / 2), 2 * (y / 2)), mem_windowPlaces.mpr ⟨?_, ?_⟩, rfl, rfl⟩
  · exact mem_evenPositions.mpr (by simp only; omega)
  · exact mem_evenPositions.mpr (by simp only; omega)

/-! ## Images -/

theorem colors_of_named (h : ∀ value, pattern ≠ .other value) :
    ∃ colors, bayerBlockColors pattern = .ok colors := by
  cases pattern with
  | other value => exact absurd rfl (h value)
  | _ => exact ⟨_, rfl⟩

theorem sampleBits_eq (hm : Mosaic dst source pattern) : dst.sampleBits = src.sampleBits := by
  rw [PixFormat.sampleBits, hm.sampleSize]

theorem not_small (hm : Mosaic dst source pattern) :
    ¬((source.width < 2 || source.height < 2) = true) := by
  have := hm.width
  have := hm.height
  simp only [Bool.or_eq_true, decide_eq_true_eq]
  omega

/-- No sum of samples of up to 32 bits exceeds 64 bits. -/
theorem sumsFit_of_narrow (hb : src.sampleBits ≤ 32) (hp : ∀ value, pattern ≠ .other value)
    (method : DemosaicMethod) : BilinearSumsFit source pattern method := by
  obtain ⟨colors, hc⟩ := colors_of_named hp
  refine .inr fun x hx y hy color => ?_
  have h9 := card_neighbourhood_le hc hx hy color
  have hsum := Finset.sum_le_card_nsmul (neighbourhood source pattern color x y) (sample source)
    (2 ^ 32) fun p _ => Nat.le_of_lt
      (Nat.lt_of_lt_of_le (sample_lt p) (Nat.pow_le_pow_right (by decide) hb))
  rw [smul_eq_mul] at hsum
  rw [roundedSum]
  omega

theorem demosaic_bilinear (hm : Mosaic dst source pattern) (order : ColorChannelOrder) :
    Demosaics dst source pattern order .bilinear ↔ BilinearSumsFit source pattern .bilinear := by
  obtain ⟨colors, hc⟩ := colors_of_named hm.pattern
  obtain ⟨image, hrun, hw, hh, hcells⟩ := bilinear_foldlM hm hc order
  have hresult : demosaic dst source pattern order .bilinear = some (.ok image) := by
    rw [demosaic, if_neg (not_small hm), hc]
    simp only [hrun]
    rfl
  have hmean : ∀ x < source.width, ∀ y < source.height, ∀ color,
      IsMean source pattern color x y
        ((image.get x y).channel (channelOf order color)).toNat ↔
      roundedSum source pattern color x y < 2 ^ 64 := by
    intro x hx y hy color
    rw [hcells x hx y hy, colorPixel_channel hm.target_channels, bilinearColors, BitVec.toNat_ofNat]
    refine isMean_iff (neighbourhood_nonempty hm.width hm.height hx hy pattern color)
      (card_neighbourhood_le hc hx hy color) fun p => ?_
    rw [sampleBits_eq hm]
    exact sample_lt p
  constructor
  · rintro ⟨image', hresult', -, -, hright⟩
    rw [hresult] at hresult'
    cases hresult'
    refine .inr fun x hx y hy color => ?_
    exact (hmean x hx y hy color).mp ((hright x hx y hy color).1 rfl)
  · rintro (h | h)
    · cases h
    · refine ⟨image, hresult, hw, hh, fun x hx y hy color => ⟨fun _ => ?_, fun h => by cases h⟩⟩
      exact (hmean x hx y hy color).mpr (h x hx y hy color)

theorem demosaic_block (hm : Mosaic dst source pattern) (order : ColorChannelOrder) :
    Demosaics dst source pattern order .block2x2 := by
  obtain ⟨colors, hc⟩ := colors_of_named hm.pattern
  obtain ⟨image, hrun, hw, hh, hcells⟩ := block_image hm hc order
  refine ⟨image, ?_, hw, hh, fun x hx y hy color => ⟨fun h => (by cases h), fun _ => ?_⟩⟩
  · rw [demosaic, if_neg (not_small hm), hc]
    simp only [hrun]
    rfl
  · have hx' := blockStart_lt hm.width (show 2 * (x / 2) < source.width by omega)
    have hy' := blockStart_lt hm.height (show 2 * (y / 2) < source.height by omega)
    obtain ⟨b, hb, hsamples⟩ := blockSamples_eq hc hx' hy'
    obtain ⟨dx, hdx, dy, hdy, hcolor, hsample⟩ := hsamples color
    rw [blockStart_eq hm.width hx, blockStart_eq hm.height hy] at hcolor hsample
    refine ⟨dx, hdx, dy, hdy, hcolor, ?_⟩
    rw [hcells x hx y hy, colorPixel_channel hm.target_channels, blockColors, hb, Option.getD_some,
      BitVec.toNat_setWidth, sampleBits_eq hm, Nat.mod_eq_of_lt (b.block color).isLt]
    exact hsample

/-- Demosaicing touches nothing outside an image, and its pixels are right exactly if no sum of a
bilinear pixel exceeds 64 bits. -/
theorem demosaic_pixels (dst : PixFormat) (source : Image src) (pattern : BayerPattern)
    (order : ColorChannelOrder) (method : DemosaicMethod) (hm : Mosaic dst source pattern) :
    Demosaics dst source pattern order method ↔ BilinearSumsFit source pattern method := by
  cases method with
  | bilinear => exact demosaic_bilinear hm order
  | block2x2 => exact iff_of_true (demosaic_block hm order) (.inl rfl)

/-- A mosaic of two by two samples that are all full. -/
def whiteMosaic (src : PixFormat) : Image src := Grid.ofFn 2 2 fun _ _ => .ofFn fun _ => -1

theorem demosaic_pixels_white : Demosaics .ch3d8 (whiteMosaic .ch1d8) .rggb .rgb .bilinear :=
  (demosaic_pixels .ch3d8 (whiteMosaic .ch1d8) .rggb .rgb .bilinear
    ⟨rfl, rfl, rfl, by decide, by decide, fun _ h => by cases h⟩).mpr
    (sumsFit_of_narrow (by decide) (fun _ h => by cases h) .bilinear)

/-- The mean of two full 64-bit samples is half of one. -/
theorem white_mosaic_halved : ¬Demosaics .ch3d64 (whiteMosaic .ch1d64) .rggb .rgb .bilinear ∧
    ∃ image, demosaic .ch3d64 (whiteMosaic .ch1d64) .rggb .rgb .bilinear = some (.ok image) ∧
      ((image.get 0 0).channel 1).toNat = 9223372036854775807 := by
  have hvalue : ((demosaic .ch3d64 (whiteMosaic .ch1d64) .rggb .rgb .bilinear).bind
      Except.toOption).map (fun image => ((image.get 0 0).channel 1).toNat) =
        some 9223372036854775807 := by
    decide +kernel
  obtain ⟨image, himage, hvalue⟩ := Option.map_eq_some_iff.mp hvalue
  obtain ⟨result, hresult, himage⟩ := Option.bind_eq_some_iff.mp himage
  cases result with
  | error e => cases himage
  | ok _ =>
    cases himage
    refine ⟨?_, image, hresult, hvalue⟩
    rintro ⟨image', hresult', -, -, hright⟩
    rw [hresult] at hresult'
    cases hresult'
    -- a mean of full samples is full
    have hfull := ((hright 0 (by decide) 0 (by decide) 1).1 rfl).lower (2 ^ 64 - 1) fun p hp => by
      obtain ⟨hp, -⟩ := Finset.mem_filter.mp hp
      obtain ⟨hx, hy⟩ := Finset.mem_product.mp hp
      have hx : p.1 < 2 := Finset.mem_range.mp hx
      have hy : p.2 < 2 := Finset.mem_range.mp hy
      rw [sample, whiteMosaic, Grid.get_ofFn _ hx hy]
      decide
    have hchannel : channelOf .rgb 1 = 1 := rfl
    rw [hchannel, hvalue] at hfull
    exact absurd hfull (by decide)

end WSE.Proof.Wse
