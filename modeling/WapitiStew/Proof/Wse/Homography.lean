import Mathlib
import WapitiStew.Framework.Lists
import WapitiStew.Framework.Projective
import WapitiStew.Framework.Throwing
import WapitiStew.Spec.Wse.Matrix

/-!
# Homographies map their correspondences, or have no value there

A matrix acts on homogeneous coordinates (`image`).

* `image_quadrangleToUnitSquare`: the four points go to the corners of the unit square, each with a
  weight that is not zero when no three of them are on a line.
* `image_unitSquareToQuadrangle`: a corner goes to its point, with the area of a triangle for
  weight: this one is not checked.
* `takesTo_corner`: so the homography takes a corner to its point exactly if the area is not zero.
* `homography_correspondences`: a setup that does not throw maps the points exactly if no three
  points of the destination are on a line.
-/

namespace WSE.Proof.Wse

open WSE.Framework WSE.Impl.Wse WSE.Spec.Wse Homography

/-! ## Homogeneous coordinates -/

/-- The action on `(x, y, w)`. -/
def image (m : List ℚ) (v : ℚ × ℚ × ℚ) : ℚ × ℚ × ℚ :=
  (element m 0 0 * v.1 + element m 1 0 * v.2.1 + element m 2 0 * v.2.2,
    element m 0 1 * v.1 + element m 1 1 * v.2.1 + element m 2 1 * v.2.2,
    element m 0 2 * v.1 + element m 1 2 * v.2.1 + element m 2 2 * v.2.2)

def homogeneous (p : Point2) : ℚ × ℚ × ℚ := (p.x, p.y, 1)

/-- The point with this weight. -/
def weighted (a : ℚ) (p : Point2) : ℚ × ℚ × ℚ := (a * p.x, a * p.y, a)

theorem image_productMatrix (l r : List ℚ) (v : ℚ × ℚ × ℚ) :
    image (productMatrix l r) v = image l (image r v) := by
  have helement (i j : Nat) (hi : i < 3) (hj : j < 3) : element (productMatrix l r) i j =
      0 + element l 0 j * element r i 0 + element l 1 j * element r i 1 +
        element l 2 j * element r i 2 := by
    obtain rfl | rfl | rfl : i = 0 ∨ i = 1 ∨ i = 2 := by omega
    all_goals obtain rfl | rfl | rfl : j = 0 ∨ j = 1 ∨ j = 2 := by omega
    all_goals rfl
  simp only [image, helement, Nat.ofNat_pos, Nat.one_lt_ofNat, Nat.lt_add_one]
  ext <;> ring

theorem image_reduceMatrix (m : List ℚ) (v : ℚ × ℚ × ℚ) : image (reduceMatrix m) v =
    ((image m v).1 / maxAbs m, (image m v).2.1 / maxAbs m, (image m v).2.2 / maxAbs m) := by
  have helement (i j : Nat) : element (reduceMatrix m) i j = element m i j / maxAbs m := by
    rw [element, element, reduceMatrix, List.getD_eq_getElem?_getD, List.getElem?_map,
      List.getD_eq_getElem?_getD]
    cases m[getIndex i j]? with
    | none => exact (zero_div _).symm
    | some a => rfl
  simp only [image, helement]
  ext <;> ring

theorem le_foldl_max (m : List ℚ) (b : ℚ) :
    b ≤ m.foldl (fun max a => if |a| > max then |a| else max) b ∧
      ∀ a ∈ m, |a| ≤ m.foldl (fun max a => if |a| > max then |a| else max) b := by
  induction m generalizing b with
  | nil => exact ⟨le_refl b, fun a ha => nomatch ha⟩
  | cons c m ih =>
    rw [List.foldl_cons]
    obtain ⟨hle, hmem⟩ := ih (if |c| > b then |c| else b)
    have hb : b ≤ if |c| > b then |c| else b := by
      split
      · exact le_of_lt ‹_›
      · exact le_refl b
    have hc : |c| ≤ if |c| > b then |c| else b := by
      split
      · exact le_refl |c|
      · exact not_lt.mp ‹_›
    refine ⟨hb.trans hle, fun a ha => ?_⟩
    obtain rfl | ha := List.mem_cons.mp ha
    · exact hc.trans hle
    · exact hmem a ha

/-- The largest absolute value is zero only when nothing is mapped anywhere. -/
theorem image_of_maxAbs_eq_zero {m : List ℚ} (h : maxAbs m = 0) (v : ℚ × ℚ × ℚ) :
    image m v = (0, 0, 0) := by
  have helement (i j : Nat) : element m i j = 0 := by
    rw [element, List.getD_eq_getElem?_getD]
    cases hm : m[getIndex i j]? with
    | none => rfl
    | some a =>
      have hle := (le_foldl_max m 0).2 a (List.mem_of_getElem? hm)
      exact abs_nonpos_iff.mp (h ▸ hle)
  simp only [image, helement, zero_mul, add_zero]

/-! ## Quadrangles -/

/-- The four points in order. -/
def corner (q : Quadrangle) : Fin 4 → Point2 := ![q.p0, q.p1, q.p2, q.p3]

def unitSquare : Quadrangle := ⟨⟨0, 0⟩, ⟨1, 0⟩, ⟨1, 1⟩, ⟨0, 1⟩⟩

/-- The area that a corner of the unit square has for its weight. -/
def weight (q : Quadrangle) : Fin 4 → ℚ := ![q.area2, q.area3, q.area0, q.area1]

/-- The weight that a source point has. -/
def sourceWeight (q : Quadrangle) : Fin 4 → ℚ :=
  ![q.area0 * q.area3 * q.area1, q.area0 * q.area1 * q.area2, q.area1 * q.area3 * q.area2,
    q.area0 * q.area3 * q.area2]

theorem triple_ext {a b c a' b' c' : ℚ} (ha : a = a') (hb : b = b') (hc : c = c') :
    (a, b, c) = (a', b', c') := by
  rw [ha, hb, hc]

/-! The areas in the coordinates of the points. -/

theorem area0_eq (q : Quadrangle) : q.area0 =
    (q.p1.x - q.p0.x) * (q.p3.y - q.p0.y) - (q.p1.y - q.p0.y) * (q.p3.x - q.p0.x) := rfl

theorem area1_eq (q : Quadrangle) : q.area1 =
    (q.p1.x - q.p0.x) * (q.p2.y - q.p0.y) - (q.p1.y - q.p0.y) * (q.p2.x - q.p0.x) := rfl

theorem area3_eq (q : Quadrangle) : q.area3 =
    (q.p2.x - q.p0.x) * (q.p3.y - q.p0.y) - (q.p2.y - q.p0.y) * (q.p3.x - q.p0.x) := rfl

theorem area2_eq (q : Quadrangle) : q.area2 =
    (q.p2.x - q.p1.x) * (q.p3.y - q.p1.y) - (q.p2.y - q.p1.y) * (q.p3.x - q.p1.x) := by
  rw [Quadrangle.area2, area0_eq, area1_eq, area3_eq]
  ring

/-- The rows of a matrix of nine elements. -/
theorem image_nine (a b c d e f g h k : ℚ) (v : ℚ × ℚ × ℚ) :
    image [a, b, c, d, e, f, g, h, k] v = (a * v.1 + b * v.2.1 + c * v.2.2,
      d * v.1 + e * v.2.1 + f * v.2.2, g * v.1 + h * v.2.1 + k * v.2.2) := rfl

/-- What holds for the four points holds for each corner. -/
theorem corner_cases {motive : Fin 4 → Prop} (p0 : motive 0) (p1 : motive 1) (p2 : motive 2)
    (p3 : motive 3) (i : Fin 4) : motive i := by
  obtain ⟨_ | _ | _ | _ | _, hi⟩ := i
  · exact p0
  · exact p1
  · exact p2
  · exact p3
  · omega

theorem image_unitSquareToQuadrangle (q : Quadrangle) (i : Fin 4) :
    image (unitSquareToQuadrangle q) (homogeneous (corner unitSquare i)) =
      weighted (weight q i) (corner q i) := by
  have h1x : q.vector1.x = q.p1.x - q.p0.x := rfl
  have h1y : q.vector1.y = q.p1.y - q.p0.y := rfl
  have h3x : q.vector3.x = q.p3.x - q.p0.x := rfl
  have h3y : q.vector3.y = q.p3.y - q.p0.y := rfl
  rw [unitSquareToQuadrangle, image_nine, h1x, h1y, h3x, h3y, Quadrangle.area2]
  induction i using corner_cases with
  | p0 =>
    show (_, _, _) = (q.area2 * q.p0.x, q.area2 * q.p0.y, q.area2)
    rw [Quadrangle.area2]
    simp only [homogeneous, corner, unitSquare, Matrix.cons_val_zero]
    ext <;> ring
  | p1 =>
    show (_, _, _) = (q.area3 * q.p1.x, q.area3 * q.p1.y, q.area3)
    simp only [homogeneous, corner, unitSquare, Matrix.cons_val_one, Matrix.cons_val_zero]
    ext <;> ring
  | p2 =>
    show (_, _, _) = (q.area0 * q.p2.x, q.area0 * q.p2.y, q.area0)
    have hx : q.area3 * (q.p1.x - q.p0.x) + q.area1 * (q.p3.x - q.p0.x) =
        q.area0 * (q.p2.x - q.p0.x) := by
      rw [area0_eq, area1_eq, area3_eq]
      ring
    have hy : q.area3 * (q.p1.y - q.p0.y) + q.area1 * (q.p3.y - q.p0.y) =
        q.area0 * (q.p2.y - q.p0.y) := by
      rw [area0_eq, area1_eq, area3_eq]
      ring
    simp only [homogeneous, corner, unitSquare, Matrix.cons_val]
    refine triple_ext ?_ ?_ ?_
    · linear_combination hx
    · linear_combination hy
    · ring
  | p3 =>
    show (_, _, _) = (q.area1 * q.p3.x, q.area1 * q.p3.y, q.area1)
    simp only [homogeneous, corner, unitSquare, Matrix.cons_val]
    ext <;> ring

/-- The four areas that are checked. -/
def HasAreas (q : Quadrangle) : Prop := ∀ i, weight q i ≠ 0

theorem hasAreas_iff (q : Quadrangle) :
    HasAreas q ↔ q.area0 ≠ 0 ∧ q.area1 ≠ 0 ∧ q.area2 ≠ 0 ∧ q.area3 ≠ 0 := by
  constructor
  · intro h
    exact ⟨h 2, h 3, h 0, h 1⟩
  · rintro ⟨h0, h1, h2, h3⟩ i
    induction i using corner_cases with
    | p0 => exact h2
    | p1 => exact h3
    | p2 => exact h0
    | p3 => exact h1

theorem sourceWeight_ne_zero {q : Quadrangle} (h : HasAreas q) (i : Fin 4) :
    sourceWeight q i ≠ 0 := by
  obtain ⟨h0, h1, h2, h3⟩ := (hasAreas_iff q).mp h
  induction i using corner_cases with
  | p0 => exact mul_ne_zero (mul_ne_zero h0 h3) h1
  | p1 => exact mul_ne_zero (mul_ne_zero h0 h1) h2
  | p2 => exact mul_ne_zero (mul_ne_zero h1 h3) h2
  | p3 => exact mul_ne_zero (mul_ne_zero h0 h3) h2

/-- The source is refused unless it has its areas. -/
theorem quadrangleToUnitSquare_cases (q : Quadrangle) :
    (∃ e, quadrangleToUnitSquare q = .error e ∧ ¬HasAreas q) ∨
      ∃ m, quadrangleToUnitSquare q = .ok m ∧ HasAreas q ∧
        ∀ i, image m (homogeneous (corner q i)) =
          weighted (sourceWeight q i) (corner unitSquare i) := by
  rw [quadrangleToUnitSquare]
  split
  · rename_i h
    refine .inl ⟨_, rfl, fun ha => ?_⟩
    obtain ⟨h0, h1, h2, h3⟩ := (hasAreas_iff q).mp ha
    obtain h | h | h | h := h
    · exact h0 h.symm
    · exact h3 h.symm
    · exact h1 h.symm
    · exact h2 h.symm
  rename_i h
  obtain ⟨h0, h3, h1, h2⟩ := by simpa only [not_or, eq_comm (a := (0 : ℚ))] using h
  refine .inr ⟨_, rfl, (hasAreas_iff q).mpr ⟨h0, h1, h2, h3⟩, fun i => ?_⟩
  have h1x : q.vector1.x = q.p1.x - q.p0.x := rfl
  have h1y : q.vector1.y = q.p1.y - q.p0.y := rfl
  have h3x : q.vector3.x = q.p3.x - q.p0.x := rfl
  have h3y : q.vector3.y = q.p3.y - q.p0.y := rfl
  rw [image_nine, h1x, h1y, h3x, h3y]
  induction i using corner_cases with
  | p0 =>
    show (_, _, _) = (q.area0 * q.area3 * q.area1 * 0, q.area0 * q.area3 * q.area1 * 0,
      q.area0 * q.area3 * q.area1)
    simp only [homogeneous, corner, Matrix.cons_val]
    ext <;> ring
  | p1 =>
    show (_, _, _) = (q.area0 * q.area1 * q.area2 * 1, q.area0 * q.area1 * q.area2 * 0,
      q.area0 * q.area1 * q.area2)
    simp only [homogeneous, corner, Matrix.cons_val]
    rw [Quadrangle.area2]
    have hd := area0_eq q
    refine triple_ext ?_ ?_ ?_
    · linear_combination (-q.area1 * (q.area3 + q.area1 - q.area0)) * hd
    · ring
    · linear_combination (-q.area1 * (q.area1 - q.area0)) * hd
  | p2 =>
    show (_, _, _) = (q.area1 * q.area3 * q.area2 * 1, q.area1 * q.area3 * q.area2 * 1,
      q.area1 * q.area3 * q.area2)
    simp only [homogeneous, corner, Matrix.cons_val]
    rw [Quadrangle.area2]
    have hd := area1_eq q
    have he := area3_eq q
    refine triple_ext ?_ ?_ ?_
    · linear_combination (-q.area1 * (q.area3 + q.area1 - q.area0)) * he
    · linear_combination (-q.area3 * (q.area3 + q.area1 - q.area0)) * hd
    · linear_combination (-q.area1 * (q.area1 - q.area0)) * he -
        q.area3 * (q.area3 - q.area0) * hd
  | p3 =>
    show (_, _, _) = (q.area0 * q.area3 * q.area2 * 0, q.area0 * q.area3 * q.area2 * 1,
      q.area0 * q.area3 * q.area2)
    simp only [homogeneous, corner, Matrix.cons_val]
    rw [Quadrangle.area2]
    have hd := area0_eq q
    refine triple_ext ?_ ?_ ?_
    · ring
    · linear_combination (-q.area3 * (q.area3 + q.area1 - q.area0)) * hd
    · linear_combination (-q.area3 * (q.area3 - q.area0)) * hd

/-! ## Correspondences -/

theorem transform_eq (m : List ℚ) (p : Point2) :
    denominator m p = (image m (homogeneous p)).2.2 ∧
      transform m p = ⟨(image m (homogeneous p)).1 / denominator m p,
        (image m (homogeneous p)).2.1 / denominator m p⟩ := by
  simp only [transform, denominator, image, homogeneous, mul_one, and_self]

/-- What one point is taken to, by the weight that it has in the image. -/
theorem takesTo_weighted {m : List ℚ} {p q : Point2} {a : ℚ}
    (h : image m (homogeneous p) = weighted a q) :
    (denominator m p ≠ 0 ∧ transform m p = q) ↔ a ≠ 0 := by
  obtain ⟨hd, ht⟩ := transform_eq m p
  rw [h] at hd ht
  rw [ht, hd]
  refine ⟨And.left, fun ha => ⟨ha, ?_⟩⟩
  show (⟨a * q.x / a, a * q.y / a⟩ : Point2) = q
  rw [mul_div_cancel_left₀ _ ha, mul_div_cancel_left₀ _ ha]

/-- The homography takes a corner to its point exactly if the area there is not zero. -/
theorem takesTo_corner {q r : Quadrangle} {m s : List ℚ} (hs : quadrangleToUnitSquare q = .ok s)
    (hm : m = reduceMatrix (productMatrix (unitSquareToQuadrangle r) s)) (i : Fin 4) :
    (denominator m (corner q i) ≠ 0 ∧ transform m (corner q i) = corner r i) ↔
      weight r i ≠ 0 := by
  obtain ⟨e, he, -⟩ | ⟨s', hs', hareas, himage⟩ := quadrangleToUnitSquare_cases q
  · cases hs.symm.trans he
  cases hs.symm.trans hs'
  have hw := sourceWeight_ne_zero hareas i
  have hproduct : image (productMatrix (unitSquareToQuadrangle r) s) (homogeneous (corner q i)) =
      weighted (sourceWeight q i * weight r i) (corner r i) := by
    rw [image_productMatrix, himage]
    have hr := image_unitSquareToQuadrangle r i
    simp only [image, homogeneous, weighted, Prod.mk.injEq] at hr ⊢
    obtain ⟨hx, hy, hz⟩ := hr
    refine ⟨?_, ?_, ?_⟩
    · linear_combination sourceWeight q i * hx
    · linear_combination sourceWeight q i * hy
    · linear_combination sourceWeight q i * hz
  have hreduced : image m (homogeneous (corner q i)) = weighted (sourceWeight q i * weight r i /
      maxAbs (productMatrix (unitSquareToQuadrangle r) s)) (corner r i) := by
    rw [hm, image_reduceMatrix, hproduct]
    refine triple_ext ?_ ?_ rfl
    · exact mul_div_right_comm _ _ _
    · exact mul_div_right_comm _ _ _
  rw [takesTo_weighted hreduced]
  constructor
  · rintro h h0
    rw [h0, mul_zero, zero_div] at h
    exact h rfl
  · intro hr
    refine div_ne_zero (mul_ne_zero hw hr) fun hmax => mul_ne_zero hw hr ?_
    have hzero := image_of_maxAbs_eq_zero hmax (homogeneous (corner q i))
    rw [hproduct] at hzero
    exact congrArg (·.2.2) hzero

theorem length_generate {q r : Quadrangle} {m : List ℚ}
    (h : generateHomography4Points q r = .ok m) : m.length = 9 := by
  obtain ⟨s, -, h⟩ := except_bind_ok h
  cases h
  rw [reduceMatrix, List.length_map, productMatrix, List.length_map, List.length_range]

theorem set_all {m elements : List ℚ} (hm : m.length = 9) (he : elements.length = 9) :
    (List.range m.length).foldl (fun m i => m.set i (elements.getD i 0)) m = elements := by
  match m, hm, elements, he with
  | [_, _, _, _, _, _, _, _, _], _, [_, _, _, _, _, _, _, _, _], _ => rfl

theorem setup_error {src dst : List Point2} {e : HomographyError} (h : generate src dst = .error e)
    (stored : List ℚ) : setup src dst stored = .error e stored := by
  rw [setup, h]
  rfl

theorem setup_ok {src dst : List Point2} {elements stored : List ℚ}
    (h : generate src dst = .ok elements) (he : elements.length = 9) (hs : stored.length = 9) :
    setup src dst stored = .ok () elements := by
  rw [setup, h]
  show (ite (elements.length ≠ stored.length) _ _ : EStateM HomographyError (List ℚ) Unit)
    stored = _
  rw [if_neg (not_not.mpr (he.trans hs.symm))]
  exact congrArg (EStateM.Result.ok ()) (set_all hs he)

theorem setup_refused {src dst : List Point2} {elements stored : List ℚ}
    (h : generate src dst = .ok elements) (he : elements.length ≠ stored.length) :
    ∃ e, setup src dst stored = .error e stored := by
  rw [setup, h]
  show ∃ e, (ite (elements.length ≠ stored.length) _ _ : EStateM HomographyError (List ℚ) Unit)
    stored = .error e stored
  rw [if_pos he]
  exact ⟨_, rfl⟩

/-- A setup from four points, given or made. -/
theorem setup_cases {src dst : List Point2} {q r : Quadrangle}
    (h : generate src dst = generateHomography4Points q r) (stored : List ℚ) :
    ((∃ e, setup src dst stored = .error e stored) ∧ (stored.length ≠ 9 ∨ ¬HasAreas q)) ∨
      ∃ m, setup src dst stored = .ok () m ∧ stored.length = 9 ∧ HasAreas q ∧ ∀ i,
        (denominator m (corner q i) ≠ 0 ∧ transform m (corner q i) = corner r i) ↔
          weight r i ≠ 0 := by
  obtain ⟨e, he, hareas⟩ | ⟨s, hs, hareas, -⟩ := quadrangleToUnitSquare_cases q
  · refine .inl ⟨⟨e, setup_error (h.trans ?_) stored⟩, .inr hareas⟩
    rw [generateHomography4Points, he]
    rfl
  have hgen : generateHomography4Points q r =
      .ok (reduceMatrix (productMatrix (unitSquareToQuadrangle r) s)) := by
    rw [generateHomography4Points, hs]
    rfl
  have hnine := length_generate hgen
  by_cases hlen : stored.length = 9
  · exact .inr ⟨_, setup_ok (h.trans hgen) hnine hlen, hlen, hareas, takesTo_corner hs rfl⟩
  · exact .inl ⟨setup_refused (h.trans hgen) fun he => hlen (he.symm.trans hnine), .inl hlen⟩

/-! ## Positions -/

theorem inGeneralPosition_iff (q : Quadrangle) :
    InGeneralPosition [q.p0, q.p1, q.p2, q.p3] ↔ HasAreas q := by
  rw [hasAreas_iff, area0_eq, area1_eq, area2_eq, area3_eq]
  constructor
  · intro h
    exact ⟨h 0 1 3 _ _ _ (by decide) (by decide) rfl rfl rfl,
      h 0 1 2 _ _ _ (by decide) (by decide) rfl rfl rfl,
      h 1 2 3 _ _ _ (by decide) (by decide) rfl rfl rfl,
      h 0 2 3 _ _ _ (by decide) (by decide) rfl rfl rfl⟩
  · rintro ⟨h0, h1, h2, h3⟩ i j k a b c hij hjk ha hb hc
    have hk := lt_of_getElem? hc
    obtain ⟨rfl, rfl, rfl⟩ | ⟨rfl, rfl, rfl⟩ | ⟨rfl, rfl, rfl⟩ | ⟨rfl, rfl, rfl⟩ :
        (i = 0 ∧ j = 1 ∧ k = 2) ∨ (i = 0 ∧ j = 1 ∧ k = 3) ∨ (i = 0 ∧ j = 2 ∧ k = 3) ∨
          (i = 1 ∧ j = 2 ∧ k = 3) := by
      simp only [List.length_cons, List.length_nil] at hk
      omega
    all_goals
      cases ha
      cases hb
      cases hc
      assumption

/-- A rectangle has all its areas or none. -/
theorem weight_rectangle (p q : Point2) (i : Fin 4) :
    weight (rectangle p q) i = (q.x - p.x) * (q.y - p.y) := by
  induction i using corner_cases with
  | p0 =>
    show (rectangle p q).area2 = _
    rw [area2_eq, rectangle]
    ring
  | p1 =>
    show (rectangle p q).area3 = _
    rw [area3_eq, rectangle]
    ring
  | p2 =>
    show (rectangle p q).area0 = _
    rw [area0_eq, rectangle]
    ring
  | p3 =>
    show (rectangle p q).area1 = _
    rw [area1_eq, rectangle]
    ring

/-- Points that are some of the corners of the lists, enough to tell whether the others have their
areas. -/
theorem setsUp_iff {src dst ps qs : List Point2} {q r : Quadrangle}
    (h : generate src dst = generateHomography4Points q r) (stored : List ℚ) (c : List (Fin 4))
    (hp : ps = c.map (corner q)) (hq : qs = c.map (corner r))
    (hall : (∀ i ∈ c, weight r i ≠ 0) → HasAreas r) :
    SetsUp stored src dst ps qs ↔ stored.length ≠ 9 ∨ ¬HasAreas q ∨ HasAreas r := by
  obtain ⟨⟨e, he⟩, hrefused⟩ | ⟨m, hm, hlen, hareas, hcorner⟩ := setup_cases h stored
  · rw [SetsUp, he]
    refine iff_of_true rfl ?_
    obtain hlen | hareas := hrefused
    · exact .inl hlen
    · exact .inr (.inl hareas)
  rw [SetsUp, hm]
  show TakesTo m ps qs ↔ _
  have htakes : TakesTo m ps qs ↔ ∀ i ∈ c, weight r i ≠ 0 := by
    subst hp hq
    constructor
    · intro ht i hi
      obtain ⟨k, hk⟩ := List.mem_iff_getElem?.mp hi
      refine (hcorner i).mp (ht k _ _ ?_ ?_)
      · rw [List.getElem?_map, hk, Option.map_some]
      · rw [List.getElem?_map, hk, Option.map_some]
    · intro hw k a b ha hb
      rw [List.getElem?_map] at ha hb
      obtain ⟨i, hi, rfl⟩ := Option.map_eq_some_iff.mp ha
      obtain ⟨j, hj, rfl⟩ := Option.map_eq_some_iff.mp hb
      cases hi.symm.trans hj
      exact (hcorner i).mpr (hw i (List.mem_of_getElem? hi))
  rw [htakes]
  constructor
  · exact fun hw => .inr (.inr (hall hw))
  · rintro (h9 | hq | hr) i -
    · exact absurd hlen h9
    · exact absurd hareas hq
    · exact hr i

/-- A setup throws and changes nothing, or maps its points: exactly if the source is refused or no
three points of the destination are on a line. This holds of the points that are given, and of the
corners that two points stand for. -/
theorem homography_correspondences {src dst : List Point2} (h : TwoOrFour src dst)
    (stored : List ℚ) :
    (SetsUp stored src dst src dst ↔
      stored.length ≠ 9 ∨ ¬InGeneralPosition (corners src) ∨ InGeneralPosition (corners dst)) ∧
    (SetsUp stored src dst (corners src) (corners dst) ↔
      stored.length ≠ 9 ∨ ¬InGeneralPosition (corners src) ∨ InGeneralPosition (corners dst)) := by
  obtain ⟨hlen, htwo | hfour⟩ := h
  · match src, dst, htwo, hlen.symm.trans htwo with
    | [s0, s1], [d0, d1], _, _ =>
      have hq : InGeneralPosition (corners [s0, s1]) ↔ _ := inGeneralPosition_iff (rectangle s0 s1)
      have hr : InGeneralPosition (corners [d0, d1]) ↔ _ := inGeneralPosition_iff (rectangle d0 d1)
      have hall (i : Fin 4) (hi : weight (rectangle d0 d1) i ≠ 0) : HasAreas (rectangle d0 d1) :=
        fun j => by rwa [weight_rectangle] at hi ⊢
      rw [hq, hr]
      exact ⟨setsUp_iff rfl stored [0, 2] rfl rfl fun hw => hall 0 (hw 0 (by decide)),
        setsUp_iff rfl stored [0, 1, 2, 3] rfl rfl fun hw => hall 0 (hw 0 (by decide))⟩
  · match src, dst, hfour, hlen.symm.trans hfour with
    | [s0, s1, s2, s3], [d0, d1, d2, d3], _, _ =>
      have hq : InGeneralPosition (corners [s0, s1, s2, s3]) ↔ _ :=
        inGeneralPosition_iff ⟨s0, s1, s2, s3⟩
      have hr : InGeneralPosition (corners [d0, d1, d2, d3]) ↔ _ :=
        inGeneralPosition_iff ⟨d0, d1, d2, d3⟩
      have hmem : ∀ i : Fin 4, i ∈ [0, 1, 2, 3] := by decide
      rw [hq, hr]
      exact ⟨setsUp_iff rfl stored [0, 1, 2, 3] rfl rfl fun hw i => hw i (hmem i),
        setsUp_iff rfl stored [0, 1, 2, 3] rfl rfl fun hw i => hw i (hmem i)⟩

def pointList (q : Quadrangle) : List Point2 := [q.p0, q.p1, q.p2, q.p3]

def trapezoid : Quadrangle := ⟨⟨0, 0⟩, ⟨4, 0⟩, ⟨3, 2⟩, ⟨1, 2⟩⟩

/-- The first three points are on a line. -/
def fallen : Quadrangle := ⟨⟨0, 0⟩, ⟨1, 0⟩, ⟨2, 0⟩, ⟨0, 1⟩⟩

def identity : List ℚ := [1, 0, 0, 0, 1, 0, 0, 0, 1]

theorem hasAreas_unitSquare : HasAreas unitSquare := (hasAreas_iff _).mpr (by decide +kernel)

theorem hasAreas_trapezoid : HasAreas trapezoid := (hasAreas_iff _).mpr (by decide +kernel)

theorem homography_correspondences_trapezoid : SetsUp identity (pointList unitSquare)
    (pointList trapezoid) (pointList unitSquare) (pointList trapezoid) :=
  have hpoints : TwoOrFour (pointList unitSquare) (pointList trapezoid) := ⟨rfl, .inr rfl⟩
  have hgeneral : InGeneralPosition (corners (pointList trapezoid)) :=
    (inGeneralPosition_iff trapezoid).mpr hasAreas_trapezoid
  (homography_correspondences hpoints identity).1.mpr (.inr (.inr hgeneral))

/-- Three points of the destination are on a line, which is not noticed; the transformation has no
value at the point of the source that goes to the fourth. -/
theorem homography_correspondences_broken : ¬∀ stored src dst, TwoOrFour src dst →
    SetsUp stored src dst src dst := by
  intro h
  have hs := h identity (pointList unitSquare) (pointList fallen) ⟨rfl, .inr rfl⟩
  have hmem : ∀ i : Fin 4, i ∈ [0, 1, 2, 3] := by decide
  have hiff : SetsUp identity (pointList unitSquare) (pointList fallen) (pointList unitSquare)
      (pointList fallen) ↔ _ :=
    setsUp_iff (q := unitSquare) (r := fallen) rfl identity [0, 1, 2, 3] rfl rfl
      fun hw i => hw i (hmem i)
  obtain h9 | hq | hr := hiff.mp hs
  · exact h9 rfl
  · exact hq hasAreas_unitSquare
  · exact hr 3 (by decide +kernel)

/-!
## Homographies are maps of the plane

Homogeneous coordinates are vectors, and a matrix is a linear map of them (`imageMap`). Four points
of which no three are on a line are a frame (`smul_of_corners`), so that a homography keeps lines,
is given by any four of its points, and composes with others.
-/

/-! ### Vectors -/

def imageMap (m : List ℚ) : (ℚ × ℚ × ℚ) →ₗ[ℚ] ℚ × ℚ × ℚ where
  toFun := image m
  map_add' v w := by
    simp only [image, Prod.fst_add, Prod.snd_add, Prod.mk_add_mk]
    refine triple_ext ?_ ?_ ?_ <;> ring
  map_smul' c v := by
    simp only [image, Prod.smul_fst, Prod.smul_snd, Prod.smul_mk, smul_eq_mul, RingHom.id_apply]
    refine triple_ext ?_ ?_ ?_ <;> ring

/-- The coordinates of three points. -/
def vertices (p q r : Point2) : Fin 3 → ℚ × ℚ × ℚ := ![homogeneous p, homogeneous q, homogeneous r]

theorem linearIndependent_vertices {p q r : Point2} :
    LinearIndependent ℚ (vertices p q r) ↔ ¬Collinear p q r := by
  rw [Fintype.linearIndependent_iff]
  simp only [Fin.sum_univ_three, vertices, Matrix.cons_val, homogeneous, Prod.smul_mk, smul_eq_mul,
    Prod.mk_add_mk, Prod.mk_eq_zero, mul_one]
  constructor
  · intro h hline
    rw [Spec.Wse.Collinear] at hline
    -- a coordinate in which two of the points differ gives a relation
    by_cases hx : q.x - p.x = 0
    · by_cases hy : q.y - p.y = 0
      · have h0 := h ![1, -1, 0] (by
          simp only [Matrix.cons_val]
          refine ⟨?_, ?_, ?_⟩
          · linear_combination -hx
          · linear_combination -hy
          · ring) 0
        exact one_ne_zero h0
      · have h0 := h ![q.y - r.y, r.y - p.y, -(q.y - p.y)] (by
          simp only [Matrix.cons_val]
          refine ⟨?_, ?_, ?_⟩
          · linear_combination hline
          · ring
          · ring) 2
        exact hy (neg_eq_zero.mp h0)
    · have h0 := h ![q.x - r.x, r.x - p.x, -(q.x - p.x)] (by
        simp only [Matrix.cons_val]
        refine ⟨?_, ?_, ?_⟩
        · ring
        · linear_combination -hline
        · ring) 2
      exact hx (neg_eq_zero.mp h0)
  · rintro h c ⟨hx, hy, hw⟩
    rw [Spec.Wse.Collinear] at h
    have h0 : c 0 = 0 := (mul_eq_zero.mp (show c 0 * _ = 0 by
      linear_combination (q.y - r.y) * hx - (q.x - r.x) * hy +
        (q.x * r.y - q.y * r.x) * hw)).resolve_right h
    have h1 : c 1 = 0 := (mul_eq_zero.mp (show c 1 * _ = 0 by
      linear_combination (r.y - p.y) * hx - (r.x - p.x) * hy +
        (r.x * p.y - r.y * p.x) * hw)).resolve_right h
    intro i
    induction i using Fin.cases with
    | zero => exact h0
    | succ i =>
      induction i using Fin.cases with
      | zero => exact h1
      | succ i =>
        obtain rfl : i = 0 := Subsingleton.elim _ _
        show c 2 = 0
        linear_combination hw - h0 - h1

theorem span_vertices {p q r : Point2} (h : ¬Collinear p q r) :
    Submodule.span ℚ (Set.range (vertices p q r)) = ⊤ := by
  refine (linearIndependent_vertices.mpr h).span_eq_top_of_card_eq_finrank' ?_
  simp

theorem weighted_eq (a : ℚ) (p : Point2) : weighted a p = a • homogeneous p := by
  simp only [weighted, homogeneous, Prod.smul_mk, smul_eq_mul, mul_one]

/-- Where it has a value, the matrix gives its coordinates, up to a scalar. -/
theorem imageMap_homogeneous {m : List ℚ} {p : Point2} (h : denominator m p ≠ 0) :
    imageMap m (homogeneous p) = denominator m p • homogeneous (transform m p) := by
  obtain ⟨hd, ht⟩ := transform_eq m p
  rw [← weighted_eq, ht]
  refine triple_ext ?_ ?_ hd.symm
  · exact (mul_div_cancel₀ _ h).symm
  · exact (mul_div_cancel₀ _ h).symm

/-! ### Frames -/

section Frames

variable {q r : Quadrangle}

theorem not_collinear_of_areas (hq : HasAreas q) : ¬Collinear q.p0 q.p1 q.p2 := by
  rw [Spec.Wse.Collinear, ← area1_eq]
  exact ((hasAreas_iff q).mp hq).2.1

/-- The fourth corner in terms of the others. -/
theorem fourth_corner (q : Quadrangle) :
    ∑ i, ![q.area2, -q.area3, q.area0] i • vertices q.p0 q.p1 q.p2 i = q.area1 • homogeneous q.p3 := by
  simp only [Fin.sum_univ_three, vertices, Matrix.cons_val, homogeneous, Prod.smul_mk,
    smul_eq_mul, Prod.mk_add_mk, area0_eq, area1_eq, area2_eq, area3_eq]
  refine triple_ext ?_ ?_ ?_ <;> ring

/-- Two maps that agree on the corners, up to scalars, agree up to one scalar. -/
theorem smul_of_corners (hq : HasAreas q) {f g : (ℚ × ℚ × ℚ) →ₗ[ℚ] ℚ × ℚ × ℚ}
    (hf : LinearMap.ker f = ⊥) {a : Fin 4 → ℚ}
    (h : ∀ i, g (homogeneous (corner q i)) = a i • f (homogeneous (corner q i))) :
    g = a 3 • f := by
  obtain ⟨h0, -, h2, h3⟩ := (hasAreas_iff q).mp hq
  have hline := not_collinear_of_areas hq
  refine smul_of_frame (v := vertices q.p0 q.p1 q.p2) (c := ![q.area2, -q.area3, q.area0])
    (a := ![a 0, a 1, a 2]) (span_vertices hline)
    ((linearIndependent_vertices.mpr hline).map' f hf) (fun i => ?_) (fun i => ?_) ?_
  · fin_cases i
    · exact h2
    · exact neg_ne_zero.mpr h3
    · exact h0
  · fin_cases i
    · exact h 0
    · exact h 1
    · exact h 2
  · rw [fourth_corner, map_smul, map_smul]
    exact (congrArg (q.area1 • ·) (h 3)).trans (smul_comm _ _ _)

/-- The matrix takes the corners to the corners. -/
def TakesCorners (m : List ℚ) (q r : Quadrangle) : Prop :=
  ∀ i, denominator m (corner q i) ≠ 0 ∧ transform m (corner q i) = corner r i

theorem TakesCorners.image {m : List ℚ} (h : TakesCorners m q r) (i : Fin 4) :
    imageMap m (homogeneous (corner q i)) =
      denominator m (corner q i) • homogeneous (corner r i) := by
  rw [imageMap_homogeneous (h i).1, (h i).2]

theorem TakesCorners.injective {m : List ℚ} (h : TakesCorners m q r) (hq : HasAreas q)
    (hr : HasAreas r) : LinearMap.ker (imageMap m) = ⊥ := by
  refine ker_eq_bot_of_independent (span_vertices (not_collinear_of_areas hq)) ?_
  have hscaled : imageMap m ∘ vertices q.p0 q.p1 q.p2 =
      (fun i : Fin 3 => Units.mk0 _ (h (Fin.castSucc i)).1) • vertices r.p0 r.p1 r.p2 := by
    funext i
    fin_cases i
    · exact h.image 0
    · exact h.image 1
    · exact h.image 2
  rw [hscaled, LinearIndependent.units_smul_iff]
  exact linearIndependent_vertices.mpr (not_collinear_of_areas hr)

end Frames

/-! ### Maps of the plane -/

section Maps

variable {m n k : List ℚ}

theorem collinear_transform (hm : LinearMap.ker (imageMap m) = ⊥) {p q r : Point2}
    (hp : denominator m p ≠ 0) (hq : denominator m q ≠ 0) (hr : denominator m r ≠ 0) :
    Collinear (transform m p) (transform m q) (transform m r) ↔ Collinear p q r := by
  refine not_iff_not.mp ?_
  rw [← linearIndependent_vertices, ← linearIndependent_vertices]
  refine linearIndependent_of_smul hm (a := ![denominator m p, denominator m q, denominator m r])
    (fun i => ?_) fun i => ?_
  · fin_cases i
    · exact hp
    · exact hq
    · exact hr
  · fin_cases i
    · exact imageMap_homogeneous hp
    · exact imageMap_homogeneous hq
    · exact imageMap_homogeneous hr

theorem areas_transform {q r : Quadrangle} (hm : LinearMap.ker (imageMap m) = ⊥)
    (h : TakesCorners m q r) (hq : HasAreas q) : HasAreas r := by
  have hline {i j l : Fin 4} : Collinear (corner r i) (corner r j) (corner r l) ↔
      Collinear (corner q i) (corner q j) (corner q l) := by
    rw [← (h i).2, ← (h j).2, ← (h l).2]
    exact collinear_transform hm (h i).1 (h j).1 (h l).1
  simp only [hasAreas_iff, area0_eq, area1_eq, area2_eq, area3_eq] at hq ⊢
  obtain ⟨h0, h1, h2, h3⟩ := hq
  exact ⟨mt (hline (i := 0) (j := 1) (l := 3)).mp h0, mt (hline (i := 0) (j := 1) (l := 2)).mp h1,
    mt (hline (i := 1) (j := 2) (l := 3)).mp h2, mt (hline (i := 0) (j := 2) (l := 3)).mp h3⟩

theorem sameMap_of_smul {c : ℚ} (hc : c ≠ 0) (h : imageMap n = c • imageMap m) : SameMap m n := by
  intro p
  have himage : imageMap n (homogeneous p) = c • imageMap m (homogeneous p) := by
    rw [h, LinearMap.smul_apply]
  obtain ⟨hdm, htm⟩ := transform_eq m p
  obtain ⟨hdn, htn⟩ := transform_eq n p
  have hden : denominator n p = c * denominator m p := by
    rw [hdn, hdm]
    exact congrArg (·.2.2) himage
  refine ⟨?_, fun hp => ?_⟩
  · rw [hden]
    exact ⟨mul_ne_zero hc, right_ne_zero_of_mul⟩
  · rw [htm, htn, hden]
    have hx : (image n (homogeneous p)).1 = c * (image m (homogeneous p)).1 :=
      congrArg (·.1) himage
    have hy : (image n (homogeneous p)).2.1 = c * (image m (homogeneous p)).2.1 :=
      congrArg (·.2.1) himage
    rw [hx, hy, mul_div_mul_left _ _ hc, mul_div_mul_left _ _ hc]

/-- The product of the maps, where the first one has a value. -/
theorem product_homogeneous {p : Point2} (hp : denominator m p ≠ 0) :
    (imageMap n ∘ₗ imageMap m) (homogeneous p) =
      denominator m p • imageMap n (homogeneous (transform m p)) := by
  rw [LinearMap.comp_apply, imageMap_homogeneous hp, map_smul]

theorem isComposite_of_smul {c : ℚ} (hc : c ≠ 0)
    (h : imageMap n ∘ₗ imageMap m = c • imageMap k) : IsComposite k n m := by
  intro p hp
  -- on this point, `n` is a scaled copy of `k`
  have himage : imageMap n (homogeneous (transform m p)) =
      ((denominator m p)⁻¹ * c) • imageMap k (homogeneous p) := by
    have hproduct := product_homogeneous (n := n) hp
    rw [h, LinearMap.smul_apply] at hproduct
    rw [mul_smul, hproduct, smul_smul, inv_mul_cancel₀ hp, one_smul]
  have hscale : (denominator m p)⁻¹ * c ≠ 0 := mul_ne_zero (inv_ne_zero hp) hc
  obtain ⟨hdk, htk⟩ := transform_eq k p
  obtain ⟨hdn, htn⟩ := transform_eq n (transform m p)
  have hden : denominator n (transform m p) =
      (denominator m p)⁻¹ * c * denominator k p := by
    rw [hdn, hdk]
    exact congrArg (·.2.2) himage
  refine ⟨?_, fun hk => ?_⟩
  · rw [hden]
    exact ⟨mul_ne_zero hscale, right_ne_zero_of_mul⟩
  · rw [htk, htn, hden]
    have hx : (image n (homogeneous (transform m p))).1 =
        (denominator m p)⁻¹ * c * (image k (homogeneous p)).1 := congrArg (·.1) himage
    have hy : (image n (homogeneous (transform m p))).2.1 =
        (denominator m p)⁻¹ * c * (image k (homogeneous p)).2.1 := congrArg (·.2.1) himage
    rw [hx, hy, mul_div_mul_left _ _ hscale, mul_div_mul_left _ _ hscale]

theorem undoes_of_smul {c : ℚ} (hc : c ≠ 0)
    (h : imageMap n ∘ₗ imageMap m = c • LinearMap.id) : Undoes n m := by
  intro p hp
  have himage : imageMap n (homogeneous (transform m p)) =
      ((denominator m p)⁻¹ * c) • homogeneous p := by
    have hproduct := product_homogeneous (n := n) hp
    rw [h, LinearMap.smul_apply, LinearMap.id_apply] at hproduct
    rw [mul_smul, hproduct, smul_smul, inv_mul_cancel₀ hp, one_smul]
  exact (takesTo_weighted (himage.trans (weighted_eq _ _).symm)).mpr
    (mul_ne_zero (inv_ne_zero hp) hc)

end Maps

/-! ### Setups -/

section Setups

variable {src dst : List Point2} {stored m : List ℚ}

/-- The corners of two lists. -/
theorem exists_quadrangles (h : TwoOrFour src dst) :
    ∃ q r, corners src = pointList q ∧ corners dst = pointList r ∧
      generate src dst = generateHomography4Points q r := by
  obtain ⟨hlen, htwo | hfour⟩ := h
  · match src, dst, htwo, hlen.symm.trans htwo with
    | [s0, s1], [d0, d1], _, _ => exact ⟨rectangle s0 s1, rectangle d0 d1, rfl, rfl, rfl⟩
  · match src, dst, hfour, hlen.symm.trans hfour with
    | [s0, s1, s2, s3], [d0, d1, d2, d3], _, _ =>
      exact ⟨⟨s0, s1, s2, s3⟩, ⟨d0, d1, d2, d3⟩, rfl, rfl, rfl⟩

theorem pointList_injective {q r : Quadrangle} (h : pointList q = pointList r) : q = r := by
  cases q
  cases r
  simp only [pointList, List.cons.injEq] at h
  obtain ⟨rfl, rfl, rfl, rfl, -⟩ := h
  rfl

/-- A setup takes the corners of the source to those of the destination, if these have areas. -/
theorem setup_takes (h : TwoOrFour src dst) {q r : Quadrangle} (hsrc : corners src = pointList q)
    (hdst : corners dst = pointList r) (hr : HasAreas r)
    (hset : setup src dst stored = .ok () m) : HasAreas q ∧ TakesCorners m q r := by
  obtain ⟨q', r', hq', hr', hgenerate⟩ := exists_quadrangles h
  obtain rfl := pointList_injective (hsrc.symm.trans hq')
  obtain rfl := pointList_injective (hdst.symm.trans hr')
  obtain ⟨⟨e, he⟩, -⟩ | ⟨n, hn, -, hareas, hcorner⟩ := setup_cases hgenerate stored
  · cases hset.symm.trans he
  · cases hset.symm.trans hn
    exact ⟨hareas, fun i => (hcorner i).mpr (hr i)⟩

theorem takesCorners_of_takesTo {q r : Quadrangle}
    (h : TakesTo m (pointList q) (pointList r)) : TakesCorners m q r := by
  intro i
  induction i using corner_cases with
  | p0 => exact h 0 _ _ rfl rfl
  | p1 => exact h 1 _ _ rfl rfl
  | p2 => exact h 2 _ _ rfl rfl
  | p3 => exact h 3 _ _ rfl rfl

/-- A matrix that takes the same corners to the same corners. -/
theorem sameMap_of_corners {q r : Quadrangle} {n : List ℚ} (hq : HasAreas q)
    (hker : LinearMap.ker (imageMap m) = ⊥) (hm : TakesCorners m q r)
    (hn : TakesCorners n q r) : SameMap m n := by
  have hscaled : imageMap n = (denominator n (corner q 3) / denominator m (corner q 3)) •
      imageMap m := by
    refine smul_of_corners hq hker
      (a := fun i => denominator n (corner q i) / denominator m (corner q i)) fun i => ?_
    rw [hn.image, hm.image, smul_smul, div_mul_cancel₀ _ (hm i).1]
  exact sameMap_of_smul (div_ne_zero (hn 3).1 (hm 3).1) hscaled

theorem isComposite_of_corners {q r t : Quadrangle} {n k : List ℚ} (hq : HasAreas q)
    (ht : HasAreas t) (hm : TakesCorners m q r) (hn : TakesCorners n r t)
    (hk : TakesCorners k q t) : IsComposite k n m := by
  have hscaled : imageMap n ∘ₗ imageMap m = (denominator m (corner q 3) *
      denominator n (corner r 3) / denominator k (corner q 3)) • imageMap k := by
    refine smul_of_corners hq (hk.injective hq ht) (a := fun i => denominator m (corner q i) *
      denominator n (corner r i) / denominator k (corner q i)) fun i => ?_
    rw [LinearMap.comp_apply, hm.image, map_smul, hn.image, hk.image, smul_smul, smul_smul,
      div_mul_cancel₀ _ (hk i).1]
  exact isComposite_of_smul (div_ne_zero (mul_ne_zero (hm 3).1 (hn 3).1) (hk 3).1) hscaled

theorem undoes_of_corners {q r : Quadrangle} {n : List ℚ} (hq : HasAreas q)
    (hm : TakesCorners m q r) (hn : TakesCorners n r q) : Undoes n m := by
  have hscaled : imageMap n ∘ₗ imageMap m = (denominator m (corner q 3) *
      denominator n (corner r 3)) • LinearMap.id := by
    refine smul_of_corners hq LinearMap.ker_id
      (a := fun i => denominator m (corner q i) * denominator n (corner r i)) fun i => ?_
    rw [LinearMap.comp_apply, hm.image, map_smul, hn.image, smul_smul, LinearMap.id_apply]
  exact undoes_of_smul (mul_ne_zero (hm 3).1 (hn 3).1) hscaled

/-- A homography that was set up keeps lines, is given by any four of its points, and composes with
others; the one with the points exchanged takes it back. -/
theorem homography_projective (h : TwoOrFour src dst) (hdst : InGeneralPosition (corners dst))
    (hset : setup src dst stored = .ok () m) : IsProjective src dst m := by
  obtain ⟨q, r, hq, hr, -⟩ := exists_quadrangles h
  have hrgeneral : InGeneralPosition (pointList r) := hr ▸ hdst
  have hrareas : HasAreas r := (inGeneralPosition_iff r).mp hrgeneral
  obtain ⟨hqareas, htakes⟩ := setup_takes h hq hr hrareas hset
  have hker := htakes.injective hqareas hrareas
  constructor
  · exact fun a b c => collinear_transform hker
  · intro ps qs stored' hps hqs hlen hgeneral hpoints
    have hfour : TwoOrFour ps qs := ⟨hps.trans hqs.symm, .inr hps⟩
    match ps, qs, hps, hqs with
    | [p0, p1, p2, p3], [q0, q1, q2, q3], _, _ =>
      have hareas : HasAreas ⟨p0, p1, p2, p3⟩ :=
        (inGeneralPosition_iff ⟨p0, p1, p2, p3⟩).mp hgeneral
      have hcorners := takesCorners_of_takesTo (q := ⟨p0, p1, p2, p3⟩) (r := ⟨q0, q1, q2, q3⟩)
        hpoints
      have himage := areas_transform hker hcorners hareas
      have hgenerate : generate [p0, p1, p2, p3] [q0, q1, q2, q3] =
          generateHomography4Points ⟨p0, p1, p2, p3⟩ ⟨q0, q1, q2, q3⟩ := rfl
      obtain ⟨-, hbad | hbad⟩ | ⟨n, hn, -⟩ := setup_cases hgenerate stored'
      · exact absurd hlen hbad
      · exact absurd hareas hbad
      · exact ⟨n, hn, sameMap_of_corners hareas hker hcorners (setup_takes hfour rfl rfl himage hn).2⟩
  · intro stop stored₁ n stored₂ k hstop hgeneral hn hk
    obtain ⟨r', t, hr', ht, -⟩ := exists_quadrangles hstop
    obtain rfl := pointList_injective (hr.symm.trans hr')
    have htgeneral : InGeneralPosition (pointList t) := ht ▸ hgeneral
    have htareas : HasAreas t := (inGeneralPosition_iff t).mp htgeneral
    have hends : TwoOrFour src stop := ⟨h.1.trans hstop.1, h.2⟩
    exact isComposite_of_corners hqareas htareas htakes (setup_takes hstop hr ht htareas hn).2
      (setup_takes hends hq ht htareas hk).2
  · intro stored' n hn
    have hback : TwoOrFour dst src := ⟨h.1.symm, h.2.imp h.1.symm.trans h.1.symm.trans⟩
    exact undoes_of_corners hqareas htakes (setup_takes hback hr hq hqareas hn).2

end Setups

/-- The matrix that is set up for the trapezoid. -/
def toTrapezoid : List ℚ :=
  reduceMatrix (productMatrix (unitSquareToQuadrangle trapezoid) identity)

theorem homography_projective_trapezoid :
    IsProjective (pointList unitSquare) (pointList trapezoid) toTrapezoid := by
  have hpoints : TwoOrFour (pointList unitSquare) (pointList trapezoid) := ⟨rfl, .inr rfl⟩
  have hgeneral : InGeneralPosition (corners (pointList trapezoid)) :=
    (inGeneralPosition_iff trapezoid).mpr hasAreas_trapezoid
  have hgenerate : generate (pointList unitSquare) (pointList trapezoid) = .ok toTrapezoid := by
    decide +kernel
  have hset : setup (pointList unitSquare) (pointList trapezoid) identity = .ok () toTrapezoid :=
    setup_ok hgenerate rfl rfl
  exact homography_projective hpoints hgeneral hset

end WSE.Proof.Wse
