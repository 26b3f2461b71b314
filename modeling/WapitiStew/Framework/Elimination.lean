import Mathlib.LinearAlgebra.Matrix.Block
import Mathlib.LinearAlgebra.Matrix.NonsingularInverse

/-!
# Elimination

Gaussian elimination takes a square matrix over a field to an upper triangular one, column by column
(`Eliminating`), and keeps account of the determinant; Gauss-Jordan elimination takes it to the
identity (`Reducing`), and keeps the matrix that does this. The steps are exchanges of rows (`swap`)
and multiples of a row added to the others (`clear`), with the row divided by its pivot in the
second case (`scale`). A column without a pivot says that the determinant is zero (`fails`).
-/

namespace WSE.Framework

open Matrix

variable {K : Type*} [Field K] {n : Nat}

/-! ## Row operations -/

/-- Each row is a multiple of some row and of row `k`. -/
def rowOperation (a : Fin n → K) (σ : Fin n → Fin n) (b : Fin n → K) (k : Fin n)
    (M : Matrix (Fin n) (Fin n) K) : Matrix (Fin n) (Fin n) K :=
  .of fun i j => a i * M (σ i) j + b i * M k j

theorem rowOperation_mul (a : Fin n → K) (σ : Fin n → Fin n) (b : Fin n → K) (k : Fin n)
    (V A : Matrix (Fin n) (Fin n) K) :
    rowOperation a σ b k V * A = rowOperation a σ b k (V * A) := by
  ext i j
  simp only [rowOperation, mul_apply, of_apply, add_mul, Finset.sum_add_distrib, Finset.mul_sum,
    mul_assoc]

variable {A M V W : Matrix (Fin n) (Fin n) K} {k r : Fin n}

theorem det_swapRows (h : k ≠ r) : (of fun i => M (Equiv.swap k r i)).det = -M.det := by
  show (M.submatrix (Equiv.swap k r) id).det = _
  rw [det_permute, Equiv.Perm.sign_swap h]
  simp only [Units.val_neg, Units.val_one, Int.cast_neg, Int.cast_one, neg_mul, one_mul]

theorem det_clearRows (c : Fin n → K) (hc : c k = 0) :
    (of fun i j => M i j - c i * M k j).det = M.det :=
  det_eq_of_forall_row_eq_smul_add_const (fun i => -c i) k (by rw [hc, neg_zero]) fun i j => by
    rw [of_apply, neg_mul, sub_eq_add_neg]

theorem det_scaleRow (c : K) :
    (of fun i j => if i = k then M i j / c else M i j).det = M.det / c := by
  have h : (of fun i j => if i = k then M i j / c else M i j) = M.updateRow k (c⁻¹ • M k) := by
    ext i j
    rw [of_apply, updateRow_apply]
    split
    · rename_i hi
      rw [hi, Pi.smul_apply, smul_eq_mul, div_eq_inv_mul]
    · rfl
  rw [h, det_updateRow_smul, updateRow_eq_self, div_eq_inv_mul]

/-- The rows from `k` on have nothing in the columns through `k`. -/
theorem det_eq_zero_of_below (h : ∀ i j, k ≤ i → j ≤ k → M i j = 0) : M.det = 0 := by
  rw [twoBlockTriangular_det M (· < k) fun i hi j hj => h i j (not_lt.mp hi) (le_of_lt hj)]
  refine mul_eq_zero_of_right _ (det_eq_zero_of_column_eq_zero ⟨k, lt_irrefl k⟩ fun i => ?_)
  exact h i k (not_lt.mp i.2) (le_refl k)

/-! ## Triangular matrices -/

/-- The product of the first `k` pivots. -/
def pivotProduct (W : Matrix (Fin n) (Fin n) K) (k : Nat) : K :=
  ∏ i : Fin n, if i.val < k then W i i else 1

theorem pivotProduct_zero : pivotProduct W 0 = 1 := by
  simp only [pivotProduct, Nat.not_lt_zero, if_false, Finset.prod_const_one]

theorem pivotProduct_succ : pivotProduct W (k + 1) = pivotProduct W k * W k k := by
  have hk : (∏ i : Fin n, if i = k then W i i else 1) = W k k := by
    rw [Finset.prod_ite_eq' Finset.univ k fun i => W i i, if_pos (Finset.mem_univ k)]
  rw [pivotProduct, pivotProduct, ← hk, ← Finset.prod_mul_distrib]
  refine Finset.prod_congr rfl fun i _ => ?_
  have hi : i = k ↔ i.val = k.val := Fin.ext_iff
  split_ifs <;> first | omega | simp only [mul_one, one_mul]

theorem pivotProduct_congr {k : Nat} (h : ∀ i : Fin n, i.val < k → W i i = M i i) :
    pivotProduct W k = pivotProduct M k :=
  Finset.prod_congr rfl fun i _ => by
    split
    · exact h i ‹_›
    · rfl

theorem pivotProduct_ne_zero {k : Nat} (h : ∀ i : Fin n, i.val < k → W i i ≠ 0) :
    pivotProduct W k ≠ 0 := by
  refine Finset.prod_ne_zero_iff.mpr fun i _ => ?_
  split
  · exact h i ‹_›
  · exact one_ne_zero

/-- The first `k` columns of `W` are triangular, and `d` is the product of their pivots with the
sign of the exchanges. -/
structure Eliminating (A W : Matrix (Fin n) (Fin n) K) (k : Nat) (d : K) : Prop where
  below : ∀ i j : Fin n, j.val < k → j < i → W i j = 0
  pivots : ∀ i : Fin n, i.val < k → W i i ≠ 0
  det : d * W.det = pivotProduct W k * A.det

namespace Eliminating

variable {d : K}

theorem start (A : Matrix (Fin n) (Fin n) K) : Eliminating A A 0 1 where
  below _ _ h := absurd h (Nat.not_lt_zero _)
  pivots _ h := absurd h (Nat.not_lt_zero _)
  det := by rw [pivotProduct_zero]

theorem swap (h : Eliminating A W k d) (hr : k < r) :
    Eliminating A (of fun i => W (Equiv.swap k r i)) k (-d) := by
  have hsame {i : Fin n} (hi : i.val < k) : Equiv.swap k r i = i :=
    Equiv.swap_apply_of_ne_of_ne (ne_of_lt hi) (ne_of_lt (lt_trans hi hr))
  refine ⟨fun i j hj hij => ?_, fun i hi => ?_, ?_⟩
  · refine h.below _ j hj ?_
    by_cases hi : i.val < k
    · rwa [hsame hi]
    · refine lt_of_lt_of_le (b := k) hj ?_
      obtain rfl | hne := eq_or_ne i k
      · rw [Equiv.swap_apply_left]
        exact le_of_lt hr
      obtain rfl | hne' := eq_or_ne i r
      · rw [Equiv.swap_apply_right]
      · rw [Equiv.swap_apply_of_ne_of_ne hne hne']
        exact not_lt.mp hi
  · rw [of_apply, hsame hi]
    exact h.pivots i hi
  · rw [det_swapRows (ne_of_lt hr), neg_mul_neg, h.det]
    congr 1
    exact (pivotProduct_congr fun i hi => by rw [of_apply, hsame hi]).symm

/-- The rows below the pivot are cleared in its column. -/
theorem clear (h : Eliminating A W k d) (hk : W k k ≠ 0) :
    Eliminating A (of fun i j => W i j - (if k < i then W i k / W k k else 0) * W k j) (k + 1)
      (d * W k k) := by
  have hrow {i : Fin n} (hi : i ≤ k) (j : Fin n) :
      W i j - (if k < i then W i k / W k k else 0) * W k j = W i j := by
    rw [if_neg (not_lt.mpr hi), zero_mul, sub_zero]
  refine ⟨fun i j hj hij => ?_, fun i hi => ?_, ?_⟩
  · rw [of_apply]
    obtain hj | hj := Nat.lt_succ_iff_lt_or_eq.mp hj
    · rw [h.below i j hj hij]
      split
      · rw [h.below k j hj hj, mul_zero, sub_zero]
      · rw [zero_mul, sub_zero]
    · obtain rfl := Fin.ext hj
      rw [if_pos hij, div_mul_cancel₀ _ hk, sub_self]
  · have hi : i ≤ k := Nat.lt_succ_iff.mp hi
    rw [of_apply, hrow hi]
    obtain hlt | rfl := lt_or_eq_of_le hi
    · exact h.pivots i hlt
    · exact hk
  · rw [det_clearRows (fun i => if k < i then W i k / W k k else 0) (if_neg (lt_irrefl k)),
      pivotProduct_succ, of_apply, hrow (le_refl k),
      pivotProduct_congr (M := W) fun i hi => by rw [of_apply, hrow (le_of_lt hi)],
      mul_right_comm, h.det, mul_right_comm]

/-- There is no pivot. -/
theorem fails (h : Eliminating A W k d) (hk : ∀ i, k ≤ i → W i k = 0) : A.det = 0 := by
  have hdet : W.det = 0 := det_eq_zero_of_below fun i j hi hj => by
    obtain hlt | rfl := lt_or_eq_of_le hj
    · exact h.below i j hlt (lt_of_lt_of_le hlt hi)
    · exact hk i hi
  have := h.det
  rw [hdet, mul_zero] at this
  exact (mul_eq_zero.mp this.symm).resolve_left (pivotProduct_ne_zero h.pivots)

theorem finish (h : Eliminating A W n d) : d = A.det := by
  have hall : pivotProduct W n = W.det := by
    rw [det_of_isUpperTriangular (M := W) fun i j hij => h.below i j j.isLt hij]
    exact Finset.prod_congr rfl fun i _ => if_pos i.isLt
  have hne := hall ▸ pivotProduct_ne_zero h.pivots
  have := h.det
  rw [hall, mul_comm] at this
  exact mul_left_cancel₀ hne this

end Eliminating

/-! ## Reduced matrices -/

/-- The first `k` columns of `M` are those of the identity, and `V` takes `A` to `M`. -/
structure Reducing (A M V : Matrix (Fin n) (Fin n) K) (k : Nat) : Prop where
  product : M = V * A
  columns : ∀ i j : Fin n, j.val < k → M i j = if i = j then 1 else 0
  det : M.det = 0 ↔ A.det = 0

namespace Reducing

theorem start (A : Matrix (Fin n) (Fin n) K) : Reducing A A 1 0 where
  product := (one_mul A).symm
  columns _ _ h := absurd h (Nat.not_lt_zero _)
  det := Iff.rfl

theorem swap (h : Reducing A M V k) (hr : k < r) :
    Reducing A (of fun i => M (Equiv.swap k r i)) (of fun i => V (Equiv.swap k r i)) k := by
  have hop (N : Matrix (Fin n) (Fin n) K) : (of fun i => N (Equiv.swap k r i)) =
      rowOperation 1 (Equiv.swap k r) 0 k N := by
    ext i j
    simp only [rowOperation, of_apply, Pi.one_apply, one_mul, Pi.zero_apply, zero_mul, add_zero]
  refine ⟨?_, fun i j hj => ?_, ?_⟩
  · rw [hop M, hop V, rowOperation_mul, h.product]
  · rw [of_apply, h.columns _ j hj]
    have hjk : j ≠ k := ne_of_lt hj
    have hjr : j ≠ r := ne_of_lt (lt_trans hj hr)
    congr 1
    rw [Equiv.swap_apply_eq_iff, Equiv.swap_apply_of_ne_of_ne hjk hjr]
  · rw [det_swapRows (ne_of_lt hr), neg_eq_zero]
    exact h.det

/-- The row of the pivot is divided by it. -/
theorem scale (h : Reducing A M V k) (hk : M k k ≠ 0) :
    Reducing A (of fun i j => if i = k then M i j / M k k else M i j)
      (of fun i j => if i = k then V i j / M k k else V i j) k := by
  have hop (N : Matrix (Fin n) (Fin n) K) :
      (of fun i j => if i = k then N i j / M k k else N i j) =
        rowOperation (fun i => if i = k then (M k k)⁻¹ else 1) id 0 k N := by
    ext i j
    simp only [rowOperation, of_apply, id_eq, Pi.zero_apply, zero_mul, add_zero, ite_mul, one_mul,
      div_eq_inv_mul]
  refine ⟨?_, fun i j hj => ?_, ?_⟩
  · rw [hop M, hop V, rowOperation_mul, h.product]
  · rw [of_apply]
    split
    · rename_i hi
      have hij : i ≠ j := fun he => Nat.ne_of_lt hj (congrArg Fin.val (he.symm.trans hi))
      rw [h.columns i j hj, if_neg hij, zero_div]
    · exact h.columns i j hj
  · rw [det_scaleRow, div_eq_zero_iff, or_iff_left hk]
    exact h.det

/-- The other rows are cleared in the column of the pivot, which is one. -/
theorem clear (h : Reducing A M V k) (hk : M k k = 1) :
    Reducing A (of fun i j => M i j - (if i = k then 0 else M i k) * M k j)
      (of fun i j => V i j - (if i = k then 0 else M i k) * V k j) (k + 1) := by
  have hop (N : Matrix (Fin n) (Fin n) K) :
      (of fun i j => N i j - (if i = k then 0 else M i k) * N k j) =
        rowOperation 1 id (fun i => -(if i = k then 0 else M i k)) k N := by
    ext i j
    simp only [rowOperation, of_apply, id_eq, Pi.one_apply, one_mul, neg_mul, sub_eq_add_neg]
  refine ⟨?_, fun i j hj => ?_, ?_⟩
  · rw [hop M, hop V, rowOperation_mul, h.product]
  · rw [of_apply]
    obtain hj | hj := Nat.lt_succ_iff_lt_or_eq.mp hj
    · have hkj : k ≠ j := fun he => Nat.ne_of_lt hj (congrArg Fin.val he).symm
      rw [h.columns i j hj, h.columns k j hj, if_neg hkj, mul_zero, sub_zero]
    · obtain rfl := Fin.ext hj
      rw [hk, mul_one]
      split
      · rename_i hi
        rw [hi, hk, sub_zero]
      · exact sub_self _
  · rw [det_clearRows (fun i => if i = k then 0 else M i k) (if_pos rfl)]
    exact h.det

theorem fails (h : Reducing A M V k) (hk : ∀ i, k ≤ i → M i k = 0) : A.det = 0 :=
  h.det.mp (det_eq_zero_of_below fun i j hi hj => by
    obtain hlt | rfl := lt_or_eq_of_le hj
    · rw [h.columns i j hlt, if_neg (ne_of_gt (lt_of_lt_of_le hlt hi))]
    · exact hk i hi)

theorem finish (h : Reducing A M V n) : V * A = 1 ∧ A * V = 1 := by
  have hone : V * A = 1 := by
    rw [← h.product]
    ext i j
    rw [h.columns i j j.isLt, one_apply]
  exact ⟨hone, mul_eq_one_comm.mp hone⟩

theorem det_ne_zero (h : Reducing A M V n) : A.det ≠ 0 := by
  have hdet := congrArg Matrix.det h.finish.1
  rw [det_mul, det_one] at hdet
  exact right_ne_zero_of_mul_eq_one hdet

end Reducing

end WSE.Framework
