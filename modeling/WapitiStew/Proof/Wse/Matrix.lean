import WapitiStew.Framework.Elimination
import WapitiStew.Framework.Throwing
import WapitiStew.Spec.Wse.Matrix

/-!
# The loops of a matrix

What each loop leaves, entry by entry: a loop over the columns changes a column at a time
(`columns_spec`), and the loops over rows change a row at a time (`entry_clearBelow`,
`entry_clearOthers`). `mul_spec` and `identify_spec` say that the program's product and
identity are the usual ones.
-/

namespace WSE.Proof.Wse

open WSE.Framework WSE.Impl.Wse WSE.Spec.Wse Matrix_

section

variable {n : Nat} {m w : Matrix_}

/-! ## Entries -/

theorem squareOf_setEntry (h : SquareOf n m) (row col : Nat) (value : ℚ) :
    SquareOf n (m.setEntry row col value) :=
  ⟨h.cols, h.rows⟩

theorem entry_setEntry (h : SquareOf n m) {row col i j : Nat} (hrow : row < n) (hcol : col < n)
    (hj : j < n) (value : ℚ) : (m.setEntry row col value).entry i j =
      if i = row ∧ j = col then value else m.entry i j := by
  obtain ⟨hw, hh⟩ := h
  rw [entry, setEntry, Grid.get_write m value (hw ▸ hcol) (hh ▸ hrow) (hw ▸ hj), entry]
  exact if_congr and_comm rfl rfl

theorem squareOf_square (n : Nat) : SquareOf n (square n) := ⟨rfl, rfl⟩

theorem entry_square {i j : Nat} (n : Nat) : (square n).entry i j = 0 := by
  show (List.replicate (n * n) (0 : ℚ)).getD (i * n + j) 0 = 0
  rw [List.getD_eq_getElem?_getD, List.getElem?_replicate]
  split <;> rfl

theorem squareOf_ext {a b : Matrix_} (ha : SquareOf n a) (hb : SquareOf n b)
    (h : ∀ i < n, ∀ j < n, a.entry i j = b.entry i j) : a = b := by
  refine Grid.ext_get (ha.cols.trans hb.cols.symm) (ha.rows.trans hb.rows.symm) ?_
  intro x hx y hy
  exact h y (ha.rows ▸ hy) x (ha.cols ▸ hx)

theorem toMatrix_inj {a b : Matrix_} (ha : SquareOf n a) (hb : SquareOf n b)
    (h : toMatrix n a = toMatrix n b) : a = b :=
  squareOf_ext ha hb fun i hi j hj => congrFun (congrFun h ⟨i, hi⟩) ⟨j, hj⟩

/-! ## Columns -/

/-- A loop whose turn changes its own column only, by what the column has. -/
theorem columns_spec {f : Nat → Matrix_ → Matrix_} {g : (Nat → ℚ) → Nat → ℚ} {first : Nat}
    (hf : ∀ w col, SquareOf n w → col < n → SquareOf n (f col w) ∧ ∀ i j, j < n →
      (f col w).entry i j = if j = col then g (w.entry · col) i else w.entry i j)
    (hle : first ≤ n) (h : SquareOf n m) : SquareOf n (forRange first n f m) ∧ ∀ i j, j < n →
      (forRange first n f m).entry i j =
        if first ≤ j then g (m.entry · j) i else m.entry i j := by
  suffices hloop : SquareOf n (forRange first n f m) ∧ ∀ i j, j < n →
      (forRange first n f m).entry i j =
        if first ≤ j ∧ j < n then g (m.entry · j) i else m.entry i j by
    refine ⟨hloop.1, fun i j hj => ?_⟩
    rw [hloop.2 i j hj]
    exact if_congr (and_iff_left hj) rfl rfl
  refine forRange_invariant (P := fun c w => SquareOf n w ∧ ∀ i j, j < n →
    w.entry i j = if first ≤ j ∧ j < c then g (m.entry · j) i else m.entry i j) hle ?_ ?_
  · refine ⟨h, fun i j hj => ?_⟩
    rw [if_neg (by omega)]
  · rintro c w hc hcn ⟨hw, hentry⟩
    obtain ⟨hw', hentry'⟩ := hf w c hw hcn
    refine ⟨hw', fun i j hj => ?_⟩
    rw [hentry' i j hj]
    split
    · rename_i hjc
      subst hjc
      rw [if_pos ⟨hc, Nat.lt_succ_self j⟩]
      congr 1
      funext k
      rw [hentry k j hj, if_neg (by omega)]
    · rw [hentry i j hj]
      exact if_congr (by omega) rfl rfl

theorem swapEntries_spec {row maxRow : Nat} (hrow : row < n) (hmax : maxRow < n)
    (h : SquareOf n m) : SquareOf n (forRange 0 n (swapEntries row maxRow) m) ∧ ∀ i j, j < n →
      (forRange 0 n (swapEntries row maxRow) m).entry i j =
        m.entry (if i = row then maxRow else if i = maxRow then row else i) j := by
  have hspec := columns_spec (f := swapEntries row maxRow) (m := m)
    (g := fun column i => column (if i = row then maxRow else if i = maxRow then row else i))
    ?_ (Nat.zero_le n) h
  · exact ⟨hspec.1, fun i j hj => by rw [hspec.2 i j hj, if_pos (Nat.zero_le j)]⟩
  intro w col hw hcol
  have hset := squareOf_setEntry hw row col (w.entry maxRow col)
  refine ⟨squareOf_setEntry hset maxRow col _, fun i j hj => ?_⟩
  rw [swapEntries, entry_setEntry hset hmax hcol hj, entry_setEntry hw hrow hcol hj]
  by_cases hjc : j = col
  · subst hjc
    simp only [and_true, if_true]
    by_cases him : i = maxRow
    · subst him
      by_cases hir : i = row
      · rw [if_pos rfl, if_pos hir, hir]
      · rw [if_pos rfl, if_neg hir, if_pos rfl]
    · by_cases hir : i = row
      · rw [if_neg him, if_pos hir, if_pos hir]
      · rw [if_neg him, if_neg hir, if_neg hir, if_neg him]
  · simp only [hjc, and_false, if_false]

theorem divideEntry_spec {row : Nat} (hrow : row < n) (pivot : ℚ) (h : SquareOf n m) :
    SquareOf n (forRange 0 n (divideEntry row pivot) m) ∧ ∀ i j, j < n →
      (forRange 0 n (divideEntry row pivot) m).entry i j =
        if i = row then m.entry i j / pivot else m.entry i j := by
  have hspec := columns_spec (f := divideEntry row pivot) (m := m)
    (g := fun column i => if i = row then column i / pivot else column i) ?_ (Nat.zero_le n) h
  · exact ⟨hspec.1, fun i j hj => by rw [hspec.2 i j hj, if_pos (Nat.zero_le j)]⟩
  intro w col hw hcol
  refine ⟨squareOf_setEntry hw row col _, fun i j hj => ?_⟩
  rw [divideEntry, entry_setEntry hw hrow hcol hj]
  by_cases hjc : j = col
  · subst hjc
    by_cases hir : i = row
    · rw [if_pos ⟨hir, rfl⟩, if_pos rfl, if_pos hir, hir]
    · rw [if_neg fun he => hir he.1, if_pos rfl, if_neg hir]
  · rw [if_neg fun he => hjc he.2, if_neg hjc]

theorem subtractEntry_spec {first row nextRow : Nat} (hfirst : first ≤ n) (hnext : nextRow < n)
    (factor : ℚ) (h : SquareOf n m) :
    SquareOf n (forRange first n (subtractEntry row nextRow factor) m) ∧ ∀ i j, j < n →
      (forRange first n (subtractEntry row nextRow factor) m).entry i j =
        if first ≤ j ∧ i = nextRow then m.entry i j - factor * m.entry row j else m.entry i j := by
  have hspec := columns_spec (f := subtractEntry row nextRow factor) (m := m)
    (g := fun column i => if i = nextRow then column i - factor * column row else column i)
    ?_ hfirst h
  · refine ⟨hspec.1, fun i j hj => ?_⟩
    rw [hspec.2 i j hj, ite_and]
  intro w col hw hcol
  refine ⟨squareOf_setEntry hw nextRow col _, fun i j hj => ?_⟩
  rw [subtractEntry, entry_setEntry hw hnext hcol hj]
  by_cases hjc : j = col
  · subst hjc
    by_cases hin : i = nextRow
    · rw [if_pos ⟨hin, rfl⟩, if_pos rfl, if_pos hin, hin]
    · rw [if_neg fun he => hin he.1, if_pos rfl, if_neg hin]
  · rw [if_neg fun he => hjc he.2, if_neg hjc]

/-! ## Rows -/

theorem pivotRow_spec {row : Nat} (hrow : row < n) :
    (row ≤ pivotRow m n row ∧ pivotRow m n row < n) ∧
      ∀ i, row ≤ i → i < n → |m.entry i row| ≤ |m.entry (pivotRow m n row) row| := by
  refine forRange_invariant (P := fun c max => (row ≤ max ∧ max < n) ∧
    ∀ i, row ≤ i → i < c → |m.entry i row| ≤ |m.entry max row|) hrow ?_ ?_
  · refine ⟨⟨Nat.le_refl row, hrow⟩, fun i hi hlt => ?_⟩
    rw [Nat.le_antisymm (Nat.le_of_lt_succ hlt) hi]
  · rintro c max hc hcn ⟨hmax, hall⟩
    split
    · rename_i hgt
      refine ⟨⟨Nat.le_of_succ_le hc, hcn⟩, fun i hi hlt => ?_⟩
      obtain hlt | rfl := Nat.lt_succ_iff_lt_or_eq.mp hlt
      · exact (hall i hi hlt).trans (le_of_lt hgt)
      · exact le_refl _
    · rename_i hle
      refine ⟨hmax, fun i hi hlt => ?_⟩
      obtain hlt | rfl := Nat.lt_succ_iff_lt_or_eq.mp hlt
      · exact hall i hi hlt
      · exact not_lt.mp hle

theorem clearBelow_spec {row : Nat} (hrow : row < n) (h : SquareOf n m) :
    SquareOf n (clearBelow n row m) ∧ ∀ i j, i < n → j < n → (clearBelow n row m).entry i j =
      if row < i ∧ row ≤ j then m.entry i j - m.entry i row / m.entry row row * m.entry row j
      else m.entry i j := by
  suffices hloop : SquareOf n (clearBelow n row m) ∧ ∀ i j, j < n →
      (clearBelow n row m).entry i j = if row < i ∧ i < n ∧ row ≤ j then
        m.entry i j - m.entry i row / m.entry row row * m.entry row j else m.entry i j by
    refine ⟨hloop.1, fun i j hi hj => ?_⟩
    rw [hloop.2 i j hj]
    exact if_congr (by omega) rfl rfl
  refine forRange_invariant (P := fun c w => SquareOf n w ∧ ∀ i j, j < n →
    w.entry i j = if row < i ∧ i < c ∧ row ≤ j then
      m.entry i j - m.entry i row / m.entry row row * m.entry row j else m.entry i j) hrow ?_ ?_
  · refine ⟨h, fun i j hj => ?_⟩
    rw [if_neg (by omega)]
  · rintro c w hc hcn ⟨hw, hentry⟩
    obtain ⟨hw', hentry'⟩ := subtractEntry_spec (Nat.le_of_lt hrow) hcn
      (w.entry c row / w.entry row row) hw
    refine ⟨hw', fun i j hj => ?_⟩
    -- Neither the pivot's row nor the row of this turn has been changed yet.
    have hpivot (k : Nat) (hk : k < n) : w.entry row k = m.entry row k := by
      rw [hentry row k hk, if_neg (by omega)]
    have hturn (k : Nat) (hk : k < n) : w.entry c k = m.entry c k := by
      rw [hentry c k hk, if_neg (by omega)]
    rw [hentry' i j hj, hpivot row hrow, hpivot j hj, hturn row hrow]
    split
    · rename_i hic
      obtain ⟨hj', rfl⟩ := hic
      rw [hturn j hj, if_pos (by omega)]
    · rw [hentry i j hj]
      exact if_congr (by omega) rfl rfl

theorem clearOthers_spec {row : Nat} {s : Matrix_ × Matrix_} (hrow : row < n)
    (h : SquareOf n s.1 ∧ SquareOf n s.2) :
    (SquareOf n (clearOthers n row s).1 ∧ SquareOf n (clearOthers n row s).2) ∧
      ∀ i j, i < n → j < n →
        (clearOthers n row s).1.entry i j =
          s.1.entry i j - (if i = row then 0 else s.1.entry i row) * s.1.entry row j ∧
        (clearOthers n row s).2.entry i j =
          s.2.entry i j - (if i = row then 0 else s.1.entry i row) * s.2.entry row j := by
  suffices hloop : (SquareOf n (clearOthers n row s).1 ∧ SquareOf n (clearOthers n row s).2) ∧
      ∀ i j, j < n →
        (clearOthers n row s).1.entry i j = s.1.entry i j -
          (if i < n ∧ i ≠ row then s.1.entry i row else 0) * s.1.entry row j ∧
        (clearOthers n row s).2.entry i j = s.2.entry i j -
          (if i < n ∧ i ≠ row then s.1.entry i row else 0) * s.2.entry row j by
    refine ⟨hloop.1, fun i j hi hj => ?_⟩
    have hif : (if i < n ∧ i ≠ row then s.1.entry i row else 0) =
        if i = row then 0 else s.1.entry i row := by
      by_cases hir : i = row
      · rw [if_pos hir, if_neg fun he => he.2 hir]
      · rw [if_neg hir, if_pos ⟨hi, hir⟩]
    rw [← hif]
    exact hloop.2 i j hj
  refine forRange_invariant (P := fun c (t : Matrix_ × Matrix_) =>
    (SquareOf n t.1 ∧ SquareOf n t.2) ∧ ∀ i j, j < n → t.1.entry i j = s.1.entry i j -
      (if i < c ∧ i ≠ row then s.1.entry i row else 0) * s.1.entry row j ∧
    t.2.entry i j = s.2.entry i j -
      (if i < c ∧ i ≠ row then s.1.entry i row else 0) * s.2.entry row j) (Nat.zero_le n) ?_ ?_
  · refine ⟨h, fun i j hj => ?_⟩
    simp only [Nat.not_lt_zero, false_and, if_false, zero_mul, sub_zero, and_self]
  · rintro c t - hcn ⟨ht, hentry⟩
    split
    · rename_i hcr
      subst hcr
      refine ⟨ht, fun i j hj => ?_⟩
      have hif : i < c + 1 ∧ i ≠ c ↔ i < c ∧ i ≠ c := by omega
      simp only [hif]
      exact hentry i j hj
    rename_i hcr
    have hpivot (k : Nat) (hk : k < n) :
        t.1.entry row k = s.1.entry row k ∧ t.2.entry row k = s.2.entry row k := by
      obtain ⟨h1, h2⟩ := hentry row k hk
      rw [if_neg (fun he => he.2 rfl), zero_mul, sub_zero] at h1 h2
      exact ⟨h1, h2⟩
    have hturn (k : Nat) (hk : k < n) :
        t.1.entry c k = s.1.entry c k ∧ t.2.entry c k = s.2.entry c k := by
      obtain ⟨h1, h2⟩ := hentry c k hk
      rw [if_neg (fun he => Nat.lt_irrefl c he.1), zero_mul, sub_zero] at h1 h2
      exact ⟨h1, h2⟩
    obtain ⟨hs1, hentry1⟩ := subtractEntry_spec (Nat.zero_le n) hcn (t.1.entry c row) ht.1
    obtain ⟨hs2, hentry2⟩ := subtractEntry_spec (Nat.zero_le n) hcn (t.1.entry c row) ht.2
    rw [forRange_prod]
    refine ⟨⟨hs1, hs2⟩, fun i j hj => ?_⟩
    rw [hentry1 i j hj, hentry2 i j hj, (hpivot j hj).1, (hpivot j hj).2, (hturn row hrow).1]
    by_cases hic : i = c
    · subst hic
      have hif : i < i + 1 ∧ i ≠ row := ⟨Nat.lt_succ_self i, hcr⟩
      constructor
      · rw [if_pos ⟨Nat.zero_le j, rfl⟩, if_pos hif, (hturn j hj).1]
      · rw [if_pos ⟨Nat.zero_le j, rfl⟩, if_pos hif, (hturn j hj).2]
    · have hif : i < c + 1 ∧ i ≠ row ↔ i < c ∧ i ≠ row := by omega
      simp only [hic, and_false, if_false, hif]
      exact hentry i j hj

/-! ## The product and the identity -/

/-- The inner loop of the product sums into one entry. -/
theorem mulEntry_spec {a b : Matrix_} {i j : Nat} (hi : i < n) (hj : j < n) (h : SquareOf n m)
    (hzero : m.entry i j = 0) :
    let f := fun k (w : Matrix_) => w.setEntry i j (w.entry i j + a.entry i k * b.entry k j)
    SquareOf n (forRange 0 n f m) ∧ ∀ i' j', j' < n → (forRange 0 n f m).entry i' j' =
      if i' = i ∧ j' = j then ∑ k ∈ Finset.range n, a.entry i k * b.entry k j
      else m.entry i' j' := by
  intro f
  refine forRange_invariant (P := fun c w => SquareOf n w ∧ ∀ i' j', j' < n → w.entry i' j' =
    if i' = i ∧ j' = j then ∑ k ∈ Finset.range c, a.entry i k * b.entry k j
    else m.entry i' j') (Nat.zero_le n) ?_ ?_
  · refine ⟨h, fun i' j' hj' => ?_⟩
    rw [Finset.range_zero, Finset.sum_empty]
    split
    · rename_i he
      rw [he.1, he.2, hzero]
    · rfl
  · rintro c w - - ⟨hw, hentry⟩
    refine ⟨squareOf_setEntry hw i j _, fun i' j' hj' => ?_⟩
    have hsum : w.entry i j = ∑ k ∈ Finset.range c, a.entry i k * b.entry k j := by
      rw [hentry i j hj, if_pos ⟨rfl, rfl⟩]
    rw [entry_setEntry hw hi hj hj', hsum, ← Finset.sum_range_succ]
    split
    · rfl
    · rename_i hne
      rw [hentry i' j' hj', if_neg hne]

theorem mul_spec {a b : Matrix_} (ha : SquareOf n a) (hb : SquareOf n b) :
    ∃ p, a.mul b = .ok p ∧ SquareOf n p ∧ toMatrix n p = toMatrix n a * toMatrix n b := by
  have hloop := forRange_invariant (s := square n)
    (f := fun i => forRange 0 n fun j => forRange 0 n fun k m =>
      m.setEntry i j (m.entry i j + a.entry i k * b.entry k j))
    (P := fun r w => SquareOf n w ∧ ∀ i j, j < n → w.entry i j =
      if i < r then ∑ k ∈ Finset.range n, a.entry i k * b.entry k j else 0) (Nat.zero_le n) ?_ ?_
  · obtain ⟨hsquare, hentry⟩ := hloop
    refine ⟨_, ?_, hsquare, ?_⟩
    · have hsize : ¬a.cols ≠ b.rows := not_not.mpr (ha.cols.trans hb.rows.symm)
      rw [mul, if_neg hsize]
      show Except.ok (forRange 0 a.height (fun i => forRange 0 b.width fun j =>
        forRange 0 a.width fun k (m : Matrix_) =>
          m.setEntry i j (m.entry i j + a.entry i k * b.entry k j))
        (Grid.fill b.width a.height 0)) = _
      rw [ha.cols, ha.rows, hb.cols]
      rfl
    · ext i j
      rw [Matrix.mul_apply]
      show entry _ i j = ∑ k : Fin n, a.entry i k * b.entry k j
      rw [hentry i j j.isLt, if_pos i.isLt, Finset.sum_range]
  · refine ⟨squareOf_square n, fun i j hj => ?_⟩
    rw [entry_square, if_neg (Nat.not_lt_zero i)]
  · rintro r w - hr ⟨hw, hentry⟩
    have hrow := forRange_invariant (s := w)
      (f := fun j => forRange 0 n fun k m =>
        m.setEntry r j (m.entry r j + a.entry r k * b.entry k j))
      (P := fun c t => SquareOf n t ∧ ∀ i j, j < n → t.entry i j =
        if i < r ∨ i = r ∧ j < c then ∑ k ∈ Finset.range n, a.entry i k * b.entry k j else 0)
      (Nat.zero_le n) ?_ ?_
    · refine ⟨hrow.1, fun i j hj => ?_⟩
      rw [hrow.2 i j hj]
      exact if_congr (by omega) rfl rfl
    · refine ⟨hw, fun i j hj => ?_⟩
      rw [hentry i j hj]
      exact if_congr (by omega) rfl rfl
    · rintro c t - hc ⟨ht, htentry⟩
      have hzero : t.entry r c = 0 := by
        rw [htentry r c hc, if_neg (by omega)]
      obtain ⟨ht', htentry'⟩ := mulEntry_spec (a := a) (b := b) hr hc ht hzero
      refine ⟨ht', fun i j hj => ?_⟩
      rw [htentry' i j hj]
      split
      · rename_i he
        obtain ⟨rfl, rfl⟩ := he
        rw [if_pos (by omega)]
      · rw [htentry i j hj]
        exact if_congr (by omega) rfl rfl

theorem identify_spec (n : Nat) : SquareOf n (identify n) ∧ toMatrix n (identify n) = 1 := by
  have hloop := forRange_invariant (s := square n)
    (f := fun i m => m.setEntry i i ((List.replicate n (1 : ℚ)).getD i 0))
    (P := fun c w => SquareOf n w ∧ ∀ i j, j < n → w.entry i j = if i < c ∧ i = j then 1 else 0)
    (Nat.zero_le n) ?_ ?_
  · have hidentify : identify n = forRange 0 n
        (fun i m => m.setEntry i i ((List.replicate n (1 : ℚ)).getD i 0)) (square n) := by
      rw [identify, scalar, diagonal, List.length_replicate]
    rw [hidentify]
    refine ⟨hloop.1, ?_⟩
    ext i j
    show entry _ i j = (1 : Matrix (Fin n) (Fin n) ℚ) i j
    rw [hloop.2 i j j.isLt, Matrix.one_apply]
    exact if_congr ⟨fun h => Fin.ext h.2, fun h => ⟨i.isLt, congrArg Fin.val h⟩⟩ rfl rfl
  · refine ⟨squareOf_square n, fun i j hj => ?_⟩
    rw [entry_square, if_neg (fun h => Nat.not_lt_zero i h.1)]
  · rintro c w - hc ⟨hw, hentry⟩
    refine ⟨squareOf_setEntry hw c c _, fun i j hj => ?_⟩
    rw [entry_setEntry hw hc hc hj]
    split
    · rename_i he
      rw [if_pos (by omega), List.getD_eq_getElem?_getD, List.getElem?_replicate, if_pos hc]
      rfl
    · rw [hentry i j hj]
      exact if_congr (by omega) rfl rfl

/-- A program's matrix that is inverse as linear algebra has it is inverse for the program. -/
theorem inverse_of {a b : Matrix_} (ha : SquareOf n a) (hb : SquareOf n b)
    (h : toMatrix n a * toMatrix n b = 1 ∧ toMatrix n b * toMatrix n a = 1) : Inverse n a b := by
  obtain ⟨hid, hone⟩ := identify_spec n
  constructor
  · obtain ⟨p, hp, hsquare, hmul⟩ := mul_spec ha hb
    rw [hp, toMatrix_inj hsquare hid (hmul.trans (h.1.trans hone.symm))]
  · obtain ⟨p, hp, hsquare, hmul⟩ := mul_spec hb ha
    rw [hp, toMatrix_inj hsquare hid (hmul.trans (h.2.trans hone.symm))]

end

/-!
## Determinants and inverses

* `toMatrix_clearBelow`, `toMatrix_clearOthers`, `toMatrix_swapEntries`: the loops over a row are
  the steps of an elimination.
* `triangulate_eq`, `reduceRows_spec`: so the loops over all rows keep its account, whatever rows
  are exchanged, and stop early only where the determinant is zero.
* `matrix_elimination`: the three paths by the dimension agree.
-/

section

variable {n : Nat} {m w : Matrix_}

/-! ### Steps -/

theorem toMatrix_swapEntries (h : SquareOf n m) (k r : Fin n) :
    toMatrix n (forRange 0 n (swapEntries k r) m) =
      .of fun i => toMatrix n m (Equiv.swap k r i) := by
  ext i j
  show entry _ i j = m.entry (Equiv.swap k r i) j
  rw [(swapEntries_spec k.isLt r.isLt h).2 i j j.isLt, Equiv.swap_apply_def]
  congr 1
  simp only [Fin.ext_iff, apply_ite Fin.val]

theorem toMatrix_divideEntry (h : SquareOf n m) (k : Fin n) (pivot : ℚ) :
    toMatrix n (forRange 0 n (divideEntry k pivot) m) =
      .of fun i j => if i = k then toMatrix n m i j / pivot else toMatrix n m i j := by
  ext i j
  show entry _ i j = if i = k then m.entry i j / pivot else m.entry i j
  rw [(divideEntry_spec k.isLt pivot h).2 i j j.isLt]
  exact if_congr Fin.ext_iff.symm rfl rfl

/-- To the left of the pivot the row has nothing to subtract. -/
theorem toMatrix_clearBelow (h : SquareOf n m) (k : Fin n)
    (hzero : ∀ j, j < k → toMatrix n m k j = 0) :
    toMatrix n (clearBelow n k m) = .of fun i j => toMatrix n m i j -
      (if k < i then toMatrix n m i k / toMatrix n m k k else 0) * toMatrix n m k j := by
  ext i j
  show (clearBelow n k m).entry i j = m.entry i j -
    (if k < i then m.entry i k / m.entry k k else 0) * m.entry k j
  rw [(clearBelow_spec k.isLt h).2 i j i.isLt j.isLt]
  by_cases hi : k < i
  · rw [if_pos hi]
    by_cases hj : k ≤ j
    · rw [if_pos ⟨hi, hj⟩]
    · have hzero : m.entry k j = 0 := hzero j (not_le.mp hj)
      rw [if_neg fun he => hj he.2, hzero, mul_zero, sub_zero]
  · rw [if_neg fun he => hi he.1, if_neg hi, zero_mul, sub_zero]

theorem toMatrix_clearOthers {a b : Matrix_} (ha : SquareOf n a) (hb : SquareOf n b) (k : Fin n) :
    toMatrix n (clearOthers n k (a, b)).1 = (.of fun i j => toMatrix n a i j -
        (if i = k then 0 else toMatrix n a i k) * toMatrix n a k j) ∧
      toMatrix n (clearOthers n k (a, b)).2 = (.of fun i j => toMatrix n b i j -
        (if i = k then 0 else toMatrix n a i k) * toMatrix n b k j) := by
  have hif (i : Fin n) : (if i = k then 0 else toMatrix n a i k) =
      if (i : Nat) = k then 0 else a.entry i k := if_congr Fin.ext_iff rfl rfl
  have hspec := (clearOthers_spec (s := (a, b)) k.isLt ⟨ha, hb⟩).2
  constructor
  · ext i j
    rw [Matrix.of_apply, hif]
    exact (hspec i j i.isLt j.isLt).1
  · ext i j
    rw [Matrix.of_apply, hif]
    exact (hspec i j i.isLt j.isLt).2

/-- A pivot that is zero leaves none in its column. -/
theorem column_zero {k : Fin n} (h : m.entry (pivotRow m n k) k = 0) (i : Fin n) (hi : k ≤ i) :
    toMatrix n m i k = 0 := by
  have hle := (pivotRow_spec (m := m) k.isLt).2 i hi i.isLt
  rw [h, abs_zero] at hle
  exact abs_nonpos_iff.mp hle

/-! ### The determinant -/

/-- What the rows that are left come to: the list is used up at the last. -/
theorem rows_nil {k : Nat} (hrows : [] = List.range' k (n - k)) (hk : k ≤ n) : k = n := by
  have := congrArg List.length hrows
  rw [List.length_nil, List.length_range'] at this
  omega

theorem rows_cons {row k : Nat} {rows : List Nat} (hrows : row :: rows = List.range' k (n - k)) :
    k < n ∧ row = k ∧ rows = List.range' (k + 1) (n - (k + 1)) := by
  have hlt : k < n := by
    have := congrArg List.length hrows
    rw [List.length_cons, List.length_range'] at this
    omega
  rw [show n - k = n - (k + 1) + 1 by omega, List.range'_succ] at hrows
  exact ⟨hlt, List.cons.inj hrows⟩

/-- One row: the exchange, if there is one, brings the pivot to its row. -/
theorem exchange_spec {A : Matrix (Fin n) (Fin n) ℚ} {k : Fin n} {d : ℚ} (h : SquareOf n w)
    (he : Eliminating A (toMatrix n w) k d) (hpivot : w.entry (pivotRow w n k) k ≠ 0) :
    ∃ s, (s = if pivotRow w n k ≠ k then
        (forRange 0 n (swapEntries k (pivotRow w n k)) w, -d) else (w, d)) ∧
      SquareOf n s.1 ∧ Eliminating A (toMatrix n s.1) k s.2 ∧ s.1.entry k k ≠ 0 := by
  obtain ⟨⟨hge, hmax⟩, -⟩ := pivotRow_spec (m := w) k.isLt
  by_cases hswap : pivotRow w n k = k
  · refine ⟨(w, d), (if_neg (not_not.mpr hswap)).symm, h, he, ?_⟩
    rwa [hswap] at hpivot
  · have hspec := swapEntries_spec k.isLt hmax h
    refine ⟨_, (if_pos hswap).symm, hspec.1, ?_, ?_⟩
    · rw [toMatrix_swapEntries h k ⟨_, hmax⟩]
      exact he.swap (Nat.lt_of_le_of_ne hge (Ne.symm hswap))
    · rw [hspec.2 k k k.isLt, if_pos rfl]
      exact hpivot

theorem triangulate_eq {A : Matrix (Fin n) (Fin n) ℚ} {rows : List Nat} {k : Nat} {d : ℚ}
    (hrows : rows = List.range' k (n - k)) (hk : k ≤ n) (h : SquareOf n w)
    (he : Eliminating A (toMatrix n w) k d) : triangulate n rows w d = A.det := by
  induction rows generalizing k w d with
  | nil =>
    obtain rfl := rows_nil hrows hk
    rw [triangulate, he.finish]
  | cons row rows ih =>
    obtain ⟨hlt, rfl, hrows⟩ := rows_cons hrows
    by_cases hpivot : w.entry (pivotRow w n row) row = 0
    · have hzero : triangulate n (row :: rows) w d = 0 := if_pos hpivot
      rw [hzero]
      exact (he.fails (column_zero (k := ⟨row, hlt⟩) hpivot)).symm
    obtain ⟨s, hs, hw, he, hne⟩ := exchange_spec (k := ⟨row, hlt⟩) h he hpivot
    have hstep : triangulate n (row :: rows) w d =
        triangulate n rows (clearBelow n row s.1) (s.2 * s.1.entry row row) := by
      rw [hs]
      exact if_neg hpivot
    rw [hstep]
    refine ih hrows hlt (clearBelow_spec hlt hw).1 ?_
    have hclear := toMatrix_clearBelow hw ⟨row, hlt⟩ fun j hj => he.below ⟨row, hlt⟩ j hj hj
    have hnext := he.clear (k := ⟨row, hlt⟩) hne
    rw [← hclear] at hnext
    exact hnext

theorem det_one (m : Matrix_) : (toMatrix 1 m).det = m.entry 0 0 := Matrix.det_fin_one _

theorem det_two (m : Matrix_) :
    (toMatrix 2 m).det = m.entry 0 0 * m.entry 1 1 - m.entry 0 1 * m.entry 1 0 :=
  Matrix.det_fin_two _

theorem determinant_eq (h : SquareOf n m) : m.determinant = .ok (toMatrix n m).det := by
  have hdim : m.getDimention = .ok n := by
    rw [getDimention, if_pos]
    · exact congrArg Except.ok h.cols
    · exact decide_eq_true (h.cols.trans h.rows.symm)
  rw [determinant, hdim]
  show (if n = 1 then _ else if n = 2 then _ else _) = _
  split
  · rename_i hn
    subst hn
    rw [det_one]
  split
  · rename_i hn
    subst hn
    rw [det_two]
  · have hrows : List.range n = List.range' 0 (n - 0) := List.range_eq_range'
    rw [triangulate_eq hrows (Nat.zero_le n) h (.start _)]

/-! ### The inverse -/

/-- One row: the exchange in both matrices. -/
theorem exchanges_spec {A : Matrix (Fin n) (Fin n) ℚ} {k : Fin n} {s : Matrix_ × Matrix_}
    (h : SquareOf n s.1 ∧ SquareOf n s.2)
    (hr : Reducing A (toMatrix n s.1) (toMatrix n s.2) k) :
    ∃ t, (t = if pivotRow s.1 n k ≠ k then
        forRange 0 n (fun col u => (swapEntries k (pivotRow s.1 n k) col u.1,
          swapEntries k (pivotRow s.1 n k) col u.2)) s else s) ∧
      (SquareOf n t.1 ∧ SquareOf n t.2) ∧ Reducing A (toMatrix n t.1) (toMatrix n t.2) k ∧
        t.1.entry k k = s.1.entry (pivotRow s.1 n k) k := by
  obtain ⟨⟨hge, hmax⟩, -⟩ := pivotRow_spec (m := s.1) k.isLt
  by_cases hswap : pivotRow s.1 n k = k
  · exact ⟨s, (if_neg (not_not.mpr hswap)).symm, h, hr, by rw [hswap]⟩
  · have hspec1 := swapEntries_spec k.isLt hmax h.1
    have hspec2 := swapEntries_spec k.isLt hmax h.2
    refine ⟨(_, _), ((if_pos hswap).trans (forRange_prod _ _)).symm, ⟨hspec1.1, hspec2.1⟩, ?_, ?_⟩
    · rw [toMatrix_swapEntries h.1 k ⟨_, hmax⟩, toMatrix_swapEntries h.2 k ⟨_, hmax⟩]
      exact hr.swap (Nat.lt_of_le_of_ne hge (Ne.symm hswap))
    · rw [hspec1.2 k k k.isLt, if_pos rfl]

/-- One row: the pivot becomes one, and its column is cleared. -/
theorem reduce_spec {A : Matrix (Fin n) (Fin n) ℚ} {k : Fin n} {t : Matrix_ × Matrix_}
    (h : SquareOf n t.1 ∧ SquareOf n t.2)
    (hr : Reducing A (toMatrix n t.1) (toMatrix n t.2) k) (hne : t.1.entry k k ≠ 0) :
    ∃ u, (u = clearOthers n k (forRange 0 n (fun col u => (divideEntry k (t.1.entry k k) col u.1,
        divideEntry k (t.1.entry k k) col u.2)) t)) ∧
      (SquareOf n u.1 ∧ SquareOf n u.2) ∧
        Reducing A (toMatrix n u.1) (toMatrix n u.2) (k + 1) := by
  obtain ⟨hs1, hentry1⟩ := divideEntry_spec k.isLt (t.1.entry k k) h.1
  have hs2 := (divideEntry_spec k.isLt (t.1.entry k k) h.2).1
  have hscaled := hr.scale hne
  rw [← toMatrix_divideEntry h.1, ← toMatrix_divideEntry h.2] at hscaled
  have hone : toMatrix n (forRange 0 n (divideEntry k (t.1.entry k k)) t.1) k k = 1 := by
    show entry _ k k = 1
    rw [hentry1 k k k.isLt, if_pos rfl, div_self hne]
  have hnext := hscaled.clear hone
  obtain ⟨h1, h2⟩ := toMatrix_clearOthers hs1 hs2 k
  refine ⟨_, congrArg (clearOthers n k) (forRange_prod _ _).symm,
    (clearOthers_spec k.isLt ⟨hs1, hs2⟩).1, ?_⟩
  rw [h1, h2]
  exact hnext

/-- What the rows that are left do: they find the inverse, or a pivot within the tolerance. -/
theorem reduceRows_spec {A : Matrix (Fin n) (Fin n) ℚ} {tolerance : ℚ} (htol : 0 ≤ tolerance)
    {rows : List Nat} {k : Nat} {s : Matrix_ × Matrix_} (hrows : rows = List.range' k (n - k))
    (hk : k ≤ n) (h : SquareOf n s.1 ∧ SquareOf n s.2)
    (hr : Reducing A (toMatrix n s.1) (toMatrix n s.2) k) :
    (∃ inv, reduceRows n tolerance rows s = .ok inv ∧ SquareOf n inv ∧
      (toMatrix n inv * A = 1 ∧ A * toMatrix n inv = 1) ∧ A.det ≠ 0) ∨
    reduceRows n tolerance rows s = .error singularMatrixFailure ∧
      (tolerance = 0 → A.det = 0) := by
  induction rows generalizing k s with
  | nil =>
    obtain rfl := rows_nil hrows hk
    exact .inl ⟨s.2, rfl, h.2, hr.finish, hr.det_ne_zero⟩
  | cons row rows ih =>
    obtain ⟨hlt, rfl, hrows⟩ := rows_cons hrows
    obtain ⟨t, htdef, ht, hrt, hentry⟩ := exchanges_spec (k := ⟨row, hlt⟩) h hr
    by_cases hsmall : |t.1.entry row row| ≤ tolerance
    · have hstep : reduceRows n tolerance (row :: rows) s = .error singularMatrixFailure := by
        rw [htdef] at hsmall
        exact if_pos hsmall
      refine .inr ⟨hstep, fun h0 => hr.fails (k := ⟨row, hlt⟩) fun i hi => ?_⟩
      have hzero := hentry ▸ abs_nonpos_iff.mp (h0 ▸ hsmall)
      exact column_zero hzero i hi
    · have hne : t.1.entry row row ≠ 0 := fun h0 =>
        hsmall (le_of_eq_of_le (abs_eq_zero.mpr h0) htol)
      obtain ⟨u, hudef, hu, hru⟩ := reduce_spec (k := ⟨row, hlt⟩) ht hrt hne
      have hstep : reduceRows n tolerance (row :: rows) s = reduceRows n tolerance rows u := by
        rw [hudef]
        rw [htdef] at hsmall ⊢
        exact if_neg hsmall
      rw [hstep]
      exact ih hrows hlt hu hru

theorem maxElement_spec (m : Matrix_) (n : Nat) :
    0 ≤ m.maxElement n ∧ ∀ i < n, ∀ j < n, |m.entry i j| ≤ m.maxElement n := by
  refine forRange_invariant (P := fun r max => 0 ≤ max ∧ ∀ i < r, ∀ j < n, |m.entry i j| ≤ max)
    (Nat.zero_le n) ?_ ?_
  · exact ⟨le_refl 0, fun i hi => absurd hi (Nat.not_lt_zero i)⟩
  rintro r max - - ⟨hmax, hall⟩
  obtain ⟨hle, hrow⟩ := forRange_invariant (s := max)
    (f := fun col max' => Max.max max' |m.entry r col|)
    (P := fun c max' => max ≤ max' ∧ ∀ j < c, |m.entry r j| ≤ max') (Nat.zero_le n)
    ⟨le_refl max, fun j hj => absurd hj (Nat.not_lt_zero j)⟩ fun c max' _ _ ⟨hle, hrow⟩ =>
      ⟨hle.trans (le_max_left _ _), fun j hj => by
        obtain hj | rfl := Nat.lt_succ_iff_lt_or_eq.mp hj
        · exact (hrow j hj).trans (le_max_left _ _)
        · exact le_max_right _ _⟩
  refine ⟨hmax.trans hle, fun i hi j hj => ?_⟩
  obtain hi | rfl := Nat.lt_succ_iff_lt_or_eq.mp hi
  · exact (hall i hi j hj).trans hle
  · exact hrow j hj

theorem det_eq_zero_of_maxElement (hn : 1 ≤ n) (h : m.maxElement n = 0) :
    (toMatrix n m).det = 0 := by
  refine Matrix.det_eq_zero_of_row_eq_zero ⟨0, hn⟩ fun j => ?_
  have hle := (maxElement_spec m n).2 0 hn j j.isLt
  rw [h] at hle
  exact abs_nonpos_iff.mp hle

/-- The adjugate, divided by the determinant. -/
theorem inverse_two {inv : Matrix_} (hdet : (toMatrix 2 m).det ≠ 0)
    (h00 : inv.entry 0 0 = m.entry 1 1 * (1 / (toMatrix 2 m).det))
    (h01 : inv.entry 0 1 = -m.entry 0 1 * (1 / (toMatrix 2 m).det))
    (h10 : inv.entry 1 0 = -m.entry 1 0 * (1 / (toMatrix 2 m).det))
    (h11 : inv.entry 1 1 = m.entry 0 0 * (1 / (toMatrix 2 m).det)) :
    toMatrix 2 inv * toMatrix 2 m = 1 := by
  have hinv : toMatrix 2 inv =
      (toMatrix 2 m).det⁻¹ • !![m.entry 1 1, -m.entry 0 1; -m.entry 1 0, m.entry 0 0] := by
    rw [Matrix.eta_fin_two (toMatrix 2 inv), Matrix.smul_of, Matrix.smul_cons, Matrix.smul_cons]
    simp only [toMatrix, Matrix.of_apply, Fin.val_zero, Fin.val_one, Matrix.smul_cons, smul_eq_mul,
      Matrix.smul_empty]
    rw [h00, h01, h10, h11, one_div, mul_comm, mul_comm (-m.entry 0 1), mul_comm (-m.entry 1 0),
      mul_comm (m.entry 0 0)]
    rfl
  have hadjugate : !![m.entry 1 1, -m.entry 0 1; -m.entry 1 0, m.entry 0 0] =
      (toMatrix 2 m).adjugate := (Matrix.adjugate_fin_two (toMatrix 2 m)).symm
  rw [hinv, hadjugate, Matrix.smul_mul, Matrix.adjugate_mul, smul_smul, inv_mul_cancel₀ hdet,
    one_smul]

/-- What `tryInverse` finds: an inverse, or a determinant that is too small. -/
def Finds (n : Nat) (epsilon : ℚ) (m : Matrix_) : Prop :=
  (∃ inv, Inverts epsilon m inv ∧ SquareOf n inv ∧
    (toMatrix n inv * toMatrix n m = 1 ∧ toMatrix n m * toMatrix n inv = 1) ∧
      (toMatrix n m).det ≠ 0) ∨
  m.tryInverse epsilon = .ok (.error singularMatrixFailure) ∧
    (epsilon = 0 → (toMatrix n m).det = 0)

theorem finds_inverse {epsilon : ℚ} {inv : Matrix_} (h : Inverts epsilon m inv)
    (hs : SquareOf n inv) (hone : toMatrix n inv * toMatrix n m = 1)
    (hdet : (toMatrix n m).det ≠ 0) : Finds n epsilon m :=
  .inl ⟨inv, h, hs, ⟨hone, mul_eq_one_comm.mp hone⟩, hdet⟩

/-- By the dimension. -/
theorem tryInverse_eq (h : SquareOf n m) (epsilon : ℚ) : m.tryInverse epsilon =
    if n = 1 then
      if m.entry 0 0 = 0 then .ok (.error singularMatrixFailure)
      else .ok (.ok ((filled n n 0).setEntry 0 0 (1 / m.entry 0 0)))
    else if n = 2 then
      if |m.entry 0 0 * m.entry 1 1 - m.entry 0 1 * m.entry 1 0| ≤
          epsilon * (|m.entry 0 0 * m.entry 1 1| + |m.entry 0 1 * m.entry 1 0|) * 4 then
        .ok (.error singularMatrixFailure)
      else
        .ok (.ok (scalarMul (1 / (m.entry 0 0 * m.entry 1 1 - m.entry 0 1 * m.entry 1 0))
          ((((filled n n 0).setEntry 0 0 (m.entry 1 1)).setEntry 0 1 (-m.entry 0 1)).setEntry 1 0
            (-m.entry 1 0) |>.setEntry 1 1 (m.entry 0 0))))
    else if m.maxElement n = 0 then .ok (.error singularMatrixFailure)
    else .ok (reduceRows n (m.maxElement n * n * epsilon) (List.range n) (m, identify n)) := by
  have hcols : m.cols = n := h.cols
  have hsquare : m.isSquare = true := decide_eq_true (h.cols.trans h.rows.symm)
  have hsquare : ¬(!m.isSquare) = true := by
    rw [hsquare]
    decide
  rw [tryInverse, if_neg hsquare, hcols]

theorem tryInverse_one (h : SquareOf 1 m) (epsilon : ℚ) : Finds 1 epsilon m := by
  have heq := tryInverse_eq h epsilon
  rw [if_pos rfl] at heq
  by_cases hdet : m.entry 0 0 = 0
  · rw [if_pos hdet] at heq
    exact .inr ⟨heq, fun _ => (det_one m).trans hdet⟩
  rw [if_neg hdet] at heq
  have h0 : SquareOf 1 (filled 1 1 0) := ⟨rfl, rfl⟩
  have hentry : ((filled 1 1 0).setEntry 0 0 (1 / m.entry 0 0)).entry 0 0 = 1 / m.entry 0 0 := by
    rw [entry_setEntry h0 Nat.one_pos Nat.one_pos Nat.one_pos, if_pos ⟨rfl, rfl⟩]
  refine finds_inverse heq (squareOf_setEntry h0 0 0 _) ?_ (det_one m ▸ hdet)
  ext i j
  obtain rfl := Subsingleton.elim i 0
  obtain rfl := Subsingleton.elim j 0
  rw [Matrix.mul_apply, Fin.sum_univ_one, Matrix.one_apply_eq]
  show ((filled 1 1 0).setEntry 0 0 (1 / m.entry 0 0)).entry 0 0 * m.entry 0 0 = 1
  rw [hentry, one_div_mul_cancel hdet]

theorem tryInverse_two (h : SquareOf 2 m) {epsilon : ℚ} (heps : 0 ≤ epsilon) :
    Finds 2 epsilon m := by
  have heq := tryInverse_eq h epsilon
  rw [if_neg (by decide), if_pos rfl, ← det_two] at heq
  have htol : 0 ≤ epsilon * (|m.entry 0 0 * m.entry 1 1| + |m.entry 0 1 * m.entry 1 0|) * 4 :=
    mul_nonneg (mul_nonneg heps (add_nonneg (abs_nonneg _) (abs_nonneg _))) (by decide)
  by_cases hsmall : |(toMatrix 2 m).det| ≤
      epsilon * (|m.entry 0 0 * m.entry 1 1| + |m.entry 0 1 * m.entry 1 0|) * 4
  · rw [if_pos hsmall] at heq
    refine .inr ⟨heq, fun h0 => ?_⟩
    rw [h0, zero_mul, zero_mul] at hsmall
    exact abs_nonpos_iff.mp hsmall
  rw [if_neg hsmall] at heq
  have hdet : (toMatrix 2 m).det ≠ 0 := fun h0 =>
    hsmall (le_of_eq_of_le (abs_eq_zero.mpr h0) htol)
  have h0 : SquareOf 2 (filled 2 2 0) := ⟨rfl, rfl⟩
  have h1 := squareOf_setEntry h0 0 0 (m.entry 1 1)
  have h2 := squareOf_setEntry h1 0 1 (-m.entry 0 1)
  have h3 := squareOf_setEntry h2 1 0 (-m.entry 1 0)
  have h4 := squareOf_setEntry h3 1 1 (m.entry 0 0)
  have hentry (i j : Nat) (hi : i < 2) (hj : j < 2) (c : ℚ) (w : Matrix_) (hw : SquareOf 2 w) :
      (scalarMul c w).entry i j = w.entry i j * c :=
    Grid.get_map (· * c) w (hw.cols ▸ hj) (hw.rows ▸ hi)
  refine finds_inverse heq ⟨rfl, rfl⟩ (inverse_two hdet ?_ ?_ ?_ ?_) hdet
  all_goals
    rw [hentry _ _ (by decide) (by decide) _ _ h4,
      entry_setEntry h3 (by decide) (by decide) (by decide),
      entry_setEntry h2 (by decide) (by decide) (by decide),
      entry_setEntry h1 (by decide) (by decide) (by decide),
      entry_setEntry h0 (by decide) (by decide) (by decide)]
    rfl

theorem tryInverse_spec (h : SquareOf n m) (hn : 1 ≤ n) {epsilon : ℚ} (heps : 0 ≤ epsilon) :
    Finds n epsilon m := by
  by_cases hone : n = 1
  · subst hone
    exact tryInverse_one h epsilon
  by_cases htwo : n = 2
  · subst htwo
    exact tryInverse_two h heps
  have heq := tryInverse_eq h epsilon
  rw [if_neg hone, if_neg htwo] at heq
  by_cases hmax : m.maxElement n = 0
  · rw [if_pos hmax] at heq
    exact .inr ⟨heq, fun _ => det_eq_zero_of_maxElement hn hmax⟩
  rw [if_neg hmax] at heq
  have htol : 0 ≤ m.maxElement n * n * epsilon :=
    mul_nonneg (mul_nonneg (maxElement_spec m n).1 (Nat.cast_nonneg n)) heps
  obtain ⟨hid, hone⟩ := identify_spec n
  have hrows : List.range n = List.range' 0 (n - 0) := List.range_eq_range'
  have hstart : Reducing (toMatrix n m) (toMatrix n m) (toMatrix n (identify n)) 0 :=
    hone ▸ .start _
  obtain ⟨inv, hinv, hs, hmul, hdet⟩ | ⟨hfail, hzero⟩ :=
    reduceRows_spec (s := (m, identify n)) htol hrows (Nat.zero_le n) ⟨h, hid⟩ hstart
  · exact finds_inverse (heq.trans (congrArg Except.ok hinv)) hs hmul.1 hdet
  · exact .inr ⟨heq.trans (congrArg Except.ok hfail), fun h0 => hzero (by rw [h0, mul_zero])⟩

/-- `determinant` is the determinant; what `tryInverse` reports as inverse is, from both sides, in
the program's own product; and without a tolerance it reports one exactly if the determinant is not
zero. -/
theorem matrix_elimination (h : SquareOf n m) (hn : 1 ≤ n) {epsilon : ℚ} (heps : 0 ≤ epsilon) :
    m.determinant = .ok (toMatrix n m).det ∧
    (∀ inv, Inverts epsilon m inv → Inverse n inv m) ∧ toMatrix n (identify n) = 1 ∧
    ((∃ inv, Inverts 0 m inv) ↔ (toMatrix n m).det ≠ 0) := by
  refine ⟨determinant_eq h, fun inv hinv => ?_, (identify_spec n).2, ?_⟩
  · obtain ⟨inv', hinv', hs, hmul, -⟩ | ⟨hfail, -⟩ := tryInverse_spec h hn heps
    · cases hinv.symm.trans hinv'
      exact inverse_of hs h hmul
    · cases hinv.symm.trans hfail
  · obtain ⟨inv, hinv, -, -, hdet⟩ | ⟨hfail, hzero⟩ := tryInverse_spec h hn (le_refl (0 : ℚ))
    · exact iff_of_true ⟨inv, hinv⟩ hdet
    · refine iff_of_false ?_ (not_not.mpr (hzero rfl))
      rintro ⟨inv, hinv⟩
      cases hinv.symm.trans hfail

/-- Rows are exchanged on the way. -/
def exchanging : Matrix_ :=
  Grid.ofFn 3 3 fun x y => ([[0, 2, 1], [1, 0, 0], [3, 0, 1]].getD y []).getD x 0

theorem matrix_elimination_exchanging : exchanging.determinant = .ok (-2) ∧
    (toMatrix 3 exchanging).det = -2 ∧
      ∃ inv, Inverts 0 exchanging inv ∧ Inverse 3 inv exchanging := by
  obtain ⟨hdet, hinverse, -, hiff⟩ :=
    matrix_elimination (n := 3) (m := exchanging) ⟨rfl, rfl⟩ (by decide) (le_refl (0 : ℚ))
  have hcomputed : exchanging.determinant = .ok (-2) := by decide +kernel
  have htwo : (toMatrix 3 exchanging).det = -2 := Except.ok.inj (hdet.symm.trans hcomputed)
  obtain ⟨inv, hinv⟩ := hiff.mpr (by rw [htwo]; decide)
  exact ⟨hcomputed, htwo, inv, hinv, hinverse inv hinv⟩

end

end WSE.Proof.Wse
