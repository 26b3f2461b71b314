import Mathlib.Data.List.Basic
import Mathlib.Data.List.GetD
import Mathlib.Tactic.TypeStar

/-!
# Grids of cells

A `Grid` keeps its rows one after another in one list. `get` and `write` go to a cell as an
array of rows does, by the index `y * width + x`; two cells inside have the same index only if
they are the same (`index_inj`). A loop that writes each cell of a list of places to a place of
its own leaves exactly these values (`get_scatter`, `get_scatter_of_ne`), and so does one whose
turns may fail and write several cells (`foldlM_covers`).
-/

namespace WSE.Framework

variable {α β : Type*}

/-- The places of so many columns and rows, row by row. -/
def places (width height : Nat) : List (Nat × Nat) :=
  (List.range height).flatMap fun y => (List.range width).map fun x => (x, y)

@[simp] theorem mem_places {width height : Nat} {p : Nat × Nat} :
    p ∈ places width height ↔ p.1 < width ∧ p.2 < height := by
  simp only [places, List.mem_flatMap, List.mem_map, List.mem_range]
  constructor
  · rintro ⟨y, hy, x, hx, rfl⟩
    exact ⟨hx, hy⟩
  · rintro ⟨hx, hy⟩
    exact ⟨p.2, hy, p.1, hx, rfl⟩

@[simp] theorem length_places (width height : Nat) :
    (places width height).length = width * height := by
  simp only [places, List.length_flatMap, List.length_map, List.length_range, List.map_const',
    List.sum_replicate_nat]
  exact Nat.mul_comm height width

theorem index_lt {width height x y : Nat} (hx : x < width) (hy : y < height) :
    y * width + x < width * height := by
  have := Nat.mul_le_mul_right width (Nat.succ_le_of_lt hy)
  rw [Nat.succ_mul, Nat.mul_comm height] at this
  omega

theorem index_inj {width x y x' y' : Nat} (hx : x < width) (hx' : x' < width)
    (h : y * width + x = y' * width + x') : x = x' ∧ y = y' := by
  have hpos : 0 < width := by omega
  have hdiv := congrArg (· / width) h
  have hmod := congrArg (· % width) h
  simp only [Nat.mul_comm _ width, Nat.mul_add_div hpos, Nat.mul_add_mod, Nat.div_eq_of_lt hx,
    Nat.div_eq_of_lt hx', Nat.mod_eq_of_lt hx, Nat.mod_eq_of_lt hx'] at hdiv hmod
  exact ⟨hmod, hdiv⟩

/-- Lists of one length, one after another, are found by the index of the list and of the
element. -/
theorem getElem?_chunks {l : List β} {f : β → List α} {k i j : Nat}
    (h : ∀ b ∈ l, (f b).length = k) (hi : i < l.length) (hj : j < k) :
    (l.flatMap f)[i * k + j]? = (f l[i])[j]? := by
  induction l generalizing i with
  | nil => exact absurd hi (Nat.not_lt_zero i)
  | cons b l ih =>
    have hb := h b List.mem_cons_self
    rw [List.flatMap_cons]
    cases i with
    | zero =>
      rw [Nat.zero_mul, Nat.zero_add, List.getElem?_append_left (hb ▸ hj), List.getElem_cons_zero]
    | succ i =>
      rw [List.getElem?_append_right (by rw [hb, Nat.succ_mul]; omega), hb,
        show (i + 1) * k + j - k = i * k + j by rw [Nat.succ_mul]; omega,
        ih (fun b' hb' => h b' (List.mem_cons_of_mem b hb')) (Nat.lt_of_succ_lt_succ hi),
        List.getElem_cons_succ]

theorem getElem?_rows {n k i j : Nat} {row : Nat → List α} (h : ∀ i < n, (row i).length = k)
    (hi : i < n) (hj : j < k) : ((List.range n).flatMap row)[i * k + j]? = (row i)[j]? := by
  have hi' : i < (List.range n).length := by rwa [List.length_range]
  rw [getElem?_chunks (fun i hi => h i (List.mem_range.mp hi)) hi' hj, List.getElem_range]

theorem getElem?_places {width height x y : Nat} (hx : x < width) (hy : y < height) :
    (places width height)[y * width + x]? = some (x, y) := by
  rw [places, getElem?_rows (fun _ _ => by rw [List.length_map, List.length_range]) hy hx,
    List.getElem?_map, List.getElem?_range hx]
  rfl

/-- Rows of cells. -/
@[ext] structure Grid (α : Type*) where
  width : Nat
  height : Nat
  cells : List α
  size : cells.length = width * height
  deriving DecidableEq

namespace Grid

def fill (width height : Nat) (a : α) : Grid α :=
  ⟨width, height, List.replicate (width * height) a, List.length_replicate⟩

def map (f : α → β) (g : Grid α) : Grid β :=
  ⟨g.width, g.height, g.cells.map f, (List.length_map f).trans g.size⟩

def ofFn (width height : Nat) (f : Nat → Nat → α) : Grid α :=
  ⟨width, height, (places width height).map fun p => f p.1 p.2,
    (List.length_map _).trans (length_places width height)⟩

def write (g : Grid α) (x y : Nat) (a : α) : Grid α :=
  { g with
    cells := g.cells.set (y * g.width + x) a
    size := List.length_set.trans g.size }

/-- The value of each place is written to the place that it goes to. -/
def scatter (g : Grid α) (place : Nat × Nat → Nat × Nat) (value : Nat × Nat → α)
    (ps : List (Nat × Nat)) : Grid α :=
  ps.foldl (fun g p => g.write (place p).1 (place p).2 (value p)) g

@[simp] theorem width_write (g : Grid α) (x y : Nat) (a : α) : (g.write x y a).width = g.width :=
  rfl

@[simp] theorem height_write (g : Grid α) (x y : Nat) (a : α) :
    (g.write x y a).height = g.height := rfl

theorem write_write (g : Grid α) (x y : Nat) (a b : α) :
    (g.write x y a).write x y b = g.write x y b :=
  Grid.ext rfl rfl (List.set_set ..)

section Scatter

variable (g : Grid α) (place : Nat × Nat → Nat × Nat) (value : Nat × Nat → α)

@[simp] theorem scatter_nil : g.scatter place value [] = g := rfl

theorem scatter_cons (p : Nat × Nat) (ps : List (Nat × Nat)) : g.scatter place value (p :: ps) =
    (g.write (place p).1 (place p).2 (value p)).scatter place value ps := rfl

@[simp] theorem width_scatter (ps : List (Nat × Nat)) :
    (g.scatter place value ps).width = g.width := by
  induction ps generalizing g with
  | nil => rfl
  | cons p ps ih => rw [scatter_cons, ih, width_write]

@[simp] theorem height_scatter (ps : List (Nat × Nat)) :
    (g.scatter place value ps).height = g.height := by
  induction ps generalizing g with
  | nil => rfl
  | cons p ps ih => rw [scatter_cons, ih, height_write]

end Scatter

section Get

variable [Inhabited α] {x y : Nat}

/-- The cell at the index of the column and the row. -/
def get (g : Grid α) (x y : Nat) : α := g.cells.getD (y * g.width + x) default

theorem ext_get {g k : Grid α} (hw : g.width = k.width) (hh : g.height = k.height)
    (h : ∀ x < g.width, ∀ y < g.height, g.get x y = k.get x y) : g = k := by
  refine Grid.ext hw hh (List.ext_getElem (by rw [g.size, k.size, hw, hh]) fun i hi hk => ?_)
  have hsize := g.size ▸ hi
  have hpos : 0 < g.width := by
    by_contra h0
    rw [Nat.eq_zero_of_not_pos h0, Nat.zero_mul] at hsize
    exact Nat.not_lt_zero i hsize
  have hget := h (i % g.width) (Nat.mod_lt i hpos) (i / g.width) (Nat.div_lt_of_lt_mul hsize)
  rw [get, get, ← hw, Nat.mul_comm, Nat.div_add_mod, List.getD_eq_getElem _ _ hi,
    List.getD_eq_getElem _ _ hk] at hget
  exact hget

@[simp] theorem get_ofFn {width height : Nat} (f : Nat → Nat → α) (hx : x < width)
    (hy : y < height) : (ofFn width height f).get x y = f x y := by
  show ((places width height).map fun p => f p.1 p.2).getD (y * width + x) default = f x y
  rw [List.getD_eq_getElem?_getD, List.getElem?_map, getElem?_places hx hy]
  rfl

theorem get_map [Inhabited β] (f : α → β) (g : Grid α) (hx : x < g.width) (hy : y < g.height) :
    (g.map f).get x y = f (g.get x y) := by
  have hi : y * g.width + x < g.cells.length := g.size ▸ index_lt hx hy
  show (g.cells.map f).getD (y * g.width + x) default = f (g.cells.getD _ default)
  rw [List.getD_eq_getElem _ _ (by rw [List.length_map]; exact hi), List.getD_eq_getElem _ _ hi,
    List.getElem_map]

theorem get_write (g : Grid α) (a : α) {x' y' : Nat} (hx : x < g.width) (hy : y < g.height)
    (hx' : x' < g.width) :
    (g.write x y a).get x' y' = if x' = x ∧ y' = y then a else g.get x' y' := by
  have hi : y * g.width + x < g.cells.length := g.size ▸ index_lt hx hy
  show (g.cells.set (y * g.width + x) a).getD (y' * g.width + x') default = _
  rw [List.getD_eq_getElem?_getD, List.getElem?_set]
  split
  · rename_i he
    obtain ⟨rfl, rfl⟩ := index_inj hx hx' he
    rw [if_pos ⟨rfl, rfl⟩]
    rfl
  · rename_i hne
    rw [if_neg (fun h => hne (by rw [h.1, h.2])), ← List.getD_eq_getElem?_getD]
    rfl

variable (place : Nat × Nat → Nat × Nat) (value : Nat × Nat → α) {ps : List (Nat × Nat)}

/-- A place that nothing is written to keeps its cell. -/
theorem get_scatter_of_ne (g : Grid α)
    (hin : ∀ p ∈ ps, (place p).1 < g.width ∧ (place p).2 < g.height) (hx : x < g.width)
    (hne : ∀ p ∈ ps, place p ≠ (x, y)) : (g.scatter place value ps).get x y = g.get x y := by
  induction ps generalizing g with
  | nil => rfl
  | cons p ps ih =>
    obtain ⟨hpx, hpy⟩ := hin p List.mem_cons_self
    have hp : ¬ (x = (place p).1 ∧ y = (place p).2) := fun h =>
      hne p List.mem_cons_self (Prod.ext h.1.symm h.2.symm)
    rw [scatter_cons, ih (g.write _ _ _) (fun q hq => hin q (List.mem_cons_of_mem p hq)) hx
      (fun q hq => hne q (List.mem_cons_of_mem p hq)), get_write g _ hpx hpy hx, if_neg hp]

/-- What is written to places of their own stays there. -/
theorem get_scatter (g : Grid α)
    (hin : ∀ p ∈ ps, (place p).1 < g.width ∧ (place p).2 < g.height)
    (hinj : ∀ p ∈ ps, ∀ q ∈ ps, place p = place q → p = q) {p : Nat × Nat} (hp : p ∈ ps) :
    (g.scatter place value ps).get (place p).1 (place p).2 = value p := by
  induction ps generalizing g with
  | nil => exact absurd hp List.not_mem_nil
  | cons q ps ih =>
    obtain ⟨hqx, hqy⟩ := hin q List.mem_cons_self
    have hrest : ∀ r ∈ ps, (place r).1 < g.width ∧ (place r).2 < g.height :=
      fun r hr => hin r (List.mem_cons_of_mem q hr)
    rw [scatter_cons]
    by_cases hps : p ∈ ps
    · exact ih (g.write _ _ _) hrest (fun r hr t ht => hinj r (List.mem_cons_of_mem q hr) t
        (List.mem_cons_of_mem q ht)) hps
    · obtain rfl : p = q := (List.mem_cons.mp hp).resolve_right hps
      -- No later place is written to the same cell.
      have hlater : ∀ r ∈ ps, place r ≠ ((place p).1, (place p).2) := fun r hr he =>
        hps (hinj r (List.mem_cons_of_mem p hr) p List.mem_cons_self he ▸ hr)
      rw [get_scatter_of_ne place value (g.write _ _ _) hrest hqx hlater, get_write g _ hqx hqy hqx,
        if_pos ⟨rfl, rfl⟩]

/-- What the turns of a loop write, each to the places that it covers and nowhere else, is there at
the end. -/
theorem foldlM_covers {ι : Type*} {step : Grid α → ι → Option (Grid α)} {width height : Nat}
    {covers : ι → Nat → Nat → Prop} {cell : Nat → Nat → α} {turns : List ι}
    (hstep : ∀ i ∈ turns, ∀ g : Grid α, g.width = width → g.height = height →
      ∃ k, step g i = some k ∧ k.width = width ∧ k.height = height ∧
        ∀ x < width, ∀ y < height, (covers i x y → k.get x y = cell x y) ∧
          (¬covers i x y → k.get x y = g.get x y))
    {g : Grid α} (hw : g.width = width) (hh : g.height = height) :
    ∃ k, turns.foldlM step g = some k ∧ k.width = width ∧ k.height = height ∧
      ∀ x < width, ∀ y < height, ((∃ i ∈ turns, covers i x y) → k.get x y = cell x y) ∧
        ((∀ i ∈ turns, ¬covers i x y) → k.get x y = g.get x y) := by
  induction turns generalizing g with
  | nil =>
    refine ⟨g, rfl, hw, hh, fun x _ y _ => ⟨fun h => ?_, fun _ => rfl⟩⟩
    obtain ⟨i, hi, -⟩ := h
    exact absurd hi List.not_mem_nil
  | cons i turns ih =>
    obtain ⟨m, hm, hmw, hmh, hcells⟩ := hstep i List.mem_cons_self g hw hh
    obtain ⟨k, hk, hkw, hkh, hrest⟩ := ih (fun j hj => hstep j (List.mem_cons_of_mem i hj)) hmw hmh
    refine ⟨k, ?_, hkw, hkh, fun x hx y hy => ⟨fun h => ?_, fun h => ?_⟩⟩
    · rw [List.foldlM_cons, hm]
      exact hk
    · by_cases hlater : ∃ j ∈ turns, covers j x y
      · exact (hrest x hx y hy).1 hlater
      · have hnone : ∀ j ∈ turns, ¬covers j x y := fun j hj hc => hlater ⟨j, hj, hc⟩
        obtain ⟨j, hj, hc⟩ := h
        obtain rfl | hj := List.mem_cons.mp hj
        · rw [(hrest x hx y hy).2 hnone]
          exact (hcells x hx y hy).1 hc
        · exact absurd hc (hnone j hj)
    · rw [(hrest x hx y hy).2 fun j hj => h j (List.mem_cons_of_mem i hj)]
      exact (hcells x hx y hy).2 (h i List.mem_cons_self)

end Get

end Grid

end WSE.Framework
