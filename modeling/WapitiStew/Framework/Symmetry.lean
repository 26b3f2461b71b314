import Mathlib.GroupTheory.SpecificGroups.Dihedral
import WapitiStew.Framework.Grid

/-!
# Symmetries of a rectangle

The symmetries of a rectangle of cells, quarter turns included, are the dihedral group with four
rotations: `r 1` is a quarter turn clockwise, `sr 0` mirrors left to right. An element mirrors the
columns, the rows or both and may then exchange them (`Turn.ofDihedral`); this composes as the
group does (`ofDihedral_mul`), so that the group acts on grids (`MulAction`).
-/

namespace WSE.Framework

variable {α : Type*}

/-! The elements by name: the turns are clockwise, the mirrors from left to right and from top to
bottom. -/

def quarterTurn : DihedralGroup 4 := .r 1

def halfTurn : DihedralGroup 4 := .r 2

def threeQuarterTurn : DihedralGroup 4 := .r 3

def mirrorAcross : DihedralGroup 4 := .sr 0

def mirrorDown : DihedralGroup 4 := .sr 2

/-- The columns mirrored, the rows mirrored, then the two exchanged. -/
structure Turn where
  flipX : Bool
  flipY : Bool
  swap : Bool
  deriving DecidableEq

namespace Turn

/-- The width and height of the turned rectangle. -/
def extent (t : Turn) (e : Nat × Nat) : Nat × Nat := if t.swap then e.swap else e

/-- Where a cell of a rectangle goes. -/
def place (t : Turn) (e p : Nat × Nat) : Nat × Nat :=
  let q := (if t.flipX then e.1 - 1 - p.1 else p.1, if t.flipY then e.2 - 1 - p.2 else p.2)
  if t.swap then q.swap else q

/-- `u` and then `t`. -/
def after (t u : Turn) : Turn :=
  if u.swap then ⟨u.flipX ^^ t.flipY, u.flipY ^^ t.flipX, !t.swap⟩
  else ⟨u.flipX ^^ t.flipX, u.flipY ^^ t.flipY, t.swap⟩

/-- A cell of a rectangle. -/
abbrev Inside (p e : Nat × Nat) : Prop := p.1 < e.1 ∧ p.2 < e.2

variable {e p : Nat × Nat}

theorem extent_after (t u : Turn) (e : Nat × Nat) :
    (t.after u).extent e = t.extent (u.extent e) := by
  obtain ⟨tx, ty, ts⟩ := t
  obtain ⟨ux, uy, us⟩ := u
  cases ts <;> cases us <;> rfl

theorem place_inside (t : Turn) (h : Inside p e) : Inside (t.place e p) (t.extent e) := by
  obtain ⟨tx, ty, ts⟩ := t
  obtain ⟨hx, hy⟩ := h
  cases tx <;> cases ty <;> cases ts <;> simp [Inside, place, extent] <;> omega

/-- A coordinate, mirrored in a side of length `n` or not. -/
def mirrored (flip : Bool) (n x : Nat) : Nat := if flip then n - 1 - x else x

theorem mirrored_mirrored (b c : Bool) {n x : Nat} (h : x < n) :
    mirrored b n (mirrored c n x) = mirrored (c ^^ b) n x := by
  cases b with
  | false => rw [Bool.xor_false]; rfl
  | true =>
    cases c with
    | false => rfl
    | true =>
      show n - 1 - (n - 1 - x) = x
      omega

theorem place_after (t u : Turn) (h : Inside p e) :
    (t.after u).place e p = t.place (u.extent e) (u.place e p) := by
  obtain ⟨tx, ty, ts⟩ := t
  obtain ⟨ux, uy, us⟩ := u
  have hx (b : Bool) := (mirrored_mirrored b ux h.1).symm
  have hy (b : Bool) := (mirrored_mirrored b uy h.2).symm
  -- after an exchange the mirrors of `t` are for the other coordinates
  cases us with
  | false =>
    cases ts with
    | false => exact Prod.ext (hx tx) (hy ty)
    | true => exact Prod.ext (hy ty) (hx tx)
  | true =>
    cases ts with
    | false => exact Prod.ext (hy tx) (hx ty)
    | true => exact Prod.ext (hx ty) (hy tx)

/-- A clockwise quarter turn mirrors the rows and exchanges them with the columns. -/
def rotation (k : ZMod 4) : Turn :=
  if k = 0 then ⟨false, false, false⟩
  else if k = 1 then ⟨false, true, true⟩
  else if k = 2 then ⟨true, true, false⟩
  else ⟨true, false, true⟩

def ofDihedral : DihedralGroup 4 → Turn
  | .r k => rotation k
  | .sr k => after ⟨true, false, false⟩ (rotation k)

theorem ofDihedral_mul (g k : DihedralGroup 4) :
    ofDihedral (g * k) = (ofDihedral g).after (ofDihedral k) := by
  revert g k
  decide

end Turn

/-! ## The action -/

open Turn

/-- The extent of a rectangle that a symmetry is applied to, and where its cells go. -/
def turnedExtent (g : DihedralGroup 4) (e : Nat × Nat) : Nat × Nat := (ofDihedral g).extent e

def turnedPlace (g : DihedralGroup 4) (e p : Nat × Nat) : Nat × Nat := (ofDihedral g).place e p

section Places

variable {e p : Nat × Nat} (g k : DihedralGroup 4)

@[simp] theorem turnedExtent_one : turnedExtent 1 e = e := rfl

@[simp] theorem turnedPlace_one : turnedPlace 1 e p = p := rfl

theorem turnedExtent_mul : turnedExtent (g * k) e = turnedExtent g (turnedExtent k e) := by
  rw [turnedExtent, ofDihedral_mul, extent_after]
  rfl

theorem turnedPlace_mul (h : Inside p e) :
    turnedPlace (g * k) e p = turnedPlace g (turnedExtent k e) (turnedPlace k e p) := by
  rw [turnedPlace, ofDihedral_mul, place_after _ _ h]
  rfl

theorem turnedPlace_inside (h : Inside p e) : Inside (turnedPlace g e p) (turnedExtent g e) :=
  place_inside _ h

theorem turnedExtent_inv : turnedExtent g⁻¹ (turnedExtent g e) = e := by
  rw [← turnedExtent_mul, inv_mul_cancel, turnedExtent_one]

theorem turnedPlace_inv (h : Inside p e) :
    turnedPlace g⁻¹ (turnedExtent g e) (turnedPlace g e p) = p := by
  rw [← turnedPlace_mul _ _ h, inv_mul_cancel, turnedPlace_one]

theorem turnedPlace_inv_inside (h : Inside p (turnedExtent g e)) :
    Inside (turnedPlace g⁻¹ (turnedExtent g e) p) e := by
  have hin := turnedPlace_inside g⁻¹ h
  rwa [turnedExtent_inv] at hin

theorem turnedPlace_place_inv (h : Inside p (turnedExtent g e)) :
    turnedPlace g e (turnedPlace g⁻¹ (turnedExtent g e) p) = p := by
  have hp := turnedPlace_mul g g⁻¹ h
  rw [mul_inv_cancel, turnedPlace_one, turnedExtent_inv] at hp
  exact hp.symm

/-- A symmetry takes the cells of a rectangle one to one to those of the turned one. -/
theorem turnedPlace_bijOn :
    Set.BijOn (turnedPlace g e) {p | Inside p e} {p | Inside p (turnedExtent g e)} := by
  refine ⟨fun p hp => turnedPlace_inside g hp, fun p hp q hq h => ?_, fun p hp =>
    ⟨_, turnedPlace_inv_inside g hp, turnedPlace_place_inv g hp⟩⟩
  rw [← turnedPlace_inv g hp, h, turnedPlace_inv g hq]

end Places

namespace Grid

variable [Inhabited α]

def extent (a : Grid α) : Nat × Nat := (a.width, a.height)

/-- Each cell of the turned grid is the one that goes there. -/
def turn (g : DihedralGroup 4) (a : Grid α) : Grid α :=
  let e := turnedExtent g a.extent
  ofFn e.1 e.2 fun x y =>
    let p := turnedPlace g⁻¹ e (x, y)
    a.get p.1 p.2

@[simp] theorem extent_turn (g : DihedralGroup 4) (a : Grid α) :
    (a.turn g).extent = turnedExtent g a.extent := rfl

theorem get_turn (g : DihedralGroup 4) (a : Grid α) {p : Nat × Nat} (h : Inside p a.extent) :
    (a.turn g).get (turnedPlace g a.extent p).1 (turnedPlace g a.extent p).2 =
      a.get p.1 p.2 := by
  obtain ⟨hx, hy⟩ := turnedPlace_inside g h
  unfold turn
  rw [get_ofFn _ hx hy, Prod.mk.eta, turnedPlace_inv g h]

theorem ext_extent {a b : Grid α} (he : a.extent = b.extent)
    (h : ∀ p, Inside p a.extent → a.get p.1 p.2 = b.get p.1 p.2) : a = b :=
  ext_get (congrArg Prod.fst he) (congrArg Prod.snd he) fun x hx y hy => h (x, y) ⟨hx, hy⟩

/-- A grid with the cells of another at their turned places is the turned one. -/
theorem eq_turn {g : DihedralGroup 4} {a b : Grid α} (he : b.extent = turnedExtent g a.extent)
    (h : ∀ p, Inside p a.extent → b.get (turnedPlace g a.extent p).1
      (turnedPlace g a.extent p).2 = a.get p.1 p.2) : b = a.turn g := by
  refine ext_extent he fun p hp => ?_
  rw [he] at hp
  obtain ⟨q, hq, rfl⟩ := (turnedPlace_bijOn g).surjOn hp
  rw [h q hq, get_turn g a hq]

instance : MulAction (DihedralGroup 4) (Grid α) where
  smul g a := a.turn g
  one_smul a := (eq_turn (g := 1) rfl fun _ _ => rfl).symm
  mul_smul g k a := by
    refine (eq_turn ?_ fun p hp => ?_).symm
    · show turnedExtent g (turnedExtent k a.extent) = _
      rw [turnedExtent_mul]
    · have hk : Inside (turnedPlace k a.extent p) (a.turn k).extent := turnedPlace_inside k hp
      rw [turnedPlace_mul g k hp, ← get_turn k a hp]
      exact get_turn g (a.turn k) hk

theorem smul_eq (g : DihedralGroup 4) (a : Grid α) : g • a = a.turn g := rfl

/-- The extent of a turned grid is that of the grid, or that exchanged. -/
theorem extent_smul (g : DihedralGroup 4) (a : Grid α) :
    (g • a).width = a.width ∧ (g • a).height = a.height ∨
      (g • a).width = a.height ∧ (g • a).height = a.width := by
  have h : (g • a).extent = turnedExtent g a.extent := rfl
  unfold turnedExtent Turn.extent at h
  split at h
  · exact .inr ⟨congrArg Prod.fst h, congrArg Prod.snd h⟩
  · exact .inl ⟨congrArg Prod.fst h, congrArg Prod.snd h⟩

end Grid

end WSE.Framework
