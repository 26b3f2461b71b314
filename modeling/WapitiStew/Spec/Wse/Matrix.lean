import Mathlib.LinearAlgebra.Matrix.Determinant.Basic
import WapitiStew.Impl.Wse.Homography
import WapitiStew.Impl.Wse.Matrix

/-!
# Matrices and homographies

A matrix of the program as one of linear algebra, and the maps between points that it gives.
-/

namespace WSE.Spec.Wse

open WSE.Impl.Wse

/-!
## Matrices as linear algebra has them

A square matrix of the program stands for a matrix with indices below its dimension.
-/

/-- A matrix of `n` rows and columns. -/
structure SquareOf (n : Nat) (m : Matrix_) : Prop where
  cols : m.width = n
  rows : m.height = n

def toMatrix (n : Nat) (m : Matrix_) : Matrix (Fin n) (Fin n) ℚ := .of fun i j => m.entry i j

/-- The products of the two, as the program computes them, are what it has for the identity. -/
def Inverse (n : Nat) (a b : Matrix_) : Prop :=
  a.mul b = .ok (Matrix_.identify n) ∧ b.mul a = .ok (Matrix_.identify n)

/-- `tryInverse` reports success with this matrix. -/
def Inverts (epsilon : ℚ) (a inv : Matrix_) : Prop := a.tryInverse epsilon = .ok (.ok inv)

/-!
## Maps between point lists

A homography maps a point to another when the transformation is defined there and gives it. Two
points stand for the corners of a rectangle (`corners`). Four points are `InGeneralPosition` when no
three of them are on a line.
-/

/-- On a line: the triangle has no area. -/
def Collinear (p q r : Point2) : Prop :=
  (q.x - p.x) * (r.y - p.y) - (q.y - p.y) * (r.x - p.x) = 0

/-- The four points that a list of two or four stands for. -/
def corners : List Point2 → List Point2
  | [p, q] => [p, ⟨q.x, p.y⟩, q, ⟨p.x, q.y⟩]
  | ps => ps

/-- No three points of the list, in its order, are on a line. -/
def InGeneralPosition (ps : List Point2) : Prop :=
  ∀ (i j k : Nat) p q r, i < j → j < k → ps[i]? = some p → ps[j]? = some q → ps[k]? = some r →
    ¬Collinear p q r

/-- The transformation is defined at each source point and gives the destination point. -/
def TakesTo (m : List ℚ) (ps qs : List Point2) : Prop :=
  ∀ (i : Nat) p q, ps[i]? = some p → qs[i]? = some q →
    Homography.denominator m p ≠ 0 ∧ Homography.transform m p = q

/-- `setup` throws and leaves what is stored, or what is stored then maps the points. -/
def SetsUp (stored : List ℚ) (src dst ps qs : List Point2) : Prop :=
  match Homography.setup src dst stored with
  | .error _ m => m = stored
  | .ok _ m => TakesTo m ps qs

/-- Both lists have two points, or both have four. -/
def TwoOrFour (src dst : List Point2) : Prop :=
  src.length = dst.length ∧ (src.length = 2 ∨ src.length = 4)

/-- Both take the same points to the same points. -/
def SameMap (m n : List ℚ) : Prop :=
  ∀ p, (Homography.denominator m p ≠ 0 ↔ Homography.denominator n p ≠ 0) ∧
    (Homography.denominator m p ≠ 0 → Homography.transform m p = Homography.transform n p)

/-- Where `m` has a value, `k` is what `n` makes of it. -/
def IsComposite (k n m : List ℚ) : Prop :=
  ∀ p, Homography.denominator m p ≠ 0 →
    (Homography.denominator k p ≠ 0 ↔
      Homography.denominator n (Homography.transform m p) ≠ 0) ∧
    (Homography.denominator k p ≠ 0 →
      Homography.transform k p = Homography.transform n (Homography.transform m p))

/-- Where `m` has a value, `n` takes it back. -/
def Undoes (n m : List ℚ) : Prop :=
  ∀ p, Homography.denominator m p ≠ 0 →
    Homography.denominator n (Homography.transform m p) ≠ 0 ∧
      Homography.transform n (Homography.transform m p) = p

/-- A matrix that was set up from `src` and `dst` is a map of the plane. -/
structure IsProjective (src dst : List Point2) (m : List ℚ) : Prop where
  lines : ∀ p q r, Homography.denominator m p ≠ 0 → Homography.denominator m q ≠ 0 →
    Homography.denominator m r ≠ 0 →
      (Collinear (Homography.transform m p) (Homography.transform m q)
        (Homography.transform m r) ↔ Collinear p q r)
  /-- Any four of its points give it. -/
  determined : ∀ ps qs stored, ps.length = 4 → qs.length = 4 → stored.length = 9 →
    InGeneralPosition ps → TakesTo m ps qs →
      ∃ n, Homography.setup ps qs stored = .ok () n ∧ SameMap m n
  composes : ∀ stop stored n stored' k, TwoOrFour dst stop → InGeneralPosition (corners stop) →
    Homography.setup dst stop stored = .ok () n → Homography.setup src stop stored' = .ok () k →
      IsComposite k n m
  inverse : ∀ stored n, Homography.setup dst src stored = .ok () n → Undoes n m

end WSE.Spec.Wse
