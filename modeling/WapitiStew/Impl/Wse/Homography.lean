import Mathlib.Algebra.Order.Ring.Rat
import Mathlib.Algebra.Order.Group.Abs

/-!
# Homographies

`Homography` of `core/wse/data/wse_Homography.cpp`, with exact rationals for `double`. A 3 x 3
matrix is the list of its nine elements; a `Homography` is its `m_data`, of any length, since the
constructors of `Matrix` are inherited. A quotient by zero is zero here; nothing is meant by it.
-/

namespace WSE.Impl.Wse

inductive HomographyError
  | invalidArgument (message : String)
  | runtimeError (message : String)
  | logicError (message : String)
  deriving DecidableEq

/-- `float64_xy`. -/
structure Point2 where
  x : ℚ
  y : ℚ
  deriving DecidableEq

instance : Sub Point2 := ⟨fun p q => ⟨p.x - q.x, p.y - q.y⟩⟩

/-- A list of four points. -/
structure Quadrangle where
  p0 : Point2
  p1 : Point2
  p2 : Point2
  p3 : Point2
  deriving DecidableEq

namespace Quadrangle

def vector1 (q : Quadrangle) : Point2 := q.p1 - q.p0

def vector2 (q : Quadrangle) : Point2 := q.p2 - q.p0

def vector3 (q : Quadrangle) : Point2 := q.p3 - q.p0

def area0 (q : Quadrangle) : ℚ := q.vector1.x * q.vector3.y - q.vector1.y * q.vector3.x

def area1 (q : Quadrangle) : ℚ := q.vector1.x * q.vector2.y - q.vector1.y * q.vector2.x

def area3 (q : Quadrangle) : ℚ := q.vector2.x * q.vector3.y - q.vector2.y * q.vector3.x

def area2 (q : Quadrangle) : ℚ := q.area3 + q.area1 - q.area0

end Quadrangle

namespace Homography

def getIndex (x y : Nat) : Nat := 3 * y + x

/-- Element `(x, y)`. -/
def element (m : List ℚ) (x y : Nat) : ℚ := m.getD (getIndex x y) 0

/-- `CalculateHomographyUnitSquareToQuadrangle`. -/
def unitSquareToQuadrangle (q : Quadrangle) : List ℚ :=
  let coefX := q.area0 - q.area1
  let coefY := q.area0 - q.area3
  let coefZ := q.area2
  [q.area3 * q.vector1.x + coefX * q.p0.x, q.area1 * q.vector3.x + coefY * q.p0.x,
      0 + coefZ * q.p0.x,
    q.area3 * q.vector1.y + coefX * q.p0.y, q.area1 * q.vector3.y + coefY * q.p0.y,
      0 + coefZ * q.p0.y,
    coefX, coefY, coefZ]

/-- `CalculateHomographyQuadrangleToUnitSquare`. -/
def quadrangleToUnitSquare (q : Quadrangle) : Except HomographyError (List ℚ) :=
  if 0 = q.area0 ∨ 0 = q.area3 ∨ 0 = q.area1 ∨ 0 = q.area2 then
    .error (.runtimeError "ZERO_DIVISION")
  else
    let coefX2 := q.vector3.y * q.area1 * (q.area1 - q.area0) -
      q.vector1.y * q.area3 * (q.area3 - q.area0)
    let coefY2 := -q.vector3.x * q.area1 * (q.area1 - q.area0) +
      q.vector1.x * q.area3 * (q.area3 - q.area0)
    let coefX0 := q.vector3.y * q.area1 * q.area2
    let coefY0 := -q.vector3.x * q.area1 * q.area2
    let coefX1 := -q.vector1.y * q.area3 * q.area2
    let coefY1 := q.vector1.x * q.area3 * q.area2
    .ok [coefX0, coefY0, 0 - coefX0 * q.p0.x - coefY0 * q.p0.y,
      coefX1, coefY1, 0 - coefX1 * q.p0.x - coefY1 * q.p0.y,
      coefX2, coefY2, q.area0 * q.area3 * q.area1 - coefX2 * q.p0.x - coefY2 * q.p0.y]

def productMatrix (left right : List ℚ) : List ℚ :=
  (List.range 9).map fun n =>
    (List.range 3).foldl (fun value k => value + element left k (n / 3) * element right (n % 3) k) 0

/-- The largest of the absolute values, from zero. -/
def maxAbs (m : List ℚ) : ℚ := m.foldl (fun max a => if |a| > max then |a| else max) 0

def reduceMatrix (m : List ℚ) : List ℚ := m.map (· / maxAbs m)

/-- `generateHomography_4Points`. -/
def generateHomography4Points (src dst : Quadrangle) : Except HomographyError (List ℚ) := do
  let unitToDst := unitSquareToQuadrangle dst
  let srcToUnit ← quadrangleToUnitSquare src
  .ok (reduceMatrix (productMatrix unitToDst srcToUnit))

/-- The corners of the rectangle with these two opposite. -/
def rectangle (p q : Point2) : Quadrangle := ⟨⟨p.x, p.y⟩, ⟨q.x, p.y⟩, ⟨q.x, q.y⟩, ⟨p.x, q.y⟩⟩

/-- The matrix for the lists. -/
def generate (src dst : List Point2) : Except HomographyError (List ℚ) :=
  if src.isEmpty || dst.isEmpty || src.length ≠ dst.length then
    .error (.invalidArgument "Homography::setup requires matching non-empty point lists")
  else
    match src, dst with
    | [s0, s1], [d0, d1] => generateHomography4Points (rectangle s0 s1) (rectangle d0 d1)
    | [_, _, _], _ => .error (.invalidArgument "a three-point homography is not supported")
    | [s0, s1, s2, s3], [d0, d1, d2, d3] =>
      generateHomography4Points ⟨s0, s1, s2, s3⟩ ⟨d0, d1, d2, d3⟩
    | _ :: _ :: _ :: _ :: _ :: _, _ =>
      .error (.logicError "multi-point homography requires the OpenCV integration")
    | _, _ => .error (.invalidArgument "Homography::setup requires at least two points")

/-- `setup`, on the stored elements. -/
def setup (src dst : List Point2) : EStateM HomographyError (List ℚ) Unit := do
  let elements ← MonadExcept.ofExcept (generate src dst)
  if elements.length ≠ (← get).length then
    throw (.logicError "the generated homography does not match the stored shape")
  modify fun m => (List.range m.length).foldl (fun m i => m.set i (elements.getD i 0)) m

def denominator (m : List ℚ) (p : Point2) : ℚ :=
  element m 0 2 * p.x + element m 1 2 * p.y + element m 2 2

def transform (m : List ℚ) (p : Point2) : Point2 :=
  ⟨(element m 0 0 * p.x + element m 1 0 * p.y + element m 2 0) / denominator m p,
    (element m 0 1 * p.x + element m 1 1 * p.y + element m 2 1) / denominator m p⟩

end Homography

end WSE.Impl.Wse
