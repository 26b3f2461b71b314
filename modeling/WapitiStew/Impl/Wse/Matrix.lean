import Mathlib.Algebra.Order.Group.Abs
import Mathlib.Algebra.Order.Ring.Rat
import WapitiStew.Framework.Grid
import WapitiStew.Framework.Lists

/-!
# Matrices

`Matrix_` of `api/wse/data/wse_Matrix.h` and `core/wse/data/wse_Matrix.cpp`, with exact rationals
for `double`: the product, the determinant and the inverse. The loops write into the grid as the
source's do. `std::numeric_limits::epsilon()` is a parameter.
-/

namespace WSE.Impl.Wse

open WSE.Framework

/-- `std::invalid_argument`. -/
inductive MatrixError
  | invalidArgument (message : String)
  deriving DecidableEq

inductive CoreErrorCategory
  | none | computation
  deriving DecidableEq

inductive CoreErrorCode
  | none | singularMatrix | degenerateGeometry
  deriving DecidableEq

structure CoreError where
  category : CoreErrorCategory
  code : CoreErrorCode
  message : String
  deriving DecidableEq

abbrev CoreResult (α : Type) := Except CoreError α

abbrev Matrix_ := Grid ℚ

namespace Matrix_

def rows (m : Matrix_) : Nat := m.height

def cols (m : Matrix_) : Nat := m.width

/-- `m[row][col]`. -/
def entry (m : Matrix_) (row col : Nat) : ℚ := m.get col row

/-- `m[row][col] = value`. -/
def setEntry (m : Matrix_) (row col : Nat) (value : ℚ) : Matrix_ := m.write col row value

/-- `Matrix_(row, col, value)`. -/
def filled (row col : Nat) (value : ℚ) : Matrix_ := Grid.fill col row value

/-- `operator*=` by a scalar. -/
def scalarMul (scalar : ℚ) (m : Matrix_) : Matrix_ := m.map (· * scalar)

def square (dimention : Nat) : Matrix_ := filled dimention dimention 0

def diagonal (diag : List ℚ) : Matrix_ :=
  forRange 0 diag.length (fun i m => m.setEntry i i (diag.getD i 0)) (square diag.length)

def scalar (value : ℚ) (dimention : Nat) : Matrix_ := diagonal (List.replicate dimention value)

def identify (dimention : Nat) : Matrix_ := scalar 1 dimention

def isSquare (m : Matrix_) : Bool := m.cols = m.rows

def getDimention (m : Matrix_) : Except MatrixError Nat :=
  if m.isSquare then .ok m.cols
  else .error (.invalidArgument "the operation requires a square matrix")

/-- `operator*`. -/
def mul (obj1 obj2 : Matrix_) : Except MatrixError Matrix_ :=
  if obj1.cols ≠ obj2.rows then
    .error (.invalidArgument "Matrix multiplication requires obj1.cols() == obj2.rows()")
  else
    .ok (forRange 0 obj1.rows
      (fun i => forRange 0 obj2.cols fun j => forRange 0 obj1.cols fun k m =>
        m.setEntry i j (m.entry i j + obj1.entry i k * obj2.entry k j))
      (filled obj1.rows obj2.cols 0))

/-! ## Elimination -/

/-- The row with the largest entry of the column, from `row` on. -/
def pivotRow (m : Matrix_) (dimention row : Nat) : Nat :=
  forRange (row + 1) dimention
    (fun nextRow maxRow => if |m.entry nextRow row| > |m.entry maxRow row| then nextRow else maxRow)
    row

/-- `std::swap(m[row][col], m[maxRow][col])`. -/
def swapEntries (row maxRow col : Nat) (m : Matrix_) : Matrix_ :=
  (m.setEntry row col (m.entry maxRow col)).setEntry maxRow col (m.entry row col)

/-- `m[nextRow][col] -= factor * m[row][col]`. -/
def subtractEntry (row nextRow : Nat) (factor : ℚ) (col : Nat) (m : Matrix_) : Matrix_ :=
  m.setEntry nextRow col (m.entry nextRow col - factor * m.entry row col)

/-- `m[row][col] /= pivot`. -/
def divideEntry (row : Nat) (pivot : ℚ) (col : Nat) (m : Matrix_) : Matrix_ :=
  m.setEntry row col (m.entry row col / pivot)

/-- The rows below the pivot's are cleared. -/
def clearBelow (dimention row : Nat) (m : Matrix_) : Matrix_ :=
  forRange (row + 1) dimention
    (fun nextRow m =>
      let factor := m.entry nextRow row / m.entry row row
      forRange row dimention (subtractEntry row nextRow factor) m)
    m

/-- The loop of `determinant` over the rows. -/
def triangulate (dimention : Nat) : List Nat → Matrix_ → ℚ → ℚ
  | [], _, det => det
  | row :: rows, work, det =>
    let maxRow := pivotRow work dimention row
    if work.entry maxRow row = 0 then 0
    else
      let s :=
        if maxRow ≠ row then (forRange 0 dimention (swapEntries row maxRow) work, -det)
        else (work, det)
      triangulate dimention rows (clearBelow dimention row s.1) (s.2 * s.1.entry row row)

def determinant (m : Matrix_) : Except MatrixError ℚ := do
  let dimention ← m.getDimention
  if dimention = 1 then
    .ok (m.entry 0 0)
  else if dimention = 2 then
    .ok (m.entry 0 0 * m.entry 1 1 - m.entry 0 1 * m.entry 1 0)
  else
    .ok (triangulate dimention (List.range dimention) m 1)

/-- `singularMatrixFailure`. -/
def singularMatrixFailure : CoreError :=
  ⟨.computation, .singularMatrix, "the matrix is singular within floating-point tolerance"⟩

/-- The largest absolute value of an entry. -/
def maxElement (m : Matrix_) (dimention : Nat) : ℚ :=
  forRange 0 dimention
    (fun row => forRange 0 dimention fun col maxElement => max maxElement |m.entry row col|) 0

/-- The other rows are cleared in both matrices. -/
def clearOthers (dimention row : Nat) (s : Matrix_ × Matrix_) : Matrix_ × Matrix_ :=
  forRange 0 dimention
    (fun nextRow s =>
      if nextRow = row then s
      else
        let factor := s.1.entry nextRow row
        forRange 0 dimention
          (fun col s => (subtractEntry row nextRow factor col s.1,
            subtractEntry row nextRow factor col s.2))
          s)
    s

/-- The loop of `tryInverse` over the rows, on the matrix and on what becomes its inverse. -/
def reduceRows (dimention : Nat) (pivotTolerance : ℚ) :
    List Nat → Matrix_ × Matrix_ → CoreResult Matrix_
  | [], s => .ok s.2
  | row :: rows, s =>
    let maxRow := pivotRow s.1 dimention row
    let s :=
      if maxRow ≠ row then
        forRange 0 dimention
          (fun col s => (swapEntries row maxRow col s.1, swapEntries row maxRow col s.2)) s
      else s
    let pivot := s.1.entry row row
    if |s.1.entry row row| ≤ pivotTolerance then .error singularMatrixFailure
    else
      let s := forRange 0 dimention
        (fun col s => (divideEntry row pivot col s.1, divideEntry row pivot col s.2)) s
      reduceRows dimention pivotTolerance rows (clearOthers dimention row s)

def tryInverse (epsilon : ℚ) (m : Matrix_) : Except MatrixError (CoreResult Matrix_) :=
  if !m.isSquare then .error (.invalidArgument "tryInverse requires a square matrix")
  else
    let dimention := m.cols
    if dimention = 1 then
      let det := m.entry 0 0
      if det = 0 then .ok (.error singularMatrixFailure)
      else .ok (.ok ((filled dimention dimention 0).setEntry 0 0 (1 / det)))
    else if dimention = 2 then
      let det := m.entry 0 0 * m.entry 1 1 - m.entry 0 1 * m.entry 1 0
      let detTolerance := epsilon * (|m.entry 0 0 * m.entry 1 1| + |m.entry 0 1 * m.entry 1 0|) * 4
      if |det| ≤ detTolerance then .ok (.error singularMatrixFailure)
      else
        let inv := ((((filled dimention dimention 0).setEntry 0 0 (m.entry 1 1)).setEntry 0 1
          (-m.entry 0 1)).setEntry 1 0 (-m.entry 1 0)).setEntry 1 1 (m.entry 0 0)
        .ok (.ok (scalarMul (1 / det) inv))
    else
      let maxElement := m.maxElement dimention
      if maxElement = 0 then .ok (.error singularMatrixFailure)
      else
        let pivotTolerance := maxElement * dimention * epsilon
        .ok (reduceRows dimention pivotTolerance (List.range dimention) (m, identify dimention))

end Matrix_

end WSE.Impl.Wse
