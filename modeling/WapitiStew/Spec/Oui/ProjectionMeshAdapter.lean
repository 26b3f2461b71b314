import Mathlib.Data.Set.Insert
import WapitiStew.Impl.Oui.ProjectionMeshAdapter

/-!
# Triangles on a grid

A list of indices is a list of triangles between points of the grid. A mesh `Tessellates` the grid
when each cell has two triangles of its own on its four corners, on the two sides of the same
diagonal and turning the same way.
-/

namespace WSE.Spec.Oui

open WSE.Impl.Wse WSE.Impl.Oui

variable {D F : Type}

/-- A column and a row. -/
abbrev GridPoint := Nat × Nat

structure GridTriangle where
  a : GridPoint
  b : GridPoint
  c : GridPoint
  deriving DecidableEq

namespace GridTriangle

def points (t : GridTriangle) : Set GridPoint := {t.a, t.b, t.c}

/-- Twice the signed area; the sign is the orientation. -/
def cross (t : GridTriangle) : Int :=
  ((t.b.1 : Int) - t.a.1) * (t.c.2 - t.a.2) - ((t.b.2 : Int) - t.a.2) * (t.c.1 - t.a.1)

end GridTriangle

/-- The grid point whose vertex has the index. -/
def gridPoint (width : Nat) (index : UInt32) : GridPoint :=
  (index.toNat % width, index.toNat / width)

/-- Triangle number `k` of a triangle list. -/
def triangle (width : Nat) (indices : List UInt32) (k : Nat) : Option GridTriangle := do
  let a ← indices[3 * k]?
  let b ← indices[3 * k + 1]?
  let c ← indices[3 * k + 2]?
  some ⟨gridPoint width a, gridPoint width b, gridPoint width c⟩

def corners (p : GridPoint) : Set GridPoint :=
  {p, (p.1 + 1, p.2), (p.1 + 1, p.2 + 1), (p.1, p.2 + 1)}

/-- From the left top to the right bottom. -/
def diagonal (p : GridPoint) : Set GridPoint := {p, (p.1 + 1, p.2 + 1)}

/-- Two triangles of a cell make it up. -/
structure MakesUp (p : GridPoint) (t u : GridTriangle) : Prop where
  corners : t.points ∪ u.points = corners p
  diagonal : t.points ∩ u.points = diagonal p
  orientation : t.cross = 1 ∧ u.cross = 1

/-- The two triangles that the cell contributes. -/
def cellTriangles (m : Mesh D) (d : MeshData F) (p : GridPoint) :
    Option (GridTriangle × GridTriangle) := do
  let k := p.2 * m.meshWidth.toNat + p.1
  let t ← triangle m.vertexWidth.toNat d.indices (2 * k)
  let u ← triangle m.vertexWidth.toNat d.indices (2 * k + 1)
  some (t, u)

def Cell (m : Mesh D) (p : GridPoint) : Prop :=
  p.1 < m.meshWidth.toNat ∧ p.2 < m.meshHeight.toNat

/-- One vertex a grid point, row by row. -/
structure VertexPerPoint (ops : Arithmetic D F) (target source : RendererExtent2D) (m : Mesh D)
    (d : MeshData F) : Prop where
  count : d.vertices.length = m.vertexWidth.toNat * m.vertexHeight.toNat
  rows : ∀ x < m.vertexWidth.toNat, ∀ y < m.vertexHeight.toNat,
    ∃ v, m.data[y * m.vertexWidth.toNat + x]? = some v ∧
      d.vertices[y * m.vertexWidth.toNat + x]? =
        some (ProjectionMeshAdapter.vertex ops target source v.dst v.src)

structure Tessellates (m : Mesh D) (d : MeshData F) : Prop where
  topology : d.topology = .triangleList
  count : d.indices.length = 6 * (m.meshWidth.toNat * m.meshHeight.toNat)
  below : ∀ i ∈ d.indices, i.toNat < d.vertices.length
  cells : ∀ p, Cell m p → ∃ t u, cellTriangles m d p = some (t, u) ∧ MakesUp p t u
  distinct : ∀ p q t u t' u', Cell m p → Cell m q → p ≠ q → cellTriangles m d p = some (t, u) →
    cellTriangles m d q = some (t', u') →
      ∀ v ∈ [t, u], ∀ v' ∈ [t', u'], v.points ≠ v'.points

/-- The counts and the indices are the numbers that they stand for. -/
structure Untruncated (m : Mesh D) : Prop where
  cells : (ProjectionMeshAdapter.cellCount m).toNat =
    (m.vertexWidth.toNat - 1) * (m.vertexHeight.toNat - 1)
  indices : (ProjectionMeshAdapter.cellCount m * 6).toNat =
    6 * ((m.vertexWidth.toNat - 1) * (m.vertexHeight.toNat - 1))
  corners : ∀ x y, Cell m (x, y) →
    let row := UInt64.ofNat y
    let column := UInt64.ofNat x
    let top := ProjectionMeshAdapter.leftTopIndex m row column
    let bottom := ProjectionMeshAdapter.leftBottomIndex m row column
    row.toNat = y ∧ column.toNat = x ∧ (row * m.vertexWidth).toNat = y * m.vertexWidth.toNat ∧
      ((row + 1) * m.vertexWidth).toNat = (y + 1) * m.vertexWidth.toNat ∧
      (top.toNat = y * m.vertexWidth.toNat + x ∧ top.toUInt32.toNat = top.toNat) ∧
      ((top + 1).toNat = y * m.vertexWidth.toNat + (x + 1) ∧
        (top + 1).toUInt32.toNat = (top + 1).toNat) ∧
      (bottom.toNat = (y + 1) * m.vertexWidth.toNat + x ∧ bottom.toUInt32.toNat = bottom.toNat) ∧
      ((bottom + 1).toNat = (y + 1) * m.vertexWidth.toNat + (x + 1) ∧
        (bottom + 1).toUInt32.toNat = (bottom + 1).toNat)

end WSE.Spec.Oui
