import WapitiStew.Framework.Grid
import WapitiStew.Impl.Wse.Map
import WapitiStew.Impl.Oui.RendererTypes

/-!
# Meshes of projections

`ProjectionMeshAdapter::createMesh` of `core/oui/renderer/ProjectionMeshAdapter.cpp`, on the
`Mesh_` of `api/wse/data/wse_Mesh.h`, with `validateMeshDescription` on the vertices as they are.
The arithmetic of `double` and `float` is a parameter. What a read outside the vertexes gives is
undefined: `none`. A vector that cannot be allocated is not modelled.
-/

namespace WSE.Impl.Oui

open WSE.Framework WSE.Impl.Wse

/-- The arithmetic of `double` (`D`), and `float` (`F`). -/
structure Arithmetic (D F : Type) where
  ofNat : Nat → D
  neg : D → D
  add : D → D → D
  sub : D → D → D
  mul : D → D → D
  div : D → D → D
  narrow : D → F
  isfinite : F → Bool

/-- `float64_xy`. -/
structure Point (D : Type) where
  x : D
  y : D
  deriving DecidableEq

structure TiePoint (D : Type) where
  src : Point D
  dst : Point D
  deriving DecidableEq

/-! ## Grids -/

/-- `float64_mesh2d`: its `m_vertexes`. -/
abbrev Mesh (D : Type) := Map (TiePoint D)

namespace Mesh

variable {D : Type}

def vertexWidth (m : Mesh D) : UInt64 := m.width

def vertexHeight (m : Mesh D) : UInt64 := m.height

def meshWidth (m : Mesh D) : UInt64 := if m.vertexWidth = 0 then 0 else m.vertexWidth - 1

def meshHeight (m : Mesh D) : UInt64 := if m.vertexHeight = 0 then 0 else m.vertexHeight - 1

/-- `m_vertexes[y][x]`, which is not checked. -/
def vertex (m : Mesh D) (p : Nat × Nat) : Option (TiePoint D) :=
  m.data[(UInt64.ofNat p.2 * m.width).toNat + p.1]?

/-- The vertexes, row by row. -/
def list (m : Mesh D) : Option (List (TiePoint D)) :=
  (places m.vertexWidth.toNat m.vertexHeight.toNat).mapM m.vertex

def getSrcList (m : Mesh D) : Option (List (Point D)) := m.list.map (·.map TiePoint.src)

def getDstList (m : Mesh D) : Option (List (Point D)) := m.list.map (·.map TiePoint.dst)

end Mesh

/-! ## Triangles -/

structure RendererVertex2D (F : Type) where
  positionX : F
  positionY : F
  textureU : F
  textureV : F
  deriving DecidableEq

/-- `sMeshDescription` with its vertices. -/
structure MeshData (F : Type) where
  topology : PrimitiveTopology := .triangleList
  vertices : List (RendererVertex2D F) := []
  indices : List UInt32 := []
  deriving DecidableEq

/-- What a backend is given of it. -/
def MeshData.description {F : Type} (d : MeshData F) : MeshDescription :=
  ⟨d.topology, d.vertices.length, d.indices.map (·.toNat)⟩

def RendererVertex2D.finite {D F : Type} (ops : Arithmetic D F) (v : RendererVertex2D F) : Bool :=
  ops.isfinite v.positionX && ops.isfinite v.positionY && ops.isfinite v.textureU &&
    ops.isfinite v.textureV

/-- `validateMeshDescription`. -/
def MeshData.validate {D F : Type} (ops : Arithmetic D F) (d : MeshData F) : RendererStatus := do
  if d.vertices.isEmpty || d.indices.isEmpty then
    throw (invalidDescription "Mesh vertices and indices must be non-empty.")
  if d.topology = .triangleList && d.indices.length % 3 ≠ 0 then
    throw (invalidDescription "Triangle-list index count must be divisible by three.")
  if d.topology = .triangleStrip && d.indices.length < 3 then
    throw (invalidDescription "Triangle-strip index count must be at least three.")
  if d.vertices.any (!·.finite ops) then
    throw (invalidDescription "Mesh contains a non-finite vertex value.")
  if d.indices.any (d.vertices.length ≤ ·.toNat) then
    throw (invalidDescription "Mesh index is outside the vertex array.")

namespace ProjectionMeshAdapter

variable {D F : Type}

/-- A vertex from its pixel coordinates in the target and in the source. -/
def vertex (ops : Arithmetic D F) (target source : RendererExtent2D) (dst src : Point D) :
    RendererVertex2D F :=
  let targetXScale := ops.div (ops.ofNat 2) (ops.ofNat (target.width - 1))
  let targetYScale := ops.div (ops.neg (ops.ofNat 2)) (ops.ofNat (target.height - 1))
  let sourceXScale := ops.div (ops.ofNat 1) (ops.ofNat (source.width - 1))
  let sourceYScale := ops.div (ops.ofNat 1) (ops.ofNat (source.height - 1))
  { positionX := ops.narrow (ops.sub (ops.mul dst.x targetXScale) (ops.ofNat 1)),
    positionY := ops.narrow (ops.add (ops.mul dst.y targetYScale) (ops.ofNat 1)),
    textureU := ops.narrow (ops.mul src.x sourceXScale),
    textureV := ops.narrow (ops.mul src.y sourceYScale) }

def leftTopIndex (m : Mesh D) (row column : UInt64) : UInt64 := row * m.vertexWidth + column

def leftBottomIndex (m : Mesh D) (row column : UInt64) : UInt64 :=
  (row + 1) * m.vertexWidth + column

/-- The indices of a cell. -/
def cell (m : Mesh D) (row column : UInt64) : List UInt32 :=
  let leftTop := (leftTopIndex m row column).toUInt32
  let rightTop := (leftTopIndex m row column + 1).toUInt32
  let rightBottom := (leftBottomIndex m row column + 1).toUInt32
  let leftBottom := (leftBottomIndex m row column).toUInt32
  [leftTop, rightTop, rightBottom, leftTop, rightBottom, leftBottom]

/-- The cells, row by row. -/
def indices (m : Mesh D) : List UInt32 :=
  (places m.meshWidth.toNat m.meshHeight.toNat).flatMap fun p =>
    cell m (UInt64.ofNat p.2) (UInt64.ofNat p.1)

def cellCount (m : Mesh D) : UInt64 := m.meshWidth * m.meshHeight

/-- `createMesh`; a vector of indices has at most `maxSize` of them. -/
def createMesh (ops : Arithmetic D F) (maxSize : UInt64) (m : Mesh D)
    (target source : RendererExtent2D) : Option (RendererResult (MeshData F)) :=
  if target.width < 2 || target.height < 2 || source.width < 2 || source.height < 2 then
    some (.error (invalidDescription
      "Projection source and target extents must be at least 2 x 2."))
  else if m.meshWidth = 0 || m.meshHeight = 0 then
    some (.error (invalidDescription "Projection mesh must contain at least one grid cell."))
  else m.getSrcList.bind fun sourcePoints => m.getDstList.map fun targetPoints =>
    if sourcePoints.length ≠ targetPoints.length || sourcePoints.length > 2 ^ 32 - 1 then
      .error (invalidDescription "Projection mesh point arrays are inconsistent or too large.")
    else if m.meshWidth > 0xFFFFFFFFFFFFFFFF / m.meshHeight then
      .error (invalidDescription "Projection mesh cell count overflows host size limits.")
    else if cellCount m > maxSize / 6 then
      .error (invalidDescription "Projection mesh index count exceeds host size limits.")
    else do
      let result : MeshData F :=
        { vertices := List.zipWith (vertex ops target source) targetPoints sourcePoints,
          indices := indices m }
      result.validate ops
      .ok result

end ProjectionMeshAdapter

end WSE.Impl.Oui
