import WapitiStew.Framework.Lists
import WapitiStew.Framework.Throwing
import WapitiStew.Spec.Oui.ProjectionMeshAdapter

/-!
# A projection mesh covers the grid

* `createMesh_ok`: what has been checked when a mesh is made.
* `untruncated`: there are fewer than `2³²` vertexes, so the indices of a cell's corners are what
  they are as numbers, in 64 bits and in 32.
* `cell_triangles`: the triangles of a cell, read off its place in the list of indices.
* `projection_mesh`: so the triangles cover the grid.
-/

namespace WSE.Proof.Oui

open WSE.Framework WSE.Impl.Wse WSE.Impl.Oui WSE.Spec.Oui ProjectionMeshAdapter

variable {D F : Type}

/-! ## What is checked -/

structure MeshMade (ops : Arithmetic D F) (m : Mesh D) (target source : RendererExtent2D)
    (d : MeshData F) (vs : List (TiePoint D)) : Prop where
  read : m.list = some vs
  width : m.meshWidth ≠ 0
  height : m.meshHeight ≠ 0
  few : vs.length ≤ 2 ^ 32 - 1
  vertices : d.vertices = vs.map fun v => vertex ops target source v.dst v.src
  indices : d.indices = ProjectionMeshAdapter.indices m
  topology : d.topology = .triangleList

theorem createMesh_ok {ops : Arithmetic D F} {maxSize : UInt64} {m : Mesh D}
    {target source : RendererExtent2D} {d : MeshData F}
    (h : createMesh ops maxSize m target source = some (.ok d)) :
    ∃ vs, MeshMade ops m target source d vs := by
  rw [ProjectionMeshAdapter.createMesh] at h
  split at h
  · cases h
  split at h
  · cases h
  rename_i hcells
  simp only [Bool.or_eq_true, decide_eq_true_eq, not_or] at hcells
  obtain ⟨src, hsrc, h⟩ := Option.bind_eq_some_iff.mp h
  obtain ⟨dst, hdst, h⟩ := Option.map_eq_some_iff.mp h
  obtain ⟨vs, hvs, rfl⟩ := Option.map_eq_some_iff.mp hsrc
  obtain ⟨vs', hvs', rfl⟩ := Option.map_eq_some_iff.mp hdst
  cases hvs.symm.trans hvs'
  obtain ⟨hfew, h⟩ := unless_ok h rfl
  obtain ⟨-, h⟩ := unless_ok h rfl
  obtain ⟨-, h⟩ := unless_ok h rfl
  obtain ⟨-, -, h⟩ := except_bind_ok h
  cases h
  simp only [List.length_map, Bool.or_eq_true, decide_eq_true_eq, not_or] at hfew
  refine ⟨vs, hvs, hcells.1, hcells.2, Nat.not_lt.mp hfew.2, ?_, rfl, rfl⟩
  rw [List.zipWith_map, List.zipWith_self]

theorem toNat_pred (n : UInt64) : (if n = 0 then 0 else n - 1).toNat = n.toNat - 1 := by
  split
  · rename_i h
    rw [h]
    rfl
  · rename_i h
    have hpos : 1 ≤ n := by
      rw [UInt64.le_iff_toNat_le]
      exact Nat.pos_of_ne_zero fun h0 => h (UInt64.toNat_inj.mp h0)
    exact UInt64.toNat_sub_of_le n 1 hpos

theorem toNat_meshWidth (m : Mesh D) : m.meshWidth.toNat = m.vertexWidth.toNat - 1 :=
  toNat_pred m.vertexWidth

theorem toNat_meshHeight (m : Mesh D) : m.meshHeight.toNat = m.vertexHeight.toNat - 1 :=
  toNat_pred m.vertexHeight

theorem cell_bounds {m : Mesh D} {x y : Nat} (hp : Cell m (x, y)) :
    x + 1 < m.vertexWidth.toNat ∧ y + 1 < m.vertexHeight.toNat ∧
      (y + 1) * m.vertexWidth.toNat + (x + 1) <
        m.vertexWidth.toNat * m.vertexHeight.toNat := by
  obtain ⟨hx, hy⟩ := hp
  rw [toNat_meshWidth] at hx
  rw [toNat_meshHeight] at hy
  have hx : x + 1 < m.vertexWidth.toNat := by omega
  have hy : y + 1 < m.vertexHeight.toNat := by omega
  exact ⟨hx, hy, index_lt hx hy⟩

theorem narrow_eq {n : UInt64} (hn : n.toNat < 2 ^ 32) : n.toUInt32.toNat = n.toNat := by
  rw [UInt64.toNat_toUInt32]
  exact Nat.mod_eq_of_lt hn

theorem gridPoint_eq {width x y : Nat} {i : UInt32} (hi : i.toNat = y * width + x)
    (hx : x < width) : gridPoint width i = (x, y) := by
  rw [gridPoint, hi, Nat.mul_comm, Nat.mul_add_mod, Nat.mod_eq_of_lt hx,
    Nat.mul_add_div (Nat.lt_of_le_of_lt (Nat.zero_le x) hx), Nat.div_eq_of_lt hx, Nat.add_zero]

/-- A triangle of the list, from its three indices. -/
theorem triangle_eq {width k : Nat} {indices : List UInt32} {a b c : UInt32}
    {p q r : GridPoint} (ha : indices[3 * k]? = some a) (hb : indices[3 * k + 1]? = some b)
    (hc : indices[3 * k + 2]? = some c) (hp : gridPoint width a = p) (hq : gridPoint width b = q)
    (hr : gridPoint width c = r) : triangle width indices k = some ⟨p, q, r⟩ := by
  subst hp hq hr
  rw [triangle, ha, hb, hc]
  rfl

section Made

variable {ops : Arithmetic D F} {m : Mesh D} {target source : RendererExtent2D} {d : MeshData F}
  {vs : List (TiePoint D)} (h : MeshMade ops m target source d vs)

include h

theorem length_read : vs.length = m.vertexWidth.toNat * m.vertexHeight.toNat := by
  rw [(mapM_eq_some h.read).1, length_places]

theorem few_vertexes : m.vertexWidth.toNat * m.vertexHeight.toNat < 2 ^ 32 := by
  have := h.few
  rw [length_read h] at this
  omega

theorem vertexPerPoint : VertexPerPoint ops target source m d := by
  have hlen := length_read h
  refine ⟨by rw [h.vertices, List.length_map, hlen], fun x hx y hy => ?_⟩
  obtain ⟨hget, hlt⟩ := (mapM_eq_some h.read).2 _ _ (getElem?_places hx hy)
  have hsmall := few_vertexes h
  have hindex := index_lt hx hy
  have hy' : (UInt64.ofNat y * m.width).toNat = y * m.vertexWidth.toNat := by
    rw [UInt64.toNat_mul, UInt64.toNat_ofNat_of_lt' (by
      have := Nat.le_mul_of_pos_right m.vertexHeight.toNat (Nat.lt_of_le_of_lt (Nat.zero_le x) hx)
      rw [Nat.mul_comm] at this
      show y < 2 ^ 64
      omega)]
    exact Nat.mod_eq_of_lt (by show y * m.vertexWidth.toNat < 2 ^ 64; omega)
  rw [Mesh.vertex, hy'] at hget
  refine ⟨vs[y * m.vertexWidth.toNat + x], ?_, ?_⟩
  · rw [hget, List.getElem?_eq_getElem hlt]
  · rw [h.vertices, List.getElem?_map, List.getElem?_eq_getElem hlt, Option.map_some]

theorem untruncated : Untruncated m := by
  have hfew := few_vertexes h
  have hw := toNat_meshWidth m
  have hh := toNat_meshHeight m
  have hle : (m.vertexWidth.toNat - 1) * (m.vertexHeight.toNat - 1) ≤
      m.vertexWidth.toNat * m.vertexHeight.toNat :=
    Nat.mul_le_mul (Nat.sub_le _ _) (Nat.sub_le _ _)
  have hcount : (cellCount m).toNat =
      (m.vertexWidth.toNat - 1) * (m.vertexHeight.toNat - 1) := by
    rw [cellCount, UInt64.toNat_mul, hw, hh]
    exact Nat.mod_eq_of_lt (by omega)
  refine ⟨hcount, ?_, ?_⟩
  · rw [UInt64.toNat_mul, hcount, Nat.mul_comm]
    exact Nat.mod_eq_of_lt (by show 6 * _ < 2 ^ 64; omega)
  intro x y hp row column top bottom
  obtain ⟨hx, hy, hlt⟩ := cell_bounds hp
  have hyw : y * m.vertexWidth.toNat ≤ (y + 1) * m.vertexWidth.toNat :=
    Nat.mul_le_mul_right _ (Nat.le_succ y)
  have hrow : row.toNat = y :=
    UInt64.toNat_ofNat_of_lt' (Nat.lt_of_succ_lt (hy.trans m.vertexHeight.toNat_lt))
  have hcolumn : column.toNat = x :=
    UInt64.toNat_ofNat_of_lt' (Nat.lt_of_succ_lt (hx.trans m.vertexWidth.toNat_lt))
  have hrow' : (row + 1).toNat = y + 1 := by
    rw [UInt64.toNat_add, hrow]
    exact Nat.mod_eq_of_lt (hy.trans m.vertexHeight.toNat_lt)
  have htopRow : (row * m.vertexWidth).toNat = y * m.vertexWidth.toNat := by
    rw [UInt64.toNat_mul, hrow]
    exact Nat.mod_eq_of_lt (by omega)
  have hbottomRow : ((row + 1) * m.vertexWidth).toNat = (y + 1) * m.vertexWidth.toNat := by
    rw [UInt64.toNat_mul, hrow']
    exact Nat.mod_eq_of_lt (by omega)
  have htop : top.toNat = y * m.vertexWidth.toNat + x := by
    show (row * m.vertexWidth + column).toNat = _
    rw [UInt64.toNat_add, htopRow, hcolumn]
    exact Nat.mod_eq_of_lt (by omega)
  have hbottom : bottom.toNat = (y + 1) * m.vertexWidth.toNat + x := by
    show ((row + 1) * m.vertexWidth + column).toNat = _
    rw [UInt64.toNat_add, hbottomRow, hcolumn]
    exact Nat.mod_eq_of_lt (by omega)
  have hnext {n : UInt64} {k : Nat} (hn : n.toNat = k) (hk : k + 1 < 2 ^ 32) :
      (n + 1).toNat = k + 1 := by
    rw [UInt64.toNat_add, hn]
    exact Nat.mod_eq_of_lt (by show k + 1 < 2 ^ 64; omega)
  have htop' := hnext htop (by omega)
  have hbottom' := hnext hbottom (by omega)
  exact ⟨hrow, hcolumn, htopRow, hbottomRow, ⟨htop, narrow_eq (by omega)⟩,
    ⟨htop', narrow_eq (by omega)⟩, ⟨hbottom, narrow_eq (by omega)⟩,
    ⟨hbottom', narrow_eq (by omega)⟩⟩

/-- The indices of a cell stand together. -/
theorem getElem?_indices {x y j : Nat} (hp : Cell m (x, y)) (hj : j < 6) :
    d.indices[6 * (y * m.meshWidth.toNat + x) + j]? =
      (cell m (UInt64.ofNat y) (UInt64.ofNat x))[j]? := by
  have hplace : (places m.meshWidth.toNat m.meshHeight.toNat)[y * m.meshWidth.toNat + x]? =
      some (x, y) := getElem?_places hp.1 hp.2
  obtain ⟨hlt, hget⟩ := List.getElem?_eq_some_iff.mp hplace
  have hchunk (p : GridPoint) (_ : p ∈ places m.meshWidth.toNat m.meshHeight.toNat) :
      (cell m (UInt64.ofNat p.2) (UInt64.ofNat p.1)).length = 6 := rfl
  rw [h.indices, ProjectionMeshAdapter.indices, Nat.mul_comm 6, getElem?_chunks hchunk hlt hj, hget]

theorem cell_triangles {x y : Nat} (hp : Cell m (x, y)) :
    cellTriangles m d (x, y) =
      some (⟨(x, y), (x + 1, y), (x + 1, y + 1)⟩, ⟨(x, y), (x + 1, y + 1), (x, y + 1)⟩) := by
  obtain ⟨hx, hy, -⟩ := cell_bounds hp
  obtain ⟨-, -, -, -, ⟨htop, htop32⟩, ⟨htop', htop32'⟩, ⟨hbottom, hbottom32⟩,
    ⟨hbottom', hbottom32'⟩⟩ := (untruncated h).corners x y hp
  have hget {j : Nat} (n : Nat) (hn : n = 6 * (y * m.meshWidth.toNat + x) + j) (hj : j < 6) :
      d.indices[n]? = (cell m (UInt64.ofNat y) (UInt64.ofNat x))[j]? :=
    hn ▸ getElem?_indices h hp hj
  have hleftTop := gridPoint_eq (htop32.trans htop) (Nat.lt_of_succ_lt hx)
  have hrightTop := gridPoint_eq (htop32'.trans htop') hx
  have hleftBottom := gridPoint_eq (hbottom32.trans hbottom) (Nat.lt_of_succ_lt hx)
  have hrightBottom := gridPoint_eq (hbottom32'.trans hbottom') hx
  have hfirst := triangle_eq (k := 2 * (y * m.meshWidth.toNat + x))
    (hget (j := 0) _ (by omega) (by omega)) (hget (j := 1) _ (by omega) (by omega))
    (hget (j := 2) _ (by omega) (by omega)) hleftTop hrightTop hrightBottom
  have hsecond := triangle_eq (k := 2 * (y * m.meshWidth.toNat + x) + 1)
    (hget (j := 3) _ (by omega) (by omega)) (hget (j := 4) _ (by omega) (by omega))
    (hget (j := 5) _ (by omega) (by omega)) hleftTop hrightBottom hleftBottom
  rw [cellTriangles]
  simp only [hfirst, hsecond]
  rfl

theorem length_indices : d.indices.length = 6 * (m.meshWidth.toNat * m.meshHeight.toNat) := by
  rw [h.indices, ProjectionMeshAdapter.indices, List.length_flatMap]
  show ((places m.meshWidth.toNat m.meshHeight.toNat).map fun _ => 6).sum = _
  rw [List.map_const', List.sum_replicate_nat, length_places, Nat.mul_comm]

theorem indices_below {i : UInt32} (hi : i ∈ d.indices) : i.toNat < d.vertices.length := by
  rw [(vertexPerPoint h).count]
  rw [h.indices, ProjectionMeshAdapter.indices] at hi
  obtain ⟨⟨x, y⟩, hplace, hi⟩ := List.mem_flatMap.mp hi
  have hp : Cell m (x, y) := mem_places.mp hplace
  obtain ⟨hx, hy, hlt⟩ := cell_bounds hp
  have hyw : y * m.vertexWidth.toNat ≤ (y + 1) * m.vertexWidth.toNat :=
    Nat.mul_le_mul_right _ (Nat.le_succ y)
  obtain ⟨-, -, -, -, ⟨htop, htop32⟩, ⟨htop', htop32'⟩, ⟨hbottom, hbottom32⟩,
    ⟨hbottom', hbottom32'⟩⟩ := (untruncated h).corners x y hp
  have htop := htop32.trans htop
  have htop' := htop32'.trans htop'
  have hbottom := hbottom32.trans hbottom
  have hbottom' := hbottom32'.trans hbottom'
  simp only [cell, List.mem_cons, List.not_mem_nil, or_false] at hi
  obtain rfl | rfl | rfl | rfl | rfl | rfl := hi <;> omega

end Made

/-! ## Triangles -/

theorem makesUp (x y : Nat) :
    MakesUp (x, y) ⟨(x, y), (x + 1, y), (x + 1, y + 1)⟩ ⟨(x, y), (x + 1, y + 1), (x, y + 1)⟩ where
  corners := by
    ext p
    simp only [GridTriangle.points, corners, Set.mem_union, Set.mem_insert_iff,
      Set.mem_singleton_iff]
    tauto
  diagonal := by
    ext p
    obtain ⟨a, b⟩ := p
    simp only [GridTriangle.points, diagonal, Set.mem_inter_iff, Set.mem_insert_iff,
      Set.mem_singleton_iff, Prod.mk.injEq]
    omega
  orientation := by
    constructor
    · simp only [GridTriangle.cross]
      omega
    · simp only [GridTriangle.cross]
      omega

/-- A triangle of a cell is on its corners, and on both ends of its diagonal. -/
theorem makesUp_between {p : GridPoint} {t u v : GridTriangle} (h : MakesUp p t u)
    (hv : v ∈ [t, u]) : diagonal p ⊆ v.points ∧ v.points ⊆ corners p := by
  rw [← h.corners, ← h.diagonal]
  simp only [List.mem_cons, List.not_mem_nil, or_false] at hv
  obtain rfl | rfl := hv
  · exact ⟨Set.inter_subset_left, Set.subset_union_left⟩
  · exact ⟨Set.inter_subset_right, Set.subset_union_right⟩

/-- The cell can be told from points between its diagonal and its corners. -/
theorem cell_unique {p q : GridPoint} {s : Set GridPoint} (hp : diagonal p ⊆ s)
    (hp' : s ⊆ corners p) (hq : diagonal q ⊆ s) (hq' : s ⊆ corners q) : p = q := by
  have hpq : p ∈ corners q := hq' (hp (Set.mem_insert _ _))
  have hqp : q ∈ corners p := hp' (hq (Set.mem_insert _ _))
  simp only [corners, Set.mem_insert_iff, Set.mem_singleton_iff, Prod.ext_iff] at hpq hqp
  apply Prod.ext
  · omega
  · omega

theorem tessellates {ops : Arithmetic D F} {m : Mesh D} {target source : RendererExtent2D}
    {d : MeshData F} {vs : List (TiePoint D)} (h : MeshMade ops m target source d vs) :
    Tessellates m d where
  topology := h.topology
  count := length_indices h
  below _ hi := indices_below h hi
  cells p hp := ⟨_, _, cell_triangles h hp, makesUp p.1 p.2⟩
  distinct := by
    intro p q t u t' u' hp hq hne ht ht' v hv v' hv' he
    rw [cell_triangles h hp] at ht
    rw [cell_triangles h hq] at ht'
    cases ht
    cases ht'
    obtain ⟨hd, hc⟩ := makesUp_between (makesUp p.1 p.2) hv
    obtain ⟨hd', hc'⟩ := makesUp_between (makesUp q.1 q.2) hv'
    rw [← he] at hd' hc'
    exact hne (cell_unique hd hc hd' hc')

/-- A mesh that is made has a vertex for each point of the grid, and its triangles cover the cells,
each with its own two, without a count or an index that is not what it stands for. -/
theorem projection_mesh {ops : Arithmetic D F} {maxSize : UInt64} {m : Mesh D}
    {target source : RendererExtent2D} {d : MeshData F}
    (h : createMesh ops maxSize m target source = some (.ok d)) :
    VertexPerPoint ops target source m d ∧ Tessellates m d ∧ Untruncated m := by
  obtain ⟨vs, hmade⟩ := createMesh_ok h
  exact ⟨vertexPerPoint hmade, tessellates hmade, untruncated hmade⟩

/-- Numbers on which nothing is rounded while the extents are 2 x 2. -/
def wholeNumbers : Arithmetic Int Int where
  ofNat n := n
  neg x := -x
  add x y := x + y
  sub x y := x - y
  mul x y := x * y
  div x y := x / y
  narrow x := x
  isfinite _ := true

/-- Two columns and one row of cells. -/
def twoCells : Mesh Int where
  data := (places 3 2).map fun p => ⟨⟨p.1, p.2⟩, ⟨p.2, p.1⟩⟩
  width := 3
  height := 2

theorem projection_mesh_twoCells : ∃ d,
    createMesh wholeNumbers 0x1FFFFFFFFFFFFFFF twoCells ⟨2, 2⟩ ⟨2, 2⟩ = some (.ok d) ∧
      d.indices = [0, 1, 4, 0, 4, 3, 1, 2, 5, 1, 5, 4] ∧ Tessellates twoCells d := by
  have h : (createMesh wholeNumbers 0x1FFFFFFFFFFFFFFF twoCells ⟨2, 2⟩ ⟨2, 2⟩).map
      (·.map MeshData.indices) = some (.ok [0, 1, 4, 0, 4, 3, 1, 2, 5, 1, 5, 4]) := by decide
  obtain ⟨r, hr, hi⟩ := Option.map_eq_some_iff.mp h
  cases r with
  | error e => cases hi
  | ok d => exact ⟨d, hr, Except.ok.inj hi, (projection_mesh hr).2.1⟩

end WSE.Proof.Oui
