import WapitiStew.Impl.Wse.Image
import WapitiStew.Spec.Wse.Image

/-!
# Pixels and orientations

The bytes of a pixel and of an image, and the orientations that act on it.
-/

namespace WSE.Proof.Wse

open WSE.Framework WSE.Impl.Wse

/-!
## Pixels in memory

A pixel is what its bytes say, on a host of either byte order: `byte_ofBytes` and `ofBytes_byte`.
An image is its pixels one after another (`imageByte_get`), also when it is made of bytes
(`get_imageOfBytes`).
-/

section

variable {p : PixFormat} (bigEndian : Bool)

theorem sampleBits_pow (p : PixFormat) : 2 ^ p.sampleBits = 256 ^ p.sampleSize := by
  rw [Nat.pow_mul]

/-- The bytes of a channel of a pixel. -/
theorem channel_ofBytes (bytes : Nat → Byte) {c : Nat} (hc : c < p.channels) :
    ((Pixel.ofBytes bigEndian p bytes).channel c).toNat = nativeValue bigEndian
      ((List.range p.sampleSize).map fun k => bytes (c * p.sampleSize + k)) := by
  have hlt := nativeValue_lt bigEndian
    ((List.range p.sampleSize).map fun k => bytes (c * p.sampleSize + k))
  rw [List.length_map, List.length_range, ← sampleBits_pow] at hlt
  rw [Pixel.channel, dif_pos hc, Pixel.ofBytes, Pixel.ofFn_apply, BitVec.toNat_ofNat,
    Nat.mod_eq_of_lt hlt]

theorem byte_ofBytes (bytes : Nat → Byte) {k : Nat} (hk : k < p.pixelBytes) :
    (Pixel.ofBytes bigEndian p bytes).byte bigEndian k = bytes k := by
  have hc : k / p.sampleSize < p.channels :=
    Nat.div_lt_of_lt_mul (by rw [Nat.mul_comm]; exact hk)
  have hk' : k % p.sampleSize < p.sampleSize := Nat.mod_lt k p.sampleSize_pos
  have hbytes := nativeBytes_nativeValue bigEndian
    ((List.range p.sampleSize).map fun j => bytes (k / p.sampleSize * p.sampleSize + j))
  rw [List.length_map, List.length_range] at hbytes
  rw [Pixel.byte, channel_ofBytes bigEndian bytes hc, hbytes, List.getD_eq_getElem?_getD,
    List.getElem?_map, List.getElem?_range hk', Option.map_some, Option.getD_some, Nat.mul_comm,
    Nat.div_add_mod]

theorem ofBytes_byte (pixel : Pixel p) :
    Pixel.ofBytes bigEndian p (pixel.byte bigEndian) = pixel := by
  funext c
  have hlist : (List.range p.sampleSize).map (fun k =>
      pixel.byte bigEndian (c * p.sampleSize + k)) =
      nativeBytes bigEndian p.sampleSize (pixel c).toNat := by
    refine List.ext_getElem (by simp) fun k hk hk' => ?_
    rw [List.length_map, List.length_range] at hk
    rw [List.getElem_map, List.getElem_range, Pixel.byte, Nat.mul_comm,
      Nat.mul_add_div p.sampleSize_pos, Nat.div_eq_of_lt hk, Nat.add_zero, Nat.mul_add_mod,
      Nat.mod_eq_of_lt hk, Pixel.channel_fin, List.getD_eq_getElem _ _ hk']
  rw [Pixel.ofBytes, Pixel.ofFn_apply, hlist, nativeValue_nativeBytes bigEndian
    (sampleBits_pow p ▸ (pixel c).isLt), BitVec.ofNat_toNat, BitVec.setWidth_eq]

theorem ofBytes_congr {bytes bytes' : Nat → Byte}
    (h : ∀ k < p.pixelBytes, bytes k = bytes' k) :
    Pixel.ofBytes bigEndian p bytes = Pixel.ofBytes bigEndian p bytes' := by
  funext c
  rw [Pixel.ofBytes, Pixel.ofBytes, Pixel.ofFn_apply, Pixel.ofFn_apply]
  congr 2
  refine List.map_congr_left fun k hk => h _ ?_
  have := Nat.mul_le_mul_right p.sampleSize (Nat.succ_le_of_lt c.isLt)
  rw [Nat.succ_mul] at this
  have hk := List.mem_range.mp hk
  show _ < p.channels * p.sampleSize
  omega

/-- Two pixels are equal when their bytes are. -/
theorem ofBytes_inj {bytes bytes' : Nat → Byte} :
    Pixel.ofBytes bigEndian p bytes = Pixel.ofBytes bigEndian p bytes' ↔
      ∀ k < p.pixelBytes, bytes k = bytes' k := by
  refine ⟨fun h k hk => ?_, ofBytes_congr bigEndian⟩
  rw [← byte_ofBytes bigEndian bytes hk, h, byte_ofBytes bigEndian bytes' hk]

/-! ### Images -/

variable {width height x y : Nat}

theorem imageByte_get (image : Image p) (x y : Nat) {k : Nat} (hk : k < p.pixelBytes) :
    imageByte bigEndian image ((y * image.width + x) * p.pixelBytes + k) =
      (image.get x y).byte bigEndian k := by
  rw [imageByte, Nat.mul_comm, Nat.mul_add_div p.pixelBytes_pos, Nat.div_eq_of_lt hk, Nat.add_zero,
    Nat.mul_add_mod, Nat.mod_eq_of_lt hk]
  rfl

theorem get_imageOfBytes (bytes : Nat → Byte) (hx : x < width) (hy : y < height) :
    (imageOfBytes bigEndian p width height bytes).get x y =
      Pixel.ofBytes bigEndian p fun k => bytes ((y * width + x) * p.pixelBytes + k) :=
  Grid.get_ofFn _ hx hy

end

/-!
## Orientation is an action of the dihedral group

The index formulas of `applyOrientation` are those of the symmetry that the orientation denotes
(`orientedPlace_eq`), so that its loop gives the image turned by the symmetry
(`applyOrientation_eq`). What the group says of products and inverses then holds of images.
-/

section

open WSE.Spec.Wse

variable {p : PixFormat} {source : Image p}

theorem orientedExtent_eq (orientation : ImageOrientation) (e : Nat × Nat) :
    orientedExtent e.1 e.2 orientation = turnedExtent (symmetry orientation) e := by
  cases orientation <;> rfl

theorem orientedPlace_eq (orientation : ImageOrientation) (e at_ : Nat × Nat) :
    orientedPlace e.1 e.2 orientation at_.1 at_.2 =
      turnedPlace (symmetry orientation) e at_ := by
  cases orientation <;> rfl

theorem orientedPlaces_eq (source : Image p) (orientation : ImageOrientation) :
    (fun at_ : Nat × Nat => orientedPlace source.width source.height orientation at_.1 at_.2) =
      turnedPlace (symmetry orientation) source.extent :=
  funext fun at_ => orientedPlace_eq orientation source.extent at_

theorem symmetry_inverse (orientation : ImageOrientation) :
    symmetry (inverse orientation) = (symmetry orientation)⁻¹ := by
  cases orientation <;> rfl

theorem not_empty (hw : source.width ≠ 0) (hh : source.height ≠ 0) :
    (decide (source.width = 0) || decide (source.height = 0)) = false := by
  simp [hw, hh]

/-- The loop writes every pixel to a place of its own. -/
theorem applyOrientation_eq (hw : source.width ≠ 0) (hh : source.height ≠ 0)
    (orientation : ImageOrientation) :
    applyOrientation source orientation = .ok (symmetry orientation • source) := by
  have hextent := orientedExtent_eq orientation source.extent
  unfold applyOrientation
  simp only [not_empty hw hh, Bool.false_eq_true, if_false, Except.ok.injEq]
  rw [Grid.smul_eq, orientedPlaces_eq]
  refine Grid.eq_turn ?_ fun at_ hat => ?_
  · rw [Grid.extent, Grid.width_scatter, Grid.height_scatter]
    exact hextent
  · have hbij := turnedPlace_bijOn (e := source.extent) (symmetry orientation)
    have hmem : ∀ q ∈ places source.width source.height, Turn.Inside q source.extent :=
      fun q hq => mem_places.mp hq
    exact Grid.get_scatter (turnedPlace (symmetry orientation) source.extent)
      (fun at_ => source.get at_.1 at_.2) (blank p
        (orientedExtent source.width source.height orientation).1
        (orientedExtent source.width source.height orientation).2)
      (fun q hq => by
        have hin := turnedPlace_inside (symmetry orientation) (hmem q hq)
        rw [← hextent] at hin
        exact hin)
      (fun q hq r hr h => hbij.injOn (hmem q hq) (hmem r hr) h) (mem_places.mpr hat)

/-- A turned image is no more empty than the image. -/
theorem smul_not_empty (g : DihedralGroup 4) (hw : source.width ≠ 0) (hh : source.height ≠ 0) :
    (g • source).width ≠ 0 ∧ (g • source).height ≠ 0 := by
  obtain ⟨h1, h2⟩ | ⟨h1, h2⟩ := Grid.extent_smul g source
  · exact ⟨h1 ▸ hw, h2 ▸ hh⟩
  · exact ⟨h1 ▸ hh, h2 ▸ hw⟩

theorem moves_smul (source : Image p) (orientation : ImageOrientation) :
    Moves source (symmetry orientation • source) orientation where
  extent := (orientedExtent_eq orientation source.extent).symm
  bijective := by
    have hbij := turnedPlace_bijOn (e := source.extent) (symmetry orientation)
    rw [orientedPlaces_eq]
    exact hbij
  pixels x hx y hy := by
    have hget := Grid.get_turn (p := (x, y)) (symmetry orientation) source ⟨hx, hy⟩
    rw [← orientedPlace_eq] at hget
    exact hget

/-- Orientations one after another turn the image by their product. -/
theorem applyAll_eq (hw : source.width ≠ 0) (hh : source.height ≠ 0)
    (orientations : List ImageOrientation) :
    applyAll source orientations = .ok (denotes orientations • source) := by
  induction orientations generalizing source with
  | nil =>
    rw [denotes, one_smul]
    rfl
  | cons orientation orientations ih =>
    obtain ⟨hw', hh'⟩ := smul_not_empty (symmetry orientation) hw hh
    rw [applyAll, applyOrientation_eq hw hh]
    show applyAll (symmetry orientation • source) orientations = _
    rw [ih hw' hh', denotes, mul_smul]

theorem applyOrientation_inverse (hw : source.width ≠ 0) (hh : source.height ≠ 0)
    (orientation : ImageOrientation) :
    applyOrientation (symmetry orientation • source) (inverse orientation) = .ok source := by
  obtain ⟨hw', hh'⟩ := smul_not_empty (symmetry orientation) hw hh
  rw [applyOrientation_eq hw' hh', symmetry_inverse, inv_smul_smul]

end

end WSE.Proof.Wse
