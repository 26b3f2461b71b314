import WapitiStew.Proof.Wse.Image
import WapitiStew.Spec.Wse.Image

/-!
# Interleaved views stay in their buffer

`checked` is what the validity check proves of the sizes; with it no access of a row fails
(`readRow_eq`, `writeRow_eq`), so that the operations are `makeImage_eq` and `writeImage_eq`. A
pixel is what `pixelOf` makes of its bytes, and `newByte` is a byte of it that is written: they
undo each other, and agree in both branches, where samples have at most two bytes.
-/

namespace WSE.Proof.Wse

open WSE.Framework WSE.Impl.Wse WSE.Spec.Wse

section

variable {p : PixFormat}

/-! ## The check -/

/-- What the check proves of a layout. -/
structure Checked (p : PixFormat) (l : InterleavedLayout) : Prop where
  width_pos : l.width.toNat ≠ 0
  height_pos : l.height.toNat ≠ 0
  row : l.width.toNat * p.pixelBytes < 2 ^ 64
  stride : l.width.toNat * p.pixelBytes ≤ rowStride p l
  size : (l.height.toNat - 1) * rowStride p l + l.width.toNat * p.pixelBytes ≤
    l.accessibleBytes.toNat

theorem sizeMax_lt {n : Nat} (h : n ≤ sizeMax) : n < 2 ^ 64 := by
  have : sizeMax = 2 ^ 64 - 1 := rfl
  omega

theorem layout_checked (p : PixFormat) (l : InterleavedLayout) :
    ∃ b, isInterleavedLayoutValid p l = some b ∧ (b = true → Checked p l) := by
  unfold isInterleavedLayoutValid
  dsimp only
  split
  · exact ⟨false, rfl, nofun⟩
  rename_i hpos
  simp only [Bool.or_eq_true, decide_eq_true_eq, not_or] at hpos
  split
  · exact ⟨false, rfl, nofun⟩
  rename_i hw
  have hrow : l.width.toNat * p.pixelBytes ≤ sizeMax :=
    (Nat.le_div_iff_mul_le p.pixelBytes_pos).mp (Nat.not_lt.mp hw)
  rw [mul64_eq (sizeMax_lt hrow), Option.bind_eq_bind, Option.bind_some]
  show ∃ b, (if rowStride p l < _ then _ else if l.height.toNat > sizeMax / rowStride p l then _
    else _) = some b ∧ _
  split
  · exact ⟨false, rfl, nofun⟩
  rename_i hstride
  split
  · exact ⟨false, rfl, nofun⟩
  rename_i hheight
  have hpixel := p.pixelBytes_pos
  have hrow_pos : 0 < l.width.toNat * p.pixelBytes := Nat.mul_pos (by omega) hpixel
  have hrows : l.height.toNat * rowStride p l ≤ sizeMax :=
    (Nat.le_div_iff_mul_le (by omega)).mp (Nat.not_lt.mp hheight)
  have hspan : (l.height.toNat - 1) * rowStride p l ≤ sizeMax :=
    Nat.le_trans (Nat.mul_le_mul_right _ (Nat.sub_le _ _)) hrows
  change ∃ b, (mul64 (l.height.toNat - 1) (rowStride p l)).bind _ = some b ∧ _
  rw [mul64_eq (sizeMax_lt hspan), Option.bind_some]
  split
  · exact ⟨false, rfl, nofun⟩
  rename_i hsize
  rw [add64_eq (sizeMax_lt (by omega)), Option.bind_some]
  refine ⟨_, rfl, fun h => ?_⟩
  have hsize := of_decide_eq_true h
  exact ⟨hpos.1, hpos.2, sizeMax_lt hrow, Nat.not_lt.mp hstride, hsize⟩

theorem target_checked {t : InterleavedView} (h : isInterleavedTargetValid p t = some true) :
    Checked p t.toInterleavedLayout ∧ ∃ m, t.data = some m := by
  unfold isInterleavedTargetValid at h
  obtain ⟨b, hb, hc⟩ := layout_checked p t.toInterleavedLayout
  cases hd : t.data with
  | none =>
    rw [hd] at h
    cases h
  | some m =>
    rw [hd, hb] at h
    exact ⟨hc (Option.some.inj h), m, rfl⟩

theorem target_layout {t : InterleavedView} (h : isInterleavedTargetValid p t = some true) :
    isInterleavedLayoutValid p t.toInterleavedLayout = some true := by
  obtain ⟨-, m, hm⟩ := target_checked h
  rw [isInterleavedTargetValid, hm] at h
  exact h

theorem view_of_layout {l : InterleavedLayout} (m : Memory)
    (h : isInterleavedLayoutValid p l = some true) :
    isInterleavedViewValid p { toInterleavedLayout := l, data := some m } = some true := h

/-- A layout is valid when its rows, with their margins, are inside. -/
theorem strided_layout_valid {l : InterleavedLayout} (hw : l.width.toNat ≠ 0)
    (hh : l.height.toNat ≠ 0) (hrow : l.width.toNat * p.pixelBytes ≤ rowStride p l)
    (hsize : rowStride p l * l.height.toNat ≤ l.accessibleBytes.toNat) :
    isInterleavedLayoutValid p l = some true := by
  have hmax : l.accessibleBytes.toNat ≤ sizeMax := Nat.le_pred_of_lt l.accessibleBytes.toNat_lt
  have hpos : 0 < l.width.toNat * p.pixelBytes :=
    Nat.mul_pos (Nat.pos_of_ne_zero hw) p.pixelBytes_pos
  have hrows := Nat.le_mul_of_pos_right (rowStride p l) (Nat.pos_of_ne_zero hh)
  have hspan : (l.height.toNat - 1) * rowStride p l + rowStride p l =
      rowStride p l * l.height.toNat := by
    rw [← Nat.succ_mul, Nat.succ_eq_add_one, Nat.sub_add_cancel (Nat.pos_of_ne_zero hh),
      Nat.mul_comm]
  have hwidth : l.width.toNat ≤ sizeMax / p.pixelBytes :=
    (Nat.le_div_iff_mul_le p.pixelBytes_pos).mpr (by omega)
  have hheight : l.height.toNat ≤ sizeMax / rowStride p l :=
    (Nat.le_div_iff_mul_le (by omega)).mpr (by rw [Nat.mul_comm]; omega)
  unfold isInterleavedLayoutValid
  dsimp only
  rw [if_neg (by simp [hw, hh]), if_neg (Nat.not_lt.mpr hwidth),
    mul64_eq (sizeMax_lt (by omega)), Option.bind_eq_bind, Option.bind_some]
  change (if rowStride p l < _ then _ else if l.height.toNat > sizeMax / rowStride p l then _
    else (mul64 (l.height.toNat - 1) (rowStride p l)).bind _) = some true
  rw [if_neg (Nat.not_lt.mpr hrow), if_neg (Nat.not_lt.mpr hheight),
    mul64_eq (sizeMax_lt (by omega)), Option.bind_some, if_neg (by omega),
    add64_eq (sizeMax_lt (by omega)), Option.bind_some]
  exact congrArg some (decide_eq_true (by omega))

/-- A layout without margins is valid when its size does not wrap. -/
theorem packed_layout_valid {l : InterleavedLayout} (hw : l.width.toNat ≠ 0)
    (hh : l.height.toNat ≠ 0) (hrow : l.rowStride.toNat = l.width.toNat * p.pixelBytes)
    (hsize : l.width.toNat * p.pixelBytes * l.height.toNat ≤ l.accessibleBytes.toNat) :
    isInterleavedLayoutValid p l = some true := by
  have hstride : rowStride p l = l.width.toNat * p.pixelBytes := by
    rw [rowStride, hrow, ite_self]
  exact strided_layout_valid hw hh hstride.ge (hstride.symm ▸ hsize)

theorem valid_isSome (p : PixFormat) (v : InterleavedView) :
    (isInterleavedViewValid p v).isSome = true := by
  obtain ⟨b, hb, -⟩ := layout_checked p v.toInterleavedLayout
  unfold isInterleavedViewValid
  split
  · rfl
  · rw [hb]
    rfl

/-! ### The sizes of a row -/

section Sizes

variable {l : InterleavedLayout} (hc : Checked p l)

include hc

theorem interleavedRowStride_checked : interleavedRowStride p l = some (rowStride p l) := by
  unfold interleavedRowStride rowStride
  split
  · rfl
  · exact mul64_eq hc.row

theorem rowBytes_checked : (do
    let rowSamples ← mul64 l.width.toNat p.channels
    mul64 rowSamples p.sampleSize) = some (l.width.toNat * p.pixelBytes) := by
  have hle : l.width.toNat * p.channels ≤ l.width.toNat * p.pixelBytes :=
    Nat.mul_le_mul_left _ (Nat.le_mul_of_pos_right _ p.sampleSize_pos)
  have hrow := hc.row
  rw [mul64_eq (by omega)]
  show mul64 (l.width.toNat * p.channels) p.sampleSize = _
  rw [PixFormat.pixelBytes, ← Nat.mul_assoc] at hrow ⊢
  exact mul64_eq hrow

/-- A row is inside the accessible bytes. -/
theorem row_inside {y : Nat} (hy : y < l.height.toNat) :
    y * rowStride p l + l.width.toNat * p.pixelBytes ≤ l.accessibleBytes.toNat := by
  have hle : y * rowStride p l ≤ (l.height.toNat - 1) * rowStride p l :=
    Nat.mul_le_mul_right _ (by omega)
  have := hc.size
  omega

theorem rowOffset_checked {y : Nat} (hy : y < l.height.toNat) :
    mul64 y (rowStride p l) = some (y * rowStride p l) := by
  have := row_inside hc hy
  have hlt := l.accessibleBytes.toNat_lt
  exact mul64_eq (by omega)

/-- A row ends before the next one begins. -/
theorem rows_apart {y y' : Nat} (h : y' < y) :
    y' * rowStride p l + l.width.toNat * p.pixelBytes ≤ y * rowStride p l := by
  have hle := Nat.mul_le_mul_right (rowStride p l) (Nat.succ_le_of_lt h)
  rw [Nat.succ_mul] at hle
  have := hc.stride
  omega

end Sizes

/-! ## Rows -/

section Rows

variable (littleEndian : Bool)

/-- The code copies rows as they are. -/
abbrev CopiesRows (littleEndian : Bool) (p : PixFormat) : Prop :=
  (littleEndian || decide (p.sampleSize = 1)) = true

/-- The pixel that the code makes of its bytes. -/
def pixelOf (p : PixFormat) (bytes : Nat → Byte) : Pixel p :=
  if CopiesRows littleEndian p then Pixel.ofBytes (!littleEndian) p bytes
  else .ofFn fun c => BitVec.ofNat p.sampleBits (bytes (c * p.sampleSize)).toNat |||
    (BitVec.ofNat p.sampleBits (bytes (c * p.sampleSize + 1)).toNat).shiftLeft 8

/-- A byte of a row that the code has written, by what it was. -/
def newByte (image : Image p) (y k : Nat) (old : Byte) : Byte :=
  if CopiesRows littleEndian p then
    (image.get (k / p.pixelBytes) y).byte (!littleEndian) (k % p.pixelBytes)
  else
    let index := k / p.sampleSize
    let sample := (image.get (index / p.channels) y).channel (index % p.channels)
    if k % p.sampleSize = 0 then UInt8.ofNat sample.toNat
    else if k % p.sampleSize = 1 then UInt8.ofNat (sample.toNat / 256)
    else old

theorem two_le_sampleSize (h : ¬ CopiesRows littleEndian p) : 2 ≤ p.sampleSize := by
  rw [CopiesRows, Bool.or_eq_true, not_or, decide_eq_true_eq] at h
  have := p.sampleSize_pos
  omega

theorem sample_place (x c : Nat) : (x * p.channels + c) * p.sampleSize =
    x * p.pixelBytes + c * p.sampleSize := by
  rw [PixFormat.pixelBytes, Nat.add_mul, Nat.mul_assoc]

/-- A sample of a row is in it. -/
theorem sample_inside {width index : Nat} (h : index < width * p.channels) :
    index * p.sampleSize + p.sampleSize ≤ width * p.pixelBytes := by
  have := Nat.mul_le_mul_right p.sampleSize (Nat.succ_le_of_lt h)
  rwa [Nat.succ_mul, Nat.mul_assoc] at this

variable (m : Memory) {limit offset width : Nat}

theorem readRow_eq (hlimit : limit < 2 ^ 64) (h : offset + width * p.pixelBytes ≤ limit) :
    ∃ row, readRow littleEndian p m limit offset width (width * p.pixelBytes) = some row ∧
      ∀ x < width, row x =
        pixelOf littleEndian p fun k => m (offset + (x * p.pixelBytes + k)) := by
  unfold readRow
  by_cases hcopy : CopiesRows littleEndian p
  · rw [if_pos hcopy, m.read_eq h]
    refine ⟨_, rfl, fun x _ => ?_⟩
    rw [pixelOf, if_pos hcopy]
  · have htwo := two_le_sampleSize littleEndian hcopy
    rw [if_neg hcopy, mapM_some (g := fun index =>
      BitVec.ofNat p.sampleBits (m (offset + index * p.sampleSize)).toNat |||
        (BitVec.ofNat p.sampleBits (m (offset + index * p.sampleSize + 1)).toNat).shiftLeft 8)]
    · refine ⟨_, rfl, fun x hx => ?_⟩
      rw [pixelOf, if_neg hcopy]
      funext c
      have hlt : x * p.channels + c < width * p.channels := by
        rw [Nat.mul_comm width]
        exact index_lt c.isLt hx
      rw [Pixel.ofFn_apply, Pixel.ofFn_apply, List.getD_eq_getElem?_getD, List.getElem?_map,
        List.getElem?_range hlt, Option.map_some, Option.getD_some, sample_place, Nat.add_assoc,
        Nat.add_assoc]
    · intro index hindex
      have hin := sample_inside (List.mem_range.mp hindex)
      rw [mul64_eq (by omega), Option.bind_eq_bind, Option.bind_some, m.read_eq (by omega),
        Option.bind_eq_bind, Option.bind_some, m.read_eq (by omega)]
      rfl

/-- The two bytes of a sample that are written one by one. -/
theorem write_sample {place : Nat} (low high : Byte) (hsize : 2 ≤ p.sampleSize)
    (h : place + p.sampleSize ≤ limit) : (do
      let m ← m.write limit place 1 fun _ => low
      m.write limit (place + 1) 1 fun _ => high) =
    some (m.update place p.sampleSize fun k old =>
      if k = 0 then low else if k = 1 then high else old) := by
  rw [m.write_eq _ (by omega)]
  show Memory.write _ limit (place + 1) 1 (fun _ => high) = _
  rw [Memory.write_eq _ _ (by omega)]
  congr 1
  funext i
  unfold Memory.update
  by_cases hin : place ≤ i ∧ i < place + p.sampleSize
  · rw [if_pos hin]
    obtain ⟨k, rfl⟩ := Nat.exists_eq_add_of_le hin.1
    rw [Nat.add_sub_cancel_left]
    dsimp only
    by_cases h0 : k = 0
    · rw [if_pos h0, if_neg (by omega), if_pos (by omega)]
    · rw [if_neg h0]
      by_cases h1 : k = 1
      · rw [if_pos h1, if_pos (by omega)]
      · rw [if_neg h1, if_neg (by omega), if_neg (by omega)]
  · rw [if_neg hin, if_neg (by omega), if_neg (by omega)]

theorem writeRow_eq (image : Image p) (y : Nat) (hlimit : limit < 2 ^ 64)
    (h : offset + width * p.pixelBytes ≤ limit) :
    writeRow littleEndian image y m limit offset width (width * p.pixelBytes) =
      some (m.update offset (width * p.pixelBytes) (newByte littleEndian image y)) := by
  unfold writeRow
  by_cases hcopy : CopiesRows littleEndian p
  · rw [if_pos hcopy, m.write_eq _ h]
    congr 2
    funext k old
    rw [newByte, if_pos hcopy]
  · have htwo := two_le_sampleSize littleEndian hcopy
    rw [if_neg hcopy, foldlM_some (g := fun m index =>
      m.update (offset + index * p.sampleSize) p.sampleSize fun k old =>
        let sample := (image.get (index / p.channels) y).channel (index % p.channels)
        if k = 0 then UInt8.ofNat sample.toNat
        else if k = 1 then UInt8.ofNat (sample.toNat / 256) else old)]
    · have hwindows : m.updates (fun index => offset + index * p.sampleSize) p.sampleSize
          (fun index k old =>
            let sample := (image.get (index / p.channels) y).channel (index % p.channels)
            if k = 0 then UInt8.ofNat sample.toNat
            else if k = 1 then UInt8.ofNat (sample.toNat / 256) else old)
          (width * p.channels) = _ := m.updates_eq_update p.sampleSize_pos
      rw [Memory.updates] at hwindows
      rw [hwindows, PixFormat.pixelBytes, Nat.mul_assoc]
      congr 2
      funext k old
      rw [newByte, if_neg hcopy]
    · intro m index hindex
      have hin := sample_inside (List.mem_range.mp hindex)
      rw [mul64_eq (by omega), Option.bind_eq_bind, Option.bind_some]
      exact write_sample m _ _ htwo (by omega)

end Rows

/-! ## Images -/

section Images

variable (littleEndian : Bool)

theorem makeImage_eq {v : InterleavedView} {m : Memory}
    (h : isInterleavedViewValid p v = some true) (hm : v.data = some m) :
    makeImageFromInterleaved littleEndian p v = some (.ok (Grid.ofFn v.width.toNat v.height.toNat
      fun x y => pixelOf littleEndian p fun k =>
        m (y * rowStride p v.toInterleavedLayout + (x * p.pixelBytes + k)))) := by
  have hc := (target_checked (t := v) h).1
  have hrows : ∀ y < v.height.toNat, ∃ row, readRow littleEndian p m v.accessibleBytes.toNat
      (y * rowStride p v.toInterleavedLayout) v.width.toNat (v.width.toNat * p.pixelBytes) =
        some row ∧ ∀ x < v.width.toNat, row x = pixelOf littleEndian p fun k =>
          m (y * rowStride p v.toInterleavedLayout + (x * p.pixelBytes + k)) := fun y hy =>
    readRow_eq littleEndian m v.accessibleBytes.toNat_lt (row_inside hc hy)
  choose! row hrow hpixel using hrows
  have hbytes := rowBytes_checked hc
  unfold makeImageFromInterleaved
  rw [h, hm, interleavedRowStride_checked hc]
  simp only [Option.bind_eq_bind, Option.bind_some] at hbytes ⊢
  rw [← Option.bind_assoc, hbytes, Option.bind_some, mapM_some (g := row)]
  · rw [Option.bind_some]
    congr 2
    refine Grid.ext_get rfl rfl fun x hx y hy => ?_
    have hx : x < v.width.toNat := hx
    have hy : y < v.height.toNat := hy
    rw [Grid.get_ofFn _ hx hy, Grid.get_ofFn _ hx hy, List.getD_eq_getElem?_getD,
      List.getElem?_map, List.getElem?_range hy]
    exact hpixel y hy x hx
  · intro y hy
    have hy := List.mem_range.mp hy
    rw [rowOffset_checked hc hy, Option.bind_some, hrow y hy]

theorem writeImage_eq {t : InterleavedView} {m : Memory} {image : Image p}
    (h : isInterleavedTargetValid p t = some true) (hm : t.data = some m)
    (hw : image.width = t.width.toNat) (hh : image.height = t.height.toNat) :
    writeImageToInterleaved littleEndian t image = some (true, some (m.updates
      (fun y => y * rowStride p t.toInterleavedLayout) (t.width.toNat * p.pixelBytes)
      (newByte littleEndian image) t.height.toNat)) := by
  have hc := (target_checked h).1
  have hbytes := rowBytes_checked hc
  unfold writeImageToInterleaved
  rw [h, hm, interleavedRowStride_checked hc]
  simp only [Option.bind_eq_bind, Option.bind_some] at hbytes ⊢
  rw [if_neg (not_not.mpr hw), if_neg (not_not.mpr hh), ← Option.bind_assoc, hbytes,
    Option.bind_some, foldlM_some (g := fun m y => m.update
      (y * rowStride p t.toInterleavedLayout) (t.width.toNat * p.pixelBytes)
      (newByte littleEndian image y))]
  · rfl
  · intro m y hy
    have hy := List.mem_range.mp hy
    rw [rowOffset_checked hc hy, Option.bind_some]
    exact writeRow_eq littleEndian m image y t.accessibleBytes.toNat_lt (row_inside hc hy)

/-- A write that does not fail has checked the target, and the extent if it reports success. -/
theorem writeImage_cases {t : InterleavedView} {image : Image p} {r : Bool} {d : Option Memory}
    (h : writeImageToInterleaved littleEndian t image = some (r, d)) :
    (r = false ∧ d = t.data) ∨ (isInterleavedTargetValid p t = some true ∧
      image.width = t.width.toNat ∧ image.height = t.height.toNat) := by
  obtain ⟨b, hb⟩ := Option.isSome_iff_exists.mp (valid_isSome p t)
  have hb : isInterleavedTargetValid p t = some b := hb
  unfold writeImageToInterleaved at h
  rw [hb, Option.bind_eq_bind, Option.bind_some] at h
  cases b with
  | false =>
    cases h
    exact .inl ⟨rfl, rfl⟩
  | true =>
    obtain ⟨-, m, hm⟩ := target_checked hb
    rw [hm] at h
    dsimp only at h
    by_cases hw : image.width = t.width.toNat
    · by_cases hh : image.height = t.height.toNat
      · exact .inr ⟨hb, hw, hh⟩
      · rw [if_neg (not_not.mpr hw), if_pos hh] at h
        cases h
        exact .inl ⟨rfl, hm.symm⟩
    · rw [if_pos hw] at h
      cases h
      exact .inl ⟨rfl, hm.symm⟩

end Images

/-! ## Safety, for every format and either branch -/

theorem staysInside (littleEndian : Bool) (p : PixFormat) : StaysInside littleEndian p where
  view_checked := valid_isSome p
  target_checked := valid_isSome p
  view := fun v h => by
    obtain ⟨-, m, hm⟩ := target_checked (t := v) h
    exact ⟨_, makeImage_eq littleEndian h hm⟩
  target := fun t h image => by
    obtain ⟨-, m, hm⟩ := target_checked h
    by_cases hext : image.width = t.width.toNat ∧ image.height = t.height.toNat
    · rw [writeImage_eq littleEndian h hm hext.1 hext.2]
      rfl
    · unfold writeImageToInterleaved
      rw [h, hm, Option.bind_eq_bind, Option.bind_some]
      dsimp only
      by_cases hw : image.width = t.width.toNat
      · rw [if_neg (not_not.mpr hw), if_pos fun hh => hext ⟨hw, hh⟩]
        rfl
      · rw [if_pos hw]
        rfl

theorem keepsPadding (littleEndian : Bool) (p : PixFormat) : KeepsPadding littleEndian p := by
  intro t m hm image r written h i hi
  obtain ⟨-, hd⟩ | ⟨hv, hw, hh⟩ := writeImage_cases littleEndian h
  · rw [hm] at hd
    rw [Option.some.inj hd]
  · rw [writeImage_eq littleEndian hv hm hw hh] at h
    obtain rfl := Option.some.inj (Prod.mk.inj (Option.some.inj h)).2
    exact m.updates_outside fun y hy hin => hi ⟨y, hy, hin⟩

theorem refusalKeeps (littleEndian : Bool) (p : PixFormat) : RefusalKeeps littleEndian p := by
  intro t image data h
  obtain ⟨-, hd⟩ | ⟨hv, hw, hh⟩ := writeImage_cases littleEndian h
  · exact hd
  · obtain ⟨m, hm⟩ := (target_checked hv).2
    rw [writeImage_eq littleEndian hv hm hw hh] at h
    cases h

/-! ## Samples of one or two bytes -/

section Samples

variable {littleEndian : Bool}

theorem or_shiftLeft_toNat {p : PixFormat} (low high : Byte) (hsize : 2 ≤ p.sampleSize) :
    (BitVec.ofNat p.sampleBits low.toNat |||
      (BitVec.ofNat p.sampleBits high.toNat).shiftLeft 8).toNat = low.toNat + 256 * high.toNat := by
  have hlow := low.toNat_lt
  have hhigh := high.toNat_lt
  have hbits : 2 ^ 16 ≤ 2 ^ p.sampleBits :=
    Nat.pow_le_pow_right (by decide) (Nat.mul_le_mul_left 8 hsize)
  have hlow' : low.toNat % 2 ^ p.sampleBits = low.toNat := Nat.mod_eq_of_lt (by omega)
  have hhigh' : high.toNat % 2 ^ p.sampleBits = high.toNat := Nat.mod_eq_of_lt (by omega)
  have hshift : (BitVec.ofNat p.sampleBits high.toNat).shiftLeft 8 =
      BitVec.ofNat p.sampleBits high.toNat <<< 8 := rfl
  rw [BitVec.toNat_or, hshift, BitVec.toNat_shiftLeft, BitVec.toNat_ofNat, BitVec.toNat_ofNat,
    hlow', hhigh', Nat.shiftLeft_eq, Nat.mod_eq_of_lt (by omega), Nat.or_comm, Nat.mul_comm,
    ← Nat.two_pow_add_eq_or_of_lt (i := 8) hlow, Nat.add_comm]

/-- A pixel of small samples is its bytes in little-endian order. -/
theorem pixelOf_small (h : littleEndian = true ∨ p.sampleSize ≤ 2) (bytes : Nat → Byte) :
    pixelOf littleEndian p bytes = Pixel.ofBytes false p bytes := by
  cases littleEndian with
  | true => exact if_pos rfl
  | false =>
    have hle := h.resolve_left nofun
    by_cases hone : p.sampleSize = 1
    · rw [pixelOf, if_pos (by rw [CopiesRows, hone]; rfl), Pixel.ofBytes, Pixel.ofBytes, hone]
      rfl
    · have htwo : p.sampleSize = 2 := by
        have := p.sampleSize_pos
        omega
      rw [pixelOf, if_neg (by rw [CopiesRows, htwo]; decide)]
      funext c
      apply BitVec.eq_of_toNat_eq
      have hbytes := channel_ofBytes (p := p) false bytes c.isLt
      rw [Pixel.channel_fin] at hbytes
      rw [Pixel.ofFn_apply, or_shiftLeft_toNat _ _ htwo.ge, hbytes, htwo]
      show _ = (bytes (c * 2 + 0)).toNat + 256 * ((bytes (c * 2 + 1)).toNat + 256 * 0)
      rfl

/-- A byte of an image of small samples is its byte in little-endian order. -/
theorem newByte_small (h : littleEndian = true ∨ p.sampleSize ≤ 2) (image : Image p) (y k : Nat)
    (old : Byte) : newByte littleEndian image y k old =
      (image.get (k / p.pixelBytes) y).byte false (k % p.pixelBytes) := by
  cases littleEndian with
  | true => exact if_pos rfl
  | false =>
    have hle := h.resolve_left nofun
    by_cases hone : p.sampleSize = 1
    · rw [newByte, if_pos (by rw [CopiesRows, hone]; rfl), Pixel.byte, Pixel.byte, hone]
      rfl
    · have htwo : p.sampleSize = 2 := by
        have := p.sampleSize_pos
        omega
      rw [newByte, if_neg (by rw [CopiesRows, htwo]; decide), Pixel.byte, PixFormat.pixelBytes,
        htwo]
      dsimp only
      have hx : k / 2 / p.channels = k / (p.channels * 2) := by
        rw [Nat.div_div_eq_div_mul, Nat.mul_comm]
      have hc : k / 2 % p.channels = k % (p.channels * 2) / 2 := by
        rw [Nat.mul_comm, Nat.mod_mul_right_div_self]
      have hk : k % (p.channels * 2) % 2 = k % 2 := Nat.mod_mul_left_mod k p.channels 2
      rw [hx, hc, hk]
      obtain h0 | h1 := Nat.mod_two_eq_zero_or_one k
      · rw [h0, if_pos rfl]
        rfl
      · rw [h1, if_neg (by decide), if_pos rfl]
        rfl

/-- A byte of a row of small samples that is written. -/
theorem written_byte (littleEndian : Bool) (h : littleEndian = true ∨ p.sampleSize ≤ 2)
    {l : InterleavedLayout}
    (hc : Checked p l) (m : Memory) (image : Image p) {x y k : Nat} (hx : x < l.width.toNat)
    (hy : y < l.height.toNat) (hk : k < p.pixelBytes) :
    m.updates (fun y => y * rowStride p l) (l.width.toNat * p.pixelBytes)
        (newByte littleEndian image) l.height.toNat
        (y * rowStride p l + (x * p.pixelBytes + k)) = (image.get x y).byte false k := by
  have hplace : x * p.pixelBytes + k < l.width.toNat * p.pixelBytes := by
    have := index_lt hk hx
    rwa [Nat.mul_comm p.pixelBytes] at this
  rw [m.updates_inside (fun y _ y' hy' => rows_apart hc hy') hy hplace, newByte_small h,
    Nat.mul_comm x, Nat.mul_add_div p.pixelBytes_pos, Nat.div_eq_of_lt hk, Nat.add_zero,
    Nat.mul_add_mod, Nat.mod_eq_of_lt hk]

theorem roundTrips (h : littleEndian = true ∨ p.sampleSize ≤ 2) : RoundTrips littleEndian p := by
  intro t hv image hw hh
  obtain ⟨hc, m, hm⟩ := target_checked hv
  refine ⟨_, writeImage_eq littleEndian hv hm hw hh, ?_⟩
  rw [makeImage_eq littleEndian (v := { t with data := some _ }) (view_of_layout _
    (target_layout hv)) rfl]
  congr 2
  refine Grid.ext_get hw.symm hh.symm fun x hx y hy => ?_
  have hx : x < t.width.toNat := hx
  have hy : y < t.height.toNat := hy
  rw [Grid.get_ofFn _ hx hy, pixelOf_small h, ← ofBytes_byte false (image.get x y)]
  exact ofBytes_congr false fun k hk => written_byte littleEndian h hc m image hx hy hk

theorem makeImage_refused (littleEndian : Bool) {v : InterleavedView}
    (h : isInterleavedViewValid p v = some false) :
    makeImageFromInterleaved littleEndian p v =
      some (.error "the interleaved view is not valid for the pixel format") := by
  unfold makeImageFromInterleaved
  rw [h]
  rfl

theorem writeImage_refused (littleEndian : Bool) {t : InterleavedView} (image : Image p)
    (h : isInterleavedTargetValid p t = some false) :
    writeImageToInterleaved littleEndian t image = some (false, t.data) := by
  unfold writeImageToInterleaved
  rw [h]
  rfl

theorem sameLayout (h : p.sampleSize ≤ 2) : SameLayout p := by
  refine ⟨fun v => ?_, fun t image => ?_⟩
  · obtain ⟨b, hb⟩ := Option.isSome_iff_exists.mp (valid_isSome p v)
    cases b with
    | true =>
      obtain ⟨-, m, hm⟩ := target_checked (t := v) hb
      rw [makeImage_eq true hb hm, makeImage_eq false hb hm]
      simp only [pixelOf_small (.inr h)]
    | false =>
      rw [makeImage_refused true hb, makeImage_refused false hb]
  · obtain ⟨b, hb⟩ := Option.isSome_iff_exists.mp (valid_isSome p t)
    have hb : isInterleavedTargetValid p t = some b := hb
    cases b with
    | true =>
      obtain ⟨-, m, hm⟩ := target_checked hb
      by_cases hext : image.width = t.width.toNat ∧ image.height = t.height.toNat
      · rw [writeImage_eq true hb hm hext.1 hext.2, writeImage_eq false hb hm hext.1 hext.2]
        congr 4
        funext y k old
        rw [newByte_small (.inr h), newByte_small (.inr h)]
      · unfold writeImageToInterleaved
        rw [hb, hm, Option.bind_eq_bind, Option.bind_some, Option.bind_eq_bind, Option.bind_some]
        dsimp only
        by_cases hw : image.width = t.width.toNat
        · have hh : image.height ≠ t.height.toNat := fun hh => hext ⟨hw, hh⟩
          rw [if_neg (not_not.mpr hw), if_pos hh, if_neg (not_not.mpr hw), if_pos hh]
        · rw [if_pos hw, if_pos hw]
    | false =>
      rw [writeImage_refused true image hb, writeImage_refused false image hb]

end Samples

/-! ## Wider samples -/

/-- One pixel in a buffer that holds any pixel. -/
def onePixel (data : Memory) : InterleavedView :=
  { width := 1, height := 1, accessibleBytes := 32, data := some data }

theorem onePixel_valid (p : PixFormat) (data : Memory) :
    isInterleavedTargetValid p (onePixel data) = some true := by
  show isInterleavedLayoutValid p { width := 1, height := 1, accessibleBytes := 32 } = some true
  cases p <;> decide

/-- What is put together from two bytes has only two. -/
theorem pixelOf_lt (h : 2 < p.sampleSize) (bytes : Nat → Byte) (c : Fin p.channels) :
    (pixelOf false p bytes c).toNat < 2 ^ 16 := by
  have hcopy : ¬ CopiesRows false p := by
    rw [CopiesRows, Bool.false_or, decide_eq_true_eq]
    omega
  have hlow := (bytes (c * p.sampleSize)).toNat_lt
  have hhigh := (bytes (c * p.sampleSize + 1)).toNat_lt
  rw [pixelOf, if_neg hcopy, Pixel.ofFn_apply, or_shiftLeft_toNat _ _ h.le]
  omega

theorem not_roundTrips (h : 2 < p.sampleSize) : ¬ RoundTrips false p := by
  intro hround
  have hv := onePixel_valid p fun _ => 0
  obtain ⟨written, -, hmake⟩ := hround (onePixel fun _ => 0) hv
    (Grid.fill 1 1 (Pixel.ofFn fun _ => BitVec.ofNat _ (2 ^ 16))) rfl rfl
  rw [makeImage_eq false (v := { onePixel fun _ => 0 with data := some written })
    (view_of_layout written (target_layout hv)) rfl] at hmake
  have hget := congrArg (fun i : Image p => i.get 0 0 ⟨0, p.channels_pos⟩)
    (Except.ok.inj (Option.some.inj hmake))
  have hlt := pixelOf_lt h (fun k => written (0 * rowStride p (onePixel fun _ => 0).1 +
    (0 * p.pixelBytes + k))) ⟨0, p.channels_pos⟩
  have hbits : 2 ^ 17 ≤ 2 ^ p.sampleBits :=
    Nat.pow_le_pow_right (by decide) (Nat.le_trans (by decide) (Nat.mul_le_mul_left 8 h))
  have hright : (Grid.fill 1 1 (Pixel.ofFn (p := p) fun _ => BitVec.ofNat _ (2 ^ 16))).get 0 0
      ⟨0, p.channels_pos⟩ = BitVec.ofNat _ (2 ^ 16) := rfl
  dsimp only at hget
  rw [Grid.get_ofFn _ (by decide) (by decide), hright] at hget
  rw [hget, BitVec.toNat_ofNat, Nat.mod_eq_of_lt (by omega)] at hlt
  exact Nat.lt_irrefl _ hlt

/-- Where the branches agree, the other one round trips as the first does. -/
theorem roundTrips_of_sameLayout (h : SameLayout p) : RoundTrips false p := by
  intro t hv image hw hh
  obtain ⟨written, hwrite, hmake⟩ := roundTrips (.inl rfl) t hv image hw hh
  exact ⟨written, h.2 t image ▸ hwrite, h.1 _ ▸ hmake⟩

/-- Interleaved views of every format stay in their buffer, and round trip where the host is
little-endian; the other branch of the code does, and has the same layout, exactly for samples of
one or two bytes. -/
theorem interleaved_views (p : PixFormat) :
    (∀ littleEndian, StaysInside littleEndian p ∧ KeepsPadding littleEndian p ∧
      RefusalKeeps littleEndian p) ∧ RoundTrips true p ∧
    (RoundTrips false p ↔ p.sampleSize ≤ 2) ∧ (SameLayout p ↔ p.sampleSize ≤ 2) := by
  refine ⟨fun littleEndian => ⟨staysInside littleEndian p, keepsPadding littleEndian p,
    refusalKeeps littleEndian p⟩, roundTrips (.inl rfl), ⟨fun h => ?_, fun h => roundTrips (.inr h)⟩,
    ⟨fun h => ?_, sameLayout⟩⟩
  · exact Nat.not_lt.mp fun hlt => not_roundTrips hlt h
  · exact Nat.not_lt.mp fun hlt => not_roundTrips hlt (roundTrips_of_sameLayout h)

/-- The third byte of a sample of 32 bits is read by one branch only. -/
theorem interleaved_views_broken :
    let view := onePixel fun i => if i = 2 then 1 else 0
    makeImageFromInterleaved true .ch1d32 view =
        some (.ok (Grid.fill 1 1 (.ofFn fun _ => 65536))) ∧
      makeImageFromInterleaved false .ch1d32 view =
        some (.ok (Grid.fill 1 1 (.ofFn fun _ => 0))) ∧
      ¬ SameLayout .ch1d32 := by
  refine ⟨?_, ?_, fun h => not_roundTrips (by decide) (roundTrips_of_sameLayout h)⟩
  · rw [makeImage_eq true (onePixel_valid _ _) rfl]
    congr 2
    exact Grid.ext rfl rfl (by decide)
  · rw [makeImage_eq false (onePixel_valid _ _) rfl]
    congr 2
    exact Grid.ext rfl rfl (by decide)

end

/-!
## Images in packed buffers

An image that `Fits` can be written to a buffer of its own size (`writePacked_eq`), and a byte there
is that of the pixel (`writtenBytes_eq`).
-/

section

variable {p : PixFormat}

/-- The image has pixels, and its packed size is a `std::size_t`. -/
structure Fits (image : Image p) : Prop where
  width_pos : image.width ≠ 0
  height_pos : image.height ≠ 0
  size_lt : image.width * p.pixelBytes * image.height < 2 ^ 64

/-- The buffer that an image is written to. -/
def packedTarget (image : Image p) : InterleavedView :=
  { width := UInt64.ofNat image.width
    height := UInt64.ofNat image.height
    rowStride := UInt64.ofNat (image.width * p.pixelBytes)
    accessibleBytes := UInt64.ofNat (image.width * p.pixelBytes * image.height)
    data := some fun _ => 0 }

/-- The bytes of it then. -/
def writtenBytes (littleEndian : Bool) (image : Image p) : Memory :=
  Memory.updates (fun _ => 0) (fun y => y * rowStride p (packedTarget image).1)
    ((packedTarget image).width.toNat * p.pixelBytes) (newByte littleEndian image)
    (packedTarget image).height.toNat

/-- What `packedRowBytes` gives where it gives anything. -/
theorem packedRowBytes_ne_zero {width : Nat} (h : packedRowBytes p width ≠ 0) :
    packedRowBytes p width = width * p.pixelBytes ∧ width * p.pixelBytes < 2 ^ 64 := by
  rw [packedRowBytes] at h ⊢
  split at h
  · rename_i hc
    exact ⟨if_pos hc, sizeMax_lt ((Nat.le_div_iff_mul_le p.pixelBytes_pos).mp hc.2)⟩
  · exact absurd rfl h

section

variable {image : Image p} (h : Fits image)

include h

theorem packedRow_pos : 0 < image.width * p.pixelBytes :=
  Nat.mul_pos (Nat.pos_of_ne_zero h.width_pos) p.pixelBytes_pos

theorem packedRow_le : image.width * p.pixelBytes ≤ image.width * p.pixelBytes * image.height :=
  Nat.le_mul_of_pos_right _ (Nat.pos_of_ne_zero h.height_pos)

theorem packedRow_lt : image.width * p.pixelBytes < 2 ^ 64 :=
  Nat.lt_of_le_of_lt (packedRow_le h) h.size_lt

theorem packedTarget_sizes : (packedTarget image).width.toNat = image.width ∧
    (packedTarget image).height.toNat = image.height ∧
    (packedTarget image).rowStride.toNat = image.width * p.pixelBytes ∧
    (packedTarget image).accessibleBytes.toNat = image.width * p.pixelBytes * image.height := by
  have hw : image.width < 2 ^ 64 :=
    Nat.lt_of_le_of_lt (Nat.le_mul_of_pos_right _ p.pixelBytes_pos) (packedRow_lt h)
  have hh : image.height < 2 ^ 64 :=
    Nat.lt_of_le_of_lt (Nat.le_mul_of_pos_left _ (packedRow_pos h)) h.size_lt
  exact ⟨UInt64.toNat_ofNat_of_lt' hw, UInt64.toNat_ofNat_of_lt' hh,
    UInt64.toNat_ofNat_of_lt' (packedRow_lt h), UInt64.toNat_ofNat_of_lt' h.size_lt⟩

theorem packedTarget_valid : isInterleavedTargetValid p (packedTarget image) = some true := by
  obtain ⟨hw, hh, hstride, hsize⟩ := packedTarget_sizes h
  show isInterleavedLayoutValid p (packedTarget image).1 = some true
  exact packed_layout_valid (by rw [hw]; exact h.width_pos) (by rw [hh]; exact h.height_pos)
    (by rw [hstride, hw]) (by rw [hw, hh, hsize])

theorem packedTarget_stride : rowStride p (packedTarget image).1 = image.width * p.pixelBytes := by
  have hstride := (packedTarget_sizes h).2.2.1
  rw [rowStride, if_pos, hstride]
  rw [hstride]
  exact (packedRow_pos h).ne'

theorem packedRowBytes_eq : packedRowBytes p image.width = image.width * p.pixelBytes :=
  if_pos ⟨h.width_pos,
    (Nat.le_div_iff_mul_le p.pixelBytes_pos).mpr (Nat.le_pred_of_lt (packedRow_lt h))⟩

theorem writePacked_eq (littleEndian : Bool) :
    writeImageToInterleaved littleEndian (packedTarget image) image =
      some (true, some (writtenBytes littleEndian image)) := by
  obtain ⟨hw, hh, -, -⟩ := packedTarget_sizes h
  exact writeImage_eq littleEndian (packedTarget_valid h) rfl hw.symm hh.symm

/-- A byte of the buffer is that of the pixel. -/
theorem writtenBytes_eq {littleEndian : Bool} (hsmall : littleEndian = true ∨ p.sampleSize ≤ 2)
    {x y k : Nat} (hx : x < image.width) (hy : y < image.height) (hk : k < p.pixelBytes) :
    writtenBytes littleEndian image (y * (image.width * p.pixelBytes) + (x * p.pixelBytes + k)) =
      (image.get x y).byte false k := by
  obtain ⟨hw, hh, -, -⟩ := packedTarget_sizes h
  have hc := (target_checked (packedTarget_valid h)).1
  have hbyte := written_byte littleEndian hsmall hc (fun _ => 0) image (hw.symm ▸ hx)
    (hh.symm ▸ hy) hk
  rw [packedTarget_stride h] at hbyte
  rw [writtenBytes, packedTarget_stride h]
  exact hbyte

omit h in
/-- That byte is in the buffer. -/
theorem packed_place_lt {x y k : Nat} (hx : x < image.width) (hy : y < image.height)
    (hk : k < p.pixelBytes) : y * (image.width * p.pixelBytes) + (x * p.pixelBytes + k) <
      image.width * p.pixelBytes * image.height := by
  have hplace := index_lt hk hx
  rw [Nat.mul_comm p.pixelBytes] at hplace
  exact index_lt hplace hy

/-- The same byte of the list of them. -/
theorem writtenBytes_getD {littleEndian : Bool} (hsmall : littleEndian = true ∨ p.sampleSize ≤ 2)
    {x y k : Nat} (hx : x < image.width) (hy : y < image.height) (hk : k < p.pixelBytes) :
    ((List.range (image.width * p.pixelBytes * image.height)).map
      (writtenBytes littleEndian image)).getD
        (y * (image.width * p.pixelBytes) + (x * p.pixelBytes + k)) 0 =
      (image.get x y).byte false k := by
  rw [List.getD_eq_getElem?_getD, List.getElem?_map,
    List.getElem?_range (packed_place_lt hx hy hk), Option.map_some, Option.getD_some,
    writtenBytes_eq h hsmall hx hy hk]

end

end

end WSE.Proof.Wse
