import WapitiStew.Spec.Gef.Bin

/-!
# The block store

A controller that holds the blocks `bs` is `store bs`, and its operations are
those of a sequence of blocks:

* `setContents_store`: `setContents` appends one block, or throws and changes
  nothing. Both vectors are reserved before either is extended
  (`reserveAppend_ok`), so nothing throws in between (`emplaceAll_ok`).
* `contents_store`: `contents` returns the elements of the block, from whichever
  of the seven vectors holds them, and nothing for other indices.
* `indices_store`: the block indices in each vector, read off the order list.
-/

namespace WSE.Proof.Gef

open WSE.Framework WSE.Impl.Gef WSE.Spec.Gef

/-! ## The vectors of a block sequence -/

theorem elementsOf_self (t : ElementType) (vs : List (Element t)) (h : vs.length < 2 ^ 64) :
    (Block.mk t vs h).elementsOf t = vs := by
  simp only [Block.elementsOf, dif_pos]

theorem elementsOf_type (b : Block) : b.elementsOf b.type = b.elements := elementsOf_self _ _ b.bounded

theorem elementsOf_ne {b : Block} {t : ElementType} (h : b.type ≠ t) : b.elementsOf t = [] := by
  simp only [Block.elementsOf, dif_neg h]

@[simp] theorem slot_store (bs : List Block) (t : ElementType) :
    (store bs).slot t = slotFrom t 0 bs := by
  cases t <;> rfl

theorem slotFrom_append (t : ElementType) (i : Nat) (as bs : List Block) :
    slotFrom t i (as ++ bs) = slotFrom t i as ++ slotFrom t (i + as.length) bs := by
  induction as generalizing i with
  | nil => rfl
  | cons a as ih =>
    rw [List.cons_append, slotFrom, ih, slotFrom, List.append_assoc, List.length_cons,
      Nat.add_right_comm, Nat.add_assoc]

theorem slotFrom_snoc (t : ElementType) (i : Nat) (bs : List Block) (b : Block) :
    slotFrom t i (bs ++ [b]) = slotFrom t i bs ++ (b.elementsOf t).map (i + bs.length, ·) := by
  rw [slotFrom_append, slotFrom, slotFrom, List.append_nil]

theorem le_of_mem_slotFrom {t : ElementType} {i : Nat} {bs : List Block} {v : Nat × Element t}
    (h : v ∈ slotFrom t i bs) : i ≤ v.1 := by
  induction bs generalizing i with
  | nil => cases h
  | cons b bs ih =>
    rcases List.mem_append.mp h with h | h
    · obtain ⟨x, -, rfl⟩ := List.mem_map.mp h
      exact Nat.le_refl i
    · exact Nat.le_of_succ_le (ih h)

/-- One more block, as the controller's fields. -/
theorem store_snoc (bs : List Block) (b : Block) :
    store (bs ++ [b]) =
      { (store bs).setSlot b.type
          ((store bs).slot b.type ++ b.elements.map (bs.length, ·)) with
        headerNextIndex := bs.length + 1
        orderList := (store bs).orderList ++ [b.order] } := by
  refine BINController.ext_slot (fun t => ?_) ?_ ?_
  · show (store (bs ++ [b])).slot t = ((store bs).setSlot b.type _).slot t
    rw [slot_store, slotFrom_snoc, Nat.zero_add]
    by_cases ht : t = b.type
    · subst ht
      rw [BINController.slot_setSlot, elementsOf_type, slot_store]
    · rw [BINController.slot_setSlot_ne _ _ ht, elementsOf_ne (Ne.symm ht), slot_store,
        List.map_nil, List.append_nil]
  · exact List.length_append
  · exact List.map_append

@[simp] theorem store_nil : store [] = {} := rfl

/-! ## Appending -/

theorem reserve_ok {α : Type} {v w : Vec α} {allocates : Bool} {n : Nat}
    (h : v.reserve allocates n = .ok w) : w.items = v.items ∧ n ≤ w.capacity := by
  unfold Vec.reserve at h
  split at h
  · cases h
  · split at h
    · cases h
      exact ⟨rfl, ‹_›⟩
    · split at h
      · cases h
        exact ⟨rfl, Nat.le_refl n⟩
      · cases h

/-- A reserved vector keeps its items and has room for `count` more. -/
theorem reserveAppend_ok {α : Type} {v w : Vec α} {allocates : Bool} {count : Nat}
    (h : reserveAppend v allocates count = .ok w) :
    w.items = v.items ∧ v.items.length + count ≤ w.capacity := by
  unfold reserveAppend at h
  by_cases hfit : v.items.length + count ≤ v.capacity
  · rw [if_pos hfit] at h
    cases h
    exact ⟨rfl, hfit⟩
  · rw [if_neg hfit] at h
    obtain ⟨hitems, hcap⟩ := reserve_ok h
    exact ⟨hitems, Nat.le_trans (Nat.le_max_left _ _) hcap⟩

theorem emplaceBack_ok {α : Type} {v : Vec α} (allocates : Bool) (x : α)
    (h : v.items.length < v.capacity) :
    v.emplaceBack allocates x = .ok ⟨v.items ++ [x], v.capacity⟩ := if_pos h

/-- The loop of a reserved append allocates nothing, so it does not throw. -/
theorem emplaceAll_ok {ε : Type} (grow : Nat → Bool) (index i : Nat) (v : Vec (Nat × ε))
    (xs : List ε) (h : v.items.length + xs.length ≤ v.capacity) :
    emplaceAll grow index i v xs = (⟨v.items ++ xs.map (index, ·), v.capacity⟩, .ok ()) := by
  induction xs generalizing i v with
  | nil => simp [emplaceAll]
  | cons x xs ih =>
    rw [List.length_cons] at h
    have hl : (v.items ++ [(index, x)]).length + xs.length ≤ v.capacity := by
      rw [List.length_append, List.length_singleton]
      omega
    rw [emplaceAll, emplaceBack_ok _ _ (by omega)]
    dsimp only
    rw [ih _ _ hl, List.append_assoc, List.map_cons, List.singleton_append]

theorem appendBlock_cases {ε : Type} (env : AppendEnv) (values : List (Nat × ε))
    (order : List (Category × Nat)) (index : Nat) (valuesIn : List ε) (category : Category) :
    (∃ e, appendBlock env values order index valuesIn category =
      ⟨values, order, index, .error e⟩) ∨
    (valuesIn.length ≤ pairMaxSize ∧
      appendBlock env values order index valuesIn category =
        ⟨values ++ valuesIn.map (index, ·), order ++ [(category, valuesIn.length)], index + 1,
          .ok ()⟩) := by
  unfold appendBlock
  split
  · exact .inl ⟨_, rfl⟩
  · rename_i hroom
    split
    · exact .inl ⟨_, rfl⟩
    · rename_i vec hvec
      obtain ⟨hitems, hcap⟩ := reserveAppend_ok hvec
      dsimp only at hitems hcap
      split
      · exact .inl ⟨_, by rw [hitems]⟩
      · rename_i orderVec horder
        obtain ⟨hoitems, hocap⟩ := reserveAppend_ok horder
        dsimp only at hoitems hocap
        refine .inr ⟨by omega, ?_⟩
        rw [emplaceAll_ok _ _ _ _ _ (by rw [hitems]; exact hcap)]
        dsimp only
        rw [emplaceBack_ok _ _ (by rw [hoitems]; omega), hitems, hoitems]

/-- `setContents` appends its block, or throws and leaves the controller as it was. -/
theorem setContents_store (env : AppendEnv) (bs : List Block) (t : ElementType)
    (values : List (Element t)) :
    (∃ e, (store bs).setContents env t values = (store bs, .error e)) ∨
    (∃ h : values.length < 2 ^ 64,
      (store bs).setContents env t values = (store (bs ++ [⟨t, values, h⟩]), .ok ())) := by
  rcases appendBlock_cases env ((store bs).slot t) (store bs).orderList (store bs).headerNextIndex
    values t.category with ⟨e, he⟩ | ⟨hl, hok⟩
  · refine .inl ⟨e, ?_⟩
    unfold BINController.setContents
    rw [he]
    refine Prod.ext (BINController.ext_slot (fun u => ?_) rfl rfl) rfl
    show ((store bs).setSlot t ((store bs).slot t)).slot u = (store bs).slot u
    by_cases hu : u = t
    · subst hu
      rw [BINController.slot_setSlot]
    · rw [BINController.slot_setSlot_ne _ _ hu]
  · have hb : values.length < 2 ^ 64 := Nat.lt_of_le_of_lt hl (by decide)
    refine .inr ⟨hb, ?_⟩
    unfold BINController.setContents
    rw [hok, store_snoc]
    rfl

/-! ## Access -/

section Scan

variable {ε τ : Type} (cast : ε → τ) (i : Nat)

theorem scan_skip {vs : List (Nat × ε)} (h : ∀ v ∈ vs, v.1 ≠ i) (ws : List (Nat × ε)) :
    BINController.scan cast i false (vs ++ ws) = BINController.scan cast i false ws := by
  induction vs with
  | nil => rfl
  | cons v vs ih =>
    rw [List.cons_append, BINController.scan, if_neg (h v List.mem_cons_self),
      if_neg Bool.false_ne_true, ih fun w hw => h w (List.mem_cons_of_mem v hw)]

theorem scan_stop {vs : List (Nat × ε)} (h : ∀ v ∈ vs, v.1 ≠ i) :
    BINController.scan cast i true vs = (true, []) := by
  cases vs with
  | nil => rfl
  | cons v vs => rw [BINController.scan, if_neg (h v List.mem_cons_self), if_pos rfl]

theorem scan_run (xs : List ε) {ws : List (Nat × ε)} (h : ∀ v ∈ ws, v.1 ≠ i) :
    BINController.scan cast i true (xs.map (i, ·) ++ ws) = (true, xs.map cast) := by
  induction xs with
  | nil => exact scan_stop cast i h
  | cons x xs ih =>
    rw [List.map_cons, List.cons_append, BINController.scan, if_pos rfl, ih]
    rfl

theorem scan_none {vs : List (Nat × ε)} (h : ∀ v ∈ vs, v.1 ≠ i) :
    BINController.scan cast i false vs = (false, []) := by
  have hs := scan_skip cast i h []
  rwa [List.append_nil] at hs

theorem scan_block (xs : List ε) {ws : List (Nat × ε)} (h : ∀ v ∈ ws, v.1 ≠ i) :
    BINController.scan cast i false (xs.map (i, ·) ++ ws) = (!xs.isEmpty, xs.map cast) := by
  cases xs with
  | nil => exact scan_none cast i h
  | cons x xs =>
    rw [List.map_cons, List.cons_append, BINController.scan, if_pos rfl, scan_run cast i xs h]
    rfl

end Scan

/-- The elements of type `t` in block `i`. -/
def elementsAt (bs : List Block) (t : ElementType) (i : Nat) : List (Element t) :=
  (bs[i]?.map (·.elementsOf t)).getD []

theorem scan_slotFrom {τ : Type} {t : ElementType} (cast : Element t → τ) (k i : Nat)
    (bs : List Block) :
    BINController.scan cast (k + i) false (slotFrom t k bs) =
      (!(elementsAt bs t i).isEmpty, (elementsAt bs t i).map cast) := by
  induction bs generalizing k i with
  | nil => rfl
  | cons b bs ih =>
    cases i with
    | zero =>
      refine scan_block cast k _ fun v hv => ?_
      have hk := le_of_mem_slotFrom hv
      omega
    | succ i =>
      rw [slotFrom, scan_skip cast _ (fun v hv => ?_), show k + (i + 1) = k + 1 + i by omega]
      · exact ih (k + 1) i
      · obtain ⟨x, -, rfl⟩ := List.mem_map.mp hv
        show k ≠ k + (i + 1)
        omega

theorem elementsAt_of_none {bs : List Block} {i : Nat} (h : bs[i]? = none) (t : ElementType) :
    elementsAt bs t i = [] := by
  rw [elementsAt, h]
  rfl

theorem elementsAt_of_some {bs : List Block} {i : Nat} {b : Block} (h : bs[i]? = some b)
    (t : ElementType) : elementsAt bs t i = b.elementsOf t := by
  rw [elementsAt, h]
  rfl

section Contents

variable {τ : Type} (cast : (t : ElementType) → Element t → τ) (bs : List Block) (i : Nat)

theorem contentsIn_cons (t : ElementType) (ts : List ElementType) :
    BINController.contentsIn cast (store bs) i (t :: ts) =
      if (elementsAt bs t i).isEmpty then BINController.contentsIn cast (store bs) i ts
      else (elementsAt bs t i).map (cast t) := by
  have hscan := scan_slotFrom (cast t) 0 i bs
  rw [Nat.zero_add] at hscan
  rw [BINController.contentsIn, slot_store, hscan]
  cases (elementsAt bs t i).isEmpty <;> rfl

/-- Where no vector has elements of block `i`, the search ends with none. -/
theorem contentsIn_nil (h : ∀ t, elementsAt bs t i = []) (ts : List ElementType) :
    BINController.contentsIn cast (store bs) i ts = [] := by
  induction ts with
  | nil => rfl
  | cons t ts ih => rw [contentsIn_cons, h t, if_pos List.isEmpty_nil, ih]

theorem contentsIn_type {b : Block} (hb : bs[i]? = some b) {ts : List ElementType}
    (h : b.type ∈ ts) :
    BINController.contentsIn cast (store bs) i ts = b.elements.map (cast b.type) := by
  induction ts with
  | nil => exact absurd h List.not_mem_nil
  | cons t ts ih =>
    rw [contentsIn_cons, elementsAt_of_some hb]
    by_cases ht : b.type = t
    · subst ht
      rw [elementsOf_type]
      split
      · -- An empty block is found in no vector.
        rename_i hempty
        rw [List.isEmpty_iff.mp hempty, List.map_nil]
        refine contentsIn_nil cast bs i (fun u => ?_) ts
        rw [elementsAt_of_some hb]
        by_cases hu : b.type = u
        · subst hu
          rw [elementsOf_type, List.isEmpty_iff.mp hempty]
        · exact elementsOf_ne hu
      · rfl
    · rw [elementsOf_ne ht, if_pos List.isEmpty_nil]
      exact ih ((List.mem_cons.mp h).resolve_left ht)

end Contents

theorem mem_vectors (t : ElementType) : t ∈ BINController.vectors := by
  cases t <;> decide

/-- `contents` returns the elements of block `i`, and nothing past the last block. -/
theorem contents_store {τ : Type} (cast : (t : ElementType) → Element t → τ) (bs : List Block)
    (i : Nat) : (store bs).contents cast i = blockContents cast bs i := by
  unfold BINController.contents blockContents
  cases hb : bs[i]? with
  | none => exact contentsIn_nil cast bs i (elementsAt_of_none hb) _
  | some b => exact contentsIn_type cast bs i hb (mem_vectors b.type)

/-! ## The indices in the vectors -/

theorem category_injective {t u : ElementType} (h : t.category = u.category) : t = u := by
  cases t <;> cases u <;> first | rfl | cases h

theorem indices_slotFrom (t : ElementType) (k : Nat) (bs : List Block) :
    (slotFrom t k bs).map Prod.fst =
      ((bs.map Block.order).zipIdx k).flatMap fun o =>
        if o.1.1 = t.category then List.replicate o.1.2 o.2 else [] := by
  induction bs generalizing k with
  | nil => rfl
  | cons b bs ih =>
    rw [slotFrom, List.map_append, ih, List.map_cons, List.zipIdx_cons, List.flatMap_cons]
    congr 1
    show _ = if b.type.category = t.category then List.replicate b.elements.length k else []
    by_cases ht : b.type = t
    · subst ht
      rw [if_pos rfl, elementsOf_type, List.map_map]
      exact List.map_const
    · rw [if_neg fun h => ht (category_injective h), elementsOf_ne ht]
      rfl

/-- The vector of type `t` holds index `i` once for every element of block `i`, in the order
of the blocks of its type, and nothing else. -/
theorem indices_store (bs : List Block) (t : ElementType) :
    ((store bs).slot t).map Prod.fst =
      (store bs).orderList.zipIdx.flatMap fun o =>
        if o.1.1 = t.category then List.replicate o.1.2 o.2 else [] := by
  rw [slot_store]
  exact indices_slotFrom t 0 bs

/-!
## The encoding of blocks

An element is its bytes (`decodeElement_encode`, `encode_decodeElement`), a block
is determined by any file it starts (`encodeBlock_cancel`), and so is a sequence
of blocks by its file (`encode_injective`). The budgets of a sequence are those
of its beginnings (`within_of_append`).
-/

/-! ### Elements -/

theorem width_pos (t : ElementType) : 0 < t.width := by
  cases t <;> decide

@[simp] theorem length_encodeElement {t : ElementType} (v : Element t) :
    (encodeElement v).length = t.width := length_leBytes _ _

/-- On every host an element is read as its little-endian bytes. -/
theorem decodeElement_eq (isBigEndian : Bool) (t : ElementType) {bytes : Bytes}
    (h : bytes.length = t.width) :
    decodeElement isBigEndian t bytes = BitVec.ofNat _ (leValue bytes) := by
  have h1 : ∀ b : Byte, nativeValue isBigEndian [b] = leValue [b] := by
    intro b
    cases isBigEndian <;> rfl
  unfold decodeElement
  cases t with
  | uint8 | int8 =>
    obtain ⟨b, rfl⟩ := List.length_eq_one_iff.mp h
    rw [h1 b]
  | int16 | int32 | int64 | float32 | float64 => rw [fileValue_eq]

theorem pow_width (t : ElementType) : 256 ^ t.width = 2 ^ (8 * t.width) := by
  rw [Nat.pow_mul]

theorem decodeElement_encode (isBigEndian : Bool) {t : ElementType} (v : Element t) :
    decodeElement isBigEndian t (encodeElement v) = v := by
  rw [decodeElement_eq _ _ (length_encodeElement v), encodeElement, leValue_leBytes,
    BitVec.ofNat_toNat, BitVec.setWidth_eq]
  rw [pow_width]
  exact v.isLt

theorem encode_decodeElement (isBigEndian : Bool) {t : ElementType} {bytes : Bytes}
    (h : bytes.length = t.width) : encodeElement (decodeElement isBigEndian t bytes) = bytes := by
  have hlt := leValue_lt bytes
  rw [h, pow_width] at hlt
  rw [decodeElement_eq _ _ h, encodeElement, BitVec.toNat_ofNat, Nat.mod_eq_of_lt hlt, ← h,
    leBytes_leValue]

theorem length_encodeElements {t : ElementType} (xs : List (Element t)) :
    (xs.flatMap encodeElement).length = xs.length * t.width := by
  induction xs with
  | nil => simp
  | cons x xs ih =>
    rw [List.flatMap_cons, List.length_append, ih, length_encodeElement, List.length_cons,
      Nat.succ_mul, Nat.add_comm]

/-- Elements of one type are determined by their bytes. -/
theorem encodeElements_cancel {t : ElementType} {xs ys : List (Element t)} {r r' : Bytes}
    (hl : xs.length = ys.length)
    (h : xs.flatMap encodeElement ++ r = ys.flatMap encodeElement ++ r') : xs = ys ∧ r = r' := by
  induction xs generalizing ys with
  | nil =>
    cases List.length_eq_zero_iff.mp hl.symm
    exact ⟨rfl, h⟩
  | cons x xs ih =>
    obtain ⟨y, ys, rfl⟩ := List.exists_cons_of_length_eq_add_one hl.symm
    rw [List.flatMap_cons, List.flatMap_cons, List.append_assoc, List.append_assoc] at h
    obtain ⟨hx, h⟩ := List.append_inj h (by rw [length_encodeElement, length_encodeElement])
    obtain ⟨hxs, hr⟩ := ih (Nat.succ_injective hl) h
    refine ⟨?_, hr⟩
    rw [hxs, ← decodeElement_encode false x, hx, decodeElement_encode]

/-! ### Blocks -/

theorem elementType?_category (t : ElementType) : t.category.elementType? = some t := by
  cases t <;> rfl

theorem ofValue_byte (c : Category) : Category.ofValue c.byte.toNat = c := by
  cases c <;> rfl

theorem byte_category_range (t : ElementType) :
    ¬(t.category.byte.toNat = 0 ∨ 8 ≤ t.category.byte.toNat) := by
  cases t <;> decide

/-- A byte in the range of the categories is the byte of an element type. -/
theorem exists_type_of_byte {b : Byte} (h : ¬(b.toNat = 0 ∨ 8 ≤ b.toNat)) :
    ∃ t : ElementType, b = t.category.byte := by
  have hb : b = UInt8.ofNat b.toNat := UInt8.ofNat_toNat.symm
  have hcases : b.toNat = 1 ∨ b.toNat = 2 ∨ b.toNat = 3 ∨ b.toNat = 4 ∨ b.toNat = 5 ∨
      b.toNat = 6 ∨ b.toNat = 7 := by omega
  rcases hcases with e | e | e | e | e | e | e <;> rw [e] at hb
  · exact ⟨.uint8, hb⟩
  · exact ⟨.int8, hb⟩
  · exact ⟨.int16, hb⟩
  · exact ⟨.int32, hb⟩
  · exact ⟨.int64, hb⟩
  · exact ⟨.float32, hb⟩
  · exact ⟨.float64, hb⟩

theorem length_encodeBlock (b : Block) :
    (encodeBlock b).length = 9 + b.elements.length * b.type.width := by
  rw [encodeBlock, List.length_append, List.length_cons, length_leBytes, length_encodeElements]

theorem encodeBlock_append (b : Block) (r : Bytes) :
    encodeBlock b ++ r = b.type.category.byte ::
      (leBytes 8 b.elements.length ++ (b.elements.flatMap encodeElement ++ r)) := by
  rw [encodeBlock, List.append_assoc, List.cons_append]

/-- What a file starts with is at most one block. -/
theorem encodeBlock_cancel {a b : Block} {r r' : Bytes}
    (h : encodeBlock a ++ r = encodeBlock b ++ r') : a = b ∧ r = r' := by
  rw [encodeBlock_append, encodeBlock_append] at h
  obtain ⟨hbyte, h⟩ := List.cons.inj h
  have ht : a.type = b.type := by
    apply category_injective
    rw [← ofValue_byte a.type.category, hbyte, ofValue_byte]
  obtain ⟨ta, xs, hxs⟩ := a
  obtain ⟨tb, ys, hys⟩ := b
  dsimp only at ht h
  subst ht
  obtain ⟨hcount, h⟩ := List.append_inj h (by rw [length_leBytes, length_leBytes])
  have hl : xs.length = ys.length := by
    rw [← leValue_leBytes 8 (n := xs.length) (by omega), hcount, leValue_leBytes 8 (by omega)]
  obtain ⟨rfl, hr⟩ := encodeElements_cancel hl h
  exact ⟨rfl, hr⟩

/-! ### Sequences -/

@[simp] theorem encode_nil : encode [] = [] := rfl

theorem encode_cons (b : Block) (bs : List Block) : encode (b :: bs) = encodeBlock b ++ encode bs :=
  List.flatMap_cons

theorem encode_append (as bs : List Block) : encode (as ++ bs) = encode as ++ encode bs :=
  List.flatMap_append

theorem encode_snoc (bs : List Block) (b : Block) : encode (bs ++ [b]) = encode bs ++ encodeBlock b := by
  rw [encode_append, encode_cons, encode_nil, List.append_nil]

theorem encodeBlock_ne_nil (b : Block) : encodeBlock b ≠ [] := List.cons_ne_nil _ _

theorem encode_injective {as bs : List Block} (h : encode as = encode bs) : as = bs := by
  induction as generalizing bs with
  | nil =>
    cases bs with
    | nil => rfl
    | cons b bs =>
      rw [encode_nil, encode_cons] at h
      exact absurd (List.append_eq_nil_iff.mp h.symm).1 (encodeBlock_ne_nil b)
  | cons a as ih =>
    cases bs with
    | nil =>
      rw [encode_nil, encode_cons] at h
      exact absurd (List.append_eq_nil_iff.mp h).1 (encodeBlock_ne_nil a)
    | cons b bs =>
      rw [encode_cons, encode_cons] at h
      obtain ⟨hab, hrest⟩ := encodeBlock_cancel h
      rw [hab, ih hrest]

@[simp] theorem elementCount_append (as bs : List Block) :
    elementCount (as ++ bs) = elementCount as + elementCount bs := by
  simp only [elementCount, List.map_append, List.sum_append]

@[simp] theorem elementCount_singleton (b : Block) : elementCount [b] = b.elements.length := by
  simp only [elementCount, List.map_cons, List.map_nil, List.sum_singleton]

theorem within_nil (limits : ReadLimits) : Within limits [] :=
  ⟨Nat.zero_le _, Nat.zero_le _, Nat.zero_le _⟩

theorem within_of_append {limits : ReadLimits} {as bs : List Block}
    (h : Within limits (as ++ bs)) : Within limits as := by
  obtain ⟨h1, h2, h3⟩ := h
  rw [List.length_append] at h1
  rw [elementCount_append] at h2
  rw [encode_append, List.length_append] at h3
  exact ⟨by omega, by omega, by omega⟩

/-- Every element and every block takes a byte of the file, so the unlimited budgets only
bound the length of the file. -/
theorem count_le_length_encode (bs : List Block) :
    bs.length ≤ (encode bs).length ∧ elementCount bs ≤ (encode bs).length := by
  induction bs with
  | nil => exact ⟨Nat.le_refl _, Nat.le_refl _⟩
  | cons b bs ih =>
    have hw : b.elements.length ≤ b.elements.length * b.type.width :=
      Nat.le_mul_of_pos_right _ (width_pos _)
    rw [encode_cons, List.length_append, length_encodeBlock, ← List.singleton_append,
      elementCount_append, elementCount_singleton, List.length_append, List.length_singleton]
    omega

theorem within_unlimited {bs : List Block} (h : (encode bs).length < 2 ^ 64) :
    Within .unlimited bs := by
  have hmax : (0xFFFFFFFFFFFFFFFF : UInt64).toNat = 2 ^ 64 - 1 := rfl
  obtain ⟨h1, h2⟩ := count_le_length_encode bs
  constructor <;> simp only [ReadLimits.unlimited, hmax] <;> omega

end WSE.Proof.Gef
