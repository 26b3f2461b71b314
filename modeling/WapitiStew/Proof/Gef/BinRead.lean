import WapitiStew.Proof.Gef.BinFormat

/-!
# Reading a BIN file

After the blocks `done` the reader's locals are `stateAt file done rest`, with
`rest` still to be read. A round either reads one more block within the budgets
or ends the call, and it ends the call only where no block within the budgets
follows, or an allocation fails (`readBlock_cases`). The loop repeats this
(`readLoop_cases`), and `readWithLimits_cases` adds the opening, the stream
state and the close.

No computation on sizes or counts wraps: what a round subtracts is bounded by
the budgets checked in the rounds before, and it multiplies and adds only after
the comparison with the remaining bytes.
-/

namespace WSE.Proof.Gef

open WSE.Framework WSE.Impl.Gef WSE.Spec.Gef

/-! ## Elements of one block -/

/-- The state after reading `xs` into the vector of type `t`. -/
def pushElements (s : ReadState) (t : ElementType) (xs : List (Element t)) (rest : Bytes) :
    ReadState :=
  { s with
    staged := s.staged.setSlot t (s.staged.slot t ++ xs.map (s.headerId, ·))
    file := { s.file with rest := rest }
    allocations := s.allocations + xs.length }

theorem setSlot_setSlot (c : BINController) (t : ElementType) (vs ws : List (Nat × Element t)) :
    (c.setSlot t vs).setSlot t ws = c.setSlot t ws := by
  cases t <;> rfl

theorem setSlot_slot (c : BINController) (t : ElementType) : c.setSlot t (c.slot t) = c := by
  cases t <;> rfl

theorem pushElements_nil (s : ReadState) (t : ElementType) :
    pushElements s t [] s.file.rest = s := by
  simp only [pushElements, List.map_nil, List.append_nil, setSlot_slot, List.length_nil,
    Nat.add_zero]

theorem pushElements_cons (s : ReadState) (t : ElementType) (x : Element t) (xs : List (Element t))
    (r r' : Bytes) :
    pushElements (pushElements s t [x] r) t xs r' = pushElements s t (x :: xs) r' := by
  simp only [pushElements, setSlot_setSlot, BINController.slot_setSlot, List.append_assoc,
    List.map_cons, List.map_nil, List.singleton_append, List.length_cons, List.length_nil]
  congr 1
  omega

/-- The element loop reads `num` elements, or ends the call: then the file is too short or an
allocation failed. -/
theorem readValues_cases (env : ReadEnv) (t : ElementType) (num : Nat) (s : ReadState)
    (hf : s.file.Open) :
    (∃ xs rest, xs.length = num ∧ s.file.rest = xs.flatMap encodeElement ++ rest ∧
      readValues env t num s = .next (pushElements s t xs rest)) ∨
    (∃ r, readValues env t num s = .stop r s.wrapped ∧ r ≠ .ok .success ∧
      ((∀ i, env.alloc i = true) → s.file.rest.length < num * t.width)) := by
  induction num generalizing s with
  | zero => exact .inl ⟨[], s.file.rest, rfl, rfl, by rw [readValues, pushElements_nil]⟩
  | succ num ih =>
    by_cases hl : t.width ≤ s.file.rest.length
    · rw [readValues, hf.read_of_le hl]
      dsimp only
      by_cases ha : env.alloc s.allocations = true
      · rw [if_pos ha]
        have hx := encode_decodeElement env.isBigEndian (t := t) (List.length_take_of_le hl)
        generalize decodeElement env.isBigEndian t (s.file.rest.take t.width) = x at hx ⊢
        have hrest : s.file.rest = encodeElement x ++ s.file.rest.drop t.width := by
          rw [hx, List.take_append_drop]
        rcases ih (pushElements s t [x] (s.file.rest.drop t.width)) (hf.advance _) with
          ⟨xs, rest, hxs, hr, hok⟩ | ⟨r, hr, hne, hs⟩
        · refine .inl ⟨x :: xs, rest, congrArg (· + 1) hxs, ?_, ?_⟩
          · rw [List.flatMap_cons, List.append_assoc, ← hr]
            exact hrest
          · rw [← pushElements_cons s t x xs (s.file.rest.drop t.width)]
            exact hok
        · refine .inr ⟨r, hr, hne, fun hall => ?_⟩
          have hshort : (s.file.rest.drop t.width).length < num * t.width := hs hall
          rw [List.length_drop] at hshort
          rw [Nat.succ_mul]
          omega
      · rw [if_neg ha]
        exact .inr ⟨_, rfl, (by intro h; cases h), fun hall => absurd (hall _) ha⟩
    · rw [readValues, hf.read_of_lt (Nat.not_le.mp hl)]
      refine .inr ⟨_, rfl, (by intro h; cases h), fun _ => ?_⟩
      rw [Nat.succ_mul]
      omega

/-! ## One block -/

/-- The locals of the reader after the blocks `done`. -/
def stateAt (file : IStream) (done : List Block) (rest : Bytes) : ReadState where
  staged := { store done with headerNextIndex := 0 }
  file := { file with rest := rest }
  headerId := done.length
  inputBytes := (encode done).length
  elements := elementCount done
  allocations := elementCount done + done.length
  wrapped := false

/-- One more block, as the locals change. -/
theorem stateAt_snoc (file : IStream) (done : List Block) (b : Block) (rest : Bytes) :
    stateAt file (done ++ [b]) rest =
      { staged :=
          { (store done).setSlot b.type
              ((store done).slot b.type ++ b.elements.map (done.length, ·)) with
            headerNextIndex := 0
            orderList := (store done).orderList ++ [b.order] }
        file := { file with rest := rest }
        headerId := done.length + 1
        inputBytes := (encode done).length + 9 + b.elements.length * b.type.width
        elements := elementCount done + b.elements.length
        allocations := elementCount done + done.length + b.elements.length + 1
        wrapped := false } := by
  have ha : elementCount done + b.elements.length + (done.length + 1) =
      elementCount done + done.length + b.elements.length + 1 := by omega
  simp only [stateAt, store_snoc, List.length_append, List.length_singleton, encode_snoc,
    length_encodeBlock, elementCount_append, elementCount_singleton, ha, Nat.add_assoc]

theorem sub64_of_le {a b : Nat} (ha : a < 2 ^ 64) (h : b ≤ a) : sub64 a b = a - b := by
  unfold sub64
  omega

theorem add64_of_lt {a b : Nat} (h : a + b < 2 ^ 64) : Impl.Gef.add64 a b = a + b := Nat.mod_eq_of_lt h

theorem mul64_of_lt {a b : Nat} (h : a * b < 2 ^ 64) : Impl.Gef.mul64 a b = a * b := Nat.mod_eq_of_lt h

/-- The next block of the file, within the budgets. -/
def NextBlock (limits : ReadLimits) (done : List Block) (bytes : Bytes) (b : Block)
    (rest : Bytes) : Prop :=
  bytes = encodeBlock b ++ rest ∧ Within limits (done ++ [b])

/-- What the call does where the reader stops: it does not succeed, no computation has
wrapped, and unless an allocation failed nothing of the form `ok` follows. -/
def Refused (env : ReadEnv) (flow : Flow) (ok : Prop) : Prop :=
  ∃ r, flow = .stop r false ∧ r ≠ .ok .success ∧ ((∀ i, env.alloc i = true) → ¬ok)

theorem widthOf_category (t : ElementType) : widthOf t.category = t.width := by
  rw [widthOf, elementType?_category]
  rfl

/-- The switch of the reader, behind the header of a block of `num` elements. -/
theorem readElements_cases (env : ReadEnv) (file : IStream) (hf : file.Open) (done : List Block)
    (t : ElementType) (num : Nat) (hnum : num < 2 ^ 64) (bytes : Bytes) (s : ReadState)
    (hs : s = { stateAt file done bytes with
      inputBytes := (encode done).length + 9 + num * t.width
      elements := elementCount done + num }) :
    (∃ (b : Block) (rest : Bytes), b.type = t ∧ b.elements.length = num ∧
      bytes = b.elements.flatMap encodeElement ++ rest ∧
      readElements env t.category num s = .next (stateAt file (done ++ [b]) rest)) ∨
    Refused env (readElements env t.category num s) (num * t.width ≤ bytes.length) := by
  have hopen : s.file.Open := by
    subst hs
    exact hf.advance bytes
  have hw : s.wrapped = false := by
    subst hs
    rfl
  unfold readElements
  rw [elementType?_category]
  dsimp only
  rcases readValues_cases env t num s hopen with ⟨xs, rest, hxs, hr, hok⟩ | ⟨r, hr, hne, hshort⟩
  · rw [hok]
    dsimp only
    split
    · refine .inl ⟨⟨t, xs, hxs ▸ hnum⟩, rest, rfl, hxs, ?_, ?_⟩
      · subst hs
        exact hr
      · subst hs hxs
        rw [stateAt_snoc]
        cases t <;> rfl
    · refine .inr ⟨_, by rw [← hw]; rfl, (by intro h; cases h), fun hall => ?_⟩
      exact absurd (hall _) ‹_›
  · rw [hr, hw]
    refine .inr ⟨r, rfl, hne, fun hall => Nat.not_le.mpr ?_⟩
    have h := hshort hall
    subst hs
    exact h

/-- The budgets with one more block. -/
theorem within_snoc {limits : ReadLimits} {done : List Block} {b : Block} :
    Within limits (done ++ [b]) ↔
      done.length + 1 ≤ limits.maxBlocks.toNat ∧
      elementCount done + b.elements.length ≤ limits.maxElements.toNat ∧
      (encode done).length + (9 + b.elements.length * b.type.width) ≤
        limits.maxInputBytes.toNat := by
  have hlen : (encode (done ++ [b])).length =
      (encode done).length + (9 + b.elements.length * b.type.width) := by
    rw [encode_snoc, List.length_append, length_encodeBlock]
  constructor
  · rintro ⟨h1, h2, h3⟩
    rw [List.length_append, List.length_singleton] at h1
    rw [elementCount_append, elementCount_singleton] at h2
    rw [hlen] at h3
    exact ⟨h1, h2, h3⟩
  · rintro ⟨h1, h2, h3⟩
    refine ⟨?_, ?_, ?_⟩
    · rw [List.length_append, List.length_singleton]
      exact h1
    · rw [elementCount_append, elementCount_singleton]
      exact h2
    · rw [hlen]
      exact h3

/-- Eight bytes are an element count. -/
theorem exists_count {tail : Bytes} (h : 8 ≤ tail.length) :
    ∃ num < 2 ^ 64, tail.take 8 = leBytes 8 num := by
  have hl := List.length_take_of_le h
  have hlt := leValue_lt (tail.take 8)
  have heq := leBytes_leValue (tail.take 8)
  rw [hl] at hlt heq
  exact ⟨_, hlt, heq.symm⟩

/-- What the header of the next block says of the block and of the budgets. -/
theorem NextBlock.header {limits : ReadLimits} {done : List Block} {t : ElementType}
    {tail rest : Bytes} {num : Nat} {b : Block}
    (h : NextBlock limits done (t.category.byte :: tail) b rest)
    (hcount : tail.take 8 = leBytes 8 num) (hnum : num < 2 ^ 64) :
    b.type = t ∧ b.elements.length = num ∧ tail.drop 8 = b.elements.flatMap encodeElement ++ rest ∧
      elementCount done + num ≤ limits.maxElements.toNat ∧
      (encode done).length + (9 + num * t.width) ≤ limits.maxInputBytes.toNat := by
  obtain ⟨hbytes, hwithin⟩ := h
  obtain ⟨-, hw2, hw3⟩ := within_snoc.mp hwithin
  rw [encodeBlock_append] at hbytes
  obtain ⟨hbyte, rfl⟩ := List.cons.inj hbytes
  have ht : b.type = t := category_injective (by
    rw [← ofValue_byte b.type.category, ← hbyte, ofValue_byte])
  have hl : (leBytes 8 b.elements.length).length = 8 := length_leBytes _ _
  rw [List.take_append_of_le_length (Nat.le_of_eq hl.symm),
    List.take_of_length_le (Nat.le_of_eq hl)] at hcount
  have hn : b.elements.length = num := by
    rw [← leValue_leBytes 8 b.bounded, hcount, leValue_leBytes 8 hnum]
  rw [hn] at hw2 hw3
  rw [ht] at hw3
  refine ⟨ht, hn, ?_, hw2, hw3⟩
  rw [List.drop_append_of_le_length (Nat.le_of_eq hl.symm),
    List.drop_of_length_le (Nat.le_of_eq hl), List.nil_append]

theorem nativeValue_singleton (isBigEndian : Bool) (b : Byte) :
    nativeValue isBigEndian [b] = b.toNat := by
  cases isBigEndian <;> exact Nat.add_zero _

/-- A round of the loop reads the next block within the budgets, or ends the call because
there is none. -/
theorem readBlock_cases (env : ReadEnv) (limits : ReadLimits) (file : IStream) (hf : file.Open)
    (done : List Block) (bytes : Bytes) (hd : Within limits done) :
    (∃ b rest, NextBlock limits done bytes b rest ∧
      readBlock env limits (stateAt file done bytes) = .next (stateAt file (done ++ [b]) rest)) ∨
    Refused env (readBlock env limits (stateAt file done bytes))
      (∃ b rest, NextBlock limits done bytes b rest) := by
  have hInput := limits.maxInputBytes.toNat_lt
  have hBlocks := limits.maxBlocks.toNat_lt
  have hElements := limits.maxElements.toNat_lt
  have hopen : (stateAt file done bytes).file.Open := hf.advance bytes
  have hin : ¬limits.maxInputBytes.toNat < (encode done).length := Nat.not_lt.mpr hd.bytes
  have helems : ¬limits.maxElements.toNat < elementCount done := Nat.not_lt.mpr hd.elements
  have hsub := sub64_of_le hInput hd.bytes
  unfold readBlock
  dsimp only
  rw [show (stateAt file done bytes).inputBytes = (encode done).length from rfl,
    show (stateAt file done bytes).headerId = done.length from rfl,
    show (stateAt file done bytes).elements = elementCount done from rfl,
    show (stateAt file done bytes).wrapped = false from rfl, hsub]
  simp only [hin, helems, decide_false, Bool.or_false]
  -- The budgets for one more header.
  by_cases hbudget : limits.maxBlocks.toNat ≤ done.length ∨ done.length = sizeMax ∨
      limits.maxInputBytes.toNat - (encode done).length < 9
  · rw [if_pos hbudget]
    refine .inr ⟨_, rfl, (by intro h; cases h), fun _ => ?_⟩
    rintro ⟨b, rest, -, hw⟩
    obtain ⟨h1, -, h3⟩ := within_snoc.mp hw
    unfold sizeMax at hbudget
    omega
  rw [if_neg hbudget]
  -- The category byte.
  by_cases hl1 : 1 ≤ bytes.length
  case neg =>
    rw [hopen.read_of_lt (by exact Nat.not_le.mp hl1)]
    refine .inr ⟨_, rfl, (by intro h; cases h), fun _ => ?_⟩
    rintro ⟨b, rest, h, -⟩
    rw [h, List.length_append, length_encodeBlock] at hl1
    omega
  obtain ⟨type, tail, rfl⟩ := List.exists_cons_of_length_pos hl1
  rw [hopen.read_of_le (by exact hl1)]
  dsimp only [stateAt]
  rw [List.take_succ_cons, List.take_zero, List.drop_succ_cons, List.drop_zero]
  -- The element count.
  have hopen2 : ({ file with rest := tail } : IStream).Open := hf.advance tail
  by_cases hl8 : 8 ≤ tail.length
  case neg =>
    rw [hopen2.read_of_lt (by exact Nat.not_le.mp hl8)]
    refine .inr ⟨_, rfl, (by intro h; cases h), fun _ => ?_⟩
    rintro ⟨b, rest, h, -⟩
    have hlen := congrArg List.length h
    rw [List.length_append, length_encodeBlock, List.length_cons] at hlen
    omega
  rw [hopen2.read_of_le (by exact hl8)]
  dsimp only
  rw [nativeValue_singleton, fileValue_eq]
  obtain ⟨num, hnum, hcount⟩ := exists_count hl8
  rw [hcount, leValue_leBytes 8 hnum]
  -- The category.
  by_cases htype : type.toNat = 0 ∨ 8 ≤ type.toNat
  · rw [if_pos htype]
    refine .inr ⟨_, rfl, (by intro h; cases h), fun _ => ?_⟩
    rintro ⟨b, rest, h, -⟩
    rw [encodeBlock_append] at h
    cases (List.cons.inj h).1
    exact byte_category_range _ htype
  rw [if_neg htype]
  obtain ⟨t, rfl⟩ := exists_type_of_byte htype
  have hw := width_pos t
  have h9 : (encode done).length + 9 < 2 ^ 64 := by omega
  rw [ofValue_byte, widthOf_category, add64_of_lt h9, sub64_of_le hElements hd.elements,
    sub64_of_le hInput (by omega)]
  -- The budgets for the elements of the block.
  have hnext := fun b rest (h : NextBlock limits done (t.category.byte :: tail) b rest) =>
    h.header hcount hnum
  by_cases hlimit : limits.maxElements.toNat - elementCount done < num ∨
      (limits.maxInputBytes.toNat - ((encode done).length + 9)) / t.width < num ∨ sizeMax < num
  · have hnw : ¬(2 ^ 64 ≤ (encode done).length + 9) ∧
        ¬(limits.maxInputBytes.toNat < (encode done).length + 9) := by omega
    rw [if_pos hlimit]
    simp only [hnw.1, hnw.2, decide_false, Bool.or_false]
    refine .inr ⟨_, rfl, (by intro h; cases h), fun _ => ?_⟩
    rintro ⟨b, rest, hb⟩
    obtain ⟨-, -, -, h2, h3⟩ := hnext b rest hb
    unfold sizeMax at hlimit
    rcases hlimit with h | h | h
    · omega
    · rw [Nat.div_lt_iff_lt_mul hw] at h
      omega
    · omega
  have hmul : num * t.width ≤ limits.maxInputBytes.toNat - ((encode done).length + 9) := by
    rw [← Nat.le_div_iff_mul_le hw]
    omega
  have hnw : ¬(2 ^ 64 ≤ (encode done).length + 9) ∧
      ¬(limits.maxInputBytes.toNat < (encode done).length + 9) ∧ ¬(2 ^ 64 ≤ num * t.width) ∧
      ¬(2 ^ 64 ≤ (encode done).length + 9 + num * t.width) ∧
      ¬(2 ^ 64 ≤ elementCount done + num) := by omega
  obtain ⟨hnw1, hnw2, hnw3, hnw4, hnw5⟩ := hnw
  rw [if_neg hlimit, mul64_of_lt (by omega), add64_of_lt (by omega), add64_of_lt (by omega)]
  simp only [hnw1, hnw2, hnw3, hnw4, hnw5, decide_false, Bool.or_false]
  rcases readElements_cases env file hf done t num hnum (tail.drop 8) _
    rfl with ⟨b, rest, ht, hn, hrest, hok⟩ | ⟨r, hr, hne, hshort⟩
  · refine .inl ⟨b, rest, ⟨?_, ?_⟩, hok⟩
    · rw [encodeBlock_append, hn, ← hcount, ← hrest, List.take_append_drop, ht]
    · rw [within_snoc, hn, ht]
      omega
  · refine .inr ⟨r, hr, hne, fun hall => ?_⟩
    rintro ⟨b, rest, hb⟩
    obtain ⟨ht, hn, hdrop, -⟩ := hnext b rest hb
    apply hshort hall
    rw [hdrop, List.length_append, length_encodeElements, hn, ht]
    exact Nat.le_add_right _ _

/-! ## The loop -/

/-- The blocks that are left of the file, within the budgets. -/
def NextBlocks (limits : ReadLimits) (done : List Block) (bytes : Bytes) (bs : List Block) : Prop :=
  bytes = encode bs ∧ Within limits (done ++ bs)

/-- The loop reads the file to its end, or ends the call because the file is no sequence of
blocks within the budgets. By induction on the bytes that are left. -/
theorem readLoop_cases (env : ReadEnv) (limits : ReadLimits) (file : IStream) (hf : file.Open)
    (done : List Block) (bytes : Bytes) (hd : Within limits done) :
    (∃ bs, NextBlocks limits done bytes bs ∧
      readLoop env limits (stateAt file done bytes) =
        .next { stateAt file (done ++ bs) [] with file := file.exhaust }) ∨
    Refused env (readLoop env limits (stateAt file done bytes))
      (∃ bs, NextBlocks limits done bytes bs) := by
  have hopen : (stateAt file done bytes).file.Open := hf.advance bytes
  rw [readLoop]
  cases hbytes : bytes with
  | nil =>
    subst hbytes
    rw [hopen.peek_nil rfl]
    refine .inl ⟨[], ⟨rfl, by rwa [List.append_nil]⟩, ?_⟩
    rw [List.append_nil]
    dsimp only [stateAt, IStream.exhaust]
  | cons byte tail =>
    rw [← hbytes, hopen.peek_cons hbytes]
    dsimp only
    rcases readBlock_cases env limits file hf done bytes hd with
      ⟨b, rest, ⟨hb, hw⟩, hnext⟩ | ⟨r, hr, hne, hno⟩
    · have hshort : rest.length < bytes.length := by
        rw [hb, List.length_append, length_encodeBlock]
        omega
      rw [hnext]
      dsimp only
      rcases readLoop_cases env limits file hf (done ++ [b]) rest hw with
        ⟨bs, ⟨hbs, hwbs⟩, hok⟩ | ⟨r, hr, hne, hno⟩
      · rw [List.append_assoc, List.singleton_append] at hok hwbs
        exact .inl ⟨b :: bs, ⟨by rw [hb, hbs, encode_cons], hwbs⟩, hok⟩
      · refine .inr ⟨r, hr, hne, fun hall => ?_⟩
        rintro ⟨bs, hbs, hwbs⟩
        cases bs with
        | nil => exact absurd (hbytes.symm.trans hbs) (List.cons_ne_nil _ _)
        | cons b' bs =>
          rw [hb, encode_cons] at hbs
          obtain ⟨rfl, hrest⟩ := encodeBlock_cancel hbs
          refine hno hall ⟨bs, hrest, ?_⟩
          rwa [List.append_assoc, List.singleton_append]
    · rw [hr]
      refine .inr ⟨r, rfl, hne, fun hall => ?_⟩
      rintro ⟨bs, hbs, hwbs⟩
      cases bs with
      | nil => exact absurd (hbytes.symm.trans hbs) (List.cons_ne_nil _ _)
      | cons b bs =>
        rw [← List.singleton_append, ← List.append_assoc] at hwbs
        exact hno hall ⟨b, encode bs, by rw [hbs, encode_cons], within_of_append hwbs⟩
termination_by bytes.length
decreasing_by
  rw [hbytes] at hshort
  exact hshort

/-! ## The call -/

/-- A bounded read either replaces the controller by the blocks of the file, within the
budgets, or leaves it as it was; the second only where the file is refused, an I/O operation
or an allocation fails. No computation wraps. -/
theorem readWithLimits_cases (env : ReadEnv) (input : InputFile) (limits : ReadLimits)
    (c : BINController) :
    (∃ bs, input.bytes = encode bs ∧ Within limits bs ∧
      c.readWithLimits env input limits = ⟨store bs, .ok .success, false⟩) ∨
    (∃ r, c.readWithLimits env input limits = ⟨c, r, false⟩ ∧ r ≠ .ok .success ∧
      (input.Readable → (∀ i, env.alloc i = true) →
        ¬∃ bs, input.bytes = encode bs ∧ Within limits bs)) := by
  have hstop : ∀ {r : Except Exception GefStatus}, r ≠ .ok .success → ¬input.Readable →
      c.readWithLimits env input limits = ⟨c, r, false⟩ →
      ∃ r, c.readWithLimits env input limits = ⟨c, r, false⟩ ∧ r ≠ .ok .success ∧
        (input.Readable → (∀ i, env.alloc i = true) →
          ¬∃ bs, input.bytes = encode bs ∧ Within limits bs) :=
    fun hne hr h => ⟨_, h, hne, fun hread => absurd hread hr⟩
  cases hopens : input.opens with
  | false =>
    refine .inr (hstop ?_ (fun h => ?_) (by simp only [BINController.readWithLimits, hopens]; rfl))
    · intro h
      cases h
    · rw [h.1] at hopens
      cases hopens
  | true =>
    have hf := IStream.open_stream input
    have hloop := readLoop_cases env limits input.stream hf [] input.bytes (within_nil limits)
    rw [show stateAt input.stream [] input.bytes = ⟨{}, input.stream, 0, 0, 0, 0, false⟩ from rfl]
      at hloop
    unfold NextBlocks at hloop
    rcases hloop with ⟨bs, ⟨hbytes, hw⟩, hok⟩ | ⟨r, hr, hne, hno⟩
    · have hcall : c.readWithLimits env input limits =
          if input.faulty then ⟨c, .ok (readFailure "the binary stream failed"), false⟩
          else if !input.closes then
            ⟨c, .ok (readFailure "the binary stream cannot be closed"), false⟩
          else ⟨store bs, .ok .success, false⟩ := by
        simp only [BINController.readWithLimits, hopens, Bool.not_true, Bool.false_eq_true,
          if_false, hok, hf.ended_exhaust, IStream.fail_close_clear, IStream.exhaust_closes]
        rfl
      cases hfault : input.faulty with
      | true =>
        refine .inr (hstop ?_ (fun h => ?_) (by rw [hcall, hfault]; rfl))
        · intro h
          cases h
        · rw [h.2.1] at hfault
          cases hfault
      | false =>
        cases hcloses : input.closes with
        | false =>
          refine .inr (hstop ?_ (fun h => ?_) (by rw [hcall, hfault, hcloses]; rfl))
          · intro h
            cases h
          · rw [h.2.2] at hcloses
            cases hcloses
        | true =>
          rw [List.nil_append] at hw
          exact .inl ⟨bs, hbytes, hw, by rw [hcall, hfault, hcloses]; rfl⟩
    · refine .inr ⟨r, ?_, hne, fun _ hall => hno hall⟩
      simp only [BINController.readWithLimits, hopens, Bool.not_true, Bool.false_eq_true, if_false,
        hr]

/-- A file that is readable and holds blocks within the budgets is read. -/
theorem readWithLimits_encode (env : ReadEnv) (halloc : ∀ i, env.alloc i = true)
    (input : InputFile) (hread : input.Readable) (limits : ReadLimits) (c : BINController)
    {bs : List Block} (hbytes : input.bytes = encode bs) (hw : Within limits bs) :
    c.readWithLimits env input limits = ⟨store bs, .ok .success, false⟩ := by
  rcases readWithLimits_cases env input limits c with ⟨as, has, -, hok⟩ | ⟨r, -, -, hno⟩
  · rw [hok, encode_injective (has.symm.trans hbytes)]
  · exact absurd ⟨bs, hbytes, hw⟩ (hno hread halloc)

end WSE.Proof.Gef
