import WapitiStew.Proof.Gef.BinFormat
import WapitiStew.Proof.Gef.BinRead
import WapitiStew.Proof.Gef.Save

/-!
# BIN files: reading and writing

The writer emits the encoding of a block sequence, and the reader and the writer are inverse on the
whole format.
-/

namespace WSE.Proof.Gef

open WSE.Framework WSE.Impl.Gef WSE.Spec.Gef

/-!
## Writing a BIN file

Before block `i` the cursor of each type stands behind the elements of that type
in the blocks before `i`, so the loop over `count` elements stays inside the
vector and writes the elements of the block (`orderChunks_store`). A controller
that holds `bs` therefore writes `encode bs` (`emitted_store`).
-/

/-- The calls that write one block. -/
def blockChunks (b : Block) : List Bytes :=
  [[b.type.category.byte], leBytes 8 b.elements.length] ++ b.elements.map encodeElement

theorem flatten_blockChunks (b : Block) : (blockChunks b).flatten = encodeBlock b := by
  rw [blockChunks, List.flatten_append, ← List.flatMap_def]
  rfl

theorem flatten_flatMap_blockChunks (bs : List Block) :
    (bs.flatMap blockChunks).flatten = encode bs := by
  induction bs with
  | nil => rfl
  | cons b bs ih =>
    rw [List.flatMap_cons, List.flatten_append, flatten_blockChunks, ih, encode_cons]

/-- The element loop writes the `xs` of block `i`, where the cursor points at them. -/
theorem elementChunks_eq (isBigEndian : Bool) {t : ElementType} (i : Nat) (xs : List (Element t))
    (pre post : List (Nat × Element t)) :
    elementChunks isBigEndian (pre ++ xs.map (i, ·) ++ post) pre.length xs.length =
      ⟨xs.map encodeElement, .ok ()⟩ := by
  induction xs generalizing pre with
  | nil => rfl
  | cons x xs ih =>
    have hget : (pre ++ (x :: xs).map (i, ·) ++ post)[pre.length]? = some (i, x) := by
      rw [List.append_assoc, List.getElem?_append_right (Nat.le_refl _), Nat.sub_self]
      rfl
    have hsplit : pre ++ (x :: xs).map (i, ·) ++ post =
        (pre ++ [(i, x)]) ++ xs.map (i, ·) ++ post := by
      simp only [List.map_cons, List.append_assoc, List.cons_append, List.nil_append]
    have hrest := ih (pre ++ [(i, x)])
    rw [List.length_append, List.length_singleton, ← hsplit] at hrest
    rw [List.length_cons, elementChunks, hget]
    dsimp only
    rw [hrest, fileBytes_eq]
    rfl

/-- The loop over the order list, from the block behind `done`. -/
theorem orderChunks_store (isBigEndian : Bool) (done bs : List Block) :
    orderChunks isBigEndian (store (done ++ bs)) (bs.map Block.order)
      (fun t => (slotFrom t 0 done).length) = ⟨bs.flatMap blockChunks, .ok ()⟩ := by
  induction bs generalizing done with
  | nil => rfl
  | cons b bs ih =>
    have hslot : (store (done ++ b :: bs)).slot b.type =
        slotFrom b.type 0 done ++ b.elements.map (done.length, ·) ++
          slotFrom b.type (done.length + 1) bs := by
      rw [slot_store, slotFrom_append, Nat.zero_add, slotFrom, elementsOf_type, List.append_assoc]
    have helems := elementChunks_eq isBigEndian done.length b.elements (slotFrom b.type 0 done)
      (slotFrom b.type (done.length + 1) bs)
    have hcursor : (fun u => if u = b.type then (slotFrom u 0 done).length + b.elements.length
        else (slotFrom u 0 done).length) = fun u => (slotFrom u 0 (done ++ [b])).length := by
      funext u
      rw [slotFrom_snoc, List.length_append, List.length_map]
      split
      · rename_i hu
        subst hu
        rw [elementsOf_type]
      · rename_i hu
        rw [elementsOf_ne (Ne.symm hu)]
        rfl
    have hrest := ih (done ++ [b])
    rw [List.append_assoc, List.singleton_append] at hrest
    rw [List.map_cons, Block.order, orderChunks, elementType?_category]
    dsimp only
    rw [hslot, helems]
    dsimp only
    rw [hcursor, hrest, fileBytes_eq]
    rfl

theorem emitted_store (isBigEndian : Bool) (bs : List Block) :
    (store bs).emitted isBigEndian = ⟨bs.flatMap blockChunks, .ok ()⟩ :=
  orderChunks_store isBigEndian [] bs

theorem write_store_success {isBigEndian : Bool} {env : WriteEnv} {bs : List Block}
    {isUpdate : Bool} {before after : Option Bytes}
    (h : (store bs).write isBigEndian env isUpdate before = (after, .ok .success)) :
    after = some (kept isUpdate before ++ encode bs) := by
  rw [save_success h, emitted_store, flatten_flatMap_blockChunks]

theorem write_store_healthy (isBigEndian : Bool) {env : WriteEnv} (henv : env.Healthy)
    (bs : List Block) (isUpdate : Bool) (before : Option Bytes)
    (hsize : (kept isUpdate before ++ encode bs).length ≤ maxFileSize) :
    (store bs).write isBigEndian env isUpdate before =
      (some (kept isUpdate before ++ encode bs), .ok .success) := by
  have hended : ((store bs).emitted isBigEndian).ended = .ok () := by rw [emitted_store]
  have hbytes : ((store bs).emitted isBigEndian).chunks.flatten = encode bs := by
    rw [emitted_store, flatten_flatMap_blockChunks]
  have h := save_healthy hended henv
    ⟨.io, .fileOpenFailed, "the binary file cannot be opened", 0⟩ isUpdate before
    (by rw [hbytes]; exact hsize)
  rw [hbytes] at h
  exact h

/-!
## Reading and writing are inverse

The reader and the writer are inverse on the whole format.

* `readWithLimits_exact`: a bounded read accepts exactly the files that hold
  blocks within the budgets; it replaces the controller by them or leaves it
  unchanged.
* `bin_roundtrip`: a controller built by `setContents` holds what it was handed, what it writes is
  read back as the same controller, an appended file as the blocks of both, and an accepted
  file is written back byte for byte.
-/

/-! ### Bounded reads -/

/-- `readWithLimits` accepts a file if and only if it is a concatenation of well-formed blocks
within the budgets. On success the controller holds these blocks, on anything else it is what
it was, and no size or count computation wraps. -/
theorem readWithLimits_exact (env : ReadEnv) (input : InputFile) (limits : ReadLimits)
    (c : BINController) :
    (input.Readable → (∀ i, env.alloc i = true) →
      ((c.readWithLimits env input limits).result = .ok .success ↔
        ∃ bs, input.bytes = encode bs ∧ Within limits bs)) ∧
    ((c.readWithLimits env input limits).result = .ok .success →
      ∃ bs, input.bytes = encode bs ∧ Within limits bs ∧
        (c.readWithLimits env input limits).controller = store bs) ∧
    ((c.readWithLimits env input limits).result ≠ .ok .success →
      (c.readWithLimits env input limits).controller = c) ∧
    (c.readWithLimits env input limits).wrapped = false := by
  rcases readWithLimits_cases env input limits c with ⟨bs, hb, hw, hok⟩ | ⟨r, hr, hne, hno⟩
  · rw [hok]
    exact ⟨fun _ _ => ⟨fun _ => ⟨bs, hb, hw⟩, fun _ => rfl⟩, fun _ => ⟨bs, hb, hw, rfl⟩,
      fun h => absurd rfl h, rfl⟩
  · rw [hr]
    exact ⟨fun hread hall => ⟨fun h => absurd h hne, fun h => absurd h (hno hread hall)⟩,
      fun h => absurd h hne, fun _ => rfl, rfl⟩

/-! ### Controllers built by `setContents` -/

/-- A call of `setContents`, with what it meets. -/
structure SetContents where
  env : AppendEnv
  type : ElementType
  values : List (Element type)

/-- The controller after calls of `setContents` on an empty one; a call may throw. -/
def built (calls : List SetContents) : BINController :=
  calls.foldl (fun c call => (c.setContents call.env call.type call.values).1) {}

/-- The calls that do not throw, in their order. -/
def takenFrom (c : BINController) : List SetContents → List SetContents
  | [] => []
  | call :: calls =>
    match c.setContents call.env call.type call.values with
    | (c', .ok ()) => call :: takenFrom c' calls
    | (c', .error _) => takenFrom c' calls

def taken (calls : List SetContents) : List SetContents := takenFrom {} calls

/-- The blocks of a controller are what was handed to some calls: their types, counts and values. -/
structure HoldsContents (c : BINController) (calls : List SetContents) : Prop where
  indexNum : c.indexNum = calls.length
  orderList : c.orderList = calls.map fun call => (call.type.category, call.values.length)
  contents : ∀ {τ : Type} (cast : (t : ElementType) → Element t → τ) (i : Nat),
    c.contents cast i = (calls[i]?.map fun call => call.values.map (cast call.type)).getD []

/-- The type and the values of a block. -/
def typed (b : Block) : (t : ElementType) × List (Element t) := ⟨b.type, b.elements⟩

def SetContents.typed (call : SetContents) : (t : ElementType) × List (Element t) :=
  ⟨call.type, call.values⟩

theorem holdsContents_store {bs : List Block} {calls : List SetContents}
    (h : bs.map typed = calls.map SetContents.typed) : HoldsContents (store bs) calls where
  indexNum := by
    have hlen := congrArg List.length h
    rwa [List.length_map, List.length_map] at hlen
  orderList := by
    have horder := congrArg (List.map fun s => (s.1.category, s.2.length)) h
    rwa [List.map_map, List.map_map] at horder
  contents cast i := by
    have hi := congrArg (fun l => (l[i]?.map fun s => s.2.map (cast s.1)).getD []) h
    simp only [List.getElem?_map, Option.map_map] at hi
    rw [contents_store, blockContents]
    refine Eq.trans ?_ hi
    cases bs[i]? <;> rfl

/-- Each call that does not throw appends what it is handed. -/
theorem foldl_store (calls : List SetContents) (bs : List Block) :
    ∃ cs, calls.foldl (fun c call => (c.setContents call.env call.type call.values).1) (store bs) =
      store (bs ++ cs) ∧ cs.map typed = (takenFrom (store bs) calls).map SetContents.typed := by
  induction calls generalizing bs with
  | nil => exact ⟨[], by rw [List.append_nil]; rfl, rfl⟩
  | cons call calls ih =>
    rw [List.foldl_cons, takenFrom]
    rcases setContents_store call.env bs call.type call.values with ⟨e, he⟩ | ⟨h, hok⟩
    · rw [he]
      exact ih bs
    · rw [hok]
      obtain ⟨cs, hcs, htaken⟩ := ih (bs ++ [⟨call.type, call.values, h⟩])
      refine ⟨⟨call.type, call.values, h⟩ :: cs, ?_, ?_⟩
      · rw [hcs, List.append_assoc]
        rfl
      · rw [List.map_cons, htaken]
        rfl

theorem built_store (calls : List SetContents) :
    ∃ bs, built calls = store bs ∧ HoldsContents (store bs) (taken calls) := by
  obtain ⟨bs, hbs, htaken⟩ := foldl_store calls []
  exact ⟨bs, hbs, holdsContents_store htaken⟩

/-! ### Round trips -/

/-- On every host, a read of `file` into an empty controller succeeds with `c`, unless it meets
an I/O error or a failing allocation. -/
def ReadsAs (file : Bytes) (c : BINController) : Prop :=
  ∀ (env : ReadEnv) (input : InputFile), (∀ i, env.alloc i = true) → input.Readable →
    input.bytes = file → BINController.read env input {} = ⟨c, .ok .success, false⟩

theorem readsAs_encode {bs : List Block} (h : (encode bs).length ≤ maxFileSize) :
    ReadsAs (encode bs) (store bs) := fun env input halloc hread hbytes =>
  readWithLimits_encode env halloc input hread .unlimited {} hbytes
    (within_unlimited (Nat.lt_of_le_of_lt h (by decide)))

theorem write_length {host : Bool} {env : WriteEnv} {c : BINController} {isUpdate : Bool}
    {before : Option Bytes} {file : Bytes}
    (h : c.write host env isUpdate before = (some file, .ok .success))
    (hb : (kept isUpdate before).length ≤ maxFileSize) : file.length ≤ maxFileSize :=
  save_length h hb

/-- The blocks of `d` are those of `a` followed by those of `b`: the same types, counts and
elements at each index. -/
structure Concatenates (a b d : BINController) : Prop where
  indexNum : d.indexNum = a.indexNum + b.indexNum
  orderList : d.orderList = a.orderList ++ b.orderList
  contents : ∀ {τ : Type} (cast : (t : ElementType) → Element t → τ) (i : Nat),
    d.contents cast i =
      if i < a.indexNum then a.contents cast i else b.contents cast (i - a.indexNum)

theorem concatenates_store (as bs : List Block) :
    Concatenates (store as) (store bs) (store (as ++ bs)) where
  indexNum := List.length_append
  orderList := List.map_append
  contents cast i := by
    rw [contents_store, contents_store, contents_store]
    show _ = if i < as.length then _ else blockContents cast bs (i - as.length)
    unfold blockContents
    by_cases hi : i < as.length
    · rw [if_pos hi, List.getElem?_append_left hi]
    · rw [if_neg hi, List.getElem?_append_right (Nat.not_lt.mp hi)]

/-- A controller holds what `setContents` was handed. Decoding undoes encoding over the whole
format, also across appended files and across hosts; and encoding undoes decoding for every file
that is accepted. A write that does not succeed failed in its environment, or the file cannot grow
to its size. -/
theorem bin_roundtrip (host : Bool) (calls more : List SetContents) :
    HoldsContents (built calls) (taken calls) ∧
    (∀ env before file, (built calls).write host env false before = (some file, .ok .success) →
      ReadsAs file (built calls)) ∧
    (∀ env before, env.Healthy →
      ((built calls).emitted host).chunks.flatten.length ≤ maxFileSize →
      ∃ file, (built calls).write host env false before = (some file, .ok .success)) ∧
    (∀ env env' before file file',
      (built calls).write host env false before = (some file, .ok .success) →
      (built more).write host env' true (some file) = (some file', .ok .success) →
      ∃ d, ReadsAs file' d ∧ Concatenates (built calls) (built more) d) ∧
    (∀ renv input, (BINController.read renv input {}).result = .ok .success →
      let c := (BINController.read renv input {}).controller
      (∀ env before file, c.write host env false before = (some file, .ok .success) →
        file = input.bytes) ∧
      (∀ env before, env.Healthy → input.bytes.length ≤ maxFileSize →
        c.write host env false before = (some input.bytes, .ok .success))) := by
  obtain ⟨as, has, hcontents⟩ := built_store calls
  obtain ⟨bs, hbs, -⟩ := built_store more
  have hkept : (kept false (none : Option Bytes)).length ≤ maxFileSize := Nat.zero_le _
  rw [has, hbs]
  refine ⟨hcontents, fun env before file h => ?_, fun env before henv hsize => ?_,
    fun env env' before file file' h h' => ?_, fun renv input h => ?_⟩
  · have hlen := write_length h hkept
    cases write_store_success h
    exact readsAs_encode hlen
  · rw [emitted_store, flatten_flatMap_blockChunks] at hsize
    exact ⟨_, write_store_healthy host henv as false before hsize⟩
  · have hlen := write_length h hkept
    have hlen' := write_length h' hlen
    cases write_store_success h
    cases write_store_success h'
    refine ⟨store (as ++ bs), ?_, concatenates_store as bs⟩
    rw [show kept true (some (kept false before ++ encode as)) ++ encode bs = encode (as ++ bs) from
      (encode_append as bs).symm] at hlen' ⊢
    exact readsAs_encode hlen'
  · obtain ⟨cs, hbytes, -, hcs⟩ := (readWithLimits_exact renv input .unlimited {}).2.1 h
    rw [show (BINController.read renv input {}).controller = store cs from hcs]
    refine ⟨fun env before file hw => ?_, fun env before henv hsize => ?_⟩
    · cases write_store_success hw
      exact hbytes.symm
    · rw [hbytes] at hsize ⊢
      exact write_store_healthy host henv cs false before hsize

end WSE.Proof.Gef
