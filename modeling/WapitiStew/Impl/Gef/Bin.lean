import Mathlib.Logic.Function.Basic
import WapitiStew.Framework.Transition
import WapitiStew.Impl.Gef.Errors

/-!
# The BIN controller

`BINController` of `core/gef/bin/binController.cpp`. It keeps one vector of
(block index, element) pairs for each element type, the order list with the
category and element count of every block, and the next block index. An element
is its bit pattern. The seven type-specific vectors are reached through `slot`
and `setSlot`, so that each loop the source repeats per type stands here once.

The environment enters as arguments: the host's byte order, the capacities and
the success of allocations (`AppendEnv` and the oracle `alloc` of a read), the
file and the results of stream calls. Computations on `uint64_t` are
`add64`, `sub64` and `mul64`, modulo `2 ^ 64`; `ReadState.wrapped` records
whether one of them wrapped.
-/

namespace WSE.Impl.Gef

open WSE.Framework

/-! ## Element types -/

/-- The element types of the seven vectors. -/
inductive ElementType
  | uint8 | int8 | int16 | int32 | int64 | float32 | float64
  deriving DecidableEq, Repr

/-- `eCategory`. -/
inductive Category
  | none | enum | integer08 | integer16 | integer32 | integer64 | float32 | float64
  deriving DecidableEq, Repr

/-- `sizeof`, and the table `widths` of the reader. -/
def ElementType.width : ElementType → Nat
  | .uint8 => 1
  | .int8 => 1
  | .int16 => 2
  | .int32 => 4
  | .int64 => 8
  | .float32 => 4
  | .float64 => 8

/-- The bit pattern of an element. -/
abbrev Element (t : ElementType) : Type := BitVec (8 * t.width)

def ElementType.category : ElementType → Category
  | .uint8 => .enum
  | .int8 => .integer08
  | .int16 => .integer16
  | .int32 => .integer32
  | .int64 => .integer64
  | .float32 => .float32
  | .float64 => .float64

/-- The vector a `switch` on the category selects; `none` is the default case. -/
def Category.elementType? : Category → Option ElementType
  | .none => Option.none
  | .enum => some .uint8
  | .integer08 => some .int8
  | .integer16 => some .int16
  | .integer32 => some .int32
  | .integer64 => some .int64
  | .float32 => some .float32
  | .float64 => some .float64

/-- `static_cast<uint8_t>` of a category. -/
def Category.byte : Category → Byte
  | .none => 0
  | .enum => 1
  | .integer08 => 2
  | .integer16 => 3
  | .integer32 => 4
  | .integer64 => 5
  | .float32 => 6
  | .float64 => 7

/-- `static_cast<eCategory>` of a byte; what names no category is taken to `none`, which
every `switch` treats as its default. -/
def Category.ofValue : Nat → Category
  | 1 => .enum
  | 2 => .integer08
  | 3 => .integer16
  | 4 => .integer32
  | 5 => .integer64
  | 6 => .float32
  | 7 => .float64
  | _ => .none

/-! ## The controller -/

structure BINController where
  uint08Contents : List (Nat × Element .uint8) := []
  int08Contents : List (Nat × Element .int8) := []
  int16Contents : List (Nat × Element .int16) := []
  int32Contents : List (Nat × Element .int32) := []
  int64Contents : List (Nat × Element .int64) := []
  float32Contents : List (Nat × Element .float32) := []
  float64Contents : List (Nat × Element .float64) := []
  headerNextIndex : Nat := 0
  orderList : List (Category × Nat) := []
  deriving DecidableEq

namespace BINController

/-- The vector of an element type. -/
def slot (c : BINController) : (t : ElementType) → List (Nat × Element t)
  | .uint8 => c.uint08Contents
  | .int8 => c.int08Contents
  | .int16 => c.int16Contents
  | .int32 => c.int32Contents
  | .int64 => c.int64Contents
  | .float32 => c.float32Contents
  | .float64 => c.float64Contents

def setSlot (c : BINController) : (t : ElementType) → List (Nat × Element t) → BINController
  | .uint8, values => { c with uint08Contents := values }
  | .int8, values => { c with int08Contents := values }
  | .int16, values => { c with int16Contents := values }
  | .int32, values => { c with int32Contents := values }
  | .int64, values => { c with int64Contents := values }
  | .float32, values => { c with float32Contents := values }
  | .float64, values => { c with float64Contents := values }

@[ext] theorem ext_slot {c d : BINController} (hs : ∀ t, c.slot t = d.slot t)
    (hi : c.headerNextIndex = d.headerNextIndex) (ho : c.orderList = d.orderList) : c = d := by
  cases c
  cases d
  have h1 := hs .uint8
  have h2 := hs .int8
  have h3 := hs .int16
  have h4 := hs .int32
  have h5 := hs .int64
  have h6 := hs .float32
  have h7 := hs .float64
  simp only [slot] at h1 h2 h3 h4 h5 h6 h7 hi ho
  subst_vars
  rfl

theorem slot_setSlot (c : BINController) (t : ElementType) (vs : List (Nat × Element t)) :
    (c.setSlot t vs).slot t = vs := by
  cases t <;> rfl

theorem slot_setSlot_ne (c : BINController) {t u : ElementType} (vs : List (Nat × Element t))
    (h : u ≠ t) : (c.setSlot t vs).slot u = c.slot u := by
  cases t <;> cases u <;> first | exact absurd rfl h | rfl

@[simp] theorem headerNextIndex_setSlot (c : BINController) (t : ElementType)
    (vs : List (Nat × Element t)) : (c.setSlot t vs).headerNextIndex = c.headerNextIndex := by
  cases t <;> rfl

@[simp] theorem orderList_setSlot (c : BINController) (t : ElementType)
    (vs : List (Nat × Element t)) : (c.setSlot t vs).orderList = c.orderList := by
  cases t <;> rfl

/-! ## Access -/

/-- `index_num()`. -/
def indexNum (c : BINController) : Nat := c.headerNextIndex

/-- `last_index()`. -/
def lastIndex (c : BINController) : Except Exception Nat :=
  if c.headerNextIndex = 0 then
    .error (.logicError "last_index() requires at least one stored block; check index_num() first")
  else .ok (c.headerNextIndex - 1)

section Contents

variable {τ : Type}

/-- The loop of `contents` over one vector: `is_detected` and the values found. -/
def scan {ε : Type} (cast : ε → τ) (index : Nat) : Bool → List (Nat × ε) → Bool × List τ
  | isDetected, [] => (isDetected, [])
  | isDetected, val :: vals =>
    if val.1 = index then
      let (detected, values) := scan cast index true vals
      (detected, cast val.2 :: values)
    else if isDetected then (isDetected, [])
    else scan cast index isDetected vals

/-- The vectors in the order in which `contents` searches them. -/
def vectors : List ElementType := [.uint8, .int8, .int16, .int32, .int64, .float32, .float64]

/-- `contents` over the vectors that are left. -/
def contentsIn (cast : (t : ElementType) → Element t → τ) (c : BINController) (index : Nat) :
    List ElementType → List τ
  | [] => []
  | t :: ts =>
    let (isDetected, value) := scan (cast t) index false (c.slot t)
    if isDetected then value else contentsIn cast c index ts

/-- `contents<_Tp>(index)`; `cast` is `static_cast<_Tp>` on each element type. -/
def contents (cast : (t : ElementType) → Element t → τ) (c : BINController) (index : Nat) :
    List τ :=
  contentsIn cast c index vectors

end Contents

end BINController

/-! ## Appending a block -/

/-- A vector with its capacity. -/
structure Vec (α : Type) where
  items : List α
  capacity : Nat

/-- `max_size()` of a vector of 16-byte pairs. -/
def pairMaxSize : Nat := (2 ^ 63 - 1) / 16

def sizeMax : Nat := 2 ^ 64 - 1

/-- `reserve(n)`. -/
def Vec.reserve {α : Type} (v : Vec α) (allocates : Bool) (n : Nat) : Except Exception (Vec α) :=
  if pairMaxSize < n then .error (.lengthError "vector::reserve")
  else if n ≤ v.capacity then .ok v
  else if allocates then .ok { v with capacity := n }
  else .error .badAlloc

/-- `emplace_back(x)`, which grows a full vector. -/
def Vec.emplaceBack {α : Type} (v : Vec α) (allocates : Bool) (x : α) :
    Except Exception (Vec α) :=
  if v.items.length < v.capacity then .ok { v with items := v.items ++ [x] }
  else if allocates then .ok ⟨v.items ++ [x], 2 * v.capacity + 1⟩
  else .error .badAlloc

def reserveAppend {α : Type} (values : Vec α) (allocates : Bool) (count : Nat) :
    Except Exception (Vec α) :=
  let needed := values.items.length + count
  if needed ≤ values.capacity then .ok values
  else
    let growth := max values.capacity 1
    let grown := if pairMaxSize - values.capacity < growth then pairMaxSize
      else values.capacity + growth
    values.reserve allocates (max needed grown)

/-- What an append meets: the vectors' capacities and whether allocations succeed. -/
structure AppendEnv where
  valuesCapacity : Nat
  orderCapacity : Nat
  reserveValues : Bool
  reserveOrder : Bool
  /-- The allocations of the `emplace_back` calls, in order. -/
  grow : Nat → Bool

/-- The three owners that `appendBlock` updates, as it leaves them. -/
structure Appended (ε : Type) where
  values : List (Nat × ε)
  order : List (Category × Nat)
  index : Nat
  result : Except Exception Unit

/-- The loop of `emplace_back` calls. -/
def emplaceAll {ε : Type} (grow : Nat → Bool) (index : Nat) :
    Nat → Vec (Nat × ε) → List ε → Vec (Nat × ε) × Except Exception Unit
  | _, values, [] => (values, .ok ())
  | i, values, value :: rest =>
    match values.emplaceBack (grow i) (index, value) with
    | .error e => (values, .error e)
    | .ok values => emplaceAll grow index (i + 1) values rest

def appendBlock {ε : Type} (env : AppendEnv) (values : List (Nat × ε))
    (order : List (Category × Nat)) (index : Nat) (valuesIn : List ε) (category : Category) :
    Appended ε :=
  if index = sizeMax ∨ pairMaxSize - values.length < valuesIn.length ∨
      order.length = pairMaxSize then
    ⟨values, order, index, .error (.lengthError "the BIN block store is full")⟩
  else
    match reserveAppend ⟨values, env.valuesCapacity⟩ env.reserveValues valuesIn.length with
    | .error e => ⟨values, order, index, .error e⟩
    | .ok vec =>
      match reserveAppend ⟨order, env.orderCapacity⟩ env.reserveOrder 1 with
      | .error e => ⟨vec.items, order, index, .error e⟩
      | .ok orderVec =>
        let (vec, result) := emplaceAll env.grow index 0 vec valuesIn
        match result with
        | .error e => ⟨vec.items, orderVec.items, index, .error e⟩
        | .ok () =>
          match orderVec.emplaceBack (env.grow valuesIn.length) (category, valuesIn.length) with
          | .error e => ⟨vec.items, orderVec.items, index, .error e⟩
          | .ok orderVec => ⟨vec.items, orderVec.items, index + 1, .ok ()⟩

/-- The overload of `setContents` for each element type. -/
def BINController.setContents (env : AppendEnv) (c : BINController) (t : ElementType)
    (values : List (Element t)) : BINController × Except Exception Unit :=
  let r := appendBlock env (c.slot t) c.orderList c.headerNextIndex values t.category
  ({ c.setSlot t r.values with headerNextIndex := r.index, orderList := r.order }, r.result)

/-! ## Reading -/

def add64 (a b : Nat) : Nat := (a + b) % 2 ^ 64
def sub64 (a b : Nat) : Nat := (a + 2 ^ 64 - b) % 2 ^ 64
def mul64 (a b : Nat) : Nat := a * b % 2 ^ 64

def readFailure (message : String) : GefStatus := .failure ⟨.io, .readFailed, message, 0⟩

def unknownCategory : GefStatus :=
  .failure ⟨.format, .malformedData, "the binary block category is unknown", 0⟩

/-- An element from the bytes of the file. One-byte elements are read in place; wider ones
are reversed on a big-endian host. -/
def decodeElement (isBigEndian : Bool) (t : ElementType) (bytes : Bytes) : Element t :=
  BitVec.ofNat _ (match t with
    | .uint8 | .int8 => nativeValue isBigEndian bytes
    | _ => fileValue isBigEndian bytes)

/-- The local variables of `readWithLimits`. -/
structure ReadState where
  staged : BINController
  file : IStream
  headerId : Nat
  inputBytes : Nat
  elements : Nat
  /-- The number of `emplace_back` calls so far. -/
  allocations : Nat
  /-- Whether a computation on sizes or counts has wrapped. -/
  wrapped : Bool

/-- How a part of the reader ends: it goes on, or the call returns or throws. -/
inductive Flow
  | next (s : ReadState)
  | stop (result : Except Exception GefStatus) (wrapped : Bool)

/-- What a read meets besides its file: the host and the results of allocations. -/
structure ReadEnv where
  isBigEndian : Bool
  alloc : Nat → Bool

/-- The loop over the elements of one block, of `num` elements. -/
def readValues (env : ReadEnv) (t : ElementType) : Nat → ReadState → Flow
  | 0, s => .next s
  | num + 1, s =>
    match s.file.read t.width with
    | (none, _) => .stop (.ok (readFailure "a binary block value cannot be read")) s.wrapped
    | (some bytes, file) =>
      if env.alloc s.allocations then
        let value := (s.headerId, decodeElement env.isBigEndian t bytes)
        readValues env t num { s with
          staged := s.staged.setSlot t (s.staged.slot t ++ [value])
          file := file
          allocations := s.allocations + 1 }
      else .stop (.error .badAlloc) s.wrapped

/-- The switch over the category and the order entry that follows it. -/
def readElements (env : ReadEnv) (category : Category) (num : Nat) (s : ReadState) : Flow :=
  match category.elementType? with
  | none => .stop (.ok unknownCategory) s.wrapped
  | some t =>
    match readValues env t num s with
    | .stop result wrapped => .stop result wrapped
    | .next s =>
      if env.alloc s.allocations then
        .next { s with
          staged := { s.staged with orderList := s.staged.orderList ++ [(category, num)] }
          headerId := s.headerId + 1
          allocations := s.allocations + 1 }
      else .stop (.error .badAlloc) s.wrapped

/-- `widths[type]`. -/
def widthOf (category : Category) : Nat := (category.elementType?.map ElementType.width).getD 0

/-- One round of the loop of `readWithLimits`. -/
def readBlock (env : ReadEnv) (limits : ReadLimits) (s : ReadState) : Flow :=
  let maxInput := limits.maxInputBytes.toNat
  let wrapped := s.wrapped || decide (maxInput < s.inputBytes)
  if limits.maxBlocks.toNat ≤ s.headerId ∨ s.headerId = sizeMax ∨
      sub64 maxInput s.inputBytes < 9 then .stop (.ok limitFailure) wrapped
  else
    match s.file.read 1 with
    | (none, _) => .stop (.ok (readFailure "the binary block type cannot be read")) wrapped
    | (some typeBytes, file) =>
      let type := nativeValue env.isBigEndian typeBytes
      match file.read 8 with
      | (none, _) =>
        .stop (.ok (readFailure "the binary block element count cannot be read")) wrapped
      | (some numBytes, file) =>
        let num := fileValue env.isBigEndian numBytes
        if type = 0 ∨ 8 ≤ type then .stop (.ok unknownCategory) wrapped
        else
          let category := Category.ofValue type
          let width := widthOf category
          let inputBytes := add64 s.inputBytes 9
          let wrapped := wrapped || decide (2 ^ 64 ≤ s.inputBytes + 9) ||
            decide (limits.maxElements.toNat < s.elements) || decide (maxInput < inputBytes)
          if sub64 limits.maxElements.toNat s.elements < num ∨
              sub64 maxInput inputBytes / width < num ∨ sizeMax < num then
            .stop (.ok limitFailure) wrapped
          else
            readElements env category num { s with
              file := file
              inputBytes := add64 inputBytes (mul64 num width)
              elements := add64 s.elements num
              wrapped := wrapped || decide (2 ^ 64 ≤ num * width) ||
                decide (2 ^ 64 ≤ inputBytes + mul64 num width) ||
                decide (2 ^ 64 ≤ s.elements + num) }

/-! Every round consumes the nine bytes of a block header. -/

theorem readValues_rest {env : ReadEnv} {t : ElementType} {num : Nat} {s s' : ReadState}
    (h : readValues env t num s = .next s') : s'.file.rest.length ≤ s.file.rest.length := by
  induction num generalizing s with
  | zero =>
    cases h
    exact Nat.le_refl _
  | succ num ih =>
    unfold readValues at h
    split at h
    · cases h
    · rename_i bytes file hr
      split at h
      · have hle := ih h
        have hrest := congrArg List.length (IStream.rest_read hr).1
        simp only [List.length_append] at hle hrest
        omega
      · cases h

theorem readElements_rest {env : ReadEnv} {category : Category} {num : Nat} {s s' : ReadState}
    (h : readElements env category num s = .next s') :
    s'.file.rest.length ≤ s.file.rest.length := by
  unfold readElements at h
  split at h
  · cases h
  · split at h
    · cases h
    · rename_i t _ s1 hv
      split at h
      · cases h
        have hle := readValues_rest hv
        exact hle
      · cases h

theorem readBlock_rest {env : ReadEnv} {limits : ReadLimits} {s s' : ReadState}
    (h : readBlock env limits s = .next s') : s'.file.rest.length < s.file.rest.length := by
  unfold readBlock at h
  dsimp only at h
  split at h
  · cases h
  · split at h
    · cases h
    · rename_i f1 h1
      split at h
      · cases h
      · rename_i f2 h2
        split at h
        · cases h
        · split at h
          · cases h
          · have hle := readElements_rest h
            have hr1 := congrArg List.length (IStream.rest_read h1).1
            have hr2 := congrArg List.length (IStream.rest_read h2).1
            have hl1 := (IStream.rest_read h1).2
            simp only [List.length_append] at hr1 hr2 hle
            omega

/-- The loop of `readWithLimits`, with the stream as the last `peek` leaves it. -/
def readLoop (env : ReadEnv) (limits : ReadLimits) (s : ReadState) : Flow :=
  match s.file.peek with
  | (none, file) => .next { s with file := file }
  | (some _, _) =>
    match _h : readBlock env limits s with
    | .stop result wrapped => .stop result wrapped
    | .next s => readLoop env limits s
termination_by s.file.rest.length
decreasing_by exact readBlock_rest _h

/-- What a read leaves: the controller, the status or exception, and whether a size
computation wrapped on the way. -/
structure ReadReport where
  controller : BINController
  result : Except Exception GefStatus
  wrapped : Bool

def BINController.readWithLimits (env : ReadEnv) (input : InputFile) (limits : ReadLimits)
    (c : BINController) : ReadReport :=
  if !input.opens then
    ⟨c, .ok (.failure ⟨.io, .fileOpenFailed, "the binary file cannot be opened", 0⟩), false⟩
  else
    match readLoop env limits ⟨{}, input.stream, 0, 0, 0, 0, false⟩ with
    | .stop result wrapped => ⟨c, result, wrapped⟩
    | .next s =>
      if s.file.badbit || !s.file.eofbit then
        ⟨c, .ok (readFailure "the binary stream failed"), s.wrapped⟩
      else if s.file.clear.close.fail then
        ⟨c, .ok (readFailure "the binary stream cannot be closed"), s.wrapped⟩
      else ⟨{ s.staged with headerNextIndex := s.headerId }, .ok .success, s.wrapped⟩

def BINController.read (env : ReadEnv) (input : InputFile) (c : BINController) : ReadReport :=
  c.readWithLimits env input .unlimited

/-! ## Writing -/

/-- The write loop over `count` elements of a vector, from position `i`. -/
def elementChunks (isBigEndian : Bool) {t : ElementType} (contents : List (Nat × Element t)) :
    Nat → Nat → Emitted
  | _, 0 => ⟨[], .ok ()⟩
  | i, count + 1 =>
    match contents[i]? with
    | none => ⟨[], .error .undefined⟩
    | some val =>
      let e := elementChunks isBigEndian contents (i + 1) count
      ⟨fileBytes isBigEndian t.width val.2.toNat :: e.chunks, e.ended⟩

/-- The loop of `write` over the order list; `nextIndex` holds the cursors
`next_index__uint08` to `next_index_float64`. -/
def orderChunks (isBigEndian : Bool) (c : BINController) :
    List (Category × Nat) → (ElementType → Nat) → Emitted
  | [], _ => ⟨[], .ok ()⟩
  | (category, size) :: orders, nextIndex =>
    let header := [[category.byte], fileBytes isBigEndian 8 size]
    match category.elementType? with
    | none =>
      ⟨header, .error (.thrown (.logicError
        "the stored block order list holds an unknown category"))⟩
    | some t =>
      let e := elementChunks isBigEndian (c.slot t) (nextIndex t) size
      match e.ended with
      | .error abort => ⟨header ++ e.chunks, .error abort⟩
      | .ok () =>
        let rest := orderChunks isBigEndian c orders
          (fun u => if u = t then nextIndex u + size else nextIndex u)
        ⟨header ++ e.chunks ++ rest.chunks, rest.ended⟩

namespace BINController

def emitted (isBigEndian : Bool) (c : BINController) : Emitted :=
  orderChunks isBigEndian c c.orderList fun _ => 0

/-- `write(path, is_update)` on a path that holds `before`. -/
def write (isBigEndian : Bool) (env : WriteEnv) (c : BINController) (isUpdate : Bool)
    (before : Option Bytes) : Option Bytes × Except Abort GefStatus :=
  (c.emitted isBigEndian).save env ⟨.io, .fileOpenFailed, "the binary file cannot be opened", 0⟩
    isUpdate before

/-! ## Copy, move and swap -/

/-- `swap`: field by field. -/
def swap (obj1 obj2 : BINController) : BINController × BINController :=
  (⟨obj2.uint08Contents, obj2.int08Contents, obj2.int16Contents, obj2.int32Contents,
    obj2.int64Contents, obj2.float32Contents, obj2.float64Contents, obj2.headerNextIndex,
    obj2.orderList⟩,
   ⟨obj1.uint08Contents, obj1.int08Contents, obj1.int16Contents, obj1.int32Contents,
    obj1.int64Contents, obj1.float32Contents, obj1.float64Contents, obj1.headerNextIndex,
    obj1.orderList⟩)

/-- The copy constructor; copying a vector allocates. -/
def copy (allocates : Bool) (obj : BINController) : Except Exception BINController :=
  if allocates then
    .ok ⟨obj.uint08Contents, obj.int08Contents, obj.int16Contents, obj.int32Contents,
      obj.int64Contents, obj.float32Contents, obj.float64Contents, obj.headerNextIndex,
      obj.orderList⟩
  else .error .badAlloc

/-- The move constructor: the new object, and what is left of the source. -/
def move (obj : BINController) : BINController × BINController := swap {} obj

@[simp] theorem swap_eq (c d : BINController) : swap c d = (d, c) := rfl

end BINController

/-!
## Programs that use BIN controllers

A client holds any number of `BINController` objects and calls their
constructors, assignments, `swap`, `setContents` and reads, on one object or
between two. `perform` is one such call: the objects after it, and whether it
returned a status or threw. `objectStep` is the transition of the client's runs;
its action carries the call together with its result.
-/

/-- The live objects. -/
abbrev Objects := Nat → Option BINController

inductive BinOp
  | construct (x : Nat)
  | setContents (x : Nat) (env : AppendEnv) (t : ElementType) (values : List (Element t))
  | read (x : Nat) (env : ReadEnv) (input : InputFile)
  | readWithLimits (x : Nat) (env : ReadEnv) (input : InputFile) (limits : ReadLimits)
  | copyConstruct (x y : Nat) (allocates : Bool)
  | moveConstruct (x y : Nat)
  | copyAssign (x y : Nat) (allocates : Bool)
  | moveAssign (x y : Nat)
  | swap (x y : Nat)
  | destroy (x : Nat)

/-- How a call ends; calls without a status return `success`. -/
abbrev Outcome := Except Exception GefStatus

/-- `fun` replaced at `x`. -/
abbrev Objects.set (objs : Objects) (x : Nat) (c : Option BINController) : Objects :=
  Function.update objs x c

/-- The calls on one existing object. -/
def performOn (objs : Objects) (x : Nat) (f : BINController → BINController × Outcome) :
    Option (Objects × Outcome) :=
  (objs x).map fun c => (objs.set x (f c).1, (f c).2)

/-- A call, on objects that it may be called on. -/
def perform (objs : Objects) : BinOp → Option (Objects × Outcome)
  | .construct x =>
    match objs x with
    | some _ => none
    | none => some (objs.set x (some {}), .ok .success)
  | .setContents x env t values => performOn objs x fun c =>
    let (c, result) := c.setContents env t values
    (c, result.map fun _ => .success)
  | .read x env input => performOn objs x fun c =>
    let r := c.read env input
    (r.controller, r.result)
  | .readWithLimits x env input limits => performOn objs x fun c =>
    let r := c.readWithLimits env input limits
    (r.controller, r.result)
  | .copyConstruct x y allocates =>
    match objs x, objs y with
    | none, some obj =>
      match BINController.copy allocates obj with
      | .error e => some (objs, .error e)
      | .ok copyObj => some (objs.set x (some copyObj), .ok .success)
    | _, _ => none
  | .moveConstruct x y =>
    match objs x, objs y with
    | none, some obj =>
      let (moveObj, obj) := BINController.move obj
      some ((objs.set y (some obj)).set x (some moveObj), .ok .success)
    | _, _ => none
  | .copyAssign x y allocates =>
    match objs x, objs y with
    | some this, some obj =>
      match BINController.copy allocates obj with
      | .error e => some (objs, .error e)
      | .ok copyObj =>
        let (this, _) := BINController.swap this copyObj
        some (objs.set x (some this), .ok .success)
    | _, _ => none
  | .moveAssign x y =>
    match objs x, objs y with
    | some _, some obj =>
      let (moveObj, obj) := BINController.move obj
      let objs := objs.set y (some obj)
      -- With `x = y` the assigned object has just been emptied.
      (objs x).map fun this =>
        let (this, _) := BINController.swap this moveObj
        (objs.set x (some this), .ok .success)
    | _, _ => none
  | .swap x y =>
    match objs x, objs y with
    | some obj1, some obj2 =>
      let (obj1, obj2) := BINController.swap obj1 obj2
      some ((objs.set x (some obj1)).set y (some obj2), .ok .success)
    | _, _ => none
  | .destroy x => (objs x).map fun _ => (objs.set x none, .ok .success)

/-- A step of the client: a call and how it ends. -/
def objectStep (objs : Objects) (a : BinOp × Outcome) : Option Objects :=
  match perform objs a.1 with
  | none => none
  | some (objs', outcome) => if outcome = a.2 then some objs' else none

end WSE.Impl.Gef
