import WapitiStew.Impl.Gef.Bin

/-!
# BIN controllers

The format of a BIN file, and what the calls of a client do to the block sequences it holds.
-/

namespace WSE.Spec.Gef

open WSE.Framework WSE.Impl.Gef

/-!
## The BIN format

What a BIN controller is for: it holds a sequence of typed blocks, and its file
is the concatenation of their encodings (`encode`): the category byte, the
element count in eight bytes and the elements, all little-endian. `store` is the
representation of a block sequence in the controller's vectors.
-/

/-- A typed block; its element count fits the eight bytes of the header. -/
structure Block where
  type : ElementType
  elements : List (Element type)
  bounded : elements.length < 2 ^ 64

/-- The number of elements of a block sequence. -/
def elementCount (bs : List Block) : Nat := (bs.map fun b => b.elements.length).sum

/-! ### The file -/

def encodeElement {t : ElementType} (v : Element t) : Bytes := leBytes t.width v.toNat

def encodeBlock (b : Block) : Bytes :=
  b.type.category.byte :: leBytes 8 b.elements.length ++ b.elements.flatMap encodeElement

def encode (bs : List Block) : Bytes := bs.flatMap encodeBlock

/-! ### The representation -/

/-- The elements of a block in the vector of type `t`. -/
def Block.elementsOf (b : Block) (t : ElementType) : List (Element t) :=
  if h : b.type = t then h ▸ b.elements else []

/-- The vector of type `t` for the blocks `bs`, the first of which has index `i`. -/
def slotFrom (t : ElementType) : Nat → List Block → List (Nat × Element t)
  | _, [] => []
  | i, b :: bs => (b.elementsOf t).map (i, ·) ++ slotFrom t (i + 1) bs

def Block.order (b : Block) : Category × Nat := (b.type.category, b.elements.length)

/-- The controller that holds `bs`. -/
def store (bs : List Block) : BINController where
  uint08Contents := slotFrom .uint8 0 bs
  int08Contents := slotFrom .int8 0 bs
  int16Contents := slotFrom .int16 0 bs
  int32Contents := slotFrom .int32 0 bs
  int64Contents := slotFrom .int64 0 bs
  float32Contents := slotFrom .float32 0 bs
  float64Contents := slotFrom .float64 0 bs
  headerNextIndex := bs.length
  orderList := bs.map Block.order

/-- The elements of block `i` in their order, each converted by `cast`; no elements where
there is no such block. -/
def blockContents {τ : Type} (cast : (t : ElementType) → Element t → τ) (bs : List Block)
    (i : Nat) : List τ :=
  match bs[i]? with
  | none => []
  | some b => b.elements.map (cast b.type)

/-- The file respects the budgets. -/
structure Within (limits : ReadLimits) (bs : List Block) : Prop where
  blocks : bs.length ≤ limits.maxBlocks.toNat
  elements : elementCount bs ≤ limits.maxElements.toNat
  bytes : (encode bs).length ≤ limits.maxInputBytes.toNat

/-!
## What calls do to block sequences

The client's objects as block sequences: a call that succeeds appends a block,
replaces the sequence by that of a file, or copies, moves or exchanges
sequences; a call that fails or throws changes none.
-/

/-- The block sequences of the live objects. -/
abbrev Blocks := Nat → Option (List Block)

abbrev Blocks.set (blocks : Blocks) (x : Nat) (bs : Option (List Block)) : Blocks :=
  Function.update blocks x bs

inductive Effect : BinOp → Outcome → Blocks → Blocks → Prop
  | refused {op : BinOp} {outcome : Outcome} {blocks : Blocks} (h : outcome ≠ .ok .success) :
    Effect op outcome blocks blocks
  | construct {blocks : Blocks} (x : Nat) :
    Effect (.construct x) (.ok .success) blocks (blocks.set x (some []))
  | setContents {blocks : Blocks} {x : Nat} {bs : List Block} (env : AppendEnv) (t : ElementType)
    (values : List (Element t)) (h : values.length < 2 ^ 64) (hx : blocks x = some bs) :
    Effect (.setContents x env t values) (.ok .success) blocks
      (blocks.set x (some (bs ++ [⟨t, values, h⟩])))
  | read {blocks : Blocks} {x : Nat} {bs : List Block} (env : ReadEnv) (input : InputFile)
    (h : input.bytes = encode bs) :
    Effect (.read x env input) (.ok .success) blocks (blocks.set x (some bs))
  | readWithLimits {blocks : Blocks} {x : Nat} {bs : List Block} (env : ReadEnv)
    (input : InputFile) (limits : ReadLimits) (h : input.bytes = encode bs) :
    Effect (.readWithLimits x env input limits) (.ok .success) blocks (blocks.set x (some bs))
  | copyConstruct {blocks : Blocks} {x y : Nat} {bs : List Block} (allocates : Bool)
    (hy : blocks y = some bs) :
    Effect (.copyConstruct x y allocates) (.ok .success) blocks (blocks.set x (some bs))
  | copyAssign {blocks : Blocks} {x y : Nat} {bs : List Block} (allocates : Bool)
    (hy : blocks y = some bs) :
    Effect (.copyAssign x y allocates) (.ok .success) blocks (blocks.set x (some bs))
  | moveConstruct {blocks : Blocks} {x y : Nat} {bs : List Block} (hy : blocks y = some bs) :
    Effect (.moveConstruct x y) (.ok .success) blocks
      ((blocks.set y (some [])).set x (some bs))
  | moveAssign {blocks : Blocks} {x y : Nat} {bs : List Block} (hy : blocks y = some bs) :
    Effect (.moveAssign x y) (.ok .success) blocks ((blocks.set y (some [])).set x (some bs))
  | swap {blocks : Blocks} {x y : Nat} {as bs : List Block} (hx : blocks x = some as)
    (hy : blocks y = some bs) :
    Effect (.swap x y) (.ok .success) blocks ((blocks.set x (some bs)).set y (some as))
  | destroy {blocks : Blocks} (x : Nat) :
    Effect (.destroy x) (.ok .success) blocks (blocks.set x none)

/-- The block sequences after a history of calls, from no objects. -/
inductive History : List (BinOp × Outcome) → Blocks → Prop
  | nil : History [] fun _ => none
  | snoc {calls : List (BinOp × Outcome)} {blocks blocks' : Blocks} {call : BinOp × Outcome}
    (h : History calls blocks) (he : Effect call.1 call.2 blocks blocks') :
    History (calls ++ [call]) blocks'

end WSE.Spec.Gef
