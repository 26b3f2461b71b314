import WapitiStew.Framework.Table
import WapitiStew.Framework.Throwing

/-!
# Two-dimensional maps

`Map` of `api/wse/data/wse_Map.h`, over any type of elements. The elements are in one vector, and
the extent is kept beside it. The program has objects under numbers; `call` makes one call on them,
where the call carries whether the elements that it needs can be allocated and constructed. What a
write through a reference outside the vector does is undefined, and nothing is said of it.
-/

namespace WSE.Impl.Wse

open WSE.Framework

/-- What the operations throw; `elements` is what the vector or an element does. -/
inductive MapError
  | invalidArgument (message : String)
  | outOfRange (message : String)
  | elements
  deriving DecidableEq

structure Map (α : Type) where
  data : List α
  width : UInt64
  height : UInt64
  deriving DecidableEq

namespace Map

variable {α : Type}

/-- `width × height`, if it is representable in `size_t`. -/
def checkedCount (width height : UInt64) : Except MapError UInt64 :=
  if height ≠ 0 ∧ width > 0xFFFFFFFFFFFFFFFF / height then
    .error (.invalidArgument "width x height is not representable in size_t")
  else .ok (width * height)

/-- `std::vector(count, value)`. -/
def vector (memory : Bool) (count : UInt64) (value : α) : Except MapError (List α) :=
  if memory then .ok (List.replicate count.toNat value) else .error .elements

/-- A copy of a vector. -/
def copyVector (memory : Bool) (data : List α) : Except MapError (List α) :=
  if memory then .ok data else .error .elements

/-! ## Construction -/

/-- `Map()`. -/
def default : Map α := ⟨[], 0, 0⟩

/-- `Map(width, height, value)`; `Map(width, height)` has the value of `_Tp()`. -/
def filled (memory : Bool) (width height : UInt64) (value : α) : Except MapError (Map α) := do
  let count ← checkedCount width height
  let data ← vector memory count value
  .ok ⟨data, width, height⟩

/-- `Map(width, height, data)`. -/
def ofData (memory : Bool) (width height : UInt64) (data : List α) : Except MapError (Map α) := do
  let copied ← copyVector memory data
  let count ← checkedCount width height
  if count.toNat ≠ data.length then
    .error (.invalidArgument "data_in.size() must equal width_in x height_in")
  else .ok ⟨copied, width, height⟩

/-- `Map(const Map&)`. -/
def copy (memory : Bool) (obj : Map α) : Except MapError (Map α) := do
  let data ← copyVector memory obj.data
  .ok ⟨data, obj.width, obj.height⟩

/-- `Map(Map&&)`: the new map, and what it leaves: the vector is empty, the numbers are copied. -/
def move (obj : Map α) : Map α × Map α :=
  (⟨obj.data, obj.width, obj.height⟩, { obj with data := [] })

/-- `swap`. -/
def swap (obj1 obj2 : Map α) : Map α × Map α :=
  (⟨obj2.data, obj2.width, obj2.height⟩, ⟨obj1.data, obj1.width, obj1.height⟩)

/-- `init(width, height)`. -/
def init (value : α) (memory : Bool) (width height : UInt64) : EStateM MapError (Map α) Unit := do
  let data ← MonadExcept.ofExcept (checkedCount width height >>= (vector memory · value))
  modify fun m => { m with data := data }
  modify fun m => { m with width := width }
  modify fun m => { m with height := height }

/-! ## Access

A reference is the index of its element. -/

def outside : MapError := .outOfRange "the index is outside the Map shape"

/-- `front()`. -/
def front (m : Map α) : Except MapError UInt64 :=
  if m.data.isEmpty then .error outside else .ok 0

/-- `at(x, y)`. -/
def at' (m : Map α) (x y : UInt64) : Except MapError UInt64 :=
  if x ≥ m.width ∨ y ≥ m.height then .error outside else .ok (y * m.width + x)

/-- `row(y)`, a pointer to the first of `width()` elements. -/
def row (m : Map α) (y : UInt64) : Except MapError UInt64 :=
  if y ≥ m.height ∨ m.width = 0 then .error outside else .ok (y * m.width)

/-- The element that `get(index)` copies and `set(index, value)` writes. -/
def element (m : Map α) (index : UInt64) : Except MapError UInt64 :=
  if index.toNat ≥ m.data.length then .error outside else .ok index

/-- `get(index)`. -/
def get (m : Map α) (index : UInt64) : Except MapError (Option α) :=
  m.element index |>.map fun i => m.data[i.toNat]?

/-- A write through a reference. -/
def write (m : Map α) (i : Nat) (value : α) : Map α := { m with data := m.data.set i value }

end Map

/-! ## Objects -/

/-- The live objects. -/
abbrev Maps (α : Type) := Table (Map α)

/-- A constructor and its arguments. -/
inductive MapConstructor (α : Type)
  | default
  | filled (width height : UInt64) (value : α)
  | ofData (width height : UInt64) (data : List α)
  | copy (j : Nat)
  | move (j : Nat)

/-- Where a write goes: through `front()`, `at`, an element of a `row`, or by `set`. -/
inductive MapPlace
  | front
  | at' (x y : UInt64)
  | row (y : UInt64) (k : Nat)
  | element (index : UInt64)

inductive MapCall (α : Type)
  | construct (i : Nat) (c : MapConstructor α) (memory : Bool)
  | destroy (i : Nat)
  | init (i : Nat) (width height : UInt64) (value : α) (memory : Bool)
  | copyAssign (i j : Nat) (memory : Bool)
  | moveAssign (i j : Nat)
  | swap (i j : Nat)
  | write (i : Nat) (p : MapPlace) (value : α)

namespace Maps

variable {α : Type}

open Map (default filled ofData move)

/-- What the constructor makes, beside what it leaves of the other objects. -/
def construct (s : Maps α) (memory : Bool) :
    MapConstructor α → Option (Except MapError (Map α × Maps α))
  | .default => some (.ok (default, s))
  | .filled width height value => some ((filled memory width height value).map (·, s))
  | .ofData width height data => some ((ofData memory width height data).map (·, s))
  | .copy j => (s j).map fun obj => (obj.copy memory).map (·, s)
  | .move j => (s j).map fun obj => .ok ((move obj).1, s.set j (some (move obj).2))

/-- `*this = obj`. -/
def copyAssign (s : Maps α) (i j : Nat) (memory : Bool) : Option (Except MapError Unit × Maps α) :=
  (s j).bind fun obj => (s i).map fun self =>
    match obj.copy memory with
    | .error e => (.error e, s)
    | .ok tmp => (.ok (), s.set i (some (self.swap tmp).1))

/-- `*this = std::move(obj)`; the object is read after the other has been moved from. -/
def moveAssign (s : Maps α) (i j : Nat) : Option (Except MapError Unit × Maps α) :=
  (s j).bind fun obj =>
    let s := s.set j (some (move obj).2)
    (s i).map fun self => (.ok (), s.set i (some (self.swap (move obj).1).1))

/-- The index of the element, if the place is not refused. A row's pointer may be used for
`width()` elements. -/
def place (m : Map α) : MapPlace → Option (Except MapError Nat)
  | .front => some (m.front.map (·.toNat))
  | .at' x y => some ((m.at' x y).map (·.toNat))
  | .row y k => if k < m.width.toNat then some ((m.row y).map (·.toNat + k)) else none
  | .element index => some ((m.element index).map (·.toNat))

def write (s : Maps α) (i : Nat) (p : MapPlace) (value : α) :
    Option (Except MapError Unit × Maps α) :=
  (s i).bind fun m => (place m p).bind fun r =>
    match r with
    | .error e => some (.error e, s)
    | .ok k => if k < m.data.length then some (.ok (), s.set i (some (m.write k value))) else none

/-- How the call ends, and the objects after it. -/
def call (s : Maps α) : MapCall α → Option (Except MapError Unit × Maps α)
  | .construct i c memory =>
    if s i = none then
      (construct s memory c).map fun
        | .ok (m, s) => (.ok (), s.set i (some m))
        | .error e => (.error e, s)
    else none
  | .destroy i => (s i).map fun _ => (.ok (), s.set i none)
  | .init i width height value memory => (s i).map fun m =>
    match Map.init value memory width height m with
    | .ok _ m => (.ok (), s.set i (some m))
    | .error e m => (.error e, s.set i (some m))
  | .copyAssign i j memory => copyAssign s i j memory
  | .moveAssign i j => moveAssign s i j
  | .swap i j => (s i).bind fun a => (s j).map fun b =>
    (.ok (), (s.set i (some (a.swap b).1)).set j (some (a.swap b).2))
  | .write i p value => write s i p value

def step (s : Maps α) (c : MapCall α) : Option (Maps α) := (call s c).map (·.2)

end Maps

end WSE.Impl.Wse
