import Mathlib.Algebra.Group.Int.Defs
import Mathlib.Algebra.GroupWithZero.Nat
import Mathlib.Control.Monad.Basic

/-!
# Ranges

`Range1_`, `Range2_` and `Range3_` of `api/wse/data/`, at the integer types, and the programs that
use them. The converting copy constructors are left out: they read the members of another type and
do not compile. An exception is `std::invalid_argument`, with its text.
-/

namespace WSE.Impl.Wse

/-! ## Integers -/

inductive IntegerType
  | s8 | u8 | s16 | u16 | s32 | u32 | s64 | u64
  deriving DecidableEq

namespace IntegerType

def bits : IntegerType → Nat
  | s8 | u8 => 8
  | s16 | u16 => 16
  | s32 | u32 => 32
  | s64 | u64 => 64

def signed : IntegerType → Bool
  | s8 | s16 | s32 | s64 => true
  | u8 | u16 | u32 | u64 => false

/-- The conversion of a value to the type. -/
def cast (t : IntegerType) (v : Int) : Int :=
  if t.signed then v.bmod (2 ^ t.bits) else v % 2 ^ t.bits

/-- A sum of two values of the type, assigned to one. Narrow types are added as `int` and converted
back. A signed sum that overflows is undefined: `overflow` is what comes of it. -/
def add (overflow : Int → Int → Int) (t : IntegerType) (a b : Int) : Int :=
  if t.signed && 32 ≤ t.bits && t.cast (a + b) ≠ a + b then overflow a b else t.cast (a + b)

end IntegerType

/-! ## Ranges -/

structure Range1 where
  minimum : Int := 0
  maximum : Int := 0
  deriving DecidableEq

structure Range2 where
  minX : Int := 0
  maxX : Int := 0
  minY : Int := 0
  maxY : Int := 0
  deriving DecidableEq

structure Range3 where
  minX : Int := 0
  maxX : Int := 0
  minY : Int := 0
  maxY : Int := 0
  minZ : Int := 0
  maxZ : Int := 0
  deriving DecidableEq

/-- A range of any dimension. -/
inductive AnyRange
  | range1 (r : Range1)
  | range2 (r : Range2)
  | range3 (r : Range3)
  deriving DecidableEq

/-- The ranges of one dimension: when `checkMemberSetting` throws, and how they are among all. -/
class RangeLike (ρ : Type) where
  inverted : ρ → Bool
  toAny : ρ → AnyRange
  ofAny : AnyRange → Option ρ
  ofAny_eq_some : ∀ {a : AnyRange} {r : ρ}, ofAny a = some r ↔ a = toAny r

instance : RangeLike Range1 where
  inverted r := r.minimum > r.maximum
  toAny := .range1
  ofAny
    | .range1 r => some r
    | _ => none
  ofAny_eq_some {a r} := by cases a <;> simp

instance : RangeLike Range2 where
  inverted r := r.minX > r.maxX || r.minY > r.maxY
  toAny := .range2
  ofAny
    | .range2 r => some r
    | _ => none
  ofAny_eq_some {a r} := by cases a <;> simp

instance : RangeLike Range3 where
  inverted r := r.minX > r.maxX || r.minY > r.maxY || r.minZ > r.maxZ
  toAny := .range3
  ofAny
    | .range3 r => some r
    | _ => none
  ofAny_eq_some {a r} := by cases a <;> simp

def invertedMessage : String := "the range minimum must not exceed the maximum"

section

variable {ρ : Type} [RangeLike ρ]

def checkMemberSetting : EStateM String ρ Unit := do
  if RangeLike.inverted (← get) then throw invertedMessage

/-- A setup or a setter: it writes the members, then checks them. -/
def writeMembers (f : ρ → ρ) : EStateM String ρ Unit := do
  modify f
  checkMemberSetting

/-- A constructor that checks what it has made. An object whose constructor throws never lives. -/
def makeChecked (r : ρ) : Except String ρ :=
  match checkMemberSetting r with
  | .ok _ r => .ok r
  | .error e _ => .error e

end

namespace Range2

def setMinX (value : Int) : EStateM String Range2 Unit := writeMembers ({ · with minX := value })

def setMaxX (value : Int) : EStateM String Range2 Unit := writeMembers ({ · with maxX := value })

def setMinY (value : Int) : EStateM String Range2 Unit := writeMembers ({ · with minY := value })

def setMaxY (value : Int) : EStateM String Range2 Unit := writeMembers ({ · with maxY := value })

end Range2

/-! ## Programs -/

structure RangeObject where
  type : IntegerType
  range : AnyRange
  deriving DecidableEq

/-- The objects by their names; an object that is destroyed is `none`. -/
abbrev RangeObjects := List (Option RangeObject)

def RangeObjects.object (s : RangeObjects) (name : Nat) : Option RangeObject := s[name]?.join

/-- A one-dimensional range of the type, as an argument. -/
def RangeObjects.argument (s : RangeObjects) (t : IntegerType) (name : Nat) : Option Range1 := do
  let o ← s.object name
  if o.type = t then RangeLike.ofAny o.range else none

/-- `Point2_`. -/
structure IntPoint2 where
  x : Int
  y : Int
  deriving DecidableEq

/-- `Point3_`. -/
structure IntPoint3 where
  x : Int
  y : Int
  z : Int
  deriving DecidableEq

/-- `Size_`. -/
structure IntSize where
  width : Int
  height : Int
  deriving DecidableEq

/-- The arguments of `Range1_::setup`; a range is the name of an object. -/
inductive Setup1
  | bounds (minimum maximum : Int)
  | range (name : Nat)
  deriving DecidableEq

/-- The arguments of `Range2_::setup`, and of the constructors that check. -/
inductive Setup2
  | bounds (xMin xMax yMin yMax : Int)
  | points (minimum maximum : IntPoint2)
  | area (start : IntPoint2) (size : IntSize)
  | ranges (xRange yRange : Nat)
  deriving DecidableEq

/-- The arguments of `Range3_::setup`, and of the constructors that check. -/
inductive Setup3
  | bounds (xMin xMax yMin yMax zMin zMax : Int)
  | points (minimum maximum : IntPoint3)
  | ranges (xRange yRange zRange : Nat)
  deriving DecidableEq

section

variable (overflow : Int → Int → Int) (s : RangeObjects) (t : IntegerType)

/-- The members that are written. -/
def Setup1.members : Setup1 → Option Range1
  | bounds minimum maximum => some ⟨t.cast minimum, t.cast maximum⟩
  | range name => s.argument t name

def Setup2.members : Setup2 → Option Range2
  | bounds xMin xMax yMin yMax => some ⟨t.cast xMin, t.cast xMax, t.cast yMin, t.cast yMax⟩
  | points minimum maximum =>
    some ⟨t.cast minimum.x, t.cast maximum.x, t.cast minimum.y, t.cast maximum.y⟩
  | area start size =>
    some ⟨t.cast start.x, t.add overflow (t.cast start.x) (t.cast size.width),
      t.cast start.y, t.add overflow (t.cast start.y) (t.cast size.height)⟩
  | ranges xRange yRange => do
    let x ← s.argument t xRange
    let y ← s.argument t yRange
    some ⟨x.minimum, x.maximum, y.minimum, y.maximum⟩

def Setup3.members : Setup3 → Option Range3
  | bounds xMin xMax yMin yMax zMin zMax =>
    some ⟨t.cast xMin, t.cast xMax, t.cast yMin, t.cast yMax, t.cast zMin, t.cast zMax⟩
  | points minimum maximum =>
    some ⟨t.cast minimum.x, t.cast maximum.x, t.cast minimum.y, t.cast maximum.y,
      t.cast minimum.z, t.cast maximum.z⟩
  | ranges xRange yRange zRange => do
    let x ← s.argument t xRange
    let y ← s.argument t yRange
    let z ← s.argument t zRange
    some ⟨x.minimum, x.maximum, y.minimum, y.maximum, z.minimum, z.maximum⟩

end

/-- The calls of a program. Objects are named in the order of their construction. -/
inductive RangeCall
  | default1 (type : IntegerType)
  | default2 (type : IntegerType)
  | default3 (type : IntegerType)
  | construct1 (type : IntegerType) (minimum maximum : Int)
  | construct2 (type : IntegerType) (arguments : Setup2)
  | construct3 (type : IntegerType) (arguments : Setup3)
  | copyConstruct (source : Nat)
  | moveConstruct (source : Nat)
  | copyAssign (object source : Nat)
  | moveAssign (object source : Nat)
  | swap (first second : Nat)
  | setup1 (object : Nat) (arguments : Setup1)
  | setup2 (object : Nat) (arguments : Setup2)
  | setup3 (object : Nat) (arguments : Setup3)
  | setMinX (object : Nat) (value : Int)
  | setMaxX (object : Nat) (value : Int)
  | setMinY (object : Nat) (value : Int)
  | setMaxY (object : Nat) (value : Int)
  | destroy (object : Nat)
  deriving DecidableEq

/-- How a call ends, and the objects after it. -/
abbrev RangeOutcome := Except String Unit × RangeObjects

def AnyRange.dimension : AnyRange → Nat
  | range1 _ => 1
  | range2 _ => 2
  | range3 _ => 3

namespace RangeObjects

variable (s : RangeObjects)

def make {ρ : Type} [RangeLike ρ] (t : IntegerType) : Except String ρ → RangeOutcome
  | .ok r => (.ok (), s ++ [some ⟨t, RangeLike.toAny r⟩])
  | .error e => (.error e, s)

/-- A method of one class, on an object of it. -/
def call {ρ : Type} [RangeLike ρ] (name : Nat)
    (method : IntegerType → Option (EStateM String ρ Unit)) : Option RangeOutcome := do
  let o ← s.object name
  let r ← RangeLike.ofAny o.range
  let m ← method o.type
  match m r with
  | .ok _ r => some (.ok (), s.set name (some { o with range := RangeLike.toAny r }))
  | .error e r => some (.error e, s.set name (some { o with range := RangeLike.toAny r }))

/-- A setup of an object. -/
def setup {ρ : Type} [RangeLike ρ] (name : Nat) (members : IntegerType → Option ρ) :
    Option RangeOutcome :=
  s.call name fun t => (members t).map fun r => writeMembers fun _ => r

/-- Two objects of one class. -/
def pair (first second : Nat) : Option (RangeObject × RangeObject) := do
  let o ← s.object first
  let p ← s.object second
  if o.type = p.type ∧ o.range.dimension = p.range.dimension then some (o, p) else none

/-- `none` is a call that no program has: there is no such object, or it is of another class. -/
def perform (overflow : Int → Int → Int) : RangeCall → Option RangeOutcome
  | .default1 t => s.make t (.ok ({} : Range1))
  | .default2 t => s.make t (.ok ({} : Range2))
  | .default3 t => s.make t (.ok ({} : Range3))
  | .construct1 t minimum maximum =>
    s.make t (makeChecked (⟨t.cast minimum, t.cast maximum⟩ : Range1))
  | .construct2 t arguments => do
    let r ← arguments.members overflow s t
    s.make t (makeChecked r)
  | .construct3 t arguments => do
    let r ← arguments.members s t
    s.make t (makeChecked r)
  | .copyConstruct source | .moveConstruct source => do
    let o ← s.object source
    some (.ok (), s ++ [some o])
  -- a copy of the source, or what was moved from it, is swapped with the object
  | .copyAssign object source | .moveAssign object source => do
    let (_, p) ← s.pair object source
    some (.ok (), s.set object (some p))
  | .swap first second => do
    let (o, p) ← s.pair first second
    some (.ok (), (s.set first (some p)).set second (some o))
  | .setup1 object arguments => s.setup object fun t => arguments.members s t
  | .setup2 object arguments => s.setup object fun t => arguments.members overflow s t
  | .setup3 object arguments => s.setup object fun t => arguments.members s t
  | .setMinX object value => s.call object fun t => some (Range2.setMinX (t.cast value))
  | .setMaxX object value => s.call object fun t => some (Range2.setMaxX (t.cast value))
  | .setMinY object value => s.call object fun t => some (Range2.setMinY (t.cast value))
  | .setMaxY object value => s.call object fun t => some (Range2.setMaxY (t.cast value))
  | .destroy object => do
    let _ ← s.object object
    some (.ok (), s.set object none)

end RangeObjects

/-- A step of a program. -/
def rangeStep (overflow : Int → Int → Int) (s : RangeObjects) (c : RangeCall) :
    Option RangeObjects := (s.perform overflow c).map (·.2)

end WSE.Impl.Wse
