import WapitiStew.Framework.Transition
import WapitiStew.Impl.Wse.Map

/-!
# The shape of a map

A map is `Shaped` when its elements are as many as its extent says, and `Guarded` when a checked
access names an element of the vector or is refused. Both hold of all objects of a run whose moves
take from maps without elements (`MovesEmpty`).
-/

namespace WSE.Spec.Wse

open WSE.Framework WSE.Impl.Wse

variable {α : Type}

/-- As many elements as the product, which is a `size_t`. -/
structure Shaped (m : Map α) : Prop where
  length : m.data.length = m.width.toNat * m.height.toNat
  representable : m.width.toNat * m.height.toNat < 2 ^ 64

/-- The access names these elements, all of them inside the vector, or reports out of range. -/
def NamesOrRefuses (m : Map α) (r : Except MapError UInt64) (first count : Nat) : Prop :=
  (∃ message, r = .error (.outOfRange message)) ∨
    ∃ i, r = .ok i ∧ i.toNat = first ∧ first + count ≤ m.data.length ∧ 0 < count

structure Guarded (m : Map α) : Prop where
  at' : ∀ x y, NamesOrRefuses m (m.at' x y) (y.toNat * m.width.toNat + x.toNat) 1
  row : ∀ y, NamesOrRefuses m (m.row y) (y.toNat * m.width.toNat) m.width.toNat
  element : ∀ index, NamesOrRefuses m (m.element index) index.toNat 1
  front : NamesOrRefuses m m.front 0 1
  inside : ∀ x y, x < m.width → y < m.height → ∃ i, m.at' x y = .ok i
  rows : ∀ y, y < m.height → 0 < m.width → ∃ i, m.row y = .ok i

def AllSound (s : Maps α) : Prop := ∀ i m, s i = some m → Shaped m ∧ Guarded m

/-- An object under this number has no elements by its extent. -/
def Without (s : Maps α) (j : Nat) : Prop := ∀ m, s j = some m → m.width = 0 ∨ m.height = 0

/-- A move takes from a map without elements, or assigns a map to itself. -/
def MovesEmpty (s : Maps α) : MapCall α → Prop
  | .construct _ (.move j) _ => Without s j
  | .moveAssign i j => i = j ∨ Without s j
  | _ => True

instance (s : Maps α) (j : Nat) : Decidable (Without s j) :=
  match h : s j with
  | none => isTrue fun _ hm => nomatch hm.symm.trans h
  | some m => decidable_of_iff (m.width = 0 ∨ m.height = 0)
      ⟨fun he _ hm => Option.some.inj (h.symm.trans hm) ▸ he, fun he => he m h⟩

instance (s : Maps α) (c : MapCall α) : Decidable (MovesEmpty s c) :=
  match c with
  | .construct _ (.move j) _ => inferInstanceAs (Decidable (Without s j))
  | .construct _ .default _ | .construct _ (.filled ..) _ | .construct _ (.ofData ..) _
  | .construct _ (.copy _) _ => isTrue trivial
  | .moveAssign i j => inferInstanceAs (Decidable (i = j ∨ Without s j))
  | .destroy _ | .init .. | .copyAssign .. | .swap .. | .write .. => isTrue trivial

end WSE.Spec.Wse
