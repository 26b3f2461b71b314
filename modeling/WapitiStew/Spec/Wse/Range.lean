import WapitiStew.Framework.Transition
import WapitiStew.Impl.Wse.Range

/-!
# Ranges that are never inverted

A program keeps its ranges when every call leaves all of them upright, and as they were if it throws
(`KeepsRanges`). The calls that can be trusted to are those that `Suits` describes.
-/

namespace WSE.Spec.Wse

open WSE.Framework WSE.Impl.Wse

/-- On each axis, the minimum is at most the maximum. -/
def Upright : AnyRange → Prop
  | .range1 r => r.minimum ≤ r.maximum
  | .range2 r => r.minX ≤ r.maxX ∧ r.minY ≤ r.maxY
  | .range3 r => r.minX ≤ r.maxX ∧ r.minY ≤ r.maxY ∧ r.minZ ≤ r.maxZ

instance : DecidablePred Upright
  | .range1 r => inferInstanceAs (Decidable (r.minimum ≤ r.maximum))
  | .range2 r => inferInstanceAs (Decidable (r.minX ≤ r.maxX ∧ r.minY ≤ r.maxY))
  | .range3 r => inferInstanceAs (Decidable (r.minX ≤ r.maxX ∧ r.minY ≤ r.maxY ∧ r.minZ ≤ r.maxZ))

def NeverInverted (s : RangeObjects) : Prop := ∀ o, some o ∈ s → Upright o.range

/-- Every object is upright after the call, and none has changed if it throws. -/
def KeepsUpright (overflow : Int → Int → Int) (s : RangeObjects) (c : RangeCall) : Prop :=
  ∀ result s', s.perform overflow c = some (result, s') →
    NeverInverted s' ∧ ∀ e, result = .error e → s' = s

/-- In every state of the run, the next call keeps the ranges. -/
def KeepsRanges (overflow : Int → Int → Int) (calls : List RangeCall) : Prop :=
  Along (rangeStep overflow) (KeepsUpright overflow) [] calls

section

variable (overflow : Int → Int → Int) (s : RangeObjects)

/-- A setup or a setter is given a minimum that is at most the maximum, on each axis that it sets. A
size is added to its start without coming out below it. -/
def Suits : RangeCall → Prop
  | .setup1 name (.bounds minimum maximum) => ∀ t r, s.object name = some ⟨t, .range1 r⟩ →
    t.cast minimum ≤ t.cast maximum
  | .setup2 name (.bounds xMin xMax yMin yMax) => ∀ t r, s.object name = some ⟨t, .range2 r⟩ →
    t.cast xMin ≤ t.cast xMax ∧ t.cast yMin ≤ t.cast yMax
  | .setup2 name (.points minimum maximum) => ∀ t r, s.object name = some ⟨t, .range2 r⟩ →
    t.cast minimum.x ≤ t.cast maximum.x ∧ t.cast minimum.y ≤ t.cast maximum.y
  | .setup2 name (.area start size) => ∀ t r, s.object name = some ⟨t, .range2 r⟩ →
    t.cast start.x ≤ t.add overflow (t.cast start.x) (t.cast size.width) ∧
      t.cast start.y ≤ t.add overflow (t.cast start.y) (t.cast size.height)
  | .setup3 name (.bounds xMin xMax yMin yMax zMin zMax) =>
    ∀ t r, s.object name = some ⟨t, .range3 r⟩ →
      t.cast xMin ≤ t.cast xMax ∧ t.cast yMin ≤ t.cast yMax ∧ t.cast zMin ≤ t.cast zMax
  | .setup3 name (.points minimum maximum) => ∀ t r, s.object name = some ⟨t, .range3 r⟩ →
    t.cast minimum.x ≤ t.cast maximum.x ∧ t.cast minimum.y ≤ t.cast maximum.y ∧
      t.cast minimum.z ≤ t.cast maximum.z
  | .setMinX name value => ∀ t r, s.object name = some ⟨t, .range2 r⟩ → t.cast value ≤ r.maxX
  | .setMaxX name value => ∀ t r, s.object name = some ⟨t, .range2 r⟩ → r.minX ≤ t.cast value
  | .setMinY name value => ∀ t r, s.object name = some ⟨t, .range2 r⟩ → t.cast value ≤ r.maxY
  | .setMaxY name value => ∀ t r, s.object name = some ⟨t, .range2 r⟩ → r.minY ≤ t.cast value
  | _ => True

end

end WSE.Spec.Wse
