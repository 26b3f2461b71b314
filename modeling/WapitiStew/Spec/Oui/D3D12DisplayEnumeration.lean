import Mathlib.Data.Nat.Cast.Order.Ring
import Mathlib.Data.Prod.Lex
import Mathlib.Algebra.Order.Ring.Unbundled.Rat
import WapitiStew.Impl.Oui.D3D12DisplayEnumeration

/-!
# Lists of display modes

Modes are compared by their rank: the extent, the refresh rate as a number, and then what is left.
The list that stands for the modes of a display is strictly increasing in that order, and has each
of them once (`ModesListed`).
-/

namespace WSE.Spec.Oui

open WSE.Framework WSE.Impl.Oui

/-- What a mode is compared by. -/
def rank (m : DisplayMode) : ℕ ×ₗ ℕ ×ₗ ℚ ×ₗ Bool ×ₗ ℕ :=
  toLex (m.extent.width, toLex (m.extent.height,
    toLex ((m.refreshRateNumerator : ℚ) / m.refreshRateDenominator,
      toLex (m.interlaced, m.format.toNat))))

/-- The fields are `std::uint32_t`s. -/
structure Fits32 (m : DisplayMode) : Prop where
  width : m.extent.width < 2 ^ 32
  height : m.extent.height < 2 ^ 32
  numerator : m.refreshRateNumerator < 2 ^ 32
  denominator : m.refreshRateDenominator < 2 ^ 32

/-- A display that has names and a desktop. -/
structure Named (d : NamedDisplayDescription) : Prop where
  id : d.id ≠ ""
  adapterId : d.adapterId ≠ ""
  adapterName : d.adapterName ≠ ""
  displayName : d.displayName ≠ ""
  desktop : d.desktopExtent.empty = false

/-- `listed` is the list that stands for the modes that were collected, of which `current` is
one. -/
structure ModesListed (current : DisplayMode) (collected listed : List DisplayMode) : Prop where
  order : StrictWeakOn displayModeLess collected
  exact : ∀ a ∈ collected, ∀ b ∈ collected,
    a.refreshRateNumerator * b.refreshRateDenominator < 2 ^ 64
  increasing : listed.Pairwise fun a b => displayModeLess a b = true
  distinct : listed.Pairwise fun a b => isSameDisplayMode a b = false
  kept : ∀ a ∈ collected, ∃ b ∈ listed, isSameDisplayMode b a = true
  nothingElse : ∀ b ∈ listed, ∃ a ∈ collected, isSameDisplayMode b a = true
  found : ∀ d, Named d →
    validateDisplayDescription { d with currentMode := current, modes := listed } = .ok ()

/-- Modes whose refresh rates are zero, and that agree besides, write it the same way. -/
def ZeroRatesAgree (modes : List DisplayMode) : Prop :=
  ∀ a ∈ modes, ∀ b ∈ modes, a.refreshRateNumerator = 0 → b.refreshRateNumerator = 0 →
    a.extent = b.extent → a.format = b.format → a.interlaced = b.interlaced →
    a.refreshRateDenominator = b.refreshRateDenominator

instance (modes : List DisplayMode) : Decidable (ZeroRatesAgree modes) :=
  inferInstanceAs (Decidable (∀ a ∈ modes, ∀ b ∈ modes, _))

end WSE.Spec.Oui
