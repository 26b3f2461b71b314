import Mathlib.LinearAlgebra.FiniteDimensional.Lemmas

/-!
# Linear maps up to a scalar

A projective point is a vector up to a scalar, and a linear map acts on such points. A frame is a
basis together with one more vector, whose coordinates are not zero: a map that takes each of its
vectors where another one does, up to scalars, is that one, up to one scalar (`smul_of_frame`).
-/

namespace WSE.Framework

variable {ι K V W : Type*} [Field K] [AddCommGroup V] [Module K V] [AddCommGroup W] [Module K W]

theorem smul_of_frame [Fintype ι] {f g : V →ₗ[K] W} {v : ι → V} {c : ι → K}
    (hspan : Submodule.span K (Set.range v) = ⊤) (hf : LinearIndependent K (f ∘ v))
    (hc : ∀ i, c i ≠ 0) {a : ι → K} {b : K} (hv : ∀ i, g (v i) = a i • f (v i))
    (he : g (∑ i, c i • v i) = b • f (∑ i, c i • v i)) : g = b • f := by
  have hsum : ∑ i, (c i * a i - b * c i) • f (v i) = 0 := by
    simp only [map_sum, map_smul, hv, Finset.smul_sum, smul_smul] at he
    simp only [sub_smul, Finset.sum_sub_distrib, he, sub_self]
  have hcoefficients := Fintype.linearIndependent_iff.mp hf _ hsum
  refine LinearMap.ext_on_range hspan fun i => ?_
  have ha : a i = b := mul_left_cancel₀ (hc i) (by
    rw [sub_eq_zero.mp (hcoefficients i), mul_comm])
  rw [hv i, ha]
  rfl

/-- A map is injective that takes spanning vectors to independent ones. -/
theorem ker_eq_bot_of_independent [Fintype ι] {f : V →ₗ[K] W} {v : ι → V}
    (hspan : Submodule.span K (Set.range v) = ⊤) (hf : LinearIndependent K (f ∘ v)) :
    LinearMap.ker f = ⊥ := by
  refine (Submodule.eq_bot_iff _).mpr fun x hx => ?_
  have hmem : x ∈ Submodule.span K (Set.range v) := hspan ▸ Submodule.mem_top
  obtain ⟨c, rfl⟩ := (Submodule.mem_span_range_iff_exists_fun K).mp hmem
  have hsum : ∑ i, c i • (f ∘ v) i = 0 := by
    rw [← LinearMap.mem_ker.mp hx, map_sum]
    exact Finset.sum_congr rfl fun i _ => (map_smul f (c i) (v i)).symm
  have hc := Fintype.linearIndependent_iff.mp hf c hsum
  exact Finset.sum_eq_zero fun i _ => by rw [hc i, zero_smul]

/-- An injective map takes dependent vectors, and no others, to dependent ones, up to scalars. -/
theorem linearIndependent_of_smul {f : V →ₗ[K] W} (hf : LinearMap.ker f = ⊥) {v : ι → V}
    {w : ι → W} {a : ι → K} (ha : ∀ i, a i ≠ 0) (hv : ∀ i, f (v i) = a i • w i) :
    LinearIndependent K w ↔ LinearIndependent K v := by
  have hscaled : f ∘ v = (fun i => Units.mk0 (a i) (ha i)) • w := funext hv
  rw [← f.linearIndependent_iff hf, hscaled, LinearIndependent.units_smul_iff]

end WSE.Framework
