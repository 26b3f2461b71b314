import Mathlib.Logic.Relation
import WapitiStew.Framework.Throwing

/-!
# What a computation ensures, and by which steps

A `Guarantee` is a relation of steps with an invariant that the steps keep. `Ensures G P x Q E`:
from a state that meets the invariant and `P`, the computation `x` ends in one that meets `Q`
with its value, or `E` with its exception, and what it does to the state is a sequence of steps
of `G`. The rules follow the constructs of `EStateM`; each of them has the invariant at hand, so
that the conditions only say where the computation is.
-/

namespace WSE.Framework

open Relation

structure Guarantee (σ : Type) where
  step : σ → σ → Prop
  inv : σ → Prop
  keeps : ∀ {s t}, step s t → inv s → inv t

variable {ε σ α β : Type}

/-- How a computation may end. -/
def Meets (Q : α → σ → Prop) (E : ε → σ → Prop) : EStateM.Result ε σ α → Prop
  | .ok a t => Q a t
  | .error e t => E e t

theorem Guarantee.inv_of_steps (G : Guarantee σ) {s t : σ} (h : ReflTransGen G.step s t)
    (hs : G.inv s) : G.inv t := by
  induction h with
  | refl => exact hs
  | tail _ ht ih => exact G.keeps ht ih

def Ensures (G : Guarantee σ) (P : σ → Prop) (x : EStateM ε σ α) (Q : α → σ → Prop)
    (E : ε → σ → Prop) : Prop :=
  ∀ s, G.inv s → P s → ReflTransGen G.step s (lastState (x s)) ∧ Meets Q E (x s)

namespace Ensures

variable {G : Guarantee σ} {P P' : σ → Prop} {Q Q' : α → σ → Prop} {S : β → σ → Prop}
  {E E' : ε → σ → Prop} {x : EStateM ε σ α} {f : α → EStateM ε σ β}

protected theorem pure {a : α} (h : ∀ s, G.inv s → P s → Q a s) : Ensures G P (pure a) Q E :=
  fun s hi hs => ⟨.refl, h s hi hs⟩

protected theorem throw {e : ε} (h : ∀ s, G.inv s → P s → E e s) :
    Ensures G P (throw e : EStateM ε σ α) Q E :=
  fun s hi hs => ⟨.refl, h s hi hs⟩

protected theorem modify {f : σ → σ} {Q : PUnit → σ → Prop}
    (h : ∀ s, G.inv s → P s → ReflTransGen G.step s (f s) ∧ Q ⟨⟩ (f s)) :
    Ensures G P (modify f) Q E :=
  fun s hi hs => h s hi hs

/-- One step. -/
theorem step {f : σ → σ} {Q : PUnit → σ → Prop}
    (h : ∀ s, G.inv s → P s → G.step s (f s) ∧ (G.inv (f s) → Q ⟨⟩ (f s))) :
    Ensures G P (modify f) Q E :=
  fun s hi hs => ⟨.single (h s hi hs).1, (h s hi hs).2 (G.keeps (h s hi hs).1 hi)⟩

protected theorem bind (hx : Ensures G P x Q E) (hf : ∀ a, Ensures G (Q a) (f a) S E) :
    Ensures G P (x >>= f) S E := by
  intro s hi hs
  obtain ⟨hr, hq⟩ := hx s hi hs
  cases hxs : x s with
  | ok a t =>
    rw [hxs] at hr hq
    obtain ⟨hr', hq'⟩ := hf a t (G.inv_of_steps hr hi) hq
    rw [bind_ok hxs]
    exact ⟨hr.trans hr', hq'⟩
  | error e t =>
    rw [hxs] at hr hq
    rw [bind_error hxs]
    exact ⟨hr, hq⟩

theorem imp (h : Ensures G P x Q E) (hP : ∀ s, G.inv s → P' s → P s)
    (hQ : ∀ a s, G.inv s → Q a s → Q' a s) (hE : ∀ e s, G.inv s → E e s → E' e s) :
    Ensures G P' x Q' E' := by
  intro s hi hs
  obtain ⟨hr, hq⟩ := h s hi (hP s hi hs)
  refine ⟨hr, ?_⟩
  have hi' := G.inv_of_steps hr hi
  cases hxs : x s with
  | ok a t =>
    rw [hxs] at hi' hq
    exact hQ a t hi' hq
  | error e t =>
    rw [hxs] at hi' hq
    exact hE e t hi' hq

theorem before (h : Ensures G P x Q E) (hP : ∀ s, G.inv s → P' s → P s) : Ensures G P' x Q E :=
  h.imp hP (fun _ _ _ => id) (fun _ _ _ => id)

theorem after (h : Ensures G P x Q E) (hQ : ∀ a s, G.inv s → Q a s → Q' a s) :
    Ensures G P x Q' E :=
  h.imp (fun _ _ => id) hQ (fun _ _ _ => id)

theorem error (h : Ensures G P x Q E) (hE : ∀ e s, G.inv s → E e s → E' e s) :
    Ensures G P x Q E' :=
  h.imp (fun _ _ => id) (fun _ _ _ => id) hE

/-- What the state determines may be named before the computation. -/
theorem exists_pre {ι : Sort*} {P : ι → σ → Prop} (h : ∀ i, Ensures G (P i) x Q E) :
    Ensures G (fun s => ∃ i, P i s) x Q E :=
  fun s hi ⟨i, hs⟩ => h i s hi hs

theorem and_pre {p : Prop} (h : p → Ensures G P x Q E) : Ensures G (fun s => p ∧ P s) x Q E :=
  fun s hi hs => h hs.1 s hi hs.2

/-- What holds of every state that meets the precondition may be assumed. -/
theorem assume {p : Prop} (hp : ∀ s, G.inv s → P s → p) (h : p → Ensures G P x Q E) :
    Ensures G P x Q E :=
  fun s hi hs => h (hp s hi hs) s hi hs

/-- The state that is read is the one at hand. -/
theorem get_bind {f : σ → EStateM ε σ β}
    (h : ∀ s, G.inv s → P s → Ensures G (· = s) (f s) S E) : Ensures G P (get >>= f) S E :=
  fun s hi hs => h s hi hs s hi rfl

protected theorem ite {c : Prop} [Decidable c] {y : EStateM ε σ α} (hx : c → Ensures G P x Q E)
    (hy : ¬c → Ensures G P y Q E) : Ensures G P (if c then x else y) Q E := by
  split
  · rename_i hc
    exact hx hc
  · rename_i hc
    exact hy hc

protected theorem tryCatch {h : ε → EStateM ε σ α} {E : ε → σ → Prop} (hx : Ensures G P x Q E)
    (hh : ∀ e, Ensures G (E e) (h e) Q E') : Ensures G P (tryCatch x h) Q E' := by
  intro s hi hs
  obtain ⟨hr, hq⟩ := hx s hi hs
  show ReflTransGen G.step s (lastState (EStateM.tryCatch x h s)) ∧
    Meets Q E' (EStateM.tryCatch x h s)
  cases hxs : x s with
  | ok a t =>
    rw [hxs] at hr hq
    delta EStateM.tryCatch
    rw [hxs]
    exact ⟨hr, hq⟩
  | error e t =>
    rw [hxs] at hr hq
    delta EStateM.tryCatch
    rw [hxs]
    obtain ⟨hr', hq'⟩ := hh e t (G.inv_of_steps hr hi) hq
    exact ⟨hr.trans hr', hq'⟩

/-- A loop keeps what each turn keeps; `I` knows what is left to do. -/
protected theorem forM {ι : Type} {I : List ι → σ → Prop} {g : ι → EStateM ε σ PUnit}
    (is : List ι) (h : ∀ i is, Ensures G (I (i :: is)) (g i) (fun _ => I is) E) :
    Ensures G (I is) (is.forM g) (fun _ => I []) E := by
  induction is with
  | nil => exact Ensures.pure fun _ _ => id
  | cons i is ih => exact Ensures.bind (h i is) fun _ => ih

protected theorem discard {Q : σ → Prop} (h : Ensures G P x (fun _ => Q) E) :
    Ensures G P (discard x) (fun _ => Q) E := by
  intro s hi hs
  obtain ⟨hr, hq⟩ := h s hi hs
  show ReflTransGen G.step s (lastState (EStateM.map (fun _ => PUnit.unit) x s)) ∧
    Meets (fun _ => Q) E (EStateM.map (fun _ => PUnit.unit) x s)
  cases hxs : x s with
  | ok a t =>
    rw [hxs] at hr hq
    simp only [EStateM.map, hxs]
    exact ⟨hr, hq⟩
  | error e t =>
    rw [hxs] at hr hq
    simp only [EStateM.map, hxs]
    exact ⟨hr, hq⟩

end Ensures

/-- What every step keeps is kept by a sequence of steps. -/
theorem keeps_of_steps {R : σ → σ → Prop} {I : σ → Prop} (hI : ∀ s t, R s t → I s → I t) {s t : σ}
    (h : ReflTransGen R s t) (hs : I s) : I t := by
  induction h with
  | refl => exact hs
  | tail _ ht ih => exact hI _ _ ht ih

end WSE.Framework
