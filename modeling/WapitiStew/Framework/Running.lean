/-!
# Computations that may still be running

`Running σ α` is a computation on a state whose loops run on fuel: `none` says
that the fuel was used up. A computation that ends is taken apart at its binds
(`bind_eq_some`), and put together from what its parts do (`bind_some`).

* `Holds P x Q`: from a state that meets `P`, an end of `x` meets `Q`.
* `Ends P x Q`: from such a state `x` does end, and so.
* `Yields P x Q`: the same of a computation that has no loop on fuel.
-/

namespace WSE.Framework

variable {σ α β : Type}

abbrev Running (σ : Type) := StateT σ Option

/-- The computation that is still running. -/
def stillRunning : Running σ α := fun _ => none

namespace Running

theorem bind_some {x : Running σ α} {f : α → Running σ β} {s t : σ} {a : α}
    (h : x s = some (a, t)) : (x >>= f) s = f a t := by
  show (x s).bind (fun p => f p.1 p.2) = f a t
  rw [h, Option.bind_some]

theorem bind_eq_some {x : Running σ α} {f : α → Running σ β} {s : σ} {r : β × σ} :
    (x >>= f) s = some r ↔ ∃ a t, x s = some (a, t) ∧ f a t = some r := by
  show (x s).bind (fun p => f p.1 p.2) = some r ↔ _
  rw [Option.bind_eq_some_iff]
  exact Prod.exists

@[simp] theorem pure_run (a : α) (s : σ) : (pure a : Running σ α) s = some (a, s) := rfl

@[simp] theorem get_run (s : σ) : (get : Running σ σ) s = some (s, s) := rfl

@[simp] theorem modify_run (f : σ → σ) (s : σ) :
    (modify f : Running σ PUnit) s = some (⟨⟩, f s) := rfl

/-! ## Pre- and postconditions -/

def Holds (P : σ → Prop) (x : Running σ α) (Q : α → σ → Prop) : Prop :=
  ∀ s a t, P s → x s = some (a, t) → Q a t

def Ends (P : σ → Prop) (x : Running σ α) (Q : α → σ → Prop) : Prop :=
  ∀ s, P s → ∃ a t, x s = some (a, t) ∧ Q a t

variable {P : σ → Prop} {Q : α → σ → Prop} {R : β → σ → Prop} {x : Running σ α}
  {f : α → Running σ β}

theorem Holds.pure {a : α} (h : ∀ s, P s → Q a s) : Holds P (pure a) Q := by
  intro s b t hs hr
  cases hr
  exact h s hs

theorem Holds.bind (hx : Holds P x Q) (hf : ∀ a, Holds (Q a) (f a) R) : Holds P (x >>= f) R := by
  intro s b t hs hr
  obtain ⟨a, u, hx', hf'⟩ := bind_eq_some.mp hr
  exact hf a u b t (hx s a u hs hx') hf'

theorem Holds.modify {f : σ → σ} {Q : PUnit → σ → Prop} (h : ∀ s, P s → Q ⟨⟩ (f s)) :
    Holds P (modify f) Q := by
  intro s a t hs hr
  cases hr
  exact h s hs

theorem Holds.running : Holds P (stillRunning : Running σ α) Q := fun _ _ _ _ hr => nomatch hr

theorem Holds.imp {P' : σ → Prop} {Q' : α → σ → Prop} (h : Holds P x Q)
    (hP : ∀ s, P' s → P s) (hQ : ∀ a s, Q a s → Q' a s) : Holds P' x Q' :=
  fun s a t hs hr => hQ a t (h s a t (hP s hs) hr)

theorem Holds.ite {c : Prop} [Decidable c] {y : Running σ α}
    (hx : c → Holds P x Q) (hy : ¬c → Holds P y Q) : Holds P (if c then x else y) Q := by
  split
  · rename_i hc
    exact hx hc
  · rename_i hc
    exact hy hc

theorem Ends.pure {a : α} (h : ∀ s, P s → Q a s) : Ends P (pure a) Q :=
  fun s hs => ⟨a, s, rfl, h s hs⟩

theorem Ends.bind (hx : Ends P x Q) (hf : ∀ a, Ends (Q a) (f a) R) : Ends P (x >>= f) R := by
  intro s hs
  obtain ⟨a, u, hx', hq⟩ := hx s hs
  obtain ⟨b, t, hf', hr⟩ := hf a u hq
  exact ⟨b, t, (bind_some hx').trans hf', hr⟩

theorem Ends.get : Ends P (get : Running σ σ) fun a s => a = s ∧ P s :=
  fun s hs => ⟨s, s, rfl, rfl, hs⟩

theorem Ends.modify {f : σ → σ} {Q : PUnit → σ → Prop} (h : ∀ s, P s → Q ⟨⟩ (f s)) :
    Ends P (modify f) Q :=
  fun s hs => ⟨⟨⟩, f s, rfl, h s hs⟩

theorem Ends.ite {c : Prop} [Decidable c] {y : Running σ α}
    (hx : c → Ends P x Q) (hy : ¬c → Ends P y Q) : Ends P (if c then x else y) Q := by
  split
  · rename_i hc
    exact hx hc
  · rename_i hc
    exact hy hc

theorem Ends.imp {P' : σ → Prop} {Q' : α → σ → Prop} (h : Ends P x Q)
    (hP : ∀ s, P' s → P s) (hQ : ∀ a s, Q a s → Q' a s) : Ends P' x Q' := by
  intro s hs
  obtain ⟨a, t, hr, hq⟩ := h s (hP s hs)
  exact ⟨a, t, hr, hQ a t hq⟩

theorem Ends.discard {Q : σ → Prop} (h : Ends P x fun _ t => Q t) :
    Ends P (discard x) fun _ t => Q t := by
  intro s hs
  obtain ⟨a, t, hr, hq⟩ := h s hs
  refine ⟨⟨⟩, t, ?_, hq⟩
  show (x s).bind (fun p => some (PUnit.unit, p.2)) = some (PUnit.unit, t)
  rw [hr, Option.bind_some]

theorem Holds.discard {Q : σ → Prop} (h : Holds P x fun _ t => Q t) :
    Holds P (discard x) fun _ t => Q t := by
  intro s u t hs hr
  obtain ⟨⟨a, t'⟩, hx, hr⟩ := Option.bind_eq_some_iff.mp hr
  cases hr
  exact h s a _ hs hx

/-- A computation ends in one way. -/
theorem Ends.holds (h : Ends P x Q) : Holds P x Q := by
  intro s a t hs hr
  obtain ⟨b, u, hr', hq⟩ := h s hs
  rw [hr'] at hr
  cases hr
  exact hq

end Running

/-! ## Computations without loops -/

/-- From a state that meets `P`, `x` ends in one that meets `Q` with its value. -/
def Yields (P : σ → Prop) (x : StateM σ α) (Q : α → σ → Prop) : Prop :=
  ∀ s, P s → Q (x s).1 (x s).2

namespace Yields

variable {P : σ → Prop} {Q : α → σ → Prop} {R : β → σ → Prop} {x y : StateM σ α}
  {f : α → StateM σ β}

protected theorem pure {a : α} (h : ∀ s, P s → Q a s) : Yields P (pure a) Q := h

protected theorem bind (hx : Yields P x Q) (hf : ∀ a, Yields (Q a) (f a) R) :
    Yields P (x >>= f) R :=
  fun s hs => hf _ _ (hx s hs)

protected theorem ite {c : Prop} [Decidable c] (hx : c → Yields P x Q) (hy : ¬c → Yields P y Q) :
    Yields P (if c then x else y) Q := by
  split
  · exact hx ‹_›
  · exact hy ‹_›

theorem imp {P' : σ → Prop} {Q' : α → σ → Prop} (h : Yields P x Q) (hP : ∀ s, P' s → P s)
    (hQ : ∀ a s, Q a s → Q' a s) : Yields P' x Q' :=
  fun s hs => hQ _ _ (h s (hP s hs))

end Yields

end WSE.Framework
