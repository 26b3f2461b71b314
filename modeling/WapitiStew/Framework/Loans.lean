import Mathlib.Logic.Function.Basic

/-!
# Settings that are changed for a time

A holder changes a setting and keeps the value that it found (`take`); it puts that value back
(`putBack`) and is done with the setting (`release`). Holders of one setting each put back what they
found, so that the value there was before any of them comes back only when it is found by the last
of them: while a setting is held some holder keeps it (`Kept`), when one is done only in its turn
(`InTurn`).
-/

namespace WSE.Framework

variable {ι δ μ : Type*}

structure Loans (ι δ μ : Type*) where
  current : δ → μ
  /-- What the holder puts back, and where. -/
  holder : ι → Option (δ × μ)

namespace Loans

section Definitions

variable [DecidableEq ι] [DecidableEq δ]

def take (l : Loans ι δ μ) (i : ι) (d : δ) (m : μ) : Loans ι δ μ :=
  ⟨Function.update l.current d m, Function.update l.holder i (some (d, l.current d))⟩

def putBack (l : Loans ι δ μ) (i : ι) : Loans ι δ μ :=
  match l.holder i with
  | none => l
  | some (d, m) => { l with current := Function.update l.current d m }

def release (l : Loans ι δ μ) (i : ι) : Loans ι δ μ :=
  { l with holder := Function.update l.holder i none }

/-- No other holds the setting. -/
def Alone (l : Loans ι δ μ) (i : ι) (d : δ) : Prop := ∀ j, j ≠ i → ∀ m, l.holder j ≠ some (d, m)

/-- While others hold the setting, one of them keeps the original. -/
def InTurn (original : δ → μ) (l : Loans ι δ μ) (i : ι) : Prop :=
  ∀ d m, l.holder i = some (d, m) → l.Alone i d ∨ ∃ j, j ≠ i ∧ l.holder j = some (d, original d)

/-- The original is back when no other holds the setting. -/
def Returned (original : δ → μ) (l : Loans ι δ μ) (i : ι) : Prop :=
  ∀ d m, l.holder i = some (d, m) → l.Alone i d → l.current d = original d

/-- A setting is as it was, or held by one that keeps what it was. -/
def Kept (original : δ → μ) (l : Loans ι δ μ) : Prop :=
  ∀ d, l.current d = original d ∧ (∀ i m, l.holder i ≠ some (d, m)) ∨
    ∃ i, l.holder i = some (d, original d)

end Definitions

section Rules

variable {original : δ → μ} {l : Loans ι δ μ} {i : ι} {d : δ} {m : μ}

theorem Kept.start (h : ∀ i, l.holder i = none) : Kept l.current l :=
  fun _ => .inl ⟨rfl, fun i _ he => nomatch (h i).symm.trans he⟩

/-- Nothing is held. -/
theorem Kept.current_eq (h : Kept original l) (hn : ∀ i, l.holder i = none) :
    l.current = original := by
  funext d
  obtain ⟨hd, -⟩ | ⟨i, hi⟩ := h d
  · exact hd
  · exact nomatch (hn i).symm.trans hi

theorem putBack_held [DecidableEq δ] (hi : l.holder i = some (d, m)) :
    l.putBack i = { l with current := Function.update l.current d m } := by
  rw [putBack, hi]

theorem Kept.putBack [DecidableEq δ] (h : Kept original l) : Kept original (l.putBack i) := by
  cases hi : l.holder i with
  | none => rwa [Loans.putBack, hi]
  | some p =>
    rw [putBack_held hi]
    intro d'
    by_cases hd : d' = p.1
    · obtain ⟨-, hfree⟩ | hheld := h d'
      · subst hd
        exact absurd hi (hfree i p.2)
      · exact .inr hheld
    · exact (h d').imp_left fun ⟨hcur, hfree⟩ => ⟨(Function.update_of_ne hd _ _).trans hcur, hfree⟩

theorem InTurn.putBack [DecidableEq δ] (h : InTurn original l i) :
    InTurn original (l.putBack i) i := by
  cases hi : l.holder i with
  | none => rwa [Loans.putBack, hi]
  | some p =>
    rw [putBack_held hi]
    exact h

variable [DecidableEq ι]

theorem take_holder_ne [DecidableEq δ] {j : ι} (hj : j ≠ i) :
    (l.take i d m).holder j = l.holder j := Function.update_of_ne hj _ _

theorem take_holder_self [DecidableEq δ] : (l.take i d m).holder i = some (d, l.current d) :=
  Function.update_self i _ _

theorem take_current_ne [DecidableEq δ] {d' : δ} (hd : d' ≠ d) :
    (l.take i d m).current d' = l.current d' := Function.update_of_ne hd _ _

theorem release_holder_ne {j : ι} (hj : j ≠ i) : (l.release i).holder j = l.holder j :=
  Function.update_of_ne hj _ _

theorem release_holder_self : (l.release i).holder i = none := Function.update_self i _ _

theorem Kept.take [DecidableEq δ] (h : Kept original l) (hi : l.holder i = none) :
    Kept original (l.take i d m) := by
  have hne : ∀ {j p}, l.holder j = some p → j ≠ i :=
    fun hj he => nomatch (he ▸ hj).symm.trans hi
  intro d'
  obtain ⟨hcur, hfree⟩ | ⟨j, hj⟩ := h d'
  · by_cases hd : d' = d
    · subst hd
      exact .inr ⟨i, take_holder_self.trans (by rw [hcur])⟩
    · refine .inl ⟨(take_current_ne hd).trans hcur, fun j m' he => ?_⟩
      by_cases hji : j = i
      · subst hji
        exact hd (congrArg Prod.fst (Option.some.inj (take_holder_self.symm.trans he))).symm
      · exact hfree j m' ((take_holder_ne hji).symm.trans he)
  · exact .inr ⟨j, (take_holder_ne (hne hj)).trans hj⟩

/-- The last holder of a setting puts the original back. -/
theorem Kept.returned [DecidableEq δ] (h : Kept original l) :
    Returned original (l.putBack i) i := by
  cases hi : l.holder i with
  | none =>
    intro d m he
    rw [Loans.putBack, hi] at he
    exact nomatch hi.symm.trans he
  | some p =>
    rw [putBack_held hi]
    intro d m he halone
    have hp : (d, m) = p := Option.some.inj (he.symm.trans hi)
    subst hp
    show Function.update l.current d m d = original d
    rw [Function.update_self]
    obtain ⟨-, hfree⟩ | ⟨j, hj⟩ := h d
    · exact absurd hi (hfree i m)
    · by_cases hji : j = i
      · subst hji
        exact congrArg Prod.snd (Option.some.inj (hi.symm.trans hj))
      · exact absurd hj (halone j hji _)

theorem Kept.release (h : Kept original l) (ht : InTurn original l i)
    (hr : Returned original l i) : Kept original (l.release i) := by
  intro d
  -- whoever keeps the original of a setting and is not `i` still does
  have hother : ∀ j, j ≠ i → l.holder j = some (d, original d) →
      (l.release i).holder j = some (d, original d) :=
    fun j hj he => (release_holder_ne hj).trans he
  have hfreed : l.Alone i d → ∀ j m, (l.release i).holder j ≠ some (d, m) := by
    intro halone j m he
    by_cases hj : j = i
    · subst hj
      exact nomatch release_holder_self.symm.trans he
    · exact halone j hj m ((release_holder_ne hj).symm.trans he)
  obtain ⟨hcur, hfree⟩ | ⟨j, hj⟩ := h d
  · exact .inl ⟨hcur, hfreed fun j _ m => hfree j m⟩
  · by_cases hji : j = i
    · subst hji
      obtain halone | ⟨k, hk, hheld⟩ := ht d _ hj
      · exact .inl ⟨hr d _ hj halone, hfreed halone⟩
      · exact .inr ⟨k, hother k hk hheld⟩
    · exact .inr ⟨j, hother j hji hj⟩

/-- The holder puts back what it found and is done. -/
theorem Kept.leave [DecidableEq δ] (h : Kept original l) (ht : InTurn original l i) :
    Kept original ((l.putBack i).release i) :=
  h.putBack.release ht.putBack h.returned

end Rules

end Loans

end WSE.Framework
