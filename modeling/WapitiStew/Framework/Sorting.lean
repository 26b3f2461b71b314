import Mathlib.Data.List.Destutter
import Mathlib.Order.Lattice
import Mathlib.Tactic.TypeStar

/-!
# Sorting and removing duplicates

A comparison is a function to `Bool`, as a sort of a standard library takes it. Such a sort asks
that it is a strict weak order on what is sorted (`StrictWeakOn`), as it is when it compares keys of
a linear order (`Compares`), and leaves ties in any order (`UnstableSort`). `unique` keeps the first
of each row of equal neighbours. After both the list is strictly increasing where only equal
elements tie (`unique_increasing`), and has lost no element (`mem_unique`).
-/

namespace WSE.Framework

variable {α : Type*} {less same : α → α → Bool} {l : List α} {a : α}

/-- Neither of two elements is less. -/
def Tie (less : α → α → Bool) (a b : α) : Prop := less a b = false ∧ less b a = false

/-- `less` is a strict weak order on the elements of a list. -/
structure StrictWeakOn (less : α → α → Bool) (l : List α) : Prop where
  irrefl : ∀ a ∈ l, less a a = false
  trans : ∀ a ∈ l, ∀ b ∈ l, ∀ c ∈ l, less a b = true → less b c = true → less a c = true
  tie_trans : ∀ a ∈ l, ∀ b ∈ l, ∀ c ∈ l, Tie less a b → Tie less b c → Tie less a c

namespace StrictWeakOn

theorem asymm (h : StrictWeakOn less l) {b : α} (ha : a ∈ l) (hb : b ∈ l)
    (hab : less a b = true) : less b a = false := by
  rw [Bool.eq_false_iff]
  intro hba
  have haa := h.trans a ha b hb a ha hab hba
  rw [h.irrefl a ha] at haa
  cases haa

/-- Not being greater is transitive. -/
theorem not_greater_trans (h : StrictWeakOn less l) {b c : α} (ha : a ∈ l) (hb : b ∈ l)
    (hc : c ∈ l) (hab : less b a = false) (hbc : less c b = false) : less c a = false := by
  rw [Bool.eq_false_iff]
  intro hca
  have hcb : less b c = false := by
    rw [Bool.eq_false_iff]
    intro hlt
    rw [h.trans b hb c hc a ha hlt hca] at hab
    cases hab
  have hba : less a b = false := by
    rw [Bool.eq_false_iff]
    intro hlt
    rw [h.trans c hc a ha b hb hca hlt] at hbc
    cases hbc
  have htie := h.tie_trans a ha b hb c hc ⟨hba, hab⟩ ⟨hcb, hbc⟩
  rw [htie.2] at hca
  cases hca

end StrictWeakOn

/-! ## Comparisons of keys -/

/-- On a list, `less` compares the keys of the elements. -/
def Compares {β : Type*} [LinearOrder β] (less : α → α → Bool) (key : α → β) (l : List α) : Prop :=
  ∀ a ∈ l, ∀ b ∈ l, less a b = true ↔ key a < key b

namespace Compares

variable {β : Type*} [LinearOrder β] {key : α → β}

theorem eq_false (h : Compares less key l) {b : α} (ha : a ∈ l) (hb : b ∈ l) :
    less a b = false ↔ key b ≤ key a := by
  rw [Bool.eq_false_iff, ne_eq, h a ha b hb, not_lt]

theorem tie (h : Compares less key l) {b : α} (ha : a ∈ l) (hb : b ∈ l) :
    Tie less a b ↔ key a = key b := by
  rw [Tie, h.eq_false ha hb, h.eq_false hb ha, le_antisymm_iff, and_comm]

theorem strictWeakOn (h : Compares less key l) : StrictWeakOn less l where
  irrefl _ ha := (h.eq_false ha ha).mpr le_rfl
  trans a ha b hb c hc hab hbc :=
    (h a ha c hc).mpr (((h a ha b hb).mp hab).trans ((h b hb c hc).mp hbc))
  tie_trans _ ha _ hb _ hc hab hbc :=
    (h.tie ha hc).mpr (((h.tie ha hb).mp hab).trans ((h.tie hb hc).mp hbc))

end Compares

/-! ## The sort of a standard library -/

/-- What a standard library promises of its sort: nothing when the comparison is not a strict weak
order. -/
structure UnstableSort (α : Type*) where
  sort : (α → α → Bool) → List α → List α
  perm : ∀ {less : α → α → Bool} {l : List α}, StrictWeakOn less l → (sort less l).Perm l
  ordered : ∀ {less : α → α → Bool} {l : List α}, StrictWeakOn less l →
    (sort less l).Pairwise fun a b => less b a = false

/-- Of two elements of the list, the first is not greater. -/
def notGreater (less : α → α → Bool) (l : List α) (a b : { a // a ∈ l }) : Bool := !less b.1 a.1

theorem notGreater_trans (h : StrictWeakOn less l) (a b c : { a // a ∈ l })
    (hab : notGreater less l a b = true) (hbc : notGreater less l b c = true) :
    notGreater less l a c = true := by
  rw [notGreater, Bool.not_eq_true'] at hab hbc ⊢
  exact h.not_greater_trans a.2 b.2 c.2 hab hbc

theorem notGreater_total (h : StrictWeakOn less l) (a b : { a // a ∈ l }) :
    (notGreater less l a b || notGreater less l b a) = true := by
  rw [Bool.or_eq_true, notGreater, notGreater, Bool.not_eq_true', Bool.not_eq_true']
  cases hab : less a.1 b.1 with
  | false => exact .inr rfl
  | true => exact .inl (h.asymm a.2 b.2 hab)

/-- The merge sort is one. -/
def mergeSorts (α : Type*) : UnstableSort α where
  sort less l := (l.attach.mergeSort (notGreater less l)).map (·.1)
  perm {less l} _ := by
    have hp := (List.mergeSort_perm l.attach (notGreater less l)).map (·.1)
    rwa [List.attach_map_subtype_val] at hp
  ordered {less l} h := by
    rw [List.pairwise_map]
    apply (List.pairwise_mergeSort (notGreater_trans h) (notGreater_total h) l.attach).imp
    intro a b hab
    rwa [notGreater, Bool.not_eq_true'] at hab

/-! ## Equal neighbours -/

/-- The first of each row of equal neighbours. -/
def unique (same : α → α → Bool) (l : List α) : List α := l.destutter fun a b => same a b = false

theorem unique_sublist (same : α → α → Bool) (l : List α) : (unique same l).Sublist l :=
  List.destutter_sublist _ l

theorem mem_destutter' (hs : ∀ {a b}, same a b = true → a = b) {b : α} (ha : a ∈ b :: l) :
    a ∈ l.destutter' (fun a b => same a b = false) b := by
  induction l generalizing b with
  | nil => exact ha
  | cons c l ih =>
    cases hbc : same b c with
    | false =>
      rw [List.destutter'_cons_pos l hbc]
      rcases List.mem_cons.mp ha with rfl | ha
      · exact List.mem_cons_self
      · exact List.mem_cons_of_mem b (ih ha)
    | true =>
      rw [List.destutter'_cons_neg l (by rw [hbc]; decide)]
      apply ih
      rw [← hs hbc] at ha
      rcases List.mem_cons.mp ha with rfl | ha
      · exact List.mem_cons_self
      · exact ha

theorem mem_unique (hs : ∀ {a b}, same a b = true → a = b) : a ∈ unique same l ↔ a ∈ l := by
  refine ⟨fun h => (unique_sublist same l).subset h, fun h => ?_⟩
  cases l with
  | nil => exact h
  | cons b l => exact mem_destutter' hs h

/-- A relation that is transitive on the elements of a list holds of any two of them, in their
order, when it holds of neighbours. -/
theorem pairwise_of_isChain {R : α → α → Prop}
    (ht : ∀ a ∈ l, ∀ b ∈ l, ∀ c ∈ l, R a b → R b c → R a c) (h : l.IsChain R) : l.Pairwise R := by
  induction l with
  | nil => exact .nil
  | cons a l ih =>
    have hl : l.Pairwise R := by
      apply ih _ h.tail
      intro x hx y hy z hz
      exact ht x (List.mem_cons_of_mem a hx) y (List.mem_cons_of_mem a hy) z
        (List.mem_cons_of_mem a hz)
    refine List.pairwise_cons.mpr ⟨fun c hc => ?_, hl⟩
    cases l with
    | nil => cases hc
    | cons b l =>
      have hab : R a b := h.rel
      rcases List.mem_cons.mp hc with rfl | hcl
      · exact hab
      · exact ht a List.mem_cons_self b (List.mem_cons_of_mem a List.mem_cons_self) c
          (List.mem_cons_of_mem a hc) hab (List.rel_of_pairwise_cons hl hcl)

theorem isChain_and {R S : α → α → Prop} (hr : l.IsChain R) (hs : l.IsChain S) :
    l.IsChain fun a b => R a b ∧ S a b := by
  induction hr with
  | nil => exact .nil
  | singleton a => exact .singleton a
  | cons_cons hab _ ih => exact .cons_cons ⟨hab, hs.rel⟩ (ih hs.tail)

/-- An ordered list in which only equal elements tie is strictly increasing once equal neighbours
are removed. -/
theorem unique_increasing (h : StrictWeakOn less l)
    (ho : l.Pairwise fun a b => less b a = false)
    (htie : ∀ a ∈ l, ∀ b ∈ l, Tie less a b → same a b = true) :
    (unique same l).Pairwise fun a b => less a b = true := by
  have hsub := unique_sublist same l
  have hchain := isChain_and (List.isChain_destutter (fun a b => same a b = false) l)
    (ho.sublist hsub).isChain
  apply pairwise_of_isChain
  · intro a ha b hb c hc
    exact h.trans a (hsub.subset ha) b (hsub.subset hb) c (hsub.subset hc)
  · apply hchain.imp_of_mem_imp
    intro a b ha hb hab
    rw [← Bool.not_eq_false]
    intro hless
    rw [htie a (hsub.subset ha) b (hsub.subset hb) ⟨hless, hab.2⟩] at hab
    cases hab.1

end WSE.Framework
