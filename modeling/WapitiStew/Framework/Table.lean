import Mathlib.Algebra.BigOperators.Group.Finset.Basic
import Mathlib.Algebra.Order.Group.Multiset
import Mathlib.Data.Multiset.UnionInter
import Mathlib.Tactic.Abel

/-!
# Tables of records

A `Table α` holds records under numbers. `sum` adds up what the records under the numbers below a
bound are worth, in any commutative monoid: what is put in is added (`sum_insert`, `sum_grow`),
what is taken out is subtracted (`sum_erase`), and a record that is changed counts for the new
one (`sum_change`).
-/

namespace WSE.Framework

variable {α M : Type*}

def Table (α : Type*) := Nat → Option α

namespace Table

def empty : Table α := fun _ => none

def set (t : Table α) (i : Nat) (a : Option α) : Table α := fun j => if j = i then a else t j

instance : EmptyCollection (Table α) := ⟨empty⟩

variable {t : Table α} {i j n : Nat} {a : Option α}

@[simp] theorem empty_apply (i : Nat) : (∅ : Table α) i = none := rfl

@[simp] theorem set_same : t.set i a i = a := if_pos rfl

theorem set_ne (h : j ≠ i) : t.set i a j = t j := if_neg h

theorem set_apply : t.set i a j = if j = i then a else t j := rfl

theorem set_cases {b : α} (h : t.set i a j = some b) :
    j = i ∧ a = some b ∨ j ≠ i ∧ t j = some b := by
  rw [set_apply] at h
  split at h
  · exact .inl ⟨‹_›, h⟩
  · exact .inr ⟨‹_›, h⟩

theorem set_self (h : t i = a) : t.set i a = t := by
  funext j
  rw [set_apply]
  split
  · rename_i hj
    rw [hj, h]
  · rfl

theorem set_none (h : t i = none) : t.set i none = t := set_self h

/-- The numbers below the bound are the ones in use. -/
def Below (t : Table α) (n : Nat) : Prop := ∀ i, n ≤ i → t i = none

theorem Below.lt {b : α} (h : t.Below n) (ht : t i = some b) : i < n :=
  Nat.not_le.mp fun hn => nomatch ht.symm.trans (h i hn)

theorem Below.mono {m : Nat} (h : t.Below n) (hm : n ≤ m) : t.Below m :=
  fun i hi => h i (hm.trans hi)

theorem Below.set {b : α} (h : t.Below n) (hi : i < n) : (t.set i (some b)).Below n := by
  intro j hj
  rw [set_ne (Nat.ne_of_gt (Nat.lt_of_lt_of_le hi hj))]
  exact h j hj

theorem Below.erase (h : t.Below n) : (t.set i none).Below n := by
  intro j hj
  rw [set_apply]
  split
  · rfl
  · exact h j hj

theorem below_empty : (∅ : Table α).Below n := fun _ _ => rfl

section Sum

variable [AddCommMonoid M] (f : α → M)

def worth : Option α → M := fun a => a.elim 0 f

def sum (t : Table α) (n : Nat) : M := ∑ i ∈ Finset.range n, worth f (t i)

@[simp] theorem worth_none : worth f none = 0 := rfl

@[simp] theorem worth_some (b : α) : worth f (some b) = f b := rfl

@[simp] theorem sum_empty : sum f ∅ n = 0 := by
  simp [sum]

theorem sum_succ (h : t n = none) : sum f t (n + 1) = sum f t n := by
  rw [sum, Finset.sum_range_succ, h, worth_none, add_zero, sum]

/-- A higher bound counts no more. -/
theorem sum_grow {m : Nat} (h : t.Below n) (hm : n ≤ m) : sum f t m = sum f t n := by
  induction m, hm using Nat.le_induction with
  | base => rfl
  | succ m hm ih => rw [sum_succ f (h m hm), ih]

theorem sum_set_of_le (h : n ≤ i) : sum f (t.set i a) n = sum f t n := by
  refine Finset.sum_congr rfl fun j hj => ?_
  rw [set_ne (Nat.ne_of_lt ((Finset.mem_range.mp hj).trans_le h))]

theorem sum_insert {b : α} (h : t.Below n) (hi : n ≤ i) :
    sum f (t.set i (some b)) (i + 1) = sum f t n + f b := by
  rw [sum, Finset.sum_range_succ, set_same, worth_some]
  congr 1
  rw [← sum_grow f h hi]
  exact sum_set_of_le f (Nat.le_refl i)

theorem sum_change (hi : i < n) :
    sum f (t.set i a) n + worth f (t i) = sum f t n + worth f a := by
  have hmem : i ∈ Finset.range n := Finset.mem_range.mpr hi
  rw [sum, sum, ← Finset.add_sum_erase _ _ hmem,
    ← Finset.add_sum_erase _ (fun j => worth f (t j)) hmem, set_same]
  have herase : ∑ j ∈ (Finset.range n).erase i, worth f (t.set i a j) =
      ∑ j ∈ (Finset.range n).erase i, worth f (t j) :=
    Finset.sum_congr rfl fun j hj => by rw [set_ne (Finset.ne_of_mem_erase hj)]
  rw [herase]
  abel

/-- What is under a number may be taken out whether or not there is something. -/
theorem sum_take (h : t.Below n) : sum f (t.set i none) n + worth f (t i) = sum f t n := by
  by_cases hi : i < n
  · rw [sum_change f hi, worth_none, add_zero]
  · rw [sum_set_of_le f (Nat.not_lt.mp hi), h i (Nat.not_lt.mp hi), worth_none, add_zero]

theorem sum_fill {b : α} (hi : i < n) (ht : t i = none) :
    sum f (t.set i (some b)) n = sum f t n + f b := by
  have := sum_change f (t := t) (a := some b) hi
  rwa [ht, worth_none, add_zero, worth_some] at this

/-- Several records are put under numbers that are free. -/
theorem sum_fill_all {ps : List (Nat × α)} (hd : (ps.map (·.1)).Nodup)
    (hfree : ∀ p ∈ ps, t p.1 = none ∧ p.1 < n) :
    sum f (ps.foldl (fun t p => t.set p.1 (some p.2)) t) n =
      sum f t n + (ps.map fun p => f p.2).sum := by
  induction ps generalizing t with
  | nil => simp
  | cons p ps ih =>
    obtain ⟨hp, hps⟩ := List.forall_mem_cons.mp hfree
    obtain ⟨hnew, hd⟩ := List.nodup_cons.mp hd
    rw [List.foldl_cons, ih hd, sum_fill f hp.2 hp.1, List.map_cons, List.sum_cons, add_assoc]
    intro q hq
    have hne : q.1 ≠ p.1 := fun he => hnew (List.mem_map.mpr ⟨q, hq, he⟩)
    rw [set_ne hne]
    exact hps q hq

theorem sum_erase {b : α} (hi : i < n) (ht : t i = some b) :
    sum f (t.set i none) n + f b = sum f t n := by
  have := sum_change f (t := t) (a := none) hi
  rwa [ht, worth_some, worth_none, add_zero] at this

/-- A record that is changed and counts for as much. -/
theorem sum_update {b c : α} (ht : t i = some b) (hf : f c = f b) :
    sum f (t.set i (some c)) n = sum f t n := by
  refine Finset.sum_congr rfl fun j _ => ?_
  by_cases hj : j = i
  · rw [hj, set_same, ht, worth_some, worth_some, hf]
  · rw [set_ne hj]

end Sum

/-- After several records are put in, a number that is none of theirs is as before. -/
theorem fill_all_ne {ps : List (Nat × α)} (h : i ∉ ps.map (·.1)) :
    ps.foldl (fun t p => t.set p.1 (some p.2)) t i = t i := by
  induction ps generalizing t with
  | nil => rfl
  | cons p ps ih =>
    obtain ⟨hi, hps⟩ := not_or.mp fun hm => h (List.mem_cons.mpr hm)
    rw [List.foldl_cons, ih hps, set_ne hi]

theorem fill_all_mem {ps : List (Nat × α)} (hd : (ps.map (·.1)).Nodup) {p : Nat × α} (hp : p ∈ ps) :
    ps.foldl (fun t p => t.set p.1 (some p.2)) t p.1 = some p.2 := by
  induction ps generalizing t with
  | nil => exact nomatch hp
  | cons q ps ih =>
    obtain ⟨hnew, hd⟩ := List.nodup_cons.mp hd
    rw [List.foldl_cons]
    obtain rfl | hp := List.mem_cons.mp hp
    · rw [fill_all_ne hnew, set_same]
    · exact ih hd hp

theorem Below.fill_all {ps : List (Nat × α)} (h : t.Below n) (hps : ∀ p ∈ ps, p.1 < n) :
    (ps.foldl (fun t p => t.set p.1 (some p.2)) t).Below n := by
  intro i hi
  rw [fill_all_ne]
  · exact h i hi
  · intro hm
    obtain ⟨p, hp, rfl⟩ := List.mem_map.mp hm
    exact absurd (hps p hp) (Nat.not_lt.mpr hi)

section Multiset

variable {β : Type*} {f : α → Multiset β}

theorem le_sum {b : α} (h : t.Below n) (ht : t i = some b) : f b ≤ sum f t n := by
  rw [← sum_erase f (h.lt ht) ht]
  exact Multiset.le_add_left _ _

/-- What two records have in common is counted twice. -/
theorem eq_of_mem_sum {a b : α} {x : β} (h : t.Below n) (hd : (sum f t n).Nodup)
    (hi : t i = some a) (hj : t j = some b) (ha : x ∈ f a) (hb : x ∈ f b) : i = j := by
  by_contra hne
  have hj' : t.set i none j = some b := (set_ne (Ne.symm hne)).trans hj
  rw [← sum_erase f (h.lt hi) hi] at hd
  exact Multiset.disjoint_left.mp (Multiset.nodup_add.mp hd).2.2
    (Multiset.mem_of_le (le_sum h.erase hj') hb) ha

end Multiset

end Table

end WSE.Framework
