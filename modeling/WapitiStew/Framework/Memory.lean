import Mathlib.Data.List.Basic
import WapitiStew.Framework.Bytes

/-!
# Bounded memory and sizes of 64 bits

The bytes from a pointer on, of which only so many may be touched: an access outside of them gives
nothing, and so does a size that wraps (`mul64`, `add64`). A loop of accesses none of which fails
is the loop of what they do (`foldlM_some`, `mapM_some`). Windows that lie one after another are
updated each by its own step (`updates_inside`), and nothing else is (`updates_outside`).
-/

namespace WSE.Framework

variable {α β ι : Type*}

/-! ## Sizes -/

def mul64 (a b : Nat) : Option Nat := if a * b < 2 ^ 64 then some (a * b) else none

def add64 (a b : Nat) : Option Nat := if a + b < 2 ^ 64 then some (a + b) else none

theorem mul64_eq {a b : Nat} (h : a * b < 2 ^ 64) : mul64 a b = some (a * b) := if_pos h

theorem add64_eq {a b : Nat} (h : a + b < 2 ^ 64) : add64 a b = some (a + b) := if_pos h

/-! ## Loops that do not fail -/

theorem foldlM_some {l : List ι} {f : β → ι → Option β} {g : β → ι → β} {b : β}
    (h : ∀ b, ∀ i ∈ l, f b i = some (g b i)) : l.foldlM f b = some (l.foldl g b) := by
  induction l generalizing b with
  | nil => rfl
  | cons i l ih =>
    rw [List.foldlM_cons, h b i List.mem_cons_self]
    exact ih fun b j hj => h b j (List.mem_cons_of_mem i hj)

theorem mapM_some {l : List ι} {f : ι → Option β} {g : ι → β}
    (h : ∀ i ∈ l, f i = some (g i)) : l.mapM f = some (l.map g) := by
  induction l with
  | nil => rfl
  | cons i l ih =>
    rw [List.mapM_cons, h i List.mem_cons_self, ih fun j hj => h j (List.mem_cons_of_mem i hj)]
    rfl

/-! ## Memory -/

abbrev Memory := Nat → Byte

namespace Memory

variable (m : Memory)

/-- The bytes at an offset, if they are among the first `limit`. -/
def read (limit offset n : Nat) : Option (Nat → Byte) :=
  if offset + n ≤ limit then some fun k => m (offset + k) else none

/-- The memory with every byte of a window replaced, by its place and what it was. -/
def update (offset n : Nat) (new : Nat → Byte → Byte) : Memory := fun i =>
  if offset ≤ i ∧ i < offset + n then new (i - offset) (m i) else m i

def write (limit offset n : Nat) (bytes : Nat → Byte) : Option Memory :=
  if offset + n ≤ limit then some (m.update offset n fun k _ => bytes k) else none

theorem read_eq {limit offset n : Nat} (h : offset + n ≤ limit) :
    m.read limit offset n = some fun k => m (offset + k) := if_pos h

theorem write_eq {limit offset n : Nat} (bytes : Nat → Byte) (h : offset + n ≤ limit) :
    m.write limit offset n bytes = some (m.update offset n fun k _ => bytes k) := if_pos h

theorem update_inside {offset n k : Nat} (new : Nat → Byte → Byte) (hk : k < n) :
    m.update offset n new (offset + k) = new k (m (offset + k)) := by
  rw [update, if_pos ⟨Nat.le_add_right offset k, Nat.add_lt_add_left hk offset⟩,
    Nat.add_sub_cancel_left]

theorem update_outside {offset n i : Nat} (new : Nat → Byte → Byte)
    (h : ¬ (offset ≤ i ∧ i < offset + n)) : m.update offset n new i = m i := if_neg h

/-- One window after another. -/
def updates (start : Nat → Nat) (n : Nat) (new : Nat → Nat → Byte → Byte) (count : Nat) : Memory :=
  (List.range count).foldl (fun m y => m.update (start y) n (new y)) m

section Windows

variable {start : Nat → Nat} {n count : Nat} {new : Nat → Nat → Byte → Byte}

theorem updates_succ : m.updates start n new (count + 1) =
    (m.updates start n new count).update (start count) n (new count) := by
  rw [updates, List.range_succ, List.foldl_append]
  rfl

theorem updates_outside {i : Nat}
    (h : ∀ y < count, ¬ (start y ≤ i ∧ i < start y + n)) :
    m.updates start n new count i = m i := by
  induction count with
  | zero => rfl
  | succ count ih =>
    rw [updates_succ, update_outside _ _ (h count (Nat.lt_succ_self count)),
      ih fun y hy => h y (Nat.lt_succ_of_lt hy)]

theorem updates_inside (hsep : ∀ y < count, ∀ y' < y, start y' + n ≤ start y) {y k : Nat}
    (hy : y < count) (hk : k < n) :
    m.updates start n new count (start y + k) = new y k (m (start y + k)) := by
  induction count with
  | zero => exact absurd hy (Nat.not_lt_zero y)
  | succ count ih =>
    rw [updates_succ]
    obtain hlt | rfl := Nat.lt_succ_iff_lt_or_eq.mp hy
    · -- The last window lies after this one.
      have hlast := hsep count (Nat.lt_succ_self count) y hlt
      rw [update_outside _ _ (by omega), ih (fun y hy => hsep y (Nat.lt_succ_of_lt hy)) hlt]
    · rw [update_inside _ _ hk, updates_outside]
      intro y' hy'
      have := hsep y (Nat.lt_succ_self y) y' hy'
      omega

/-- Windows without gaps are one window. -/
theorem updates_eq_update {offset : Nat} (hn : 0 < n) :
    m.updates (fun i => offset + i * n) n new count =
      m.update offset (count * n) fun k => new (k / n) (k % n) := by
  funext i
  by_cases h : offset ≤ i ∧ i < offset + count * n
  · obtain ⟨k, rfl⟩ := Nat.exists_eq_add_of_le h.1
    have hk : k < count * n := Nat.add_lt_add_iff_left.mp h.2
    have hplace : offset + k = offset + k / n * n + k % n := by
      rw [Nat.add_assoc, Nat.mul_comm, Nat.div_add_mod]
    have hsep : ∀ y < count, ∀ y' < y, offset + y' * n + n ≤ offset + y * n := by
      intro y _ y' hy'
      have := Nat.mul_le_mul_right n (Nat.succ_le_of_lt hy')
      rw [Nat.succ_mul] at this
      omega
    rw [update_inside m _ hk, hplace, updates_inside m hsep
      (Nat.div_lt_of_lt_mul (by rwa [Nat.mul_comm])) (Nat.mod_lt k hn)]
  · rw [update_outside m _ h, updates_outside]
    intro y hy hin
    have := Nat.mul_le_mul_right n (Nat.succ_le_of_lt hy)
    rw [Nat.succ_mul] at this
    exact h (by omega)

end Windows

end Memory

end WSE.Framework
