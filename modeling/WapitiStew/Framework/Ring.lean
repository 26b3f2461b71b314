import Mathlib.Data.List.Basic
import Mathlib.Data.Nat.ModEq

/-!
# Rings

A list of slots, a head and a count: the elements of the ring stand from the head on
and wrap around at the end of the slots.

* `contents_push`: writing the slot behind the elements appends an element.
* `contents_pop`: moving the head past the first element removes it.
-/

namespace WSE.Framework.Ring

variable {α : Type*}

/-- The elements of a ring, the one at the head first. -/
def contents (slots : List α) (head count : Nat) : List α :=
  (List.range count).filterMap fun i => slots[(head + i) % slots.length]?

@[simp] theorem contents_zero (slots : List α) (head : Nat) : contents slots head 0 = [] := rfl

/-- The element `count` places behind the head comes last. -/
theorem contents_succ (slots : List α) (head count : Nat) :
    contents slots head (count + 1) =
      contents slots head count ++ slots[(head + count) % slots.length]?.toList := by
  simp only [contents, List.range_succ, List.filterMap_append]
  congr 1

theorem length_contents {slots : List α} {head count : Nat} (h : count ≤ slots.length) :
    (contents slots head count).length = count := by
  induction count with
  | zero => rfl
  | succ count ih =>
    have hlt : (head + count) % slots.length < slots.length := Nat.mod_lt _ (by omega)
    rw [contents_succ, List.length_append, ih (by omega), List.getElem?_eq_getElem hlt]
    rfl

/-- Two elements stand in two slots. -/
theorem slot_ne {size head i j : Nat} (hi : i < j) (hj : j < size) :
    (head + i) % size ≠ (head + j) % size := by
  intro h
  have hmod : i ≡ j [MOD size] := Nat.ModEq.add_left_cancel' head h
  have := hmod.eq_of_lt_of_lt (by omega) hj
  omega

theorem contents_set_behind {slots : List α} {head count j : Nat} (a : α) (hj : count ≤ j)
    (h : j < slots.length) :
    contents (slots.set ((head + j) % slots.length) a) head count =
      contents slots head count := by
  refine List.filterMap_congr fun i hi => ?_
  have hi := List.mem_range.mp hi
  rw [List.length_set, List.getElem?_set_ne (slot_ne (by omega) h).symm]

theorem contents_push {slots : List α} {head count : Nat} (a : α) (h : count < slots.length) :
    contents (slots.set ((head + count) % slots.length) a) head (count + 1) =
      contents slots head count ++ [a] := by
  have hlt : (head + count) % slots.length < slots.length := Nat.mod_lt _ (by omega)
  rw [contents_succ, contents_set_behind a (Nat.le_refl _) h, List.length_set,
    List.getElem?_set_self hlt]
  rfl

theorem contents_pop {slots : List α} {head count : Nat} (hh : head < slots.length)
    (h : 0 < count) :
    contents slots head count =
      slots[head] :: contents slots ((head + 1) % slots.length) (count - 1) := by
  obtain ⟨count, rfl⟩ := Nat.exists_eq_add_of_lt h
  rw [Nat.zero_add, Nat.add_sub_cancel, contents, List.range_succ_eq_map, List.filterMap_cons,
    Nat.add_zero, Nat.mod_eq_of_lt hh, List.getElem?_eq_getElem hh, List.filterMap_map]
  show slots[head] :: _ = slots[head] :: _
  congr 1
  refine List.filterMap_congr fun i _ => ?_
  rw [Function.comp_apply, Nat.mod_add_mod, Nat.succ_eq_add_one, Nat.add_assoc, Nat.add_comm i]

end WSE.Framework.Ring
