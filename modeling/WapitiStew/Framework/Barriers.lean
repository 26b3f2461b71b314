import Mathlib.Data.List.Nodup
import Mathlib.Logic.Function.Basic

/-!
# Barriers

A command stream moves images from one state to another with barriers, each of which names the
state it expects. `applied` is the states after some barriers, and they are `Right` when each finds
its image in the state it expects. Barriers of different images do not disturb one another
(`right_of_nodup`, `applied_mem`), and an image that has none stays as it is (`applied_not_mem`).
-/

namespace WSE.Framework

variable {ι σ : Type*}

structure Barrier (ι σ : Type*) where
  image : ι
  before : σ
  after : σ
  deriving DecidableEq

namespace Barrier

variable [DecidableEq ι] {real : ι → σ} {b : Barrier ι σ} {bs cs : List (Barrier ι σ)} {i : ι}

def applied (real : ι → σ) : List (Barrier ι σ) → ι → σ
  | [] => real
  | b :: bs => applied (Function.update real b.image b.after) bs

/-- Each barrier finds its image in the state it expects. -/
def Right (real : ι → σ) : List (Barrier ι σ) → Prop
  | [] => True
  | b :: bs => real b.image = b.before ∧ Right (Function.update real b.image b.after) bs

instance Right.decidable [DecidableEq σ] (real : ι → σ) (bs : List (Barrier ι σ)) :
    Decidable (Right real bs) :=
  match bs with
  | [] => isTrue trivial
  | b :: bs =>
    have := Right.decidable (Function.update real b.image b.after) bs
    inferInstanceAs (Decidable (_ ∧ _))

@[simp] theorem applied_nil : applied real [] = real := rfl

@[simp] theorem applied_cons :
    applied real (b :: bs) = applied (Function.update real b.image b.after) bs := rfl

theorem applied_append : applied real (bs ++ cs) = applied (applied real bs) cs := by
  induction bs generalizing real with
  | nil => rfl
  | cons b bs ih => exact ih

theorem right_append : Right real (bs ++ cs) ↔ Right real bs ∧ Right (applied real bs) cs := by
  induction bs generalizing real with
  | nil => exact ⟨fun h => ⟨trivial, h⟩, And.right⟩
  | cons b bs ih =>
    show _ ∧ Right _ (bs ++ cs) ↔ (_ ∧ Right _ bs) ∧ _
    rw [ih, and_assoc]
    rfl

theorem applied_not_mem (h : i ∉ bs.map (·.image)) : applied real bs i = real i := by
  induction bs generalizing real with
  | nil => rfl
  | cons b bs ih =>
    obtain ⟨hb, hbs⟩ := not_or.mp fun hm => h (List.mem_cons.mpr hm)
    rw [applied_cons, ih hbs, Function.update_of_ne hb]

theorem applied_mem (hd : (bs.map (·.image)).Nodup) (hb : b ∈ bs) :
    applied real bs b.image = b.after := by
  induction bs generalizing real with
  | nil => exact nomatch hb
  | cons c bs ih =>
    obtain ⟨hc, hd⟩ := List.nodup_cons.mp hd
    obtain rfl | hb := List.mem_cons.mp hb
    · rw [applied_cons, applied_not_mem hc, Function.update_self]
    · exact ih hd hb

/-- Barriers of different images are right when each is right by itself. -/
theorem right_of_nodup (hd : (bs.map (·.image)).Nodup) (h : ∀ b ∈ bs, real b.image = b.before) :
    Right real bs := by
  induction bs generalizing real with
  | nil => trivial
  | cons b bs ih =>
    obtain ⟨hb, hd⟩ := List.nodup_cons.mp hd
    obtain ⟨hbefore, hbs⟩ := List.forall_mem_cons.mp h
    refine ⟨hbefore, ih hd fun c hc => ?_⟩
    have hne : c.image ≠ b.image := fun he => hb (List.mem_map.mpr ⟨c, hc, he⟩)
    rw [Function.update_of_ne hne]
    exact hbs c hc

/-- The barrier that brings an image to a state, if it is not there. -/
def bring [DecidableEq σ] (i : ι) (state target : σ) : List (Barrier ι σ) :=
  if state = target then [] else [⟨i, state, target⟩]

variable [DecidableEq σ] {state target : σ}

theorem bring_right (h : real i = state) : Right real (bring i state target) := by
  rw [bring]
  split
  · trivial
  · exact ⟨h, trivial⟩

theorem bring_applied (h : real i = state) :
    applied real (bring i state target) = Function.update real i target := by
  rw [bring]
  split
  · rename_i he
    rw [applied_nil, ← he, ← h, Function.update_eq_self]
  · rfl

omit [DecidableEq ι] in
theorem bring_image (hb : b ∈ bring i state target) : b.image = i := by
  rw [bring] at hb
  split at hb
  · exact nomatch hb
  · rw [List.mem_singleton.mp hb]

end Barrier

end WSE.Framework
