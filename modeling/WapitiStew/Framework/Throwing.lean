/-!
# Computations that throw and keep their state

`EStateM ε σ` runs from a state and ends in one, with a value or an exception.
A computation is run step by step: once the first part of a `bind` is known to
end with a value (`bind_ok`) or an exception (`bind_error`), the rest follows.
-/

namespace WSE.Framework

variable {ε σ α β : Type}

/-- The state a computation ends in. -/
def lastState : EStateM.Result ε σ α → σ
  | .ok _ s => s
  | .error _ s => s

@[simp] theorem lastState_ok (a : α) (s : σ) :
    lastState (.ok a s : EStateM.Result ε σ α) = s := rfl

@[simp] theorem lastState_error (e : ε) (s : σ) :
    lastState (.error e s : EStateM.Result ε σ α) = s := rfl

theorem bind_ok {x : EStateM ε σ α} {f : α → EStateM ε σ β} {s t : σ} {a : α}
    (h : x s = .ok a t) : (x >>= f) s = f a t := by
  show EStateM.bind x f s = f a t
  rw [EStateM.bind, h]

theorem bind_error {x : EStateM ε σ α} {f : α → EStateM ε σ β} {s t : σ} {e : ε}
    (h : x s = .error e t) : (x >>= f) s = .error e t := by
  show EStateM.bind x f s = .error e t
  rw [EStateM.bind, h]

theorem bind_eq_ok {x : EStateM ε σ α} {f : α → EStateM ε σ β} {s u : σ} {b : β}
    (h : (x >>= f) s = .ok b u) : ∃ a t, x s = .ok a t ∧ f a t = .ok b u := by
  cases hx : x s with
  | ok a t =>
    rw [bind_ok hx] at h
    exact ⟨a, t, rfl, h⟩
  | error e t =>
    rw [bind_error hx] at h
    cases h

@[simp] theorem pure_run (a : α) (s : σ) : (pure a : EStateM ε σ α) s = .ok a s := rfl

@[simp] theorem throw_run (e : ε) (s : σ) : (throw e : EStateM ε σ α) s = .error e s := rfl

@[simp] theorem modify_run (f : σ → σ) (s : σ) :
    (modify f : EStateM ε σ PUnit) s = .ok ⟨⟩ (f s) := rfl

@[simp] theorem get_run (s : σ) : (get : EStateM ε σ σ) s = .ok s s := rfl

theorem discard_error {x : EStateM ε σ α} {s t : σ} {e : ε} (h : x s = .error e t) :
    (discard x) s = .error e t := by
  show EStateM.map (fun _ => ()) x s = .error e t
  rw [EStateM.map, h]

/-! ## Exceptions that are caught -/

/-- The computation, with its exception as a value. -/
def attempt (x : EStateM ε σ α) : EStateM ε σ (Except ε α) := fun s =>
  match x s with
  | .ok a t => .ok (.ok a) t
  | .error e t => .ok (.error e) t

/-- The value or the exception of another computation. -/
def rethrow : Except ε α → EStateM ε σ α
  | .ok a => pure a
  | .error e => throw e

theorem except_bind_ok {ε α β : Type} {x : Except ε α} {f : α → Except ε β} {b : β}
    (h : (x >>= f) = .ok b) : ∃ a, x = .ok a ∧ f a = .ok b := by
  cases x with
  | error e => cases h
  | ok a => exact ⟨a, rfl, h⟩

/-- A check that has not thrown. -/
theorem unless_ok {ε β : Type} {c : Prop} [Decidable c] {e : ε} {y x : Except ε β} {b : β}
    (h : (if c then y else x) = .ok b) (hy : y = .error e) : ¬c ∧ x = .ok b := by
  split at h
  · cases hy.symm.trans h
  · exact ⟨‹_›, h⟩

/-- A loop of checks passes when each does. -/
theorem forM_ok {ε ι : Type} {l : List ι} {f : ι → Except ε Unit} :
    l.forM f = .ok () ↔ ∀ i ∈ l, f i = .ok () := by
  induction l with
  | nil => exact iff_of_true rfl (List.forall_mem_nil _)
  | cons i l ih =>
    rw [List.forall_mem_cons, ← ih]
    show (f i >>= fun _ => l.forM f) = .ok () ↔ _
    constructor
    · intro h
      obtain ⟨u, hi, hl⟩ := except_bind_ok h
      exact ⟨hi, hl⟩
    · rintro ⟨hi, hl⟩
      rw [hi]
      exact hl

end WSE.Framework
