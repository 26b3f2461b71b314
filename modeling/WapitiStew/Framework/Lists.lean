import Mathlib.Data.List.Perm.Basic
import Mathlib.Order.Nat
import Mathlib.Tactic.TypeStar

/-!
# Lists and loops

Lists whose elements stand for parties, and loops that count.
-/

namespace WSE.Framework

/-!
## Lists of parties

Systems of any number of parties keep a list of them: a new one goes to the end, and
one that has moved is set in place. `getElem?_append_cases` and `getElem?_set_cases` say
who stands at an index then, `filterMap_set_perm` what the parties hold together.
-/

section

variable {β γ : Type*} {l : List β} {x y : β} {i j : Nat}

theorem getElem?_set_cases (h : (l.set i x)[j]? = some y) :
    j = i ∧ y = x ∨ j ≠ i ∧ l[j]? = some y := by
  rw [List.getElem?_set] at h
  split at h
  · next he =>
    split at h
    · exact .inl ⟨he.symm, (Option.some.inj h).symm⟩
    · cases h
  · next he => exact .inr ⟨Ne.symm he, h⟩

theorem getElem?_append_cases (h : (l ++ [x])[j]? = some y) :
    l[j]? = some y ∨ j = l.length ∧ y = x := by
  obtain hlt | hge := Nat.lt_or_ge j l.length
  · exact .inl ((List.getElem?_append_left hlt) ▸ h)
  · rw [List.getElem?_append_right hge] at h
    obtain ⟨hj, hx⟩ := List.getElem?_eq_some_iff.mp h
    have hj : j - l.length = 0 := Nat.lt_one_iff.mp hj
    refine .inr ⟨by omega, ?_⟩
    simp only [hj, List.getElem_cons_zero] at hx
    exact hx.symm

theorem getElem?_append_old (x : β) (h : l[j]? = some y) : (l ++ [x])[j]? = some y := by
  rw [List.getElem?_append_left (List.getElem?_eq_some_iff.mp h).1]
  exact h

/-- A list of computations that all give something, one thing each. -/
theorem mapM_eq_some {f : β → Option γ} {bs : List γ} (h : l.mapM f = some bs) :
    bs.length = l.length ∧ ∀ (i : Nat) (x : β), l[i]? = some x → f x = bs[i]? ∧ i < bs.length := by
  induction l generalizing bs with
  | nil =>
    cases h
    exact ⟨rfl, fun i x hx => nomatch hx⟩
  | cons y l ih =>
    rw [List.mapM_cons] at h
    obtain ⟨b, hb, h⟩ := Option.bind_eq_some_iff.mp h
    obtain ⟨cs, hcs, h⟩ := Option.bind_eq_some_iff.mp h
    cases h
    obtain ⟨hlen, hget⟩ := ih hcs
    refine ⟨congrArg (· + 1) hlen, fun i x hx => ?_⟩
    cases i with
    | zero =>
      cases hx
      exact ⟨hb, Nat.succ_pos _⟩
    | succ i => exact ⟨(hget i x hx).1, Nat.succ_lt_succ (hget i x hx).2⟩

theorem lt_of_getElem? (h : l[i]? = some y) : i < l.length := (List.getElem?_eq_some_iff.mp h).1

/-- What one party holds, and what the others hold. -/
theorem filterMap_perm (f : β → Option γ) (h : l[i]? = some x) :
    (l.filterMap f).Perm ((f x).toList ++ (l.eraseIdx i).filterMap f) := by
  induction l generalizing i with
  | nil => cases h
  | cons z l ih =>
    cases i with
    | zero =>
      cases h
      rw [List.eraseIdx_cons_zero, List.filterMap_cons]
      cases f x with
      | none => exact .refl _
      | some c => exact .refl _
    | succ i =>
      have hp := ih h
      rw [List.eraseIdx_cons_succ, List.filterMap_cons, List.filterMap_cons]
      cases f z with
      | none => exact hp
      | some c => exact (hp.cons c).trans List.perm_middle.symm

theorem filterMap_set_perm (f : β → Option γ) (h : l[i]? = some x) (y : β) :
    ((l.set i y).filterMap f).Perm ((f y).toList ++ (l.eraseIdx i).filterMap f) := by
  have hp := filterMap_perm f (List.getElem?_set_self (a := y) (lt_of_getElem? h))
  rwa [List.eraseIdx_set_eq] at hp

end

/-!
## Counting loops

`forRange first last f` is the loop `for (i = first; i < last; ++i)` over a state. What holds of the
first index and is handed on by each turn holds of the last (`forRange_invariant`). A loop over a
list whose turns may fail has a rule of the same kind (`foldlM_invariant`).
-/

section

variable {σ τ : Type*}

def forRange (first last : Nat) (f : Nat → σ → σ) (s : σ) : σ :=
  (List.range' first (last - first)).foldl (fun s i => f i s) s

variable {first last : Nat} {f : Nat → σ → σ} {s : σ}

@[simp] theorem forRange_self : forRange first first f s = s := by
  rw [forRange, Nat.sub_self]
  rfl

theorem forRange_of_le (h : last ≤ first) : forRange first last f s = s := by
  rw [forRange, Nat.sub_eq_zero_of_le h]
  rfl

theorem forRange_succ (h : first ≤ last) :
    forRange first (last + 1) f s = f last (forRange first last f s) := by
  rw [forRange, Nat.succ_sub h, List.range'_concat, List.foldl_append, Nat.one_mul,
    Nat.add_sub_cancel' h]
  rfl

/-- The rule of the loop. -/
theorem forRange_invariant {P : Nat → σ → Prop} (hle : first ≤ last) (hs : P first s)
    (hstep : ∀ i t, first ≤ i → i < last → P i t → P (i + 1) (f i t)) :
    P last (forRange first last f s) := by
  induction last, hle using Nat.le_induction with
  | base =>
    rw [forRange_self]
    exact hs
  | succ last hle ih =>
    rw [forRange_succ hle]
    refine hstep last _ hle (Nat.lt_succ_self last) (ih fun i t hi hlt ht => ?_)
    exact hstep i t hi (Nat.lt_succ_of_lt hlt) ht

/-- A loop on two states at once, each by itself. -/
theorem forRange_prod (g : Nat → τ → τ) (t : τ) :
    forRange first last (fun i (u : σ × τ) => (f i u.1, g i u.2)) (s, t) =
      (forRange first last f s, forRange first last g t) := by
  obtain hle | hle := Nat.le_total first last
  · induction last, hle using Nat.le_induction with
    | base => simp only [forRange_self]
    | succ last hle ih => simp only [forRange_succ hle, ih]
  · simp only [forRange_of_le hle]

/-- A loop over a list whose turns may fail: what holds of the items that are done. -/
theorem foldlM_invariant {β : Type*} {step : σ → β → Option σ} {P : List β → σ → Prop}
    {done items : List β}
    (hstep : ∀ done, ∀ b ∈ items, ∀ t, P done t → ∃ u, step t b = some u ∧ P (done ++ [b]) u)
    (hs : P done s) : ∃ t, items.foldlM step s = some t ∧ P (done ++ items) t := by
  induction items generalizing s done with
  | nil =>
    refine ⟨s, rfl, ?_⟩
    rw [List.append_nil]
    exact hs
  | cons b items ih =>
    obtain ⟨u, hu, hP⟩ := hstep done b List.mem_cons_self s hs
    obtain ⟨t, ht, hend⟩ := ih (fun done c hc => hstep done c (List.mem_cons_of_mem b hc)) hP
    refine ⟨t, ?_, ?_⟩
    · rw [List.foldlM_cons, hu]
      exact ht
    · rw [List.append_assoc] at hend
      exact hend

end

end WSE.Framework
