import Mathlib.Tactic.TypeStar

/-!
# Labelled transition systems

A system is a partial function `step : σ → α → Option σ`: the action names the
thread that moves and carries whatever the environment decides (the result of
a native call, a clock reading, an allocation failure), so that a step is
determined by its action and `none` says that the action is not enabled.

* `run`: the state after a list of actions; `run_append` splits it.
* `run_invariant`: what holds initially and is kept by every step holds at the
  end of every run. `run_invariant_along` is the same for runs whose steps all
  meet a condition (`Along`).
-/

namespace WSE.Framework

variable {σ α : Type*}

/-- The state after performing `as` from `s`, if every action is enabled. -/
def run (step : σ → α → Option σ) : σ → List α → Option σ
  | s, [] => some s
  | s, a :: as => (step s a).bind fun s' => run step s' as

/-- Every step of the run of `as` from `s` meets `ok`. -/
def Along (step : σ → α → Option σ) (ok : σ → α → Prop) : σ → List α → Prop
  | _, [] => True
  | s, a :: as => ok s a ∧ ∀ s', step s a = some s' → Along step ok s' as

/-- Some run from `init` ends in `s`. -/
def Reachable (step : σ → α → Option σ) (init s : σ) : Prop := ∃ as, run step init as = some s

section Runs

variable {step : σ → α → Option σ}

@[simp] theorem run_nil (s : σ) : run step s [] = some s := rfl

theorem run_cons {s s' : σ} {a : α} {as : List α} :
    run step s (a :: as) = some s' ↔ ∃ t, step s a = some t ∧ run step t as = some s' := by
  simp only [run, Option.bind_eq_some_iff]

theorem run_append {s s' : σ} {as bs : List α} :
    run step s (as ++ bs) = some s' ↔ ∃ t, run step s as = some t ∧ run step t bs = some s' := by
  induction as generalizing s with
  | nil => simp
  | cons a as ih =>
    simp only [List.cons_append, run_cons, ih]
    constructor
    · rintro ⟨t, ht, u, hu, h⟩
      exact ⟨u, ⟨t, ht, hu⟩, h⟩
    · rintro ⟨u, ⟨t, ht, hu⟩, h⟩
      exact ⟨t, ht, u, hu, h⟩

theorem run_snoc {s s' : σ} {a : α} {as : List α} :
    run step s (as ++ [a]) = some s' ↔ ∃ t, run step s as = some t ∧ step t a = some s' := by
  simp only [run_append, run_cons, run_nil, Option.some.injEq, exists_eq_right]

/-- The invariant rule for runs whose steps all meet `ok`. -/
theorem run_invariant_along {ok : σ → α → Prop} {Inv : σ → Prop}
    (hstep : ∀ s a s', Inv s → ok s a → step s a = some s' → Inv s') {s s' : σ} {as : List α}
    (hs : Inv s) (hok : Along step ok s as) (hr : run step s as = some s') : Inv s' := by
  induction as generalizing s with
  | nil => cases hr; exact hs
  | cons a as ih =>
    obtain ⟨t, ht, hr⟩ := run_cons.mp hr
    exact ih (hstep s a t hs hok.1 ht) (hok.2 t ht) hr

theorem Along.cons {ok : σ → α → Prop} {s t : σ} {a : α} {as : List α} (ha : ok s a)
    (hs : step s a = some t) (h : Along step ok t as) : Along step ok s (a :: as) :=
  ⟨ha, fun _ ht => Option.some.inj (hs.symm.trans ht) ▸ h⟩

/-- Two conditions along the same steps. -/
theorem Along.and {ok ok' : σ → α → Prop} {s : σ} {as : List α} (h : Along step ok s as)
    (h' : Along step ok' s as) : Along step (fun s a => ok s a ∧ ok' s a) s as := by
  induction as generalizing s with
  | nil => trivial
  | cons a as ih => exact ⟨⟨h.1, h'.1⟩, fun t ht => ih (h.2 t ht) (h'.2 t ht)⟩

theorem Along.of_append {ok : σ → α → Prop} {s : σ} {as bs : List α}
    (h : Along step ok s (as ++ bs)) : Along step ok s as := by
  induction as generalizing s with
  | nil => trivial
  | cons a as ih => exact ⟨h.1, fun t ht => ih (h.2 t ht)⟩

theorem Along.snoc {ok : σ → α → Prop} {s : σ} {a : α} {as : List α} (h : Along step ok s as)
    (ha : ∀ t, run step s as = some t → ok t a) : Along step ok s (as ++ [a]) := by
  induction as generalizing s with
  | nil => exact ⟨ha s rfl, fun _ _ => trivial⟩
  | cons b as ih =>
    refine ⟨h.1, fun s' hs => ih (h.2 s' hs) fun t ht => ha t ?_⟩
    exact run_cons.mpr ⟨s', hs, ht⟩

/-- What a step keeps exactly if it meets `ok` holds all along a run exactly if all steps do. -/
theorem along_iff_invariant {ok : σ → α → Prop} {Inv : σ → Prop}
    (hstep : ∀ s a s', Inv s → step s a = some s' → (Inv s' ↔ ok s a)) {s s' : σ} {as : List α}
    (hs : Inv s) (hr : run step s as = some s') :
    Along step ok s as ↔ ∀ bs cs t, as = bs ++ cs → run step s bs = some t → Inv t := by
  constructor
  · rintro h bs cs t rfl ht
    exact run_invariant_along (fun s a s' hi ha hst => (hstep s a s' hi hst).mpr ha) hs
      h.of_append ht
  · intro h
    induction as generalizing s with
    | nil => trivial
    | cons a as ih =>
      obtain ⟨t, ht, hr⟩ := run_cons.mp hr
      have hit : Inv t := h [a] as t rfl (run_cons.mpr ⟨t, ht, rfl⟩)
      refine .cons ((hstep s a t hs ht).mp hit) ht (ih hit hr ?_)
      rintro bs cs u rfl hu
      exact h (a :: bs) cs u rfl (run_cons.mpr ⟨t, ht, hu⟩)

instance Along.decidable {ok : σ → α → Prop} [∀ s a, Decidable (ok s a)] (s : σ) (as : List α) :
    Decidable (Along step ok s as) :=
  match as with
  | [] => isTrue trivial
  | a :: as =>
    match h : step s a with
    | none => decidable_of_iff (ok s a)
        ⟨fun ha => ⟨ha, fun _ hs => nomatch hs.symm.trans h⟩, And.left⟩
    | some t =>
      have : Decidable (Along step ok t as) := Along.decidable t as
      decidable_of_iff (ok s a ∧ Along step ok t as)
        ⟨fun ⟨ha, ht⟩ => .cons ha h ht, fun ha => ⟨ha.1, ha.2 t h⟩⟩

/-- Actions that meet `ok` in every state make a run that meets it. -/
theorem along_of_forall {ok : σ → α → Prop} {as : List α} (h : ∀ a ∈ as, ∀ s, ok s a) (s : σ) :
    Along step ok s as := by
  induction as generalizing s with
  | nil => trivial
  | cons a as ih =>
    obtain ⟨ha, has⟩ := List.forall_mem_cons.mp h
    exact ⟨ha s, fun s' _ => ih has s'⟩

theorem along_true (s : σ) (as : List α) : Along step (fun _ _ => True) s as :=
  along_of_forall (fun _ _ _ => trivial) s

/-- The invariant rule. -/
theorem run_invariant {Inv : σ → Prop}
    (hstep : ∀ s a s', Inv s → step s a = some s' → Inv s') {s s' : σ} {as : List α}
    (hs : Inv s) (hr : run step s as = some s') : Inv s' :=
  run_invariant_along (fun s a s' h _ => hstep s a s' h) hs (along_true s as) hr

/-- Where every action is enabled, every run ends, and in a state that meets the invariant. -/
theorem run_total {Inv : σ → Prop} (hstep : ∀ s a, Inv s → ∃ t, step s a = some t ∧ Inv t) {s : σ}
    (hs : Inv s) (as : List α) : ∃ t, run step s as = some t ∧ Inv t := by
  induction as generalizing s with
  | nil => exact ⟨s, rfl, hs⟩
  | cons a as ih =>
    obtain ⟨t, ht, hinv⟩ := hstep s a hs
    obtain ⟨u, hu, hu'⟩ := ih hinv
    exact ⟨u, run_cons.mpr ⟨t, ht, hu⟩, hu'⟩

theorem Reachable.invariant {init s : σ} {Inv : σ → Prop} (h : Reachable step init s)
    (hinit : Inv init) (hstep : ∀ s a s', Inv s → step s a = some s' → Inv s') : Inv s := by
  obtain ⟨as, hr⟩ := h
  exact run_invariant hstep hinit hr

end Runs

end WSE.Framework
