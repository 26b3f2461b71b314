import Mathlib.Data.List.Induction

/-!
# Histories and monitors

A system that records its events gives a history, a list with the last event at
its end. A monitor reads a history one event at a time: `after` is what it knows
then, and it `Accepts` the histories in which each event is allowed by what is
known before it. An invariant that ties the state of a system to `after` makes every
history of the system accepted (`accepts_snoc` is the step), and what a monitor
forbids is then read off an accepted history (`after_induction`, `Accepts.allowed`). A history
that is at hand is checked event by event (`Checks`).
-/

namespace WSE.Framework

/-- Where an element of an extended list stands: it is the new one, or an old one. -/
theorem snoc_split {α : Type*} {xs pre post : List α} {x e : α}
    (h : xs ++ [x] = pre ++ e :: post) :
    post = [] ∧ pre = xs ∧ e = x ∨ ∃ post', post = post' ++ [x] ∧ xs = pre ++ e :: post' := by
  induction post using List.reverseRecOn with
  | nil =>
    obtain ⟨h1, h2⟩ := List.append_inj' h rfl
    exact .inl ⟨rfl, h1.symm, (List.cons.inj h2).1.symm⟩
  | append_singleton post y _ =>
    rw [← List.cons_append, ← List.append_assoc] at h
    obtain ⟨h1, h2⟩ := List.append_inj' h rfl
    exact .inr ⟨post, by rw [(List.cons.inj h2).1], h1⟩

structure Monitor (ε τ : Type*) where
  init : τ
  next : τ → ε → τ
  allowed : τ → ε → Prop

namespace Monitor

variable {ε τ : Type*} (m : Monitor ε τ)

/-- What is known after a history. -/
def after (log : List ε) : τ := log.foldl m.next m.init

def Accepts (log : List ε) : Prop :=
  ∀ pre e post, log = pre ++ e :: post → m.allowed (m.after pre) e

@[simp] theorem after_nil : m.after [] = m.init := rfl

@[simp] theorem after_append (log more : List ε) :
    m.after (log ++ more) = more.foldl m.next (m.after log) := by
  simp only [after, List.foldl_append]

theorem after_snoc (log : List ε) (e : ε) : m.after (log ++ [e]) = m.next (m.after log) e := by
  rw [after_append, List.foldl_cons, List.foldl_nil]

theorem accepts_nil : m.Accepts [] := by
  intro pre e post h
  exact absurd h.symm (by simp)

variable {m}

theorem Accepts.allowed {pre post : List ε} {e : ε} (h : m.Accepts (pre ++ e :: post)) :
    m.allowed (m.after pre) e := h pre e post rfl

theorem Accepts.init {pre post : List ε} (h : m.Accepts (pre ++ post)) : m.Accepts pre := by
  intro p e q hp
  subst hp
  exact h p e (q ++ post) (by simp)

theorem accepts_snoc {log : List ε} {e : ε} :
    m.Accepts (log ++ [e]) ↔ m.Accepts log ∧ m.allowed (m.after log) e := by
  refine ⟨fun h => ⟨h.init, h.allowed⟩, fun ⟨h, he⟩ pre f post hs => ?_⟩
  obtain ⟨rfl, rfl, rfl⟩ | ⟨post, rfl, rfl⟩ := snoc_split hs
  · exact he
  · exact h.allowed

theorem Accepts.allowed_at {log : List ε} {i : Nat} {e : ε} (h : m.Accepts log)
    (hi : log[i]? = some e) : m.allowed (m.after (log.take i)) e := by
  obtain ⟨hlt, rfl⟩ := List.getElem?_eq_some_iff.mp hi
  refine h _ _ (log.drop (i + 1)) ?_
  rw [← List.drop_eq_getElem_cons hlt, List.take_append_drop]

/-- Induction on an accepted history. -/
theorem Accepts.induction {P : List ε → Prop} {log : List ε} (h : m.Accepts log) (hnil : P [])
    (hsnoc : ∀ log e, m.allowed (m.after log) e → P log → P (log ++ [e])) : P log := by
  induction log using List.reverseRecOn with
  | nil => exact hnil
  | append_singleton log e ih =>
    obtain ⟨hlog, he⟩ := accepts_snoc.mp h
    exact hsnoc log e he (ih hlog)

/-- What holds after a history and is kept by each of some more events holds after them. -/
theorem after_induction {P : τ → Prop} {pre mid : List ε} (h : P (m.after pre))
    (hmid : ∀ e ∈ mid, ∀ t, P t → P (m.next t e)) : P (m.after (pre ++ mid)) := by
  induction mid using List.reverseRecOn with
  | nil => rwa [List.append_nil]
  | append_singleton mid e ih =>
    rw [← List.append_assoc, after_append]
    refine hmid e (by simp) _ (ih fun f hf => hmid f (List.mem_append_left _ hf))

/-- What holds after a history and is kept by each of some more allowed events holds after them. -/
theorem Accepts.keeps {P : τ → Prop} {pre mid : List ε} (h : m.Accepts (pre ++ mid))
    (hp : P (m.after pre)) (hmid : ∀ e ∈ mid, ∀ t, m.allowed t e → P t → P (m.next t e)) :
    P (m.after (pre ++ mid)) := by
  induction mid using List.reverseRecOn with
  | nil => rwa [List.append_nil]
  | append_singleton mid e ih =>
    rw [← List.append_assoc] at h ⊢
    rw [after_snoc]
    have hpre := ih h.init fun f hf => hmid f (List.mem_append_left _ hf)
    exact hmid e (by simp) _ (accepts_snoc.mp h).2 hpre

/-- What holds once `e` has happened, and is kept up to `f`, holds of what `f` is allowed by. -/
theorem Accepts.between {P : τ → Prop} {pre mid post : List ε} {e f : ε}
    (h : m.Accepts (pre ++ e :: (mid ++ f :: post))) (he : P (m.next (m.after pre) e))
    (hmid : ∀ x ∈ mid, ∀ t, P t → P (m.next t x)) : ∃ t, P t ∧ m.allowed t f := by
  have hassoc : pre ++ e :: (mid ++ f :: post) = (pre ++ [e] ++ mid) ++ f :: post := by
    simp only [List.append_assoc, List.cons_append, List.nil_append]
  rw [hassoc] at h
  refine ⟨_, after_induction ?_ hmid, h.allowed⟩
  rw [after_append]
  exact he

/-- The events are allowed one after the other, from `t` on. -/
def Checks (m : Monitor ε τ) : τ → List ε → Prop
  | _, [] => True
  | t, e :: log => m.allowed t e ∧ m.Checks (m.next t e) log

instance Checks.decidable [∀ t e, Decidable (m.allowed t e)] (t : τ) (log : List ε) :
    Decidable (m.Checks t log) :=
  match log with
  | [] => isTrue trivial
  | e :: log =>
    have := Checks.decidable (m.next t e) log
    inferInstanceAs (Decidable (_ ∧ _))

theorem accepts_append {log more : List ε} :
    m.Accepts (log ++ more) ↔ m.Accepts log ∧ m.Checks (m.after log) more := by
  induction more generalizing log with
  | nil => rw [List.append_nil, Checks, and_true]
  | cons e more ih =>
    rw [← List.singleton_append, ← List.append_assoc, ih, accepts_snoc, after_snoc, and_assoc]
    rfl

instance Accepts.decidable [∀ t e, Decidable (m.allowed t e)] (log : List ε) :
    Decidable (m.Accepts log) :=
  decidable_of_iff (m.Checks m.init log)
    ⟨fun h => accepts_append.mpr ⟨m.accepts_nil, h⟩,
      fun h => (accepts_append.mp (show m.Accepts ([] ++ log) from h)).2⟩

end Monitor

end WSE.Framework
