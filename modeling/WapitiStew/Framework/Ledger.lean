/-!
# Ledgers of resources

A `Ledger` counts the resources that were acquired and lists the releases, in
order: a resource is its number, and a resource that is released twice is
listed twice.

* `Sound`: only what was acquired was released, and nothing twice.
* `Live`: acquired, and not released.
* `Changes l m gone come`: from `l` to `m`, `gone` was released, `come` was
  acquired and kept, and what else was acquired was released again.
* `Held l hs`: the live resources are the ones in `hs`, each there once.
-/

namespace WSE.Framework

structure Ledger where
  acquired : Nat := 0
  released : List Nat := []
  deriving DecidableEq, Repr

namespace Ledger

variable {l m n : Ledger} {g g' c c' : List Nat} {r : Nat}

/-- The new resource is `l.acquired`. -/
def acquire (l : Ledger) : Ledger := { l with acquired := l.acquired + 1 }

def release (l : Ledger) (rs : List Nat) : Ledger := { l with released := l.released ++ rs }

@[simp] theorem acquire_acquired (l : Ledger) : l.acquire.acquired = l.acquired + 1 := rfl

@[simp] theorem acquire_released (l : Ledger) : l.acquire.released = l.released := rfl

@[simp] theorem release_acquired (l : Ledger) (rs : List Nat) :
    (l.release rs).acquired = l.acquired := rfl

@[simp] theorem release_released (l : Ledger) (rs : List Nat) :
    (l.release rs).released = l.released ++ rs := rfl

@[simp] theorem release_nil (l : Ledger) : l.release [] = l := by
  rw [release, List.append_nil]

structure Sound (l : Ledger) : Prop where
  known : ∀ r ∈ l.released, r < l.acquired
  once : l.released.Nodup

def Live (l : Ledger) (r : Nat) : Prop := r < l.acquired ∧ r ∉ l.released

instance (l : Ledger) (r : Nat) : Decidable (l.Live r) := inferInstanceAs (Decidable (_ ∧ _))

structure Changes (l m : Ledger) (gone come : List Nat) : Prop where
  before : l.Sound
  after : m.Sound
  grows : l.acquired ≤ m.acquired
  gone_live : ∀ r ∈ gone, l.Live r
  come_new : ∀ r ∈ come, l.acquired ≤ r ∧ r < m.acquired
  released : ∀ r, r ∈ m.released ↔
    r ∈ l.released ∨ r ∈ gone ∨ l.acquired ≤ r ∧ r < m.acquired ∧ r ∉ come

structure Held (l : Ledger) (hs : List Nat) : Prop where
  sound : l.Sound
  once : hs.Nodup
  live : ∀ r, l.Live r ↔ r ∈ hs

namespace Changes

theorem refl (h : l.Sound) : Changes l l [] [] where
  before := h
  after := h
  grows := Nat.le_refl _
  gone_live _ hr := nomatch hr
  come_new _ hr := nomatch hr
  released r := by grind

theorem acquire (h : l.Sound) : Changes l l.acquire [] [l.acquired] where
  before := h
  after := ⟨fun r hr => Nat.lt_succ_of_lt (h.known r hr), h.once⟩
  grows := Nat.le_succ _
  gone_live _ hr := nomatch hr
  come_new r hr := by
    cases List.mem_singleton.mp hr
    exact ⟨Nat.le_refl _, Nat.lt_succ_self _⟩
  released r := by
    have := h.known r
    simp only [acquire_released, acquire_acquired]
    grind

theorem release (h : l.Sound) (hg : ∀ r ∈ g, l.Live r) (hn : g.Nodup) :
    Changes l (l.release g) g [] where
  before := h
  after := by
    refine ⟨fun r hr => ?_, ?_⟩
    · obtain hr | hr := List.mem_append.mp hr
      · exact h.known r hr
      · exact (hg r hr).1
    · rw [release_released, List.nodup_append]
      refine ⟨h.once, hn, fun a ha b hb he => ?_⟩
      exact (hg b hb).2 (he ▸ ha)
  grows := Nat.le_refl _
  gone_live := hg
  come_new _ hr := nomatch hr
  released r := by
    simp only [release_released, release_acquired, List.mem_append]
    grind

/-- What was kept in the first part may be released in the second. -/
theorem trans {G C : List Nat} (h : Changes l m g c) (h' : Changes m n g' c')
    (hG : ∀ r, r ∈ G ↔ r ∈ g ∨ r ∈ g' ∧ r ∉ c) (hC : ∀ r, r ∈ C ↔ r ∈ c ∧ r ∉ g' ∨ r ∈ c') :
    Changes l n G C where
  before := h.before
  after := h'.after
  grows := Nat.le_trans h.grows h'.grows
  gone_live r hr := by
    have hg := h.gone_live r
    have hg' := h'.gone_live r
    have hrel := h.released r
    have := (hG r).mp hr
    unfold Live at *
    grind
  come_new r hr := by
    have hc := h.come_new r
    have hc' := h'.come_new r
    have := (hC r).mp hr
    have := h.grows
    have := h'.grows
    grind
  released r := by
    have hrel := h.released r
    have hrel' := h'.released r
    have hc := h.come_new r
    have hc' := h'.come_new r
    have hg := h.gone_live r
    have hg' := h'.gone_live r
    have hG := hG r
    have hC := hC r
    have := h.grows
    have := h'.grows
    unfold Live at *
    grind

theorem trans_left (h : Changes l m [] []) (h' : Changes m n g c) : Changes l n g c :=
  h.trans h' (by simp) (by simp)

theorem trans_right (h : Changes l m g c) (h' : Changes m n [] []) : Changes l n g c :=
  h.trans h' (by simp) (by simp)

/-- What is new is acquired after what is old was released. -/
theorem replace (h : Changes l m g []) (h' : Changes m n [] c) : Changes l n g c :=
  h.trans h' (by simp) (by simp)

theorem live_of_live (h : Changes l m g c) (hr : l.Live r) (hn : r ∉ g) : m.Live r := by
  have hrel := h.released r
  have := h.grows
  unfold Live at *
  grind

theorem live_of_come (h : Changes l m g c) (hr : r ∈ c) : m.Live r := by
  have hc := h.come_new r hr
  have hg := h.gone_live r
  have hknown := h.before.known r
  have hrel := h.released r
  unfold Live at *
  grind

/-- What is old is released after what is new was acquired. -/
theorem supersede (h : Changes l m [] c) (hg : ∀ r ∈ g, l.Live r) (hn : g.Nodup) :
    Changes l (m.release g) g c := by
  have hnew : ∀ r ∈ g, r ∉ c := fun r hr hc =>
    absurd (h.come_new r hc).1 (Nat.not_le.mpr (hg r hr).1)
  refine h.trans (release h.after (fun r hr => h.live_of_live (hg r hr) (by simp)) hn) ?_ ?_
  · grind
  · grind

/-- What was acquired in between is released again. -/
theorem undo (h : Changes l m [] c) (hn : c.Nodup) : Changes l (m.release c) [] [] :=
  h.trans (release h.after (fun _ hr => h.live_of_come hr) hn) (by grind) (by grind)

end Changes

/-! ## Holders -/

theorem Held.empty : Held {} [] where
  sound := ⟨fun _ h => (nomatch h), List.nodup_nil⟩
  once := List.nodup_nil
  live r := by simp [Live]

/-- One of the holders changes what it holds. -/
theorem Held.changes {hs ks : List Nat} (h : Held l (hs ++ (g ++ ks))) (hc : Changes l m g c)
    (hn : c.Nodup) : Held m (hs ++ (c ++ ks)) where
  sound := hc.after
  once := by
    have honce := h.once
    have hnew : ∀ r ∈ c, r ∉ hs ∧ r ∉ ks := fun r hr => by
      have hle := (hc.come_new r hr).1
      refine ⟨fun hm => ?_, fun hm => ?_⟩
      · exact absurd ((h.live r).mpr (by simp [hm])).1 (Nat.not_lt.mpr hle)
      · exact absurd ((h.live r).mpr (by simp [hm])).1 (Nat.not_lt.mpr hle)
    simp only [List.nodup_append] at honce ⊢
    grind
  live r := by
    have hl := h.live r
    have hrel := hc.released r
    have hg := hc.gone_live r
    have hcome := hc.come_new r
    have := hc.grows
    have := hc.before.known r
    have honce := h.once
    simp only [List.nodup_append, List.mem_append] at honce hl ⊢
    unfold Live at *
    grind

theorem Held.kept {hs : List Nat} (h : Held l hs) (hc : Changes l m [] []) : Held m hs where
  sound := hc.after
  once := h.once
  live r := by
    have hl := h.live r
    have hrel := hc.released r
    have := hc.grows
    have := hc.before.known r
    unfold Live at *
    grind

theorem Held.acquire {hs : List Nat} (h : Held l hs) : Held l.acquire (hs ++ [l.acquired]) := by
  have hnone : Held l (hs ++ ([] ++ [])) := by simpa using h
  have hc := hnone.changes (.acquire h.sound) (List.pairwise_singleton _ _)
  simpa using hc

/-- Some of what is held is released. -/
theorem Held.release {hs ks : List Nat} (h : Held l (hs ++ (g ++ ks))) :
    Held (l.release g) (hs ++ ks) := by
  have hlive : ∀ r ∈ g, l.Live r := fun r hr =>
    (h.live r).mpr (List.mem_append_right hs (List.mem_append_left ks hr))
  have honce : g.Nodup :=
    (List.nodup_append.mp (List.nodup_append.mp h.once).2.1).1
  exact h.changes (.release h.sound hlive honce) List.nodup_nil

theorem Held.perm {hs ks : List Nat} (h : Held l hs) (hp : hs.Perm ks) : Held l ks :=
  ⟨h.sound, hp.nodup_iff.mp h.once, fun r => (h.live r).trans hp.mem_iff⟩

end Ledger

end WSE.Framework
