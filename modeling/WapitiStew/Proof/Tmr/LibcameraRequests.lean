import Mathlib.Data.List.GetD
import Mathlib.Data.List.Nodup
import Mathlib.Data.List.Perm.Subperm
import WapitiStew.Spec.Tmr.LibcameraCamera

/-!
# The request ledger

What each method of `LibcameraRequests` does to the pending requests and to the ring,
and that it keeps the ledger `Sound`. A request is queued only when it is not pending
and does not wait, so that the requests of the ring and the pending ones stay apart
and the ring has room for both.
-/

namespace WSE.Proof.Tmr

open WSE.Framework WSE.Impl.Tmr WSE.Impl.Tmr.LibcameraRequests WSE.Spec.Tmr

/-- Two predicates that differ in one element. -/
theorem length_filter_insert {α : Type} [DecidableEq α] {xs : List α} {f g : α → Bool} {x : α}
    (hn : xs.Nodup) (hx : x ∈ xs) (hf : f x = false) (hg : g x = true)
    (h : ∀ y, y ≠ x → g y = f y) : (xs.filter g).length = (xs.filter f).length + 1 := by
  have hp := List.perm_cons_erase hx
  have he : (xs.erase x).filter g = (xs.erase x).filter f :=
    List.filter_congr fun y hy => h y (hn.mem_erase_iff.mp hy).1
  rw [(hp.filter g).length_eq, (hp.filter f).length_eq, List.filter_cons_of_pos hg,
    List.filter_cons_of_neg (by rw [hf]; exact Bool.false_ne_true), he, List.length_cons]

variable {ρ : Type} [DecidableEq ρ] {l : LibcameraRequests ρ} {r x : ρ}

structure Sound (l : LibcameraRequests ρ) : Prop where
  distinct : l.owners.Nodup
  ready : l.ready.length = l.owners.length
  pending : l.pending.length = l.owners.length
  outstanding : l.outstanding = (queuedRequests l).length
  room : l.count ≤ l.ready.length
  head : l.head < l.ready.length ∨ l.head = 0
  /-- No element of the ring is the null pointer. -/
  pointers : Ring.contents l.ready l.head l.count = (waitingRequests l).map some
  once : (waitingRequests l).Nodup
  waits : ∀ x ∈ waitingRequests l, x ∈ l.owners ∧ l.isPending x = false

/-! ## The pending requests -/

theorem isPending_of_not_owned (h : Sound l) (hx : x ∉ l.owners) : l.isPending x = false := by
  rw [isPending, index, List.idxOf_eq_length hx, ← h.pending, List.getD_eq_getElem?_getD,
    List.getElem?_eq_none (Nat.le_refl _)]
  rfl

theorem owned_of_isPending (h : Sound l) (hx : l.isPending x = true) : x ∈ l.owners := by
  by_contra hn
  rw [isPending_of_not_owned h hn] at hx
  exact Bool.false_ne_true hx

theorem mem_queuedRequests (h : Sound l) : x ∈ queuedRequests l ↔ l.isPending x = true := by
  rw [queuedRequests, List.mem_filter]
  exact ⟨And.right, fun hx => ⟨owned_of_isPending h hx, hx⟩⟩

theorem isPending_set (h : Sound l) (hr : r ∈ l.owners) (b : Bool) (n : Nat) (x : ρ) :
    { l with pending := l.pending.set (l.index r) b, outstanding := n }.isPending x =
      if x = r then b else l.isPending x := by
  have hlt : l.index r < l.pending.length := by
    rw [h.pending]
    exact List.idxOf_lt_length_of_mem hr
  show (l.pending.set (l.index r) b).getD (l.index x) false = _
  rw [List.getD_eq_getElem?_getD]
  split
  · rename_i hx
    rw [hx, List.getElem?_set_self hlt]
    rfl
  · rename_i hx
    have hne : l.index r ≠ l.index x := fun he => hx ((List.idxOf_inj hr).mp he).symm
    rw [List.getElem?_set_ne hne, ← List.getD_eq_getElem?_getD]
    rfl

theorem outstanding_pos (h : Sound l) (hr : l.isPending r = true) : 0 < l.outstanding := by
  rw [h.outstanding]
  exact List.length_pos_of_mem ((mem_queuedRequests h).mpr hr)

theorem isPending_of_outstanding (h : Sound l) (h0 : l.outstanding = 0) (x : ρ) :
    l.isPending x = false := by
  by_contra hx
  have := outstanding_pos h (Bool.not_eq_false _ ▸ hx)
  omega

theorem index_lt (hr : r ∈ l.owners) : l.index r < l.owners.length :=
  List.idxOf_lt_length_of_mem hr

/-! ## `prepare`, `quiesced` and `clear` -/

theorem isPending_prepare (owners : List ρ) (x : ρ) : (prepare owners).isPending x = false := by
  show (List.replicate owners.length false).getD _ false = false
  rw [List.getD_eq_getElem?_getD, List.getElem?_replicate]
  split <;> rfl

theorem queuedRequests_eq_nil (h : ∀ x, l.isPending x = false) : queuedRequests l = [] :=
  List.filter_eq_nil_iff.mpr fun x _ => by rw [h x]; exact Bool.false_ne_true

theorem sound_prepare {owners : List ρ} (h : owners.Nodup) : Sound (prepare owners) where
  distinct := h
  ready := List.length_replicate
  pending := List.length_replicate
  outstanding := by rw [queuedRequests_eq_nil (isPending_prepare owners)]; rfl
  room := Nat.zero_le _
  head := .inr rfl
  pointers := rfl
  once := List.nodup_nil
  waits _ hx := absurd hx List.not_mem_nil

theorem sound_empty : Sound ({} : LibcameraRequests ρ) := sound_prepare List.nodup_nil

theorem isPending_quiesced (x : ρ) : l.quiesced.isPending x = false := by
  show (List.replicate l.pending.length false).getD _ false = false
  rw [List.getD_eq_getElem?_getD, List.getElem?_replicate]
  split <;> rfl

theorem Sound.quiesced (h : Sound l) : Sound l.quiesced where
  distinct := h.distinct
  ready := h.ready
  pending := List.length_replicate.trans h.pending
  outstanding := by rw [queuedRequests_eq_nil isPending_quiesced]; rfl
  room := h.room
  head := h.head
  pointers := h.pointers
  once := h.once
  waits x hx := ⟨(h.waits x hx).1, isPending_quiesced x⟩

/-! ## `queued` and `discharge` -/

/-- The ledger with another entry for `r`, and the number of entries as it is then. -/
theorem Sound.set (h : Sound l) (hr : r ∈ l.owners) {b : Bool} {n : Nat}
    (hn : n = (queuedRequests
      { l with pending := l.pending.set (l.index r) b, outstanding := n }).length)
    (hw : b = true → r ∉ waitingRequests l) :
    Sound { l with pending := l.pending.set (l.index r) b, outstanding := n } where
  distinct := h.distinct
  ready := h.ready
  pending := List.length_set.trans h.pending
  outstanding := hn
  room := h.room
  head := h.head
  pointers := h.pointers
  once := h.once
  waits x hx := by
    refine ⟨(h.waits x hx).1, (isPending_set h hr b n x).trans ?_⟩
    split
    · rename_i he
      cases b with
      | false => rfl
      | true => exact absurd (he ▸ hx) (hw rfl)
    · exact (h.waits x hx).2

theorem queued_eq (hr : r ∈ l.owners) (hp : l.isPending r = false) :
    l.queued r = (true,
      { l with pending := l.pending.set (l.index r) true, outstanding := l.outstanding + 1 }) := by
  rw [queued, hp, decide_eq_false (Nat.ne_of_lt (index_lt hr))]
  rfl

theorem Sound.queued (h : Sound l) (hr : r ∈ l.owners) (hp : l.isPending r = false)
    (hw : r ∉ waitingRequests l) : Sound (l.queued r).2 := by
  rw [queued_eq hr hp]
  refine h.set hr (h.outstanding ▸ ?_) fun _ => hw
  refine (length_filter_insert h.distinct hr hp ?_ fun y hy => ?_).symm
  · rw [isPending_set h hr, if_pos rfl]
  · rw [isPending_set h hr, if_neg hy]

theorem isPending_queued (h : Sound l) (hr : r ∈ l.owners) (hp : l.isPending r = false) (x : ρ) :
    (l.queued r).2.isPending x = (x = r || l.isPending x) := by
  rw [queued_eq hr hp]
  refine (isPending_set h hr true _ x).trans ?_
  split <;> simp [*]

theorem Sound.discharge (h : Sound l) (hp : l.isPending r = true) : Sound (l.discharge r) := by
  have hr := owned_of_isPending h hp
  refine h.set hr ?_ fun hb => absurd hb Bool.false_ne_true
  have hlen : (queuedRequests l).length = (queuedRequests (l.discharge r)).length + 1 := by
    refine length_filter_insert h.distinct hr ?_ hp fun y hy => ?_
    · rw [LibcameraRequests.discharge, isPending_set h hr, if_pos rfl]
    · rw [LibcameraRequests.discharge, isPending_set h hr, if_neg hy]
  rw [h.outstanding, hlen, Nat.add_sub_cancel]
  rfl

theorem isPending_discharge (h : Sound l) (hp : l.isPending r = true) (x : ρ) :
    (l.discharge r).isPending x = (x ≠ r && l.isPending x) := by
  refine (isPending_set h (owned_of_isPending h hp) false _ x).trans ?_
  split <;> simp [*]

theorem rejected_eq (h : Sound l) (hp : l.isPending r = true) : l.rejected r = l.discharge r := by
  rw [rejected, hp, decide_eq_true (index_lt (owned_of_isPending h hp))]
  rfl

/-! ## The ring -/

theorem length_waitingRequests (h : Sound l) : (waitingRequests l).length = l.count := by
  rw [← Ring.length_contents h.room, h.pointers, List.length_map]

/-- Those that wait and those that are queued are different owners. -/
theorem room_of_sound (h : Sound l) :
    (waitingRequests l).length + l.outstanding ≤ l.ready.length := by
  rw [h.outstanding, ← List.length_append, h.ready]
  refine List.Subperm.length_le (List.Nodup.subperm ?_ fun x hx => ?_)
  · refine List.nodup_append.mpr ⟨h.once, h.distinct.filter _, fun x hx y hy he => ?_⟩
    have := (mem_queuedRequests h).mp hy
    rw [← he, (h.waits x hx).2] at this
    exact Bool.false_ne_true this
  · obtain hx | hx := List.mem_append.mp hx
    · exact (h.waits x hx).1
    · exact List.mem_of_mem_filter hx

/-- A request that is neither pending nor in the ring leaves a slot free. -/
theorem count_lt (h : Sound l) (hr : r ∈ l.owners) (hw : r ∉ waitingRequests l) :
    l.count < l.ready.length := by
  have hlen : (r :: waitingRequests l).length ≤ l.owners.length := by
    refine List.Subperm.length_le (List.Nodup.subperm (List.nodup_cons.mpr ⟨hw, h.once⟩) ?_)
    refine List.cons_subset.mpr ⟨hr, fun x hx => (h.waits x hx).1⟩
  rw [List.length_cons, length_waitingRequests h] at hlen
  rw [h.ready]
  omega

theorem append_eq (h : Sound l) (hr : r ∈ l.owners) (hw : r ∉ waitingRequests l) :
    l.append r =
      { l with
        ready := l.ready.set ((l.head + l.count) % l.ready.length) (some r)
        count := l.count + 1 } := by
  rw [append, if_neg (Nat.ne_of_lt (count_lt h hr hw))]

theorem contents_append (h : Sound l) (hr : r ∈ l.owners) (hw : r ∉ waitingRequests l) :
    Ring.contents (l.append r).ready (l.append r).head (l.append r).count =
      (waitingRequests l ++ [r]).map some := by
  rw [append_eq h hr hw, Ring.contents_push _ (count_lt h hr hw), h.pointers, List.map_append]
  rfl

theorem waitingRequests_append (h : Sound l) (hr : r ∈ l.owners) (hw : r ∉ waitingRequests l) :
    waitingRequests (l.append r) = waitingRequests l ++ [r] := by
  rw [waitingRequests, contents_append h hr hw, List.filterMap_map]
  exact List.filterMap_some

theorem Sound.append (h : Sound l) (hr : r ∈ l.owners) (hp : l.isPending r = false)
    (hw : r ∉ waitingRequests l) : Sound (l.append r) := by
  have hq := waitingRequests_append h hr hw
  have hlt := count_lt h hr hw
  refine ⟨?_, ?_, ?_, ?_, ?_, ?_, (contents_append h hr hw).trans (by rw [hq]), ?_, ?_⟩
  · rw [append_eq h hr hw]; exact h.distinct
  · rw [append_eq h hr hw]; exact List.length_set.trans h.ready
  · rw [append_eq h hr hw]; exact h.pending
  · rw [append_eq h hr hw]; exact h.outstanding
  · rw [append_eq h hr hw]
    show l.count + 1 ≤ (l.ready.set _ _).length
    rw [List.length_set]
    omega
  · rw [append_eq h hr hw]
    show l.head < (l.ready.set _ _).length ∨ l.head = 0
    rw [List.length_set]
    exact h.head
  · rw [hq]
    exact List.nodup_append.mpr ⟨h.once, List.nodup_singleton r,
      fun x hx y hy he => hw (List.mem_singleton.mp hy ▸ he ▸ hx)⟩
  · intro x hx
    rw [hq] at hx
    rw [append_eq h hr hw]
    obtain hx | hx := List.mem_append.mp hx
    · exact h.waits x hx
    · rw [List.mem_singleton.mp hx]
      exact ⟨hr, hp⟩

/-! ## `complete` and `pop` -/

theorem complete_eq (h : Sound l) (hp : l.isPending r = true) (publish : Bool) :
    l.complete r publish = if publish then (l.discharge r).append r else l.discharge r := by
  rw [complete, hp, decide_eq_false (Nat.ne_of_lt (index_lt (owned_of_isPending h hp)))]
  rfl

/-- A request that is pending does not wait. -/
theorem not_waiting_of_isPending (h : Sound l) (hp : l.isPending r = true) :
    r ∉ waitingRequests l := by
  intro hw
  rw [(h.waits r hw).2] at hp
  exact Bool.false_ne_true hp

/-- What the completion of a pending request does. -/
structure Completed (l l' : LibcameraRequests ρ) (r : ρ) (publish : Bool) : Prop where
  sound : Sound l'
  owners : l'.owners = l.owners
  fault : l'.fault = l.fault
  isPending : ∀ x, l'.isPending x = (x ≠ r && l.isPending x)
  waiting : waitingRequests l' = if publish then waitingRequests l ++ [r] else waitingRequests l

theorem completed_complete (h : Sound l) (hp : l.isPending r = true) (publish : Bool) :
    Completed l (l.complete r publish) r publish := by
  have hr := owned_of_isPending h hp
  have hd := h.discharge hp
  rw [complete_eq h hp]
  cases publish with
  | false => exact ⟨hd, rfl, rfl, isPending_discharge h hp, rfl⟩
  | true =>
    have hw : r ∉ waitingRequests l := not_waiting_of_isPending h hp
    have hn : (l.discharge r).isPending r = false := by
      rw [isPending_discharge h hp, decide_eq_false (not_not_intro rfl)]
      rfl
    refine ⟨hd.append hr hn hw, ?_, ?_, fun x => ?_, waitingRequests_append hd hr hw⟩
    · rw [if_pos rfl, append_eq hd hr hw]; rfl
    · rw [if_pos rfl, append_eq hd hr hw]; rfl
    · rw [if_pos rfl, append_eq hd hr hw]
      exact isPending_discharge h hp x

/-- What taking the first request of the ring does. -/
structure Popped (l l' : LibcameraRequests ρ) (r : ρ) : Prop where
  sound : Sound l'
  owners : l'.owners = l.owners
  fault : l'.fault = l.fault
  isPending : ∀ x, l'.isPending x = l.isPending x
  waiting : waitingRequests l = r :: waitingRequests l'

theorem popped_pop (h : Sound l) (he : l.empty = false) :
    ∃ r, l.pop.1 = some r ∧ Popped l l.pop.2 r := by
  have hc : 0 < l.count := Nat.pos_of_ne_zero (of_decide_eq_false he)
  have hh : l.head < l.ready.length := by
    obtain hh | hh := h.head
    · exact hh
    · have := h.room
      omega
  have hpop : l.pop = (l.ready[l.head],
      { l with head := (l.head + 1) % l.ready.length, count := l.count - 1 }) := by
    rw [pop, he, List.getD_eq_getElem _ _ hh]
    rfl
  obtain ⟨r, rest, hw⟩ := List.exists_cons_of_length_pos (l := waitingRequests l)
    (by rw [length_waitingRequests h]; exact hc)
  -- the ring is the first waiting request and the rest
  have hring := h.pointers
  rw [Ring.contents_pop hh hc, hw, List.map_cons] at hring
  obtain ⟨hfirst, hrest⟩ := List.cons.inj hring
  have hq : waitingRequests l.pop.2 = rest := by
    rw [hpop, waitingRequests, hrest, List.filterMap_map]
    exact List.filterMap_some
  have honce := h.once
  rw [hw] at honce
  refine ⟨r, by rw [hpop]; exact hfirst, ?_, by rw [hpop], by rw [hpop], ?_, by rw [hq, hw]⟩
  · refine ⟨?_, ?_, ?_, ?_, ?_, ?_, by rw [hq, hpop, hrest], by rw [hq]; exact honce.of_cons, ?_⟩
    · rw [hpop]; exact h.distinct
    · rw [hpop]; exact h.ready
    · rw [hpop]; exact h.pending
    · rw [hpop]; exact h.outstanding
    · rw [hpop]; exact (Nat.sub_le _ _).trans h.room
    · rw [hpop]; exact .inl (Nat.mod_lt _ (by omega))
    · intro x hx
      rw [hq] at hx
      rw [hpop]
      exact h.waits x (hw ▸ List.mem_cons_of_mem _ hx)
  · rw [hpop]
    exact fun _ => rfl

end WSE.Proof.Tmr
