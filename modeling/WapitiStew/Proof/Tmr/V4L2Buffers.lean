import WapitiStew.Spec.Tmr.V4L2Camera

/-!
# What the driver of a V4L2 camera knows

`Owns d b q` is a state in which the backend is `b`, is open on `d`, and the
driver owns the buffers `q`; `Shut` is one in which it is closed. The native
calls are taken from one to the other here: queueing and dequeueing a buffer,
the end of the stream, and the end of the descriptor with its mappings
(`close_ends`).
-/

namespace WSE.Proof.Tmr

open WSE.Framework WSE.Framework.Running WSE.Impl.Tmr WSE.Spec.Tmr

variable {w : V4L2World} {s : V4L2State} {d : Nat} {b : V4L2CameraBackend} {q : Nat → Prop}

/-! ## The books of the driver -/

theorem driver_record (s : V4L2State) (e : NativeEvent) :
    driver (s.record e) = (driver s).next e := by
  rw [driver, V4L2State.record, Monitor.after_append]
  rfl

/-- The history is accepted, and new numbers are new to the driver. -/
structure Books (s : V4L2State) : Prop where
  accepted : v4l2Driver.Accepts s.events
  descriptors : (driver s).descriptors = s.descriptors
  mappings : (driver s).mappings = s.mappings

structure Owns (d : Nat) (b : V4L2CameraBackend) (q : Nat → Prop) (s : V4L2State) : Prop
    extends Books s where
  backend : s.backend = b
  descriptor : b.descriptor = some d
  opened : (driver s).opened = [d]
  mapped : (driver s).mapped = (addresses b.buffers).map (·, d)
  known : ∀ m ∈ addresses b.buffers, m < s.mappings
  once : (addresses b.buffers).Nodup
  queued : ∀ e i, (e, i) ∈ (driver s).queued ↔ e = d ∧ q i

structure Shut (s : V4L2State) : Prop extends Books s, V4L2Closed s

theorem Books.record (h : Books s) {e : NativeEvent} (ha : (driver s).allowed e)
    (hd : ((driver s).next e).descriptors = s.descriptors)
    (hm : ((driver s).next e).mappings = s.mappings) : Books (s.record e) where
  accepted := Monitor.accepts_snoc.mpr ⟨h.accepted, ha⟩
  descriptors := by rw [driver_record]; exact hd
  mappings := by rw [driver_record]; exact hm

theorem Owns.asked (h : Owns d b q s) : Owns d b q s.asked :=
  ⟨⟨h.accepted, h.descriptors, h.mappings⟩, h.backend, h.descriptor, h.opened, h.mapped, h.known,
    h.once, h.queued⟩

theorem Shut.asked (h : Shut s) : Shut s.asked :=
  ⟨⟨h.accepted, h.descriptors, h.mappings⟩, ⟨h.backend, h.opened, h.mapped, h.queued⟩⟩

/-- The backend changes what the driver does not see. -/
theorem Owns.setBackend (h : Owns d b q s) {c : V4L2CameraBackend}
    (hd : c.descriptor = b.descriptor) (hb : addresses c.buffers = addresses b.buffers) :
    Owns d c q (s.setBackend c) :=
  ⟨⟨h.accepted, h.descriptors, h.mappings⟩, rfl, hd.trans h.descriptor, h.opened, hb ▸ h.mapped,
    hb ▸ h.known, hb ▸ h.once, h.queued⟩

theorem Owns.congr (h : Owns d b q s) (q' : Nat → Prop) (hq : ∀ i, q i ↔ q' i) :
    Owns d b q' s :=
  ⟨h.toBooks, h.backend, h.descriptor, h.opened, h.mapped, h.known, h.once,
    fun e i => (h.queued e i).trans (and_congr_right fun _ => hq i)⟩

/-- An event that changes the buffers of the driver only. -/
theorem Owns.record (h : Owns d b q s) {e : NativeEvent} {queued : List (Nat × Nat)}
    {q' : Nat → Prop} (ha : (driver s).allowed e)
    (hn : (driver s).next e = { driver s with queued })
    (hq : ∀ e i, (e, i) ∈ queued ↔ e = d ∧ q' i) : Owns d b q' (s.record e) where
  toBooks := h.toBooks.record ha (by rw [hn]; exact h.descriptors) (by rw [hn]; exact h.mappings)
  backend := h.backend
  descriptor := h.descriptor
  opened := by rw [driver_record, hn]; exact h.opened
  mapped := by rw [driver_record, hn]; exact h.mapped
  known := h.known
  once := h.once
  queued := by rw [driver_record, hn]; exact hq

theorem Owns.mem_opened (h : Owns d b q s) : d ∈ (driver s).opened := by
  rw [h.opened]
  exact List.mem_singleton_self d

theorem Owns.update (h : Owns d b q s) (f : V4L2CameraBackend → V4L2CameraBackend)
    (hd : (f b).descriptor = b.descriptor) (hb : addresses (f b).buffers = addresses b.buffers) :
    Owns d (f b) q (s.setBackend (f s.backend)) := by
  rw [h.backend]
  exact h.setBackend hd hb

/-- A mapping is made, and the backend keeps it. -/
theorem Owns.map (h : Owns d b q s) {c : V4L2CameraBackend} (hd : c.descriptor = b.descriptor)
    (hb : addresses c.buffers = addresses b.buffers ++ [s.mappings]) :
    Owns d c q
      { (s.record (.mapped s.mappings d)).setBackend c with mappings := s.mappings + 1 } := by
  have hdriver := driver_record s (.mapped s.mappings d)
  have ha : (driver s).allowed (.mapped s.mappings d) := ⟨h.mappings.symm, h.mem_opened⟩
  refine ⟨⟨Monitor.accepts_snoc.mpr ⟨h.accepted, ha⟩, ?_, ?_⟩, rfl, hd.trans h.descriptor, ?_, ?_,
    ?_, ?_, ?_⟩
  · show (driver (s.record (.mapped s.mappings d))).descriptors = s.descriptors
    rw [hdriver]
    exact h.descriptors
  · show (driver (s.record (.mapped s.mappings d))).mappings = s.mappings + 1
    rw [hdriver]
    rfl
  · show (driver (s.record (.mapped s.mappings d))).opened = [d]
    rw [hdriver]
    exact h.opened
  · show (driver (s.record (.mapped s.mappings d))).mapped = _
    rw [hdriver, hb, List.map_append, ← h.mapped]
    rfl
  · intro m hm
    rw [hb, List.mem_append, List.mem_singleton] at hm
    obtain hm | rfl := hm
    · exact Nat.lt_succ_of_lt (h.known m hm)
    · exact Nat.lt_succ_self _
  · rw [hb, List.nodup_append]
    refine ⟨h.once, List.pairwise_singleton _ _, fun m hm n hn he => ?_⟩
    rw [List.mem_singleton] at hn
    exact absurd (h.known m hm) (by omega)
  · show ∀ e i, (e, i) ∈ (driver (s.record (.mapped s.mappings d))).queued ↔ e = d ∧ q i
    rw [hdriver]
    exact h.queued

theorem Owns.enqueue (h : Owns d b q s) {i : Nat} (hi : ¬q i) :
    Owns d b (fun j => q j ∨ j = i) (s.record (.queued d i)) := by
  have hni : (d, i) ∉ (driver s).queued := fun hm => hi ((h.queued d i).mp hm).2
  refine h.record ⟨h.mem_opened, hni⟩ rfl fun e j => ?_
  rw [List.mem_cons, h.queued, Prod.mk.injEq]
  constructor
  · rintro (⟨rfl, rfl⟩ | ⟨rfl, hj⟩)
    · exact ⟨rfl, .inr rfl⟩
    · exact ⟨rfl, .inl hj⟩
  · rintro ⟨rfl, hj | rfl⟩
    · exact .inr ⟨rfl, hj⟩
    · exact .inl ⟨rfl, rfl⟩

theorem Owns.dequeue (h : Owns d b q s) (i : Nat) :
    Owns d b (fun j => q j ∧ j ≠ i) (s.record (.dequeued d i)) := by
  refine h.record (e := .dequeued d i) h.mem_opened rfl fun e j => ?_
  rw [List.mem_filter, h.queued, decide_eq_true_eq, Ne, Prod.mk.injEq]
  constructor
  · rintro ⟨⟨rfl, hj⟩, hne⟩
    exact ⟨rfl, hj, fun hji => hne ⟨rfl, hji⟩⟩
  · rintro ⟨rfl, hj, hne⟩
    exact ⟨⟨rfl, hj⟩, fun hji => hne hji.2⟩

theorem Owns.streamOff (h : Owns d b q s) :
    Owns d b (fun _ => False) (s.record (.streamedOff d)) := by
  refine h.record (e := .streamedOff d) h.mem_opened rfl fun e j => ?_
  rw [List.mem_filter, h.queued, decide_eq_true_eq]
  exact ⟨fun hj => absurd hj.1.1 hj.2, fun hj => hj.2.elim⟩

theorem Owns.streamOn (h : Owns d b q s) : Owns d b q (s.record (.streamedOn d)) :=
  h.record (e := .streamedOn d) h.mem_opened rfl h.queued

theorem Owns.copy (h : Owns d b q s) {i : Nat} (hi : ¬q i) :
    Owns d b q (s.record (.copied d i)) := by
  have hni : (d, i) ∉ (driver s).queued := fun hm => hi ((h.queued d i).mp hm).2
  exact h.record (e := .copied d i) ⟨h.mem_opened, hni⟩ rfl h.queued

/-! ## Questions and `ioctl`s -/

theorem ask_run {α : Type} (answer : Nat → α) (s : V4L2State) :
    ask answer s = some (answer s.tick, s.asked) := rfl

theorem ask_ends {α : Type} {P : V4L2State → Prop} (answer : Nat → α)
    (h : ∀ s, P s → P s.asked) : Ends P (ask answer) fun _ => P :=
  fun s hs => ⟨answer s.tick, s.asked, rfl, h s hs⟩

theorem ask_owns {α : Type} (answer : Nat → α) :
    Ends (Owns d b q) (ask answer) fun _ => Owns d b q :=
  ask_ends answer fun _ => Owns.asked

theorem failure_ends {α : Type} (P : V4L2State → Prop) (error : CameraFailure)
    (h : ∀ s, P s → P s.asked) :
    Ends P (failure (α := α) w error) fun r s => P s ∧ ∀ a, r ≠ some (.ok a) := by
  refine (ask_ends _ h).bind fun allocates => .pure fun s hs => ⟨hs, fun a => ?_⟩
  cases allocates with
  | true => exact nofun
  | false => exact nofun

theorem ioctl_ends (answer : Nat → Option Int) {event : Nat → NativeEvent} {q' : Nat → Prop}
    (h : ∀ s, Owns d b q s → Owns d b q' (s.record (event d))) :
    Ends (Owns d b q) (ioctl answer event) fun r s =>
      if r = none then Owns d b q' s else Owns d b q s := by
  intro s hs
  have hd : s.backend.descriptor = some d := by rw [hs.backend, hs.descriptor]
  simp only [ioctl, hd]
  cases answer s.tick with
  | some error => exact ⟨_, _, rfl, hs.asked⟩
  | none => exact ⟨_, _, rfl, h _ hs.asked⟩

/-! ## Closing -/

theorem resetQueue_clean (hb : b.queueDirty = false) :
    Ends (Owns d b q) (resetQueue w) fun r s => r = none ∧ Owns d b q s := by
  refine Ends.get.bind fun a => ?_
  intro s hs
  obtain ⟨rfl, hs⟩ := hs
  rw [hs.backend, hb]
  exact ⟨none, a, rfl, rfl, hs⟩

theorem resetQueue_dirty (hb : b.queueDirty = true) :
    Ends (Owns d b q) (resetQueue w) fun r s =>
      if r = none then
        Owns d { b with queueDirty := false, streaming := false } (fun _ => False) s
      else Owns d b q s := by
  refine Ends.get.bind fun a => ?_
  intro s hs
  obtain ⟨rfl, hs⟩ := hs
  obtain ⟨r, t, hr, ht⟩ := ioctl_ends w.streamOff (fun _ => Owns.streamOff) a hs
  rw [hs.backend, hb]
  simp only [Bool.not_true, Bool.false_eq_true, if_false]
  rw [bind_some hr]
  cases r with
  | some error => exact ⟨_, _, rfl, ht⟩
  | none =>
    have ht : Owns d b (fun _ => False) t := ht
    exact ⟨_, _, rfl,
      ht.update (fun c => { c with queueDirty := false, streaming := false }) rfl rfl⟩

theorem resetQueue_ends :
    Ends (Owns d b q) (resetQueue w) fun _ s => ∃ c q', Owns d c q' s := by
  cases hb : b.queueDirty with
  | false => exact (resetQueue_clean hb).imp (fun _ h => h) fun _ _ h => ⟨_, _, h.2⟩
  | true =>
    refine (resetQueue_dirty hb).imp (fun _ h => h) fun r s h => ?_
    cases r with
    | none => exact ⟨_, _, h⟩
    | some error => exact ⟨_, _, h⟩

/-- The descriptor is closed, and the mappings are still there. -/
structure Unmapping (s : V4L2State) : Prop extends Books s where
  descriptor : s.backend.descriptor = none
  opened : (driver s).opened = []
  queued : (driver s).queued = []
  mapped : (driver s).mapped.map Prod.fst = addresses s.backend.buffers
  once : (addresses s.backend.buffers).Nodup

theorem closeDescriptor_ends :
    Ends (fun s => ∃ c q', Owns d c q' s) closeDescriptor fun _ => Unmapping := by
  rintro s ⟨b, q, hs⟩
  have hd : s.backend.descriptor = some d := by rw [hs.backend, hs.descriptor]
  refine ⟨⟨⟩, (s.record (.closed d)).setBackend { s.backend with descriptor := none }, ?_, ?_⟩
  · simp only [closeDescriptor, Running.modify_run, hd]
  have hbooks := hs.toBooks.record (e := .closed d) hs.mem_opened hs.descriptors hs.mappings
  have hdriver := driver_record s (.closed d)
  refine ⟨⟨hbooks.accepted, hbooks.descriptors, hbooks.mappings⟩, rfl, ?_, ?_, ?_, ?_⟩
  · show (driver (s.record (.closed d))).opened = []
    rw [hdriver]
    show (driver s).opened.filter (· ≠ d) = []
    rw [hs.opened]
    simp
  · show (driver (s.record (.closed d))).queued = []
    rw [hdriver]
    refine List.filter_eq_nil_iff.mpr fun p hp => ?_
    have := ((hs.queued p.1 p.2).mp hp).1
    simpa using this
  · show (driver (s.record (.closed d))).mapped.map Prod.fst = addresses s.backend.buffers
    rw [hdriver]
    show (driver s).mapped.map Prod.fst = _
    rw [hs.mapped, List.map_map, hs.backend]
    exact List.map_id _
  · rw [← hs.backend] at hs
    exact hs.once

/-- Mappings are removed one after another. -/
theorem unmap_all {events : List NativeEvent} {ms : List Nat}
    (h : v4l2Driver.Accepts events) (hopened : (v4l2Driver.after events).opened = [])
    (hmapped : (v4l2Driver.after events).mapped.map Prod.fst = ms) (hn : ms.Nodup) :
    v4l2Driver.Accepts (events ++ ms.map .unmapped) ∧
      v4l2Driver.after (events ++ ms.map .unmapped) =
        { v4l2Driver.after events with mapped := [] } := by
  induction ms generalizing events with
  | nil =>
    rw [List.map_eq_nil_iff] at hmapped
    rw [List.map_nil, List.append_nil, ← hmapped]
    exact ⟨h, rfl⟩
  | cons m ms ih =>
    obtain ⟨hm, hms⟩ := List.nodup_cons.mp hn
    obtain ⟨⟨m', d⟩, rest, hlist, rfl, hrest⟩ := List.map_eq_cons_iff.mp hmapped
    have hafter : v4l2Driver.after (events ++ [.unmapped m']) =
        { v4l2Driver.after events with mapped := rest } := by
      have hfilter : (v4l2Driver.after events).mapped.filter (fun p => p.1 ≠ m') = rest := by
        rw [hlist, List.filter_cons_of_neg (by simp), List.filter_eq_self]
        intro p hp
        have : p.1 ∈ ms := hrest ▸ List.mem_map_of_mem hp
        simpa using fun he : p.1 = m' => hm (he ▸ this)
      rw [Monitor.after_append, List.foldl_cons, List.foldl_nil, ← hfilter]
      rfl
    have hallowed : v4l2Driver.allowed (v4l2Driver.after events) (.unmapped m') := by
      refine ⟨d, ?_, ?_⟩
      · rw [hlist]
        exact List.mem_cons_self
      · rw [hopened]
        exact List.not_mem_nil
    have hnext : v4l2Driver.Accepts (events ++ [.unmapped m']) :=
      Monitor.accepts_snoc.mpr ⟨h, hallowed⟩
    obtain ⟨hacc, hfin⟩ := ih hnext (by rw [hafter]; exact hopened)
      (by rw [hafter]; exact hrest) hms
    rw [List.map_cons, List.append_cons]
    exact ⟨hacc, hfin.trans (by rw [hafter])⟩

theorem unmapBuffers_ends {P : V4L2CameraBackend → Prop} :
    Ends (fun s => Unmapping s ∧ P s.backend) unmapBuffers fun _ s =>
      Books s ∧ (driver s).opened = [] ∧ (driver s).mapped = [] ∧ (driver s).queued = [] ∧
        ∃ c, P c ∧ s.backend = { c with buffers := [] } := by
  refine Ends.modify fun s ⟨hs, hp⟩ => ?_
  obtain ⟨hacc, hafter⟩ := unmap_all hs.accepted hs.opened hs.mapped hs.once
  have hdriver : driver { s with
      events := s.events ++ (s.backend.buffers.filterMap (·.address)).map .unmapped,
      backend := { s.backend with buffers := [] } } = { driver s with mapped := [] } := hafter
  refine ⟨⟨hacc, ?_, ?_⟩, ?_, ?_, ?_, s.backend, hp, rfl⟩
  · rw [hdriver]; exact hs.descriptors
  · rw [hdriver]; exact hs.mappings
  · rw [hdriver]; exact hs.opened
  · rw [hdriver]
  · rw [hdriver]; exact hs.queued

theorem close_owns : Ends (Owns d b q) (close w) fun _ => Shut := by
  refine (Ends.discard resetQueue_ends).bind fun _ => ?_
  refine closeDescriptor_ends.bind fun _ => ?_
  refine (Ends.modify (Q := fun _ s => Unmapping s ∧ s.backend.descriptor = none ∧
    s.backend.streaming = false ∧ s.backend.queueDirty = false) fun s hs => ?_).bind fun _ => ?_
  · exact ⟨⟨⟨hs.accepted, hs.descriptors, hs.mappings⟩, hs.descriptor, hs.opened, hs.queued,
      hs.mapped, hs.once⟩, hs.descriptor, rfl, rfl⟩
  refine (unmapBuffers_ends (P := fun c => c.descriptor = none ∧ c.streaming = false ∧
    c.queueDirty = false)).bind fun _ => ?_
  refine Ends.modify fun s ⟨hbooks, hopened, hmapped, hqueued, c, ⟨hd, hst, hq⟩, hb⟩ => ?_
  refine ⟨⟨hbooks.accepted, hbooks.descriptors, hbooks.mappings⟩, ⟨?_, hopened, hmapped, hqueued⟩⟩
  show ({ s.backend with frameDescription := {} } : V4L2CameraBackend) = {}
  rw [hb, hd, hst, hq]

theorem close_shut : Ends Shut (close w) fun _ => Shut := by
  intro s hs
  refine ⟨⟨⟩, s, ?_, hs⟩
  have hb := hs.backend
  obtain ⟨tick, backend, descriptors, mappings, events⟩ := s
  subst hb
  show some (PUnit.unit, (⟨tick, _, descriptors, mappings, events ++ []⟩ : V4L2State)) = _
  rw [List.append_nil]
  rfl

end WSE.Proof.Tmr
