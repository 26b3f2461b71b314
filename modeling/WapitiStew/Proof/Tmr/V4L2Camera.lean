import WapitiStew.Framework.Transition
import WapitiStew.Proof.Tmr.V4L2Buffers

/-!
# The buffers of the V4L2 backend

Between calls the backend is `Shut`, or `Steady`: open, with all buffers with
the driver when it streams and none when it does not. `openCamera_ends`,
`start_ends`, `stop_ends` and `readFrame_ends` take each of these states through
a call, whatever the native calls answer; a call always returns.
-/

namespace WSE.Proof.Tmr

open WSE.Framework WSE.Framework.Running WSE.Impl.Tmr WSE.Spec.Tmr

variable {w : V4L2World} {s : V4L2State} {d : Nat} {b base : V4L2CameraBackend} {q : Nat → Prop}

/-- The buffers are all mapped, the flags agree, and the driver has all of the buffers or none. -/
structure SteadyOn (d : Nat) (b : V4L2CameraBackend) (streaming : Bool) (s : V4L2State) : Prop where
  owns : Owns d b (fun i => streaming = true ∧ i < b.buffers.length) s
  streams : b.streaming = streaming
  dirty : b.queueDirty = streaming
  buffers : ∀ m ∈ b.buffers, m.address.isSome = true

def Steady (streaming : Bool) (s : V4L2State) : Prop := ∃ d b, SteadyOn d b streaming s

/-- The states between calls. -/
def Between (s : V4L2State) : Prop := Shut s ∨ ∃ streaming, Steady streaming s

theorem SteadyOn.asked {streaming : Bool} (h : SteadyOn d b streaming s) :
    SteadyOn d b streaming s.asked := ⟨h.owns.asked, h.streams, h.dirty, h.buffers⟩

theorem Steady.asked {streaming : Bool} (h : Steady streaming s) : Steady streaming s.asked :=
  let ⟨d, b, h⟩ := h
  ⟨d, b, h.asked⟩

/-! ## Opening -/

/-- What the part of `open` that is guarded leaves. -/
def Prepared (d : Nat) (base : V4L2CameraBackend) (r : Option (CameraResult V4L2PixFormat))
    (s : V4L2State) : Prop :=
  match r with
  | some (.ok _) => ∃ buffers, (∀ m ∈ buffers, m.address.isSome = true) ∧
      Owns d { base with buffers } (fun _ => False) s
  | _ => ∃ c q, Owns d c q s

theorem addresses_append (xs ys : List MappedBuffer) :
    addresses (xs ++ ys) = addresses xs ++ addresses ys := List.filterMap_append

/-- Buffers that are not mapped yet. -/
def unmapped (n : Nat) : List MappedBuffer := List.replicate n {}

theorem addresses_unmapped (n : Nat) : addresses (unmapped n) = [] := by
  rw [addresses, List.filterMap_eq_nil_iff]
  intro m hm
  rw [List.eq_of_mem_replicate hm]

theorem set_unmapped (done : List MappedBuffer) (n : Nat) (m : MappedBuffer) :
    (done ++ unmapped (n + 1)).set done.length m = done ++ [m] ++ unmapped n := by
  rw [List.set_append_right _ _ (Nat.le_refl _), Nat.sub_self, unmapped, List.replicate_succ,
    List.set_cons_zero, List.append_assoc]
  rfl

/-- The next buffer is mapped, or is left without a mapping. -/
theorem mapBuffer_ends (done : List MappedBuffer) (n length : Nat) :
    Ends (Owns d { base with buffers := done ++ unmapped (n + 1) } fun _ => False)
      (mapBuffer w done.length length) fun r s =>
        match r with
        | none =>
          ∃ m, Owns d { base with buffers := done ++ [⟨some m, length⟩] ++ unmapped n }
            (fun _ => False) s
        | some _ => ∃ c q, Owns d c q s := by
  intro s hs
  have hd : base.descriptor = some d := hs.descriptor
  have hold : addresses (done ++ unmapped (n + 1)) = addresses done := by
    rw [addresses_append, addresses_unmapped, List.append_nil]
  have hnew (m : MappedBuffer) :
      addresses (done ++ [m] ++ unmapped n) = addresses done ++ m.address.toList := by
    rw [addresses_append, addresses_append, addresses_unmapped, List.append_nil]
    cases ha : m.address <;> simp [addresses, ha]
  unfold mapBuffer
  cases hm : w.map s.tick with
  | some error =>
    simp only [hs.backend, hd, set_unmapped]
    refine ⟨_, _, rfl, _, _, hs.asked.setBackend hd.symm ?_⟩
    exact (hnew _).trans ((List.append_nil _).trans hold.symm)
  | none =>
    simp only [hs.backend, hd, set_unmapped]
    refine ⟨_, _, rfl, s.mappings, hs.asked.map hd.symm ?_⟩
    show addresses (done ++ [⟨some s.mappings, length⟩] ++ unmapped n) =
      addresses (done ++ unmapped (n + 1)) ++ [s.mappings]
    rw [hnew, hold]
    rfl

theorem mapBuffers_ends (format : V4L2PixFormat) (done : List MappedBuffer) (n : Nat)
    (hdone : ∀ m ∈ done, m.address.isSome = true) :
    Ends (Owns d { base with buffers := done ++ unmapped n } fun _ => False)
      (mapBuffers w format done.length n) (Prepared d base) := by
  induction n generalizing done with
  | zero =>
    refine .pure fun s hs => ⟨done, hdone, ?_⟩
    rwa [show done ++ unmapped 0 = done from List.append_nil done] at hs
  | succ n ih =>
    refine (ask_owns _).bind fun length => ?_
    cases length with
    | error error => exact .pure fun s hs => ⟨_, _, hs⟩
    | ok length =>
      refine (mapBuffer_ends done n length.toNat).bind fun r => ?_
      cases r with
      | some error => exact .pure fun s hs => hs
      | none =>
        rintro s ⟨m, hs⟩
        have hmore := ih (done ++ [⟨some m, length.toNat⟩]) (by
          intro x hx
          obtain hx | hx := List.mem_append.mp hx
          · exact hdone x hx
          · rw [List.mem_singleton.mp hx]
            rfl)
        rw [List.length_append] at hmore
        exact hmore s hs

/-- The backend that `open` has just given a descriptor. -/
def fresh (d : Nat) : V4L2CameraBackend := { descriptor := some d }

theorem prepared_error {r : Option (CameraResult V4L2PixFormat)} {c : V4L2CameraBackend}
    (hr : ∀ format, r ≠ some (.ok format)) :
    Ends (Owns d c q) (pure r) (Prepared d base) := by
  refine .pure fun s hs => ?_
  unfold Prepared
  split
  · exact absurd rfl (hr _)
  · exact ⟨_, _, hs⟩

theorem requestBuffers_ends (format : V4L2PixFormat) :
    Ends (Owns d (fresh d) fun _ => False) (requestBuffers w format) (Prepared d (fresh d)) := by
  refine (ask_owns _).bind fun count => ?_
  cases count with
  | error error => exact prepared_error fun _ => nofun
  | ok count =>
    refine .ite (fun _ => ?_) fun _ => ?_
    · exact (ask_owns _).bind fun _ => prepared_error fun _ => nofun
    refine (ask_owns _).bind fun allocates => ?_
    refine .ite (fun _ => prepared_error fun _ => nofun) fun _ => ?_
    refine (Ends.modify fun s hs => ?_).bind fun _ => mapBuffers_ends format [] count.toNat
      fun _ hm => absurd hm List.not_mem_nil
    exact hs.update (fun b => { b with buffers := unmapped count.toNat }) rfl
      (addresses_unmapped _)

theorem configureDevice_ends (description : CameraOpenDescription) (pixelFormat : UInt32) :
    Ends (Owns d (fresh d) fun _ => False) (configureDevice w description pixelFormat)
      (Prepared d (fresh d)) := by
  refine (ask_owns _).bind fun capability => ?_
  cases capability with
  | error error => exact prepared_error fun _ => nofun
  | ok capability =>
    refine .ite (fun _ => (ask_owns _).bind fun _ => prepared_error fun _ => nofun) fun _ => ?_
    refine .ite (fun _ => prepared_error fun _ => nofun) fun _ => ?_
    refine (ask_owns _).bind fun format => ?_
    cases format with
    | error error => exact prepared_error fun _ => nofun
    | ok format =>
      refine .ite (fun _ => prepared_error fun _ => nofun) fun _ => ?_
      refine (ask_owns _).bind fun parameters => ?_
      cases parameters with
      | some error => exact prepared_error fun _ => nofun
      | none => exact requestBuffers_ends format

theorem openDescriptor_ends :
    Ends Shut (openDescriptor w) fun r s =>
      match r with
      | none => ∃ d, Owns d (fresh d) (fun _ => False) s
      | some _ => Shut s := by
  intro s hs
  unfold openDescriptor
  cases w.openDevice s.tick with
  | some error => exact ⟨_, _, rfl, hs.asked⟩
  | none =>
    refine ⟨_, _, rfl, s.descriptors, ?_⟩
    have hdriver : driver (s.record (.opened s.descriptors)) = _ := driver_record s _
    have hacc : v4l2Driver.Accepts (s.events ++ [.opened s.descriptors]) :=
      Monitor.accepts_snoc.mpr ⟨hs.accepted, hs.descriptors.symm⟩
    refine ⟨⟨hacc, ?_, ?_⟩, ?_, rfl, ?_, ?_, fun _ hm => absurd hm List.not_mem_nil,
      List.nodup_nil, ?_⟩
    · show (driver (s.record (.opened s.descriptors))).descriptors = s.descriptors + 1
      rw [hdriver]
      rfl
    · show (driver (s.record (.opened s.descriptors))).mappings = s.mappings
      rw [hdriver]
      exact hs.mappings
    · show ({ s.backend with descriptor := some s.descriptors } : V4L2CameraBackend) = _
      rw [hs.backend]
      rfl
    · show (driver (s.record (.opened s.descriptors))).opened = [s.descriptors]
      rw [hdriver]
      exact congrArg _ hs.opened
    · show (driver (s.record (.opened s.descriptors))).mapped = []
      rw [hdriver]
      exact hs.mapped
    · intro e i
      show (e, i) ∈ (driver (s.record (.opened s.descriptors))).queued ↔ _
      rw [hdriver]
      show (e, i) ∈ (driver s).queued ↔ _
      rw [hs.queued]
      simp

/-- The end of `open`: the backend is ready for a stream, or closed again. -/
theorem finishOpen_ends (description : CameraOpenDescription)
    (r : Option (CameraResult V4L2PixFormat)) :
    Ends (Prepared d (fresh d) r) (finishOpen w description r) fun status s =>
      if status = some (.ok ()) then Steady false s else Shut s := by
  cases r with
  | none =>
    rintro s ⟨c, q, hs⟩
    refine (close_owns.bind fun _ => ?_) s hs
    exact .pure fun t ht => ht
  | some r =>
    cases r with
    | ok format =>
      refine (Ends.modify (Q := fun _ s => Steady false s) ?_).bind fun _ => .pure fun s hs => hs
      rintro s ⟨buffers, hb, hs⟩
      have hq := hs.congr (fun i => false = true ∧ i < buffers.length) (by simp)
      exact ⟨d, _, hq.update (fun b =>
        { b with frameDescription := describeFrames description format }) rfl rfl, rfl, rfl, hb⟩
    | error error =>
      rintro s ⟨c, q, hs⟩
      refine (close_owns.bind fun _ => ?_) s hs
      refine (failure_ends Shut error fun _ => Shut.asked).bind fun result => ?_
      rintro t ⟨ht, hne⟩
      refine (close_shut.bind fun _ => ?_) t ht
      refine .pure fun u hu => ?_
      rw [if_neg (hne ())]
      exact hu

theorem openCamera_shut (description : CameraOpenDescription) :
    Ends Shut (openCamera w description) fun status s =>
      if status = some (.ok ()) then Steady false s else Shut s := by
  have hfail (error : CameraFailure) : Ends Shut (Impl.Tmr.failure (α := Unit) w error)
      fun status s => if status = some (.ok ()) then Steady false s else Shut s :=
    (failure_ends Shut error fun _ => Shut.asked).imp (fun _ h => h) fun r s h => by
      rw [if_neg (h.2 ())]
      exact h.1
  refine Ends.get.bind fun a => ?_
  rintro s ⟨rfl, hs⟩
  rw [hs.backend]
  refine (Ends.ite (fun h => absurd h (by decide)) fun _ => ?_ : Ends Shut _ _) a hs
  refine .ite (fun _ => hfail _) fun _ => ?_
  refine .ite (fun _ => hfail _) fun _ => ?_
  refine openDescriptor_ends.bind fun error => ?_
  cases error with
  | some error => exact hfail _
  | none =>
    rintro t ⟨d, ht⟩
    refine ((configureDevice_ends description _).bind fun r => finishOpen_ends description r) t ht

/-- A call that is refused leaves the backend as it is. -/
theorem refused {α : Type} {streaming : Bool} (error : CameraFailure) :
    Ends (Steady streaming) (Impl.Tmr.failure (α := α) w error) fun _ => Steady streaming :=
  (failure_ends (Steady streaming) error fun _ => Steady.asked).imp (fun _ h => h) fun _ _ h => h.1

theorem refused_shut {α : Type} (error : CameraFailure) :
    Ends Shut (Impl.Tmr.failure (α := α) w error) fun _ => Shut :=
  (failure_ends Shut error fun _ => Shut.asked).imp (fun _ h => h) fun _ _ h => h.1

theorem between_refused {α : Type} (error : CameraFailure) :
    Ends Between (Impl.Tmr.failure (α := α) w error) fun _ => Between := by
  rintro s (hs | ⟨streaming, hs⟩)
  · obtain ⟨r, t, hr, ht⟩ := refused_shut (w := w) (α := α) error s hs
    exact ⟨r, t, hr, .inl ht⟩
  · obtain ⟨r, t, hr, ht⟩ := refused (w := w) (α := α) error s hs
    exact ⟨r, t, hr, .inr ⟨streaming, ht⟩⟩

theorem openCamera_steady {streaming : Bool} (description : CameraOpenDescription) :
    Ends (Steady streaming) (openCamera w description) fun _ => Steady streaming := by
  refine Ends.get.bind fun a => ?_
  rintro s ⟨rfl, d, b, hs⟩
  rw [hs.owns.backend, hs.owns.descriptor]
  exact refused _ a ⟨d, b, hs⟩

/-! ## Starting and stopping -/

/-- Buffers are queued in the order of their indices; none of them is with the driver before. -/
theorem queueBuffers_ends (index n : Nat) :
    Ends (Owns d b fun i => i < index) (queueBuffers w index n) fun r s =>
      match r with
      | none => Owns d b (fun i => i < index + n) s
      | some _ => ∃ q, Owns d b q s := by
  induction n generalizing index with
  | zero => exact .pure fun s hs => hs
  | succ n ih =>
    have hqueue (s : V4L2State) (hs : Owns d b (fun i => i < index) s) :
        Owns d b (fun i => i < index + 1) (s.record (.queued d index)) :=
      (hs.enqueue (Nat.lt_irrefl index)).congr _ fun i => Nat.lt_succ_iff_lt_or_eq.symm
    refine (ioctl_ends w.queue hqueue).bind fun r => ?_
    cases r with
    | some error => exact .pure fun s hs => ⟨_, hs⟩
    | none =>
      refine (ih (index + 1)).imp (fun _ hs => hs) fun r s hs => ?_
      cases r with
      | some error => exact hs
      | none =>
        refine Owns.congr hs _ fun i => ?_
        rw [Nat.add_right_comm, Nat.add_assoc]

/-- A start that fails leaves nothing with the driver. -/
theorem failStart_ends (message : String) (error : Int) (hd : b.queueDirty = true)
    (hb : ∀ m ∈ b.buffers, m.address.isSome = true) :
    Ends (Owns d b q) (failStart w message error) fun _ => Between := by
  refine (resetQueue_dirty hd).bind fun r => ?_
  cases r with
  | none =>
    rintro s hs
    have hs : Owns d { b with queueDirty := false, streaming := false } (fun _ => False) s := hs
    have hq := hs.congr (fun i => false = true ∧ i < b.buffers.length) (by simp)
    obtain ⟨r, t, hr, ht⟩ := refused (w := w) (α := Unit) (errnoError .backendFailure message error)
      s ⟨d, _, hq, rfl, rfl, hb⟩
    exact ⟨r, t, hr, .inr ⟨_, ht⟩⟩
  | some _ =>
    refine (close_owns.bind fun _ => ?_)
    exact (refused_shut _).imp (fun _ h => h) fun _ _ h => .inl h

theorem startStream_ends (hb : ∀ m ∈ b.buffers, m.address.isSome = true) :
    Ends (Owns d b fun _ => False) (startStream w b.buffers.length) fun _ => Between := by
  have hdirty : Ends (Owns d b fun _ => False)
      (modify fun s => s.setBackend { s.backend with queueDirty := true } : V4L2M PUnit)
      fun _ => Owns d { b with queueDirty := true } fun i => i < 0 := by
    refine .modify fun s hs => ?_
    exact (hs.update (fun b => { b with queueDirty := true }) rfl rfl).congr _ fun i =>
      ⟨False.elim, fun h => Nat.not_lt_zero i h⟩
  refine hdirty.bind fun _ => ?_
  refine (queueBuffers_ends 0 b.buffers.length).bind fun r => ?_
  cases r with
  | some error =>
    rintro s ⟨q, hs⟩
    exact failStart_ends (b := { b with queueDirty := true }) _ _ rfl hb s hs
  | none =>
    refine (ioctl_ends w.streamOn fun _ => Owns.streamOn).bind fun r => ?_
    cases r with
    | some error => exact failStart_ends (b := { b with queueDirty := true }) _ _ rfl hb
    | none =>
      refine (Ends.modify (Q := fun _ => Between) fun s hs => ?_).bind fun _ => .pure fun s hs => hs
      have hs : Owns d { b with queueDirty := true } (fun i => i < 0 + b.buffers.length) s := hs
      have hq := hs.congr (fun i => true = true ∧ i < b.buffers.length) (by simp)
      exact .inr ⟨true, d, _, hq.update (fun b => { b with streaming := true }) rfl rfl, rfl, rfl,
        hb⟩

theorem start_shut : Ends Shut (start w) fun _ => Shut := by
  refine Ends.get.bind fun a => ?_
  rintro s ⟨rfl, hs⟩
  rw [hs.backend]
  exact refused_shut _ a hs

theorem start_steady {streaming : Bool} : Ends (Steady streaming) (start w) fun _ => Between := by
  refine Ends.get.bind fun a => ?_
  rintro s ⟨rfl, d, b, hs⟩
  have hb := hs.owns.backend
  rw [hb, hs.owns.descriptor, hs.streams]
  cases streaming with
  | true =>
    refine ((refused _).imp (fun _ h => h) fun _ t ht => ?_) a ⟨d, b, hs⟩
    exact .inr ⟨true, ht⟩
  | false => exact startStream_ends hs.buffers a (hs.owns.congr _ (by simp))

theorem stop_shut : Ends Shut (stop w) fun _ => Shut := by
  refine Ends.get.bind fun a => ?_
  rintro s ⟨rfl, hs⟩
  rw [hs.backend]
  exact ⟨_, a, rfl, hs⟩

theorem stop_steady {streaming : Bool} : Ends (Steady streaming) (stop w) fun _ => Between := by
  refine Ends.get.bind fun a => ?_
  rintro s ⟨rfl, d, b, hs⟩
  rw [hs.owns.backend, hs.streams]
  cases streaming with
  | false => exact ⟨_, a, rfl, .inr ⟨_, d, b, hs⟩⟩
  | true =>
    refine ((resetQueue_dirty hs.dirty).bind fun r => ?_) a hs.owns
    cases r with
    | some error =>
      refine close_owns.bind fun _ => ?_
      exact (refused_shut _).imp (fun _ h => h) fun _ _ h => .inl h
    | none =>
      refine (Ends.modify (Q := fun _ => Between) fun s ht => ?_).bind fun _ => .pure fun s hs => hs
      have ht : Owns d { b with queueDirty := false, streaming := false } (fun _ => False) s := ht
      have hq := ht.congr (fun i => false = true ∧ i < b.buffers.length) (by simp)
      exact .inr ⟨false, d, _, hq.update (fun b => { b with streaming := false }) rfl rfl, rfl, rfl,
        hs.buffers⟩

/-! ## Reading -/

/-- The driver has all buffers but `i`. -/
structure Leased (d : Nat) (b : V4L2CameraBackend) (i : Nat) (s : V4L2State) : Prop where
  owns : Owns d b (fun j => j < b.buffers.length ∧ j ≠ i) s
  streams : b.streaming = true
  dirty : b.queueDirty = true
  buffers : ∀ m ∈ b.buffers, m.address.isSome = true

/-- What the loop of a read leaves. -/
def Waited (d : Nat) (b : V4L2CameraBackend) : ReadWait → V4L2State → Prop
  | .dequeued buffer => Leased d b buffer.index
  | _ => SteadyOn d b true

theorem Leased.asked {i : Nat} (h : Leased d b i s) : Leased d b i s.asked :=
  ⟨h.owns.asked, h.streams, h.dirty, h.buffers⟩

theorem dequeueBuffer_ends (hs : SteadyOn d b true s) :
    ∃ r t, dequeueBuffer w s = some (r, t) ∧ t.tick = s.tick + 1 ∧
      match r with
      | .ok buffer => Leased d b buffer.index t
      | .error _ => SteadyOn d b true t := by
  have hd : s.backend.descriptor = some d := by rw [hs.owns.backend, hs.owns.descriptor]
  simp only [dequeueBuffer, hd]
  cases w.dequeue s.tick with
  | error error => exact ⟨_, _, rfl, rfl, hs.asked⟩
  | ok buffer =>
    refine ⟨_, _, rfl, rfl, ?_, hs.streams, hs.dirty, hs.buffers⟩
    exact (hs.owns.asked.dequeue buffer.index).congr _ (by simp)

/-- The loop ends when the clock has passed the deadline, if not before. -/
theorem readLoop_ends {deadline : Int} {fuel : Nat} (hs : SteadyOn d b true s)
    (hfuel : w.reaches deadline - s.tick < fuel) :
    ∃ r t, readLoop w deadline fuel s = some (r, t) ∧ Waited d b r t := by
  induction fuel generalizing s with
  | zero => exact absurd hfuel (Nat.not_lt_zero _)
  | succ fuel ih =>
    rw [readLoop, bind_some (ask_run _ s)]
    by_cases hlate : deadline ≤ w.clock s.tick
    · rw [if_pos hlate]
      exact ⟨.timedOut, _, rfl, hs.asked⟩
    have hearly : s.tick < w.reaches deadline := by
      by_contra hn
      exact hlate (w.clock_reaches (Nat.not_lt.mp hn))
    have hagain {t : V4L2State} (ht : SteadyOn d b true t) (htick : s.tick < t.tick) :
        ∃ r u, readLoop w deadline fuel t = some (r, u) ∧ Waited d b r u := ih ht (by omega)
    rw [if_neg hlate, bind_some (ask_run _ _)]
    cases w.poll s.asked.tick with
    | expired => exact hagain hs.asked.asked (by show s.tick < s.tick + 1 + 1; omega)
    | failed error =>
      by_cases hi : interrupted error = true
      · simp only [hi, if_true]
        exact hagain hs.asked.asked (by show s.tick < s.tick + 1 + 1; omega)
      · simp only [hi]
        exact ⟨.pollFailed error, _, rfl, hs.asked.asked⟩
    | events broken readable =>
      cases broken with
      | true => exact ⟨.invalidStream, _, rfl, hs.asked.asked⟩
      | false =>
        cases readable with
        | false => exact hagain hs.asked.asked (by show s.tick < s.tick + 1 + 1; omega)
        | true =>
          have hask := ask_run w.clock s.asked.asked
          by_cases hlate : deadline ≤ w.clock s.asked.asked.tick
          · refine ⟨.timedOut, _, ?_, hs.asked.asked.asked⟩
            simp only [Bool.not_true, Bool.false_eq_true, if_false]
            rw [bind_some hask, if_pos hlate]
            rfl
          obtain ⟨r, t, hr, htick, ht⟩ := dequeueBuffer_ends (w := w) hs.asked.asked.asked
          have hlt : s.tick < t.tick := by
            rw [htick]
            show s.tick < s.tick + 1 + 1 + 1 + 1
            omega
          simp only [Bool.not_true, Bool.false_eq_true, if_false]
          rw [bind_some hask, if_neg hlate, bind_some hr]
          cases r with
          | ok buffer => exact ⟨.dequeued buffer, t, rfl, ht⟩
          | error error =>
            by_cases hi : (interrupted error || tryAgain error) = true
            · simp only [hi, if_true]
              exact hagain ht hlt
            · simp only [hi]
              exact ⟨.dequeueFailed error, t, rfl, ht⟩

/-- A leased buffer goes back to the driver, or the backend is closed. -/
theorem release_ends {i : Nat} (hi : i < b.buffers.length) :
    Ends (Leased d b i) (release w i) fun _ => Between := by
  intro s hs
  have hqueue (s : V4L2State) (hs : Owns d b (fun j => j < b.buffers.length ∧ j ≠ i) s) :
      Owns d b (fun j => true = true ∧ j < b.buffers.length) (s.record (.queued d i)) :=
    (hs.enqueue fun h => h.2 rfl).congr _ fun j => by
      constructor
      · rintro (h | rfl)
        · exact ⟨rfl, h.1⟩
        · exact ⟨rfl, hi⟩
      · rintro ⟨-, h⟩
        by_cases hj : j = i
        · exact .inr hj
        · exact .inl ⟨h, hj⟩
  refine ((ioctl_ends w.queue hqueue).bind fun r => ?_) s hs.owns
  cases r with
  | none =>
    refine .pure fun t ht => .inr ⟨true, d, b, ?_, hs.streams, hs.dirty, hs.buffers⟩
    exact ht
  | some error => exact close_owns.bind fun _ => .pure fun t ht => .inl ht

theorem failure_leased {α : Type} {i : Nat} (error : CameraFailure) :
    Ends (Leased d b i) (Impl.Tmr.failure (α := α) w error) fun _ => Leased d b i :=
  (failure_ends (Leased d b i) error fun _ => Leased.asked).imp (fun _ h => h) fun _ _ h => h.1

/-- The frame is copied while the buffer is leased. -/
theorem copyFrame_ends (source : MappedBuffer) (buffer : V4L2Buffer) :
    Ends (Leased d b buffer.index) (copyFrame w source buffer)
      fun _ => Leased d b buffer.index := by
  have hask {α : Type} (answer : Nat → α) :
      Ends (Leased d b buffer.index) (ask answer) fun _ => Leased d b buffer.index :=
    ask_ends answer fun _ => Leased.asked
  refine .ite (fun _ => failure_leased _) fun _ => ?_
  refine (hask _).bind fun allocates => ?_
  refine .ite (fun _ => .pure fun _ hs => hs) fun _ => ?_
  refine Ends.bind (Q := fun _ => Leased d b buffer.index) ?_ fun data => ?_
  · intro s hs
    have hd : s.backend.descriptor.getD 0 = d := by
      rw [hs.owns.backend, hs.owns.descriptor]
      rfl
    refine ⟨_, _, rfl, ?_, hs.streams, hs.dirty, hs.buffers⟩
    rw [hd]
    exact hs.owns.asked.copy fun h => h.2 rfl
  refine Ends.bind (Q := fun _ => Leased d b buffer.index) ?_ fun timestamp => ?_
  · unfold Impl.Tmr.timestamp
    exact .ite (fun _ => .pure fun _ hs => hs) fun _ => hask _
  refine Ends.get.bind fun a => ?_
  refine .ite (fun _ => ?_) fun _ => .pure fun s hs => hs.2
  rintro s ⟨-, hs⟩
  exact failure_leased _ s hs

theorem leaseFrame_ends (source : MappedBuffer) (buffer : V4L2Buffer)
    (hi : buffer.index < b.buffers.length) :
    Ends (Leased d b buffer.index) (leaseFrame w source buffer) fun _ => Between := by
  refine (copyFrame_ends source buffer).bind fun r => ?_
  refine (release_ends hi).bind fun error => ?_
  cases r with
  | none => exact .pure fun _ hs => hs
  | some r =>
    cases r with
    | error _ => exact .pure fun _ hs => hs
    | ok frame =>
      refine .ite (fun _ => ?_) fun _ => .pure fun _ hs => hs
      exact between_refused _

theorem finishRead_ends (r : ReadWait) :
    Ends (Waited d b r) (finishRead w r) fun _ => Between := by
  have hsteady (error : CameraFailure) : Ends (SteadyOn d b true)
      (Impl.Tmr.failure (α := CameraFrame) w error) fun _ => Between := fun s hs =>
    between_refused error s (.inr ⟨true, d, b, hs⟩)
  have hclose (error : CameraFailure) : Ends (SteadyOn d b true)
      (do close w; Impl.Tmr.failure (α := CameraFrame) w error) fun _ => Between := fun s hs =>
    (close_owns.bind fun _ => (refused_shut error).imp (fun _ h => h) fun _ _ h => .inl h) s hs.owns
  cases r with
  | timedOut => exact hsteady _
  | pollFailed error => exact hsteady _
  | invalidStream => exact hclose _
  | dequeueFailed error => exact hclose _
  | dequeued buffer =>
    refine Ends.get.bind fun a => ?_
    rintro s ⟨rfl, hs⟩
    rw [hs.owns.backend]
    cases hm : b.buffers[buffer.index]? with
    | none =>
      refine (close_owns.bind fun _ => ?_) a hs.owns
      exact (refused_shut _).imp (fun _ h => h) fun _ _ h => .inl h
    | some source =>
      exact leaseFrame_ends source buffer (List.getElem?_eq_some_iff.mp hm).1 a hs

theorem readFrame_shut (timeoutMs : UInt32) : Ends Shut (readFrame w timeoutMs) fun _ => Shut := by
  refine Ends.get.bind fun a => ?_
  rintro s ⟨rfl, hs⟩
  rw [hs.backend]
  exact refused_shut _ a hs

theorem readFrame_steady {streaming : Bool} (timeoutMs : UInt32) :
    Ends (Steady streaming) (readFrame w timeoutMs) fun _ => Between := by
  refine Ends.get.bind fun a => ?_
  rintro s ⟨rfl, d, b, hs⟩
  rw [hs.owns.backend, hs.streams]
  cases streaming with
  | false => exact between_refused _ a (.inr ⟨false, d, b, hs⟩)
  | true =>
    simp only [Bool.not_true, Bool.false_eq_true, if_false]
    rw [bind_some (ask_run _ a)]
    have hfuel (n : Nat) : n - a.asked.tick < n + 1 := by omega
    obtain ⟨r, t, hr, ht⟩ := readLoop_ends (w := w) hs.asked (hfuel _)
    rw [bind_some hr]
    exact finishRead_ends r t ht

/-! ## Runs -/

theorem initial_shut : Shut {} where
  accepted := Monitor.accepts_nil _
  descriptors := rfl
  mappings := rfl
  backend := rfl
  opened := rfl
  mapped := rfl
  queued := rfl

/-- A call returns, and is between calls again. -/
theorem v4l2Call_ends (call : V4L2Call) : Ends Between (v4l2Call w call) fun _ => Between := by
  have hboth {x : V4L2M Unit} (hshut : Ends Shut x fun _ => Between)
      (hsteady : ∀ streaming, Ends (Steady streaming) x fun _ => Between) :
      Ends Between x fun _ => Between := by
    rintro s (hs | ⟨streaming, hs⟩)
    · exact hshut s hs
    · exact hsteady streaming s hs
  cases call with
  | «open» description =>
    refine hboth (.discard ((openCamera_shut description).imp (fun _ h => h) fun r s h => ?_))
      fun streaming => .discard ((openCamera_steady description).imp (fun _ h => h)
        fun _ _ h => .inr ⟨streaming, h⟩)
    split at h
    · exact .inr ⟨false, h⟩
    · exact .inl h
  | start =>
    exact hboth (.discard (start_shut.imp (fun _ h => h) fun _ _ h => .inl h))
      fun _ => .discard start_steady
  | readFrame timeoutMs =>
    exact hboth (.discard ((readFrame_shut timeoutMs).imp (fun _ h => h) fun _ _ h => .inl h))
      fun _ => .discard (readFrame_steady timeoutMs)
  | stop =>
    exact hboth (.discard (stop_shut.imp (fun _ h => h) fun _ _ h => .inl h))
      fun _ => .discard stop_steady
  | close =>
    refine hboth (close_shut.imp (fun _ h => h) fun _ _ h => .inl h) fun _ => ?_
    rintro s ⟨d, b, hs⟩
    exact (close_owns.imp (fun _ h => h) fun _ _ h => .inl h) s hs.owns

theorem count_removed (mapped : List (Nat × Nat)) (m n : Nat) :
    ((mapped.filter (·.1 ≠ n)).map Prod.fst).count m =
      if m = n then 0 else (mapped.map Prod.fst).count m := by
  have hfilter : (mapped.filter (·.1 ≠ n)).map Prod.fst = (mapped.map Prod.fst).filter (· ≠ n) := by
    rw [List.filter_map]
    rfl
  rw [hfilter]
  split
  · rename_i he
    rw [List.count_eq_zero]
    intro hm
    exact absurd he (by simpa using (List.mem_filter.mp hm).2)
  · rename_i hne
    exact List.count_filter (by simpa using hne)

/-- What was mapped is there or was removed, once. -/
theorem unmapped_count {events : List NativeEvent} (h : v4l2Driver.Accepts events) (m : Nat) :
    events.count (.unmapped m) +
        ((v4l2Driver.after events).mapped.map Prod.fst).count m =
      if m < (v4l2Driver.after events).mappings then 1 else 0 := by
  refine h.induction (P := fun events => events.count (.unmapped m) +
    ((v4l2Driver.after events).mapped.map Prod.fst).count m =
      if m < (v4l2Driver.after events).mappings then 1 else 0) rfl ?_
  intro events e ha ih
  rw [Monitor.after_append, List.count_append]
  generalize v4l2Driver.after events = t at ha ih
  cases e with
  | mapped n d =>
    obtain ⟨rfl, -⟩ := ha
    show _ + [NativeEvent.mapped t.mappings d].count (.unmapped m) +
      ((t.mapped ++ [(t.mappings, d)]).map Prod.fst).count m = if m < t.mappings + 1 then 1 else 0
    rw [List.map_append, List.count_append]
    have hz : [NativeEvent.mapped t.mappings d].count (.unmapped m) = 0 := by simp
    have hc : ([(t.mappings, d)].map Prod.fst).count m = if t.mappings = m then 1 else 0 := by
      simp [List.count_cons]
    rw [hz, hc]
    split at ih <;> split <;> split <;> omega
  | unmapped n =>
    obtain ⟨d, hmem, -⟩ := ha
    have hlive : 0 < (t.mapped.map Prod.fst).count n :=
      List.count_pos_iff.mpr (List.mem_map_of_mem (f := Prod.fst) hmem)
    show _ + [NativeEvent.unmapped n].count (.unmapped m) +
      ((t.mapped.filter (·.1 ≠ n)).map Prod.fst).count m = if m < t.mappings then 1 else 0
    have hc : [NativeEvent.unmapped n].count (.unmapped m) = if n = m then 1 else 0 := by
      simp [List.count_cons]
    rw [count_removed, hc]
    by_cases he : m = n
    · subst he
      simp only [if_true]
      split at ih <;> simp only [*, if_true, if_false] <;> omega
    · rw [if_neg he, if_neg fun h => he h.symm]
      exact ih
  | _ =>
    show _ + _ + (t.mapped.map Prod.fst).count m = if m < t.mappings then 1 else 0
    simpa using ih

theorem mapped_mem {events : List NativeEvent} (h : v4l2Driver.Accepts events) {m d : Nat}
    (hm : .mapped m d ∈ events) : m < (v4l2Driver.after events).mappings := by
  refine h.induction (P := fun events => .mapped m d ∈ events →
    m < (v4l2Driver.after events).mappings) (fun hm => absurd hm List.not_mem_nil) ?_ hm
  intro events e ha ih hm
  rw [Monitor.after_append]
  generalize v4l2Driver.after events = t at ha ih
  obtain hm | hm := List.mem_append.mp hm
  · have hlt := ih hm
    cases e with
    | mapped n d => exact Nat.lt_succ_of_lt (ha.1 ▸ hlt)
    | _ => exact hlt
  · rw [← List.mem_singleton.mp hm]
    exact Nat.lt_succ_self m

theorem Shut.closed (h : Shut s) : V4L2Closed s := h.toV4L2Closed

theorem SteadyOn.isOpen {streaming : Bool} (h : SteadyOn d b streaming s) :
    V4L2Open s d streaming := by
  obtain ⟨hs, hstreams, hdirty, hb⟩ := h
  obtain rfl := hs.backend
  exact ⟨hs.descriptor, hstreams, hdirty, hb, hs.opened, hs.mapped, hs.queued⟩

theorem Between.books (h : Between s) : Books s := by
  obtain h | ⟨_, d, b, h⟩ := h
  · exact h.toBooks
  · exact h.owns.toBooks

theorem Between.owned (h : Between s) : V4L2Owned s := by
  have hacc := h.books.accepted
  refine ⟨hacc, ?_, fun m => ?_, fun hnone m d hm => ?_⟩
  · obtain h | ⟨streaming, d, b, h⟩ := h
    · exact .inl h.toV4L2Closed
    · exact .inr ⟨d, streaming, h.isOpen⟩
  · have := unmapped_count hacc m
    split at this <;> omega
  · obtain h | ⟨streaming, d, b, h⟩ := h
    · have hc := unmapped_count hacc m
      have hz : (v4l2Driver.after s.events).mapped = [] := h.mapped
      rw [if_pos (mapped_mem hacc hm), hz] at hc
      have hz : ([] : List (Nat × Nat)).map Prod.fst = [] := rfl
      rw [hz, List.count_nil] at hc
      exact List.count_pos_iff.mp (by omega)
    · rw [h.owns.backend, h.owns.descriptor] at hnone
      cases hnone

theorem reachable_between (h : Reachable (v4l2Step w) {} s) : Between s := by
  refine h.invariant (.inl initial_shut) fun s call t hs ht => ?_
  obtain ⟨p, hp, rfl⟩ := Option.map_eq_some_iff.mp ht
  exact (v4l2Call_ends call).holds s p.1 p.2 hs hp

/-- The buffers of a V4L2 camera, over every sequence of calls: the driver's history is accepted,
the backend is in one of its three states between calls, and an `open` of a closed backend that
fails leaves it closed. Every call returns. -/
theorem v4l2_buffers (h : Reachable (v4l2Step w) {} s) :
    V4L2Owned s ∧
      (∀ description status t, V4L2Closed s → openCamera w description s = some (status, t) →
        status ≠ some (.ok ()) → V4L2Closed t) ∧
      ∀ call, (v4l2Step w s call).isSome = true := by
  have hs := reachable_between h
  refine ⟨hs.owned, fun description status t hclosed hrun hne => ?_, fun call => ?_⟩
  · have hshut : Shut s := ⟨hs.books, hclosed⟩
    have ht := (openCamera_shut description).holds s status t hshut hrun
    rw [if_neg hne] at ht
    exact ht.toV4L2Closed
  · obtain ⟨r, t, hr, -⟩ := v4l2Call_ends call s hs
    rw [v4l2Step, hr]
    rfl

/-- A camera with four buffers that always has a frame in the second one. -/
def plainCamera : V4L2World where
  errno _ := 0
  allocates _ := true
  clock k := k
  reaches t := t.toNat
  clock_reaches := by omega
  openDevice _ := none
  queryCapability _ := .ok ⟨0x04000001, 0⟩
  setFormat _ := .ok ⟨2, 2, fourcc 'G' 'R' 'E' 'Y', 2⟩
  setParameters _ := none
  requestBuffers _ := .ok 4
  queryBuffer _ := .ok 4
  map _ := none
  queue _ := none
  streamOn _ := none
  streamOff _ := none
  poll _ := .events false true
  dequeue _ := .ok ⟨1, 4, 0x2000, 7, 2, 3⟩
  memory _ _ offset := offset.toUInt8

def plainCalls : List V4L2Call :=
  [.open { format := { width := 2, height := 2, pixelFormat := .gray8 } }, .start, .readFrame 1]

theorem v4l2_buffers_plain : ∃ s, run (v4l2Step plainCamera) {} plainCalls = some s ∧
    s.backend.streaming = true ∧ .copied 0 1 ∈ s.events ∧ V4L2Owned s := by
  obtain ⟨s, hs, hv⟩ := Option.map_eq_some_iff.mp
    (show (run (v4l2Step plainCamera) {} plainCalls).map
      (fun s => (s.backend.streaming, decide (.copied 0 1 ∈ s.events))) = some (true, true) by
        decide +kernel)
  simp only [Prod.mk.injEq, decide_eq_true_eq] at hv
  exact ⟨s, hs, hv.1, hv.2, (v4l2_buffers ⟨plainCalls, hs⟩).1⟩

end WSE.Proof.Tmr
