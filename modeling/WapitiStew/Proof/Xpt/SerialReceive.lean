import WapitiStew.Spec.Xpt.Streams

/-!
# The receives of a serial port on Windows

`Sound` says where every delivered byte is, in each state of a port and of the
receive that is made on it. Each function keeps it: `takeReadBytes` moves bytes
from the port to the receive, `endRead` from a completed read to the buffer,
`readFile` and `complete` from the device to the port. A step that drops what a
receive has taken is the one exception, and `KeepsTaken` excludes it.

* `step_sound`, `run_sound`: steps and runs that meet `KeepsTaken`.
* `step_handsOver`, `nextHandsOver`: a receive on a port that holds bytes returns
  the next of them.
* `received_iff`: a step that does not meet `KeepsTaken` loses bytes.
-/

namespace WSE.Proof.Xpt

open WSE.Framework WSE.Impl.Xpt WSE.Impl.Xpt.SerialReceive WSE.Spec.Xpt

/-! ## The buffer -/

theorem take_bytes (read : SerialRead) (maximum : Nat) :
    (takeReadBytes read maximum).1 = (unread read).take maximum := by
  simp only [takeReadBytes, unread, List.take_take]

theorem unread_take (read : SerialRead) (maximum : Nat) :
    unread (takeReadBytes read maximum).2 = (unread read).drop maximum := by
  simp only [takeReadBytes, unread, ← List.drop_drop, List.drop_take]
  rcases Nat.le_total maximum (read.size - read.offset) with h | h
  · rw [Nat.min_eq_left h, Nat.sub_add_eq]
  · have hz : read.size - (read.offset + (read.size - read.offset)) = 0 := by omega
    rw [Nat.min_eq_right h, hz, Nat.sub_eq_zero_of_le h, List.take_zero, List.take_zero]

theorem take_append_unread (read : SerialRead) (maximum : Nat) :
    (takeReadBytes read maximum).1 ++ unread (takeReadBytes read maximum).2 = unread read := by
  rw [take_bytes, unread_take, List.take_append_drop]

theorem length_take_bytes (read : SerialRead) (maximum : Nat) :
    (takeReadBytes read maximum).1.length ≤ maximum := by
  rw [take_bytes]
  exact List.length_take_le _ _

theorem unread_of_le {read : SerialRead} (h : read.size ≤ read.offset) : unread read = [] := by
  rw [unread, Nat.sub_eq_zero_of_le h, List.take_zero]

theorem unread_start {read : SerialRead} (h : read.offset = 0) :
    unread read = read.buffer.take read.size := by
  rw [unread, h, List.drop_zero, Nat.sub_zero]

theorem take_min_length (buffer : Bytes) (n : Nat) :
    buffer.take (min n buffer.length) = buffer.take n := by
  rw [← List.take_take, List.take_length]

/-! ## The invariant -/

/-- The buffer and the request of a port fit together. -/
structure ReadShape (s : ReceiveState) : Prop where
  pending : s.read.isPending = true ↔ s.request ≠ .none
  waiting : s.read.isPending = true → s.read.size ≤ s.read.offset

/-- No read is outstanding, and nothing is left of the last one. -/
def Drained (s : ReceiveState) : Prop :=
  s.isOpen = true ∧ s.read.isPending = false ∧ s.read.size ≤ s.read.offset

/-- What holds where a receive stands. -/
def PointOk (s : ReceiveState) (args : ReceiveArgs) : ReceivePoint → Prop
  | .clock | .createEvent | .resize | .resetEvent => Drained s
  | .readFile => Drained s ∧ s.read.offset = 0
  | .copyError received _ => received.length ≤ args.maximum
  | .close received _ => s.isOpen = true ∧ received.length ≤ args.maximum
  | .badAlloc => True
  | _ => s.isOpen = true

def CallOk (s : ReceiveState) : Prop :=
  match s.call with
  | .receiving args point => PointOk s args point
  | _ => True

structure Sound (s : ReceiveState) : Prop extends Received s where
  takenInOrder : returned s ++ taken s <+: s.delivered
  shape : ReadShape s
  call : CallOk s

theorem ReadShape.released {s : ReceiveState} (h : ReadShape s) (hp : s.read.isPending = false) :
    s.request = .none := by
  by_contra hr
  exact absurd (h.pending.mpr hr) (hp ▸ Bool.false_ne_true)

theorem ReadShape.goto {s : ReceiveState} (h : ReadShape s) (args : ReceiveArgs)
    (point : ReceivePoint) : ReadShape (s.goto args point) := ⟨h.pending, h.waiting⟩

theorem completed_of_released {s : ReceiveState} (h : s.request = .none) : completed s = [] := by
  rw [completed, h]

/-- A port with no read has its bytes in the buffer. -/
theorem held_of_released {s : ReceiveState} (h : s.request = .none) : held s = unread s.read := by
  rw [held, completed_of_released h, List.append_nil]

theorem held_of_drained {s : ReceiveState} (h : ReadShape s) (hd : Drained s) : held s = [] := by
  rw [held_of_released (h.released hd.2.1), unread_of_le hd.2.2]

theorem returned_append {s t : ReceiveState} {new : List ReceiveResult}
    (h : t.results = s.results ++ new) : returned t = returned s ++ new.flatMap bytesOf := by
  rw [returned, h, List.flatMap_append, returned]

/-- The rule for a step from `s` to `t` that returns `new`: no byte changes its place in the order.
When the port is closed, only what was taken still counts. -/
theorem Sound.next {s t : ReceiveState} (h : Sound s) {new : List ReceiveResult}
    (hr : t.results = s.results ++ new) (hd : t.delivered = s.delivered)
    (hb : ∀ r ∈ new, (bytesOf r).length ≤ r.maximum)
    (hopen : t.isOpen = true → s.isOpen = true ∧
      new.flatMap bytesOf ++ taken t ++ held t ++ t.incoming = taken s ++ held s ++ s.incoming)
    (hclosed : t.isOpen = false → new.flatMap bytesOf ++ taken t <+: taken s)
    (hs : ReadShape t) (hc : CallOk t) : Sound t := by
  have hret := returned_append hr
  have hkept : t.isOpen = true →
      t.delivered = returned t ++ taken t ++ held t ++ t.incoming := fun ho => by
    obtain ⟨hso, hk⟩ := hopen ho
    have hsk := h.kept hso
    simp only [List.append_assoc] at hk hsk ⊢
    rw [hd, hsk, hret, List.append_assoc, hk]
  have htaken : returned t ++ taken t <+: t.delivered := by
    cases ho : t.isOpen with
    | true =>
      rw [hkept ho, List.append_assoc (returned t ++ taken t)]
      exact List.prefix_append _ _
    | false =>
      rw [hret, List.append_assoc, hd]
      exact ((List.prefix_append_right_inj _).mpr (hclosed ho)).trans h.takenInOrder
  refine ⟨⟨(List.prefix_append _ _).trans htaken, ?_, hkept⟩, htaken, hs, hc⟩
  intro r hmem
  rw [hr] at hmem
  exact (List.mem_append.mp hmem).elim (h.bounded r) (hb r)

/-- The rule for a step that returns nothing on an open port. -/
theorem Sound.moved {s t : ReceiveState} (h : Sound s) (ho : s.isOpen = true)
    (hto : t.isOpen = s.isOpen) (hr : t.results = s.results) (hd : t.delivered = s.delivered)
    (hk : taken t ++ held t ++ t.incoming = taken s ++ held s ++ s.incoming)
    (hs : ReadShape t) (hc : CallOk t) : Sound t :=
  h.next (show t.results = s.results ++ [] by rw [hr, List.append_nil]) hd
    (fun _ hm => absurd hm List.not_mem_nil) (fun _ => ⟨ho, hk⟩)
    (fun hf => absurd (hf.symm.trans (hto.trans ho)) Bool.false_ne_true) hs hc

/-- The receive goes on somewhere else, and nothing else changes. -/
theorem Sound.goto {s : ReceiveState} (h : Sound s) (ho : s.isOpen = true) {args : ReceiveArgs}
    {point : ReceivePoint} (ht : takenAt point = taken s) (hp : PointOk s args point) :
    Sound (s.goto args point) :=
  h.moved ho rfl rfl rfl
    (show takenAt point ++ held s ++ s.incoming = _ by rw [ht])
    (h.shape.goto args point) hp

theorem opened_sound (handle : Nat) (deviceName : Bytes) (baudRate : Int) :
    Sound (opened handle deviceName baudRate) where
  inOrder := List.prefix_rfl
  bounded _ hm := absurd hm List.not_mem_nil
  kept _ := rfl
  takenInOrder := List.prefix_rfl
  shape := ⟨⟨fun h => absurd h Bool.false_ne_true, fun h => absurd rfl h⟩, fun _ => le_rfl⟩
  call := trivial

/-! ## Reads that end -/

theorem held_endRead {s : ReceiveState} {transferred size : Nat} {failure : Option Int}
    (h : ReadShape s) (hr : s.request = .completed transferred failure)
    (hsize : s.read.buffer.take size = s.read.buffer.take transferred) :
    held (s.endRead size) = held s := by
  have hp : s.read.isPending = true := h.pending.mpr (hr ▸ nofun)
  have hunread : unread (s.endRead size).read = s.read.buffer.take size := unread_start rfl
  rw [held_of_released (s := s.endRead size) rfl, hunread, held, unread_of_le (h.waiting hp),
    completed, hr]
  exact hsize

theorem shape_endRead (s : ReceiveState) (size : Nat) : ReadShape (s.endRead size) :=
  ⟨⟨fun h => absurd h Bool.false_ne_true, fun h => absurd rfl h⟩,
    fun h => absurd h Bool.false_ne_true⟩

/-- What `cancelRead` leaves: no read, and the bytes it had. -/
structure Cancelled (s t : ReceiveState) : Prop where
  results : t.results = s.results
  delivered : t.delivered = s.delivered
  incoming : t.incoming = s.incoming
  isOpen : t.isOpen = s.isOpen
  call : t.call = s.call
  held : held t = held s
  shape : ReadShape t
  ended : t.request = .none

theorem cancelRead_spec {s t : ReceiveState} (h : ReadShape s) (hc : cancelRead s = some t) :
    Cancelled s t := by
  unfold cancelRead at hc
  split at hc
  · rename_i hp
    cases hc
    exact ⟨rfl, rfl, rfl, rfl, rfl, rfl, h, h.released (by simpa using hp)⟩
  · split at hc
    · rename_i hr
      cases hc
      exact ⟨rfl, rfl, rfl, rfl, rfl, held_endRead h hr (take_min_length _ _),
        shape_endRead s _, rfl⟩
    · cases hc

theorem closeImpl_spec {s t : ReceiveState} (hc : closeImpl s = some t) :
    ∃ u : ReceiveState, t = releaseImpl u ∧ u.results = s.results ∧ u.delivered = s.delivered ∧
      u.call = s.call := by
  unfold closeImpl cancelRead at hc
  split at hc
  · split at hc
    · cases hc
      exact ⟨s, rfl, rfl, rfl, rfl⟩
    · split at hc
      · cases hc
        exact ⟨_, rfl, rfl, rfl, rfl⟩
      · cases hc
  · cases hc
    exact ⟨s, rfl, rfl, rfl, rfl⟩

theorem shape_released (s : ReceiveState) : ReadShape (releaseImpl s) :=
  ⟨⟨fun h => absurd h Bool.false_ne_true, fun h => absurd rfl h⟩,
    fun h => absurd h Bool.false_ne_true⟩

theorem cancelRead_sound {s t : ReceiveState} {args : ReceiveArgs} {point : ReceivePoint}
    (h : Sound s) (ho : s.isOpen = true) (hs : taken s = [])
    (ht : (cancelRead s).map (·.goto args point) = some t) (hp : takenAt point = [])
    (hok : ∀ u : ReceiveState, u.isOpen = true → PointOk u args point) : Sound t := by
  obtain ⟨u, hu, rfl⟩ := Option.map_eq_some_iff.mp ht
  have hc := cancelRead_spec h.shape hu
  refine h.moved ho hc.isOpen hc.results hc.delivered ?_ (hc.shape.goto args point)
    (hok (u.goto args point) (hc.isOpen.trans ho))
  show takenAt point ++ held u ++ u.incoming = _
  rw [hp, hs, hc.held, hc.incoming]

theorem overlappedResult_sound {s t : ReceiveState} {args : ReceiveArgs} (h : Sound s)
    (ho : s.isOpen = true) (hs : taken s = []) (ht : overlappedResult s args = some t) :
    Sound t := by
  have hend : ∀ {transferred size : Nat} {failure : Option Int} {point : ReceivePoint},
      s.request = .completed transferred failure →
      s.read.buffer.take size = s.read.buffer.take transferred →
      takenAt point = [] → PointOk (s.endRead size) args point →
      Sound ((s.endRead size).goto args point) := fun {_ size _ point} hr hsize hp hok => by
    refine h.moved ho rfl rfl rfl ?_ ((shape_endRead s size).goto args point) hok
    show takenAt point ++ held (s.endRead size) ++ s.incoming = _
    rw [hp, hs, held_endRead h.shape hr hsize]
  unfold overlappedResult at ht
  split at ht
  · cases ht
  · cases ht
    exact h.goto ho hs.symm ho
  · rename_i hr
    cases ht
    exact hend hr rfl rfl ho
  · rename_i hr
    cases ht
    exact hend hr (take_min_length _ _) rfl ho

/-! ## Reads that start -/

theorem held_transfer {s t : ReceiveState} {n : Nat} (hf : s.Fits n) (hr : t.request = .none)
    (hb : t.read.buffer = (s.transfer n).read.buffer) (hsize : t.read.size = n)
    (hoff : t.read.offset = 0) : held t = s.incoming.take n := by
  rw [held_of_released hr, unread_start hoff, hb, hsize]
  exact List.take_left' (List.length_take_of_le hf.1)

theorem length_buffer_transfer {s : ReceiveState} {n : Nat} (hf : s.Fits n) :
    (s.transfer n).read.buffer.length = s.read.buffer.length := by
  show (s.incoming.take n ++ s.read.buffer.drop n).length = _
  rw [List.length_append, List.length_take_of_le hf.1, List.length_drop]
  exact Nat.add_sub_of_le hf.2

/-- A read that `ReadFile` ends, with an error or without. -/
theorem transferred_sound {s : ReceiveState} {args : ReceiveArgs} {n size : Nat}
    {point : ReceivePoint} (h : Sound s) (hd : Drained s) (hoff : s.read.offset = 0)
    (hs : taken s = []) (hf : s.Fits n) (hsize : size = n) (hp : takenAt point = [])
    (hok : ∀ u : ReceiveState, u.isOpen = true → PointOk u args point) :
    Sound (((s.transfer n).setRead { (s.transfer n).read with size }).goto args point) := by
  have hrel := h.shape.released hd.2.1
  have hpend : ¬s.read.isPending = true := hd.2.1 ▸ Bool.false_ne_true
  refine h.moved hd.1 rfl rfl rfl ?_ ⟨⟨fun hq => absurd hq hpend, fun hq => absurd hrel hq⟩,
    fun hq => absurd hq hpend⟩ (hok _ hd.1)
  have hheld : held ((s.transfer n).setRead { (s.transfer n).read with size }) =
      s.incoming.take n := held_transfer hf hrel rfl hsize hoff
  show takenAt point ++ held ((s.transfer n).setRead { (s.transfer n).read with size }) ++
    s.incoming.drop n = _
  rw [hp, hs, held_of_drained h.shape hd, hheld]
  exact List.take_append_drop n s.incoming

theorem readFile_sound {s t : ReceiveState} {args : ReceiveArgs} {start : ReadStart} (h : Sound s)
    (hd : Drained s) (hoff : s.read.offset = 0) (hs : taken s = [])
    (ht : readFile s args start = some t) : Sound t := by
  cases start with
  | done n =>
    simp only [readFile] at ht
    split at ht
    · rename_i hf
      cases ht
      exact transferred_sound h hd hoff hs hf rfl rfl fun _ hu => hu
    · cases ht
  | pending =>
    cases ht
    refine h.moved hd.1 rfl rfl rfl ?_ ⟨⟨fun _ => nofun, fun _ => rfl⟩, fun _ => hd.2.2⟩ hd.1
    rw [hs, held_of_drained h.shape hd]
    show [] ++ (unread s.read ++ []) ++ s.incoming = [] ++ [] ++ s.incoming
    rw [unread_of_le hd.2.2]
    rfl
  | failed n code =>
    simp only [readFile] at ht
    split at ht
    · rename_i hf
      cases ht
      exact transferred_sound h hd hoff hs hf
        (by rw [length_buffer_transfer hf]; exact Nat.min_eq_left hf.2) rfl fun _ hu => hu
    · cases ht

/-- A step of `startRead` that gives the port another event, buffer, size or offset. -/
theorem prepared_sound {s t : ReceiveState} {args : ReceiveArgs} {point : ReceivePoint}
    (h : Sound s) (hd : Drained s) (hs : taken s = []) (ht : takenAt point = [])
    (hr : t.results = s.results) (hdel : t.delivered = s.delivered)
    (hin : t.incoming = s.incoming) (hreq : t.request = s.request) (hdt : Drained t)
    (hok : PointOk t args point) : Sound (t.goto args point) := by
  have hrel := hreq.trans (h.shape.released hd.2.1)
  have hpend : ¬t.read.isPending = true := hdt.2.1 ▸ Bool.false_ne_true
  have hshape : ReadShape t :=
    ⟨⟨fun hq => absurd hq hpend, fun hq => absurd hrel hq⟩, fun hq => absurd hq hpend⟩
  refine h.moved hd.1 (hdt.1.trans hd.1.symm) hr hdel ?_ (hshape.goto args point) hok
  show takenAt point ++ held t ++ t.incoming = _
  rw [ht, hs, held_of_drained hshape hdt, held_of_drained h.shape hd, hin]

theorem createEvent_sound {s : ReceiveState} {args : ReceiveArgs} (h : Sound s) (hd : Drained s)
    (hs : taken s = []) (created : Except Int Nat) : Sound (createEvent s args created) := by
  cases created with
  | ok event => exact prepared_sound h hd hs rfl rfl rfl rfl rfl hd hd
  | error code => exact h.goto hd.1 hs.symm hd.1

theorem resizeBuffer_sound {s : ReceiveState} {args : ReceiveArgs} (h : Sound s) (hd : Drained s)
    (hs : taken s = []) : Sound (resizeBuffer s args) :=
  prepared_sound h hd hs rfl rfl rfl rfl rfl hd hd

theorem resetEvent_sound {s : ReceiveState} {args : ReceiveArgs} (h : Sound s) (hd : Drained s)
    (hs : taken s = []) (failure : Option Int) : Sound (resetEvent s args failure) := by
  cases failure with
  | some code => exact h.goto hd.1 hs.symm hd.1
  | none =>
    have hd' : Drained (s.setRead { s.read with size := 0, offset := 0 }) :=
      ⟨hd.1, hd.2.1, le_rfl⟩
    exact prepared_sound h hd hs rfl rfl rfl rfl rfl hd' ⟨hd', rfl⟩

/-! ## The loop and the end of a receive -/

theorem receiveLoop_sound {s : ReceiveState} {args : ReceiveArgs} (h : Sound s)
    (ho : s.isOpen = true) (hs : taken s = []) (cancelled : Bool) :
    Sound (receiveLoop s args cancelled) := by
  unfold receiveLoop
  split
  · exact h.goto ho hs.symm ho
  · split
    · exact h.goto ho hs.symm ho
    · rename_i hsize
      split
      · exact h.goto ho hs.symm ho
      · rename_i hp
        exact h.goto ho hs.symm ⟨ho, by simpa using hp, Nat.le_of_not_lt hsize⟩

theorem startClock_sound {s : ReceiveState} {args : ReceiveArgs} (h : Sound s) (hd : Drained s)
    (hs : taken s = []) (now : Int) : Sound (startClock s args now) := by
  unfold startClock
  split
  · exact h.goto hd.1 hs.symm (Nat.zero_le _)
  · split
    · exact h.goto hd.1 hs.symm hd
    · exact h.goto hd.1 hs.symm hd

theorem waitClock_sound {s : ReceiveState} {args : ReceiveArgs} (h : Sound s)
    (ho : s.isOpen = true) (hs : taken s = []) (now : Int) : Sound (waitClock s args now) := by
  unfold waitClock
  split
  · exact h.goto ho hs.symm ho
  · exact h.goto ho hs.symm ho

theorem waitForSingleObject_sound {s : ReceiveState} {args : ReceiveArgs} (h : Sound s)
    (ho : s.isOpen = true) (hs : taken s = []) (failure : Option Int) :
    Sound (waitForSingleObject s args failure) := by
  cases failure <;> exact h.goto ho hs.symm ho

theorem shape_taken {s : ReceiveState} (h : ReadShape s) (maximum : Nat) :
    ReadShape (s.setRead (takeReadBytes s.read maximum).2) :=
  ⟨h.pending, fun hp => Nat.le_trans (h.waiting hp) (Nat.le_add_right _ _)⟩

/-- What the port holds is what is taken from it now, and what it holds after that. -/
theorem held_taken (s : ReceiveState) (maximum : Nat) :
    (takeReadBytes s.read maximum).1 ++ held (s.setRead (takeReadBytes s.read maximum).2) =
      held s := by
  show _ ++ (unread (takeReadBytes s.read maximum).2 ++ completed s) = unread s.read ++ completed s
  rw [← List.append_assoc, take_append_unread]

/-- The bytes are taken, and the receive goes on with them. -/
theorem taken_sound {s : ReceiveState} {args : ReceiveArgs} {point : ReceivePoint} (h : Sound s)
    (ho : s.isOpen = true) (hs : taken s = [])
    (ht : takenAt point = (takeReadBytes s.read args.maximum).1)
    (hok : ∀ u : ReceiveState, u.isOpen = true → PointOk u args point) :
    Sound ((s.setRead (takeReadBytes s.read args.maximum).2).goto args point) := by
  refine h.moved ho rfl rfl rfl ?_ ((shape_taken h.shape _).goto args point) (hok _ ho)
  show takenAt point ++ held (s.setRead (takeReadBytes s.read args.maximum).2) ++ s.incoming = _
  rw [ht, held_taken, hs, List.nil_append]

theorem collect_sound {s : ReceiveState} {args : ReceiveArgs} (h : Sound s)
    (ho : s.isOpen = true) (hs : taken s = []) (stage : ReceiveStage) (error : TransportError) :
    Sound (collect s args stage error) := by
  have hlen := length_take_bytes s.read args.maximum
  unfold collect
  cases closes error stage with
  | true =>
    have ht : takenAt (.close _ error) = (takeReadBytes s.read args.maximum).1 := rfl
    exact taken_sound h ho hs ht fun _ hu => ⟨hu, hlen⟩
  | false =>
    have ht : takenAt (.copyError _ error) = (takeReadBytes s.read args.maximum).1 := rfl
    exact taken_sound h ho hs ht fun _ _ => hlen

theorem arguments_sound {s : ReceiveState} {args : ReceiveArgs} (h : Sound s)
    (ho : s.isOpen = true) (hs : taken s = []) (errorFirst : Bool) :
    Sound (SerialReceive.arguments s args errorFirst) := by
  have hlen := length_take_bytes s.read args.maximum
  unfold SerialReceive.arguments
  split
  · exact h.goto ho hs.symm ho
  · exact taken_sound h ho hs rfl fun _ _ => hlen

theorem takeLast_sound {s : ReceiveState} {args : ReceiveArgs} (h : Sound s)
    (ho : s.isOpen = true) (hs : taken s = []) (error : TransportError) :
    Sound (takeLast s args error) := by
  refine h.next rfl rfl (List.forall_mem_singleton.mpr (length_take_bytes _ _)) (fun _ => ⟨ho, ?_⟩)
    (fun hf => absurd (hf.symm.trans ho) Bool.false_ne_true)
    ⟨(shape_taken h.shape args.maximum).pending, (shape_taken h.shape args.maximum).waiting⟩ trivial
  show ((takeReadBytes s.read args.maximum).1 ++ []) ++ [] ++
    held (s.setRead (takeReadBytes s.read args.maximum).2) ++ s.incoming = _
  rw [List.append_nil, List.append_nil, held_taken, hs, List.nil_append]

/-- A receive ends, with what it has taken or with nothing. -/
theorem finish_sound {s : ReceiveState} (h : Sound s) {maximum : Nat}
    {result : Option (TransferResult Bytes)}
    (hlen : (bytesOf ⟨maximum, result⟩).length ≤ maximum)
    (hopen : s.isOpen = true → bytesOf ⟨maximum, result⟩ = taken s)
    (hclosed : bytesOf ⟨maximum, result⟩ <+: taken s) : Sound (s.finish maximum result) := by
  have hflat : [⟨maximum, result⟩].flatMap bytesOf = bytesOf ⟨maximum, result⟩ := by
    rw [List.flatMap_singleton]
  refine h.next rfl rfl (List.forall_mem_singleton.mpr hlen) (fun ho => ⟨ho, ?_⟩) (fun _ => ?_)
    ⟨h.shape.pending, h.shape.waiting⟩ trivial
  · show [⟨maximum, result⟩].flatMap bytesOf ++ [] ++ held s ++ s.incoming = _
    rw [hflat, hopen ho, List.append_nil]
  · show [⟨maximum, result⟩].flatMap bytesOf ++ [] <+: taken s
    rw [hflat, List.append_nil]
    exact hclosed

/-- A receive that has taken nothing from an open port goes to its handler. -/
theorem badAlloc_sound {s : ReceiveState} (h : Sound s) (args : ReceiveArgs)
    (hs : s.isOpen = true → taken s = []) : Sound (s.goto args .badAlloc) := by
  refine h.next (show s.results = s.results ++ [] from (List.append_nil _).symm) rfl
    (fun _ hm => absurd hm List.not_mem_nil) (fun ho => ⟨ho, ?_⟩) (fun _ => List.nil_prefix)
    (h.shape.goto args _) trivial
  show [] ++ held s ++ s.incoming = _
  rw [hs ho]

theorem allocate_sound {s t : ReceiveState} {args : ReceiveArgs} {allocates : Bool} (h : Sound s)
    (hs : allocates = false → s.isOpen = true → taken s = []) (ht : Sound t) :
    Sound (s.allocate args allocates t) := by
  cases allocates with
  | true => exact ht
  | false => exact badAlloc_sound h args (hs rfl)

/-- The port is closed, and what the call has taken stays with it. -/
theorem closeImpl_sound {s t : ReceiveState} (h : Sound s) (call : ReceiveCall)
    (ht : (closeImpl s).map ({ · with call := call }) = some t)
    (htaken : taken { releaseImpl s with call := call } = taken s)
    (hok : ∀ u : ReceiveState, u.call = call → CallOk u) : Sound t := by
  obtain ⟨_, hu, rfl⟩ := Option.map_eq_some_iff.mp ht
  obtain ⟨u, rfl, hr, hd, -⟩ := closeImpl_spec hu
  refine h.next (show u.results = s.results ++ [] by rw [hr, List.append_nil]) hd
    (fun _ hm => absurd hm List.not_mem_nil) (fun ho => absurd ho Bool.false_ne_true) (fun _ => ?_)
    ⟨(shape_released u).pending, (shape_released u).waiting⟩ (hok _ rfl)
  rw [← htaken]
  exact List.prefix_rfl

theorem bytesOf_fail (maximum : Nat) (allocates : Bool) (error : TransportError) :
    bytesOf ⟨maximum, if allocates then some ⟨[], error⟩ else none⟩ = [] := by
  cases allocates <;> rfl

theorem fail_sound {s : ReceiveState} (h : Sound s) (hs : taken s = []) (maximum : Nat)
    (allocates : Bool) (error : TransportError) : Sound (fail s maximum allocates error) := by
  have hb := bytesOf_fail maximum allocates error
  refine finish_sound h ?_ (fun _ => hb.trans hs.symm) ?_
  · rw [hb]
    exact Nat.zero_le _
  · rw [hb]
    exact List.nil_prefix

theorem receive_sound {s : ReceiveState} (h : Sound s) (hidle : s.call = .idle) (maximum : Nat)
    (timeout now : Int) (allocates : Bool) : Sound (receive s maximum timeout now allocates) := by
  have hs : taken s = [] := by rw [taken, hidle]
  unfold receive
  split
  · exact fail_sound h hs _ _ _
  · rename_i hopen
    have ho : s.isOpen = true := by simpa using hopen
    split
    · exact fail_sound h hs _ _ _
    · exact h.goto ho hs.symm ho

/-! ## Steps and runs -/

theorem receiveStep_sound {s t : ReceiveState} {args : ReceiveArgs} {point : ReceivePoint}
    {act : ReceiveAct} (h : Sound s) (hc : s.call = .receiving args point) (hk : KeepsTaken s act)
    (ht : receiveStep s args point act = some t) : Sound t := by
  have hp : PointOk s args point := by
    have := h.call
    rwa [CallOk, hc] at this
  have hs : taken s = takenAt point := by rw [taken, hc]
  unfold receiveStep at ht
  split at ht
  · cases ht
    exact receiveLoop_sound h hp hs _
  · exact cancelRead_sound h hp hs ht rfl fun _ hu => hu
  · cases ht
    exact allocate_sound h (fun _ _ => hs) (arguments_sound h hp hs _)
  · cases ht
    exact startClock_sound h hp hs _
  · cases ht
    exact createEvent_sound h hp hs _
  · cases ht
    exact allocate_sound h (fun _ _ => hs) (resizeBuffer_sound h hp hs)
  · cases ht
    exact resetEvent_sound h hp hs _
  · exact readFile_sound h hp.1 hp.2 hs ht
  · exact overlappedResult_sound h hp hs ht
  · rename_i cancelled
    cases ht
    cases cancelled <;> exact h.goto hp hs.symm hp
  · cases ht
    exact waitClock_sound h hp hs _
  · cases ht
    exact waitForSingleObject_sound h hp hs _
  · exact cancelRead_sound h hp hs ht rfl fun _ hu => hu
  · cases ht
    exact allocate_sound h (fun _ _ => hs) (h.goto hp hs.symm hp)
  · cases ht
    exact allocate_sound h (fun _ _ => hs) (collect_sound h hp hs _ _)
  · exact closeImpl_sound h _ ht hs.symm fun u hu => by rw [CallOk, hu]; exact hp.2
  · -- the one place where an allocation fails with bytes in hand
    rename_i allocates
    cases ht
    refine allocate_sound h (fun ha => ?_) (finish_sound h hp (fun _ => hs.symm) ?_)
    · rw [ha] at hk
      exact hk
    · rw [hs]
      exact List.prefix_rfl
  · cases ht
    exact allocate_sound h (fun _ _ => hs) (takeLast_sound h hp hs _)
  · cases ht
    exact fail_sound h hs _ _ _
  · cases ht

theorem deliver_sound {s : ReceiveState} (h : Sound s) (bytes : Bytes) :
    Sound { s with incoming := s.incoming ++ bytes, delivered := s.delivered ++ bytes } := by
  refine ⟨⟨h.inOrder.trans (List.prefix_append _ _), h.bounded, fun ho => ?_⟩,
    h.takenInOrder.trans (List.prefix_append _ _), ⟨h.shape.pending, h.shape.waiting⟩, h.call⟩
  show s.delivered ++ bytes = returned s ++ taken s ++ held s ++ (s.incoming ++ bytes)
  rw [h.kept ho, List.append_assoc _ s.incoming]

/-- The driver completes a read, before the port looks at it. -/
theorem complete_sound {s t : ReceiveState} {n : Nat} {failure : Option Int} (h : Sound s)
    (ht : complete s n failure = some t) : Sound t := by
  unfold complete at ht
  split at ht
  · rename_i hc
    obtain ⟨hreq, hf⟩ := hc
    cases ht
    have hp : s.read.isPending = true := h.shape.pending.mpr (hreq ▸ nofun)
    have hle := h.shape.waiting hp
    refine h.next (show s.results = s.results ++ [] from (List.append_nil _).symm) rfl
      (fun _ hm => absurd hm List.not_mem_nil) (fun ho => ⟨ho, ?_⟩) (fun _ => List.prefix_rfl)
      ⟨⟨fun _ => nofun, fun _ => hp⟩, fun _ => hle⟩ h.call
    have hheld : held { s.transfer n with request := .completed n failure } =
        s.incoming.take n := by
      have hunread : unread (s.transfer n).read = [] := unread_of_le hle
      show unread (s.transfer n).read ++ (s.transfer n).read.buffer.take n = _
      rw [hunread]
      exact List.take_left' (List.length_take_of_le hf.1)
    have hbefore : held s = [] := by rw [held, unread_of_le hle, completed, hreq]; rfl
    show [] ++ taken s ++ held { s.transfer n with request := .completed n failure } ++
      s.incoming.drop n = _
    rw [hheld, hbefore, List.nil_append, List.append_assoc, List.take_append_drop, List.append_nil]
  · cases ht

theorem callStep_sound {s t : ReceiveState} {act : ReceiveAct} (h : Sound s)
    (hk : KeepsTaken s act) (ht : callStep s act = some t) : Sound t := by
  unfold callStep at ht
  split at ht
  · cases ht
  · rename_i hc
    exact receiveStep_sound h hc hk ht
  · rename_i hc
    have hs : taken s = [] := by rw [taken, hc]
    split at ht
    · exact closeImpl_sound h .idle ht hs.symm fun u hu => by rw [CallOk, hu]; trivial
    · cases ht

/-- The owner starts to close the port. -/
theorem closing_sound {s : ReceiveState} (h : Sound s) (hidle : s.call = .idle) :
    Sound { s with call := .closing } := by
  have hs : taken s = [] := by rw [taken, hidle]
  refine h.next (show s.results = s.results ++ [] from (List.append_nil _).symm) rfl
    (fun _ hm => absurd hm List.not_mem_nil) (fun ho => ⟨ho, ?_⟩) (fun _ => List.nil_prefix)
    ⟨h.shape.pending, h.shape.waiting⟩ trivial
  rw [hs]
  rfl

theorem step_sound {s t : ReceiveState} {act : ReceiveAct} (h : Sound s) (hk : KeepsTaken s act)
    (ht : step s act = some t) : Sound t := by
  unfold step at ht
  split at ht
  · cases ht
    exact deliver_sound h _
  · exact complete_sound h ht
  · split at ht
    · rename_i hidle
      cases ht
      exact receive_sound h hidle _ _ _ _
    · cases ht
  · split at ht
    · rename_i hidle
      cases ht
      exact closing_sound h hidle
    · cases ht
  · exact callStep_sound h hk ht

theorem run_sound {s t : ReceiveState} {acts : List ReceiveAct} (h : Sound s)
    (hk : Along step KeepsTaken s acts) (hr : run step s acts = some t) : Sound t :=
  run_invariant_along (fun _ _ _ hs hk ht => step_sound hs hk ht) h hk hr

/-! ## Bytes that the port holds -/

/-- Where a receive stands that the port owes the bytes `owed`, up to its return. -/
def OwedAt (s : ReceiveState) (owed : Bytes) (args : ReceiveArgs) : ReceivePoint → Prop
  | .token | .cancelRead | .overlappedResult => held s = owed
  | .arguments | .build _ _ | .collect _ _ | .takeLast _ => held s = owed ∧ s.request = .none
  | .close received _ | .copyError received _ => received = owed.take args.maximum
  | _ => False

/-- The receive has not returned yet, and is going for the bytes, or it has returned them. -/
def HandingOver (s : ReceiveState) (maximum : Nat) (t : ReceiveState) : Prop :=
  match t.call with
  | .receiving args point =>
    args.maximum = maximum ∧ t.results = s.results ∧ OwedAt t (held s) args point
  | .idle => HandsOver s maximum t
  | .closing => False

theorem unread_owed {s : ReceiveState} {owed : Bytes} (h : held s = owed ∧ s.request = .none) :
    unread s.read = owed := by rw [← held_of_released h.2, h.1]

/-- The bytes that are taken are the next of those that the port owes. -/
theorem take_owed {s : ReceiveState} {owed : Bytes} (h : held s = owed ∧ s.request = .none)
    (maximum : Nat) : (takeReadBytes s.read maximum).1 = owed.take maximum := by
  rw [take_bytes, unread_owed h]

/-- A read that has not completed leaves nothing to the port. -/
theorem held_of_outstanding {s : ReceiveState} (h : ReadShape s) (hr : s.request = .outstanding) :
    held s = [] := by
  rw [held, unread_of_le (h.waiting (h.pending.mpr (hr ▸ nofun))), completed, hr]
  rfl

section HandingOver

variable {t u : ReceiveState} {owed : Bytes} {args : ReceiveArgs}

theorem owed_receiveLoop (h : Sound t) (hne : owed ≠ []) (ho : held t = owed) (cancelled : Bool) :
    ∃ point, receiveLoop t args cancelled = t.goto args point ∧ OwedAt t owed args point := by
  unfold receiveLoop
  cases cancelled with
  | true => exact ⟨_, rfl, ho⟩
  | false =>
    by_cases hsize : t.read.offset < t.read.size
    · have hp : t.read.isPending = false :=
        Bool.eq_false_iff.mpr fun hp => absurd (h.shape.waiting hp) (Nat.not_le_of_lt hsize)
      exact ⟨.takeLast {}, by simp [hsize], ho, h.shape.released hp⟩
    · cases hp : t.read.isPending with
      | true => exact ⟨.overlappedResult, by simp [hsize], ho⟩
      | false =>
        rw [held_of_released (h.shape.released hp), unread_of_le (Nat.le_of_not_lt hsize)] at ho
        exact absurd ho.symm hne

theorem owed_overlappedResult (h : Sound t) (hne : owed ≠ []) (ho : held t = owed)
    (hu : overlappedResult t args = some u) :
    ∃ size point, u = (t.endRead size).goto args point ∧
      OwedAt (t.endRead size) owed args point := by
  unfold overlappedResult at hu
  split at hu
  · cases hu
  · rename_i hr
    exact absurd (ho.symm.trans (held_of_outstanding h.shape hr)) hne
  · rename_i hr
    cases hu
    exact ⟨_, _, rfl, (held_endRead h.shape hr rfl).trans ho⟩
  · rename_i hr
    cases hu
    exact ⟨_, _, rfl, (held_endRead h.shape hr (take_min_length _ _)).trans ho, rfl⟩

end HandingOver

theorem receiveStep_handsOver {s t u : ReceiveState} {maximum : Nat} {args : ReceiveArgs}
    {point : ReceivePoint} {act : ReceiveAct} (hne : held s ≠ []) (h : Sound t)
    (hm : args.maximum = maximum) (hr : t.results = s.results)
    (ho : OwedAt t (held s) args point) (ha : Answers act)
    (hu : receiveStep t args point act = some u) : HandingOver s maximum u := by
  unfold receiveStep at hu
  split at hu
  · cases hu
    obtain ⟨point, hl, hp⟩ := owed_receiveLoop h hne ho _
    rw [hl]
    exact ⟨hm, hr, hp⟩
  · obtain ⟨v, hv, rfl⟩ := Option.map_eq_some_iff.mp hu
    have hc := cancelRead_spec h.shape hv
    exact ⟨hm, hc.results.trans hr, hc.held.trans ho, hc.ended⟩
  · rename_i errorFirst allocates
    cases hu
    cases allocates with
    | false => cases ha
    | true =>
      cases errorFirst with
      | true => exact ⟨hm, hr, ho⟩
      | false => exact ⟨hm, hr, take_owed ho _⟩
  · cases ho
  · cases ho
  · cases ho
  · cases ho
  · cases ho
  · obtain ⟨size, point, rfl, hp⟩ := owed_overlappedResult h hne ho hu
    exact ⟨hm, hr, hp⟩
  · cases ho
  · cases ho
  · cases ho
  · cases ho
  · rename_i allocates
    cases hu
    cases allocates with
    | false => cases ha
    | true => exact ⟨hm, hr, ho⟩
  · rename_i stage error allocates
    cases hu
    cases allocates with
    | false => cases ha
    | true =>
      have ht := take_owed ho args.maximum
      refine ⟨hm, hr, ?_⟩
      show OwedAt _ (held s) args
        (if closes error stage then .close _ error else .copyError _ error)
      cases closes error stage with
      | true => exact ht
      | false => exact ht
  · obtain ⟨v, hv, rfl⟩ := Option.map_eq_some_iff.mp hu
    obtain ⟨w, rfl, hw, -, -⟩ := closeImpl_spec hv
    exact ⟨hm, hw.trans hr, ho⟩
  · rename_i received error allocates
    cases hu
    cases allocates with
    | false => cases ha
    | true =>
      refine ⟨error, ?_⟩
      show t.results ++ [⟨args.maximum, some ⟨received, error⟩⟩] = _
      rw [hr, show received = _ from ho, hm]
  · rename_i error allocates
    cases hu
    cases allocates with
    | false => cases ha
    | true =>
      refine ⟨error, ?_⟩
      show t.results ++
        [⟨args.maximum, some ⟨(takeReadBytes t.read args.maximum).1, error⟩⟩] = _
      rw [hr, take_owed ho, hm]
  · cases ho
  · cases hu

/-- Where a receive holds the bytes itself, the port does not matter. -/
theorem OwedAt.in_hand {t : ReceiveState} {owed : Bytes} {args : ReceiveArgs}
    {point : ReceivePoint} (h : OwedAt t owed args point) (hz : held t = []) (hne : owed ≠ [])
    (u : ReceiveState) : OwedAt u owed args point := by
  cases point <;>
    first
      | exact h
      | exact absurd (h.symm.trans hz) hne
      | exact absurd (h.1.symm.trans hz) hne

theorem HandingOver.in_hand {s t u : ReceiveState} {maximum : Nat} (h : HandingOver s maximum t)
    (hc : u.call = t.call) (hr : u.results = t.results) (hz : held t = []) (hne : held s ≠ []) :
    HandingOver s maximum u := by
  unfold HandingOver HandsOver at h ⊢
  rw [hc, hr]
  split
  · rename_i hcall
    rw [hcall] at h
    exact ⟨h.1, h.2.1, h.2.2.in_hand hz hne u⟩
  · rename_i hcall
    rwa [hcall] at h
  · rename_i hcall
    rwa [hcall] at h

theorem step_handsOver {s t u : ReceiveState} {maximum : Nat} {act : ReceiveAct}
    (hne : held s ≠ []) (h : Sound t) (ho : HandingOver s maximum t) (ha : Answers act)
    (hu : step t act = some u) : HandingOver s maximum u := by
  have hcall : callStep t act = some u → HandingOver s maximum u := fun hu => by
    unfold callStep at hu
    unfold HandingOver at ho
    split at hu
    · cases hu
    · rename_i hc
      rw [hc] at ho
      exact receiveStep_handsOver hne h ho.1 ho.2.1 ho.2.2 ha hu
    · rename_i hc
      rw [hc] at ho
      exact ho.elim
  unfold step at hu
  split at hu
  · cases hu
    exact ho
  · -- no read is outstanding while the port owes bytes
    unfold complete at hu
    split at hu
    · rename_i hc
      cases hu
      exact ho.in_hand rfl rfl (held_of_outstanding h.shape hc.1) hne
    · cases hu
  · exact ha.elim
  · exact ha.elim
  · exact hcall hu

theorem keepsTaken_of_ne {act : ReceiveAct} (h : act ≠ .allocate false) (s : ReceiveState) :
    KeepsTaken s act := by
  unfold KeepsTaken
  split
  · exact absurd rfl h
  · trivial

theorem ne_of_answers {act : ReceiveAct} (h : Answers act) : act ≠ .allocate false := by
  rintro rfl
  exact h

theorem nextHandsOver {s : ReceiveState} (h : Sound s) (ho : s.isOpen = true) :
    NextHandsOver s := by
  intro maximum timeout now allocates acts s' hmin hmax htime hne hacts hrun hend
  obtain ⟨t, ht, hrun⟩ := run_cons.mp hrun
  have hidle : s.call = .idle := by
    by_contra hc
    simp [step, hc] at ht
  have htoken : t = s.goto ⟨maximum, (serialDeadline now timeout).value⟩ .token := by
    have hvalid : ¬(maximum = 0 ∨ intMax < maximum) ∧ ¬timeout < 0 := by omega
    simp [step, hidle, receive, ho, hvalid.1, hvalid.2] at ht
    exact ht.symm
  have hstart : Sound t ∧ HandingOver s maximum t := by
    subst htoken
    exact ⟨h.goto ho (by rw [taken, hidle]; rfl) ho, rfl, rfl, rfl⟩
  have hsteps : ∀ u act v, Sound u ∧ HandingOver s maximum u → Answers act →
      step u act = some v → Sound v ∧ HandingOver s maximum v := fun u _ _ hi ha hs =>
    ⟨step_sound hi.1 (keepsTaken_of_ne (ne_of_answers ha) u) hs, step_handsOver hne hi.1 hi.2 ha hs⟩
  have hfinal : Sound s' ∧ HandingOver s maximum s' :=
    run_invariant_along hsteps hstart (along_of_forall (fun act hact _ => hacts act hact) t) hrun
  have hover := hfinal.2
  unfold HandingOver at hover
  rwa [hend] at hover

/-- Without memory, a receive that has taken bytes goes to its handler without them. -/
theorem step_dropping {s t : ReceiveState} (ht : step s (.allocate false) = some t)
    (hne : taken s ≠ []) : ∃ args, t = s.goto args .badAlloc := by
  replace ht : callStep s (.allocate false) = some t := ht
  unfold callStep at ht
  unfold taken at hne
  split at ht
  · cases ht
  · rename_i args point hc
    rw [hc] at hne
    cases point with
    | copyError received error =>
      cases ht
      exact ⟨args, rfl⟩
    | close received error => cases ht
    | _ => exact absurd rfl hne
  · cases ht

/-- A step keeps the promise if and only if it keeps what the receive has taken. -/
theorem received_iff {s t : ReceiveState} {act : ReceiveAct} (h : Sound s)
    (ht : step s act = some t) : Received t ↔ KeepsTaken s act := by
  refine ⟨fun hr => ?_, fun hk => (step_sound h hk ht).toReceived⟩
  unfold KeepsTaken
  split
  · intro ho
    by_contra hne
    obtain ⟨args, rfl⟩ := step_dropping ht hne
    have hbefore := h.kept ho
    have hafter : s.delivered = returned s ++ [] ++ held s ++ s.incoming := hr.kept ho
    rw [hbefore] at hafter
    have hlen := congrArg List.length hafter
    simp only [List.length_append, List.length_nil] at hlen
    exact hne (List.length_eq_zero_iff.mp (by omega))
  · trivial

/-! ## Every run of a port -/

/-- While no allocation drops bytes, the receives of an open port return what the device delivered,
in order, within the size they were given, and what is not returned stays with the port; the next
receive hands it over first. The condition is exact at each step. -/
theorem serial_receives {handle : Nat} {deviceName : Bytes} {baudRate : Int}
    {acts : List ReceiveAct} {s : ReceiveState}
    (hk : Along step KeepsTaken (opened handle deviceName baudRate) acts)
    (hr : run step (opened handle deviceName baudRate) acts = some s) :
    Received s ∧ (s.isOpen = true → NextHandsOver s) ∧
      ∀ act t, step s act = some t → (Received t ↔ KeepsTaken s act) := by
  have h := run_sound (opened_sound handle deviceName baudRate) hk hr
  exact ⟨h.toReceived, nextHandsOver h, fun _ _ => received_iff h⟩

/-- A read that outlives its receive, is completed by the device and returned in two parts. -/
def pollingRun : List ReceiveAct :=
  [.receive 16 0 5 true, .token false, .clock 4, .event (.ok 1), .allocate true,
   .resetEvent none, .readFile .pending, .continue, .token false, .clock 5, .allocate true,
   .allocate true, .allocate true, .deliver [1, 2, 3], .complete 3 none,
   .receive 2 0 6 true, .token false, .continue, .token false, .allocate true]

theorem serial_receives_polling : ∃ s,
    run step (opened 0 [67, 79, 77, 51] 9600) pollingRun = some s ∧
      returned s = [1, 2] ∧ held s = [3] ∧ Received s := by
  obtain ⟨s, hs, hv⟩ := Option.map_eq_some_iff.mp
    (show (run step (opened 0 [67, 79, 77, 51] 9600) pollingRun).map
      (fun s => (returned s, held s)) = some ([1, 2], [3]) by decide +kernel)
  simp only [Prod.mk.injEq] at hv
  obtain ⟨hr, hh⟩ := hv
  have hk : Along step KeepsTaken (opened 0 [67, 79, 77, 51] 9600) pollingRun :=
    along_of_forall (fun act hact => keepsTaken_of_ne fun he => by
      subst he
      exact absurd hact (by decide)) _
  exact ⟨s, hs, hr, hh, (serial_receives hk hs).1⟩

/-- A receive whose read completes while it is cancelled, without memory for its result, and the
receive after it. -/
def droppingRun : List ReceiveAct :=
  [.receive 16 1000 0 true, .token false, .clock 0, .event (.ok 1), .allocate true,
   .resetEvent none, .readFile .pending, .continue, .token true, .deliver [1, 2, 3],
   .complete 3 none, .continue, .allocate true, .allocate true, .allocate false, .allocate true,
   .deliver [4], .receive 16 1000 0 true, .token false, .clock 0, .allocate true,
   .resetEvent none, .readFile (.done 1), .token false, .allocate true]

theorem serial_receive_drops :
    (run step (opened 0 [67, 79, 77, 51] 9600) droppingRun).map
      (fun s => (s.isOpen, s.delivered, returned s)) = some (true, [1, 2, 3, 4], [4]) ∧
    ¬∀ acts s, run step (opened 0 [67, 79, 77, 51] 9600) acts = some s →
      returned s <+: s.delivered := by
  have hrun : (run step (opened 0 [67, 79, 77, 51] 9600) droppingRun).map
      (fun s => (s.isOpen, s.delivered, returned s)) = some (true, [1, 2, 3, 4], [4]) := by
    decide +kernel
  refine ⟨hrun, fun h => ?_⟩
  obtain ⟨s, hs, hv⟩ := Option.map_eq_some_iff.mp hrun
  simp only [Prod.mk.injEq] at hv
  obtain ⟨-, hd, hr⟩ := hv
  have := h droppingRun s hs
  rw [hd, hr] at this
  exact absurd this (by decide)

end WSE.Proof.Xpt
