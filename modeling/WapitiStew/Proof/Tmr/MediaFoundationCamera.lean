import WapitiStew.Proof.Tmr.MediaFoundationBooks

/-!
# Reading, stopping and flushing

`Stage` says how far the open reader is: shut, still, streaming, in a flush, or dead
until `close`. `Fits` gives each place of the owner its stages, `InStage` what a stage
says of the flags and of the reader. The callbacks leave the stage as it is
(`onReadSample_stage`, `onFlush_stage`), and each step of the owner goes from one stage
to the next. The monitor learns of an error before the reader is marked as failed; between
the two the owner `meets` it.
-/

namespace WSE.Proof.Tmr

open WSE.Framework WSE.Impl.Tmr WSE.Spec.Tmr

variable {s : MediaFoundationCamera} {k : SourceReader} {r : Nat}

/-! ## The reader -/

/-- Nothing is requested, and nothing is unread. -/
def Unasked (k : SourceReader) : Prop := k.requests = [] ∧ k.callback.ready = false

/-- The reader is not being flushed, and its callback is not closed. -/
structure LiveReader (k : SourceReader) : Prop where
  closed : k.callback.closed = false
  flushing : k.callback.flushing = false
  flushes : k.flushes = 0

structure Orderly (k : SourceReader) : Prop where
  one : k.requests.length ≤ 1
  inFlight : k.requests ≠ [] → k.callback.requestInFlight = true
  ready : k.callback.ready = true → k.requests = []
  flushOnce : k.flushes ≤ 1

inductive Stage
  /-- The camera is not open. -/
  | shut
  /-- Open, and not streaming. -/
  | still
  | streams
  /-- Streaming, with nothing requested and nothing unread. -/
  | emptied
  /-- The same, while `ReadSample` is called. -/
  | asks
  /-- Before the flush of a stop. -/
  | stops
  /-- Before the reader is told to flush. -/
  | flushes
  /-- The reader flushes, or has done so. -/
  | waits
  /-- The flush has failed. -/
  | givesUp
  /-- The reader has failed. -/
  | dead
  deriving DecidableEq

def InStage (isOpen streaming failed : Bool) (k : SourceReader) : Stage → Prop
  | .shut => isOpen = false ∧ streaming = false ∧ failed = false ∧ k = {}
  | .still => isOpen = true ∧ streaming = false ∧ failed = false ∧ LiveReader k ∧ Unasked k
  | .streams => isOpen = true ∧ streaming = true ∧ failed = false ∧ LiveReader k
  | .emptied => isOpen = true ∧ streaming = true ∧ failed = false ∧ LiveReader k ∧ Unasked k
  | .asks => isOpen = true ∧ streaming = true ∧ failed = false ∧ LiveReader k ∧ Unasked k ∧
      k.callback.requestInFlight = true
  | .stops => isOpen = true ∧ streaming = false ∧ failed = false ∧ LiveReader k
  | .flushes => isOpen = true ∧ streaming = false ∧ failed = false ∧
      (k.callback.closed = false ∧ k.callback.accepting = false ∧ k.callback.ready = false) ∧
      k.callback.flushing = true ∧ k.flushes = 0
  | .waits => isOpen = true ∧ streaming = false ∧ failed = false ∧
      (k.callback.closed = false ∧ k.callback.accepting = false ∧ k.callback.ready = false) ∧
      (k.callback.flushing = true ∧ k.flushes = 1 ∨
        k.callback.flushing = false ∧ k.flushes = 0 ∧ k.requests = [])
  | .givesUp => isOpen = true ∧ streaming = false ∧ failed = false ∧
      k.callback.accepting = false ∧ k.callback.ready = false
  | .dead => isOpen = true ∧ streaming = false ∧ failed = true ∧
      k.callback.ready = false ∧ (k.callback.closed = true ∨ k.requests = [])

def Fits : MediaFoundationPhase → Stage → Prop
  | .idle, st => st = .shut ∨ st = .still ∨ st = .streams ∨ st = .dead
  | .closing, st => st = .shut ∨ st = .still ∨ st = .dead
  | .reading, st | .waiting, st | .copying _ _, st => st = .streams
  | .requesting, st => st = .asks
  | .took _ _ _ _, st => st = .emptied
  | .requested hr, st => st = if hresultFailed hr then .asks else .streams
  | .flushBegin _, st => st = .stops
  | .flushing _, st => st = .flushes
  | .flushWait _, st => st = .waits
  | .flushClose _ status timedOut, st =>
    st = .givesUp ∧ (hresultFailed status = true ∨ timedOut = true)

/-- The owner has met an error of the reader, and not marked it yet. -/
def meets : MediaFoundationPhase → Bool
  | .requested hr => hresultFailed hr
  | .took _ status flags _ => readerEnded status flags
  | .flushClose _ _ _ => true
  | _ => false

/-- What `readFrame` has moved out last. -/
def Holds : MediaFoundationPhase → ReadBooks → Prop
  | .idle, b => b.taken = none
  | .took sample _ _ _, b => ∀ r, sample = some r → b.taken = some r
  | .copying r _, b => b.taken = some r
  | _, _ => True

/-- A reader that was released: what it still answers is dropped. -/
structure ReleasedReader (asked : List Nat) (n : Nat) (k : SourceReader) : Prop where
  closed : k.callback.closed = true
  one : k.requests.length ≤ 1
  other : ∀ r ∈ k.requests, r < n ∧ r ∉ asked

/-! ## The callbacks -/

theorem receive_closed {c : MediaFoundationReadState} (h : c.publishes = false) (status : Int)
    (flags : BitVec 32) (timestamp : Int) (sample : Option Nat) :
    c.receive status flags timestamp sample = c := by
  rw [MediaFoundationReadState.receive, h]
  rfl

theorem receive_flags (c : MediaFoundationReadState) (status : Int) (flags : BitVec 32)
    (timestamp : Int) (sample : Option Nat) :
    (c.receive status flags timestamp sample).closed = c.closed ∧
      (c.receive status flags timestamp sample).flushing = c.flushing ∧
      (c.receive status flags timestamp sample).accepting = c.accepting := by
  unfold MediaFoundationReadState.receive
  split <;> exact ⟨rfl, rfl, rfl⟩

theorem receive_publishes {c : MediaFoundationReadState} (h : c.publishes = true) (status : Int)
    (flags : BitVec 32) (timestamp : Int) (sample : Option Nat) :
    (c.receive status flags timestamp sample).ready = true ∧
      (c.receive status flags timestamp sample).sample = sample ∧
      (c.receive status flags timestamp sample).status = status ∧
      (c.receive status flags timestamp sample).flags = flags := by
  rw [MediaFoundationReadState.receive, h]
  exact ⟨rfl, rfl, rfl, rfl⟩

theorem flushed_flags (c : MediaFoundationReadState) :
    c.flushed.closed = c.closed ∧ c.flushed.accepting = c.accepting ∧
      c.flushed.ready = c.ready ∧ Shows c.flushed c := by
  unfold MediaFoundationReadState.flushed
  split <;> exact ⟨rfl, rfl, rfl, rfl, fun _ => rfl, fun _ => rfl, fun _ => rfl⟩

/-- The request that is answered is the only one. -/
theorem Orderly.only (h : Orderly k) (hr : r ∈ k.requests) : k.requests = [r] := by
  have hone := h.one
  cases hk : k.requests with
  | nil => rw [hk] at hr; cases hr
  | cons q rest =>
    rw [hk] at hr hone
    have hrest : rest = [] := List.eq_nil_of_length_eq_zero (by simpa using hone)
    rw [hrest] at hr ⊢
    rw [List.mem_singleton.mp hr]

theorem Orderly.not_ready (h : Orderly k) (hr : r ∈ k.requests) : k.callback.ready = false := by
  cases hk : k.callback.ready with
  | false => rfl
  | true => exact absurd (h.ready hk) (List.ne_nil_of_mem hr)

section Callbacks

variable {isOpen streaming failed : Bool} {st : Stage} {status timestamp : Int} {flags : BitVec 32}
  {sample : Bool}

theorem onReadSample_requests (h : Orderly k) (hr : r ∈ k.requests) :
    (k.onReadSample r status flags timestamp sample).requests = [] := by
  show k.requests.erase r = []
  rw [h.only hr, List.erase_cons_head]

theorem onReadSample_orderly (h : Orderly k) (hr : r ∈ k.requests) :
    Orderly (k.onReadSample r status flags timestamp sample) := by
  have hnil : (k.onReadSample r status flags timestamp sample).requests = [] :=
    onReadSample_requests h hr
  exact ⟨by rw [hnil]; exact Nat.zero_le _, fun hne => absurd hnil hne, fun _ => hnil, h.flushOnce⟩

theorem onFlush_orderly (h : Orderly k) : Orderly k.onFlush :=
  ⟨Nat.zero_le _, fun hne => absurd rfl hne, fun _ => rfl,
    Nat.le_trans (Nat.sub_le _ _) h.flushOnce⟩

/-- A callback that publishes nothing leaves the read state as it is. -/
theorem onReadSample_callback (h : k.callback.publishes = false) :
    (k.onReadSample r status flags timestamp sample).callback = k.callback :=
  receive_closed h status flags timestamp _

end Callbacks

/-! ## The invariant -/

/-- What holds wherever the owner is; `failed` says whether the reader has failed so far. -/
structure Core (s : MediaFoundationCamera) (failed : Bool) : Prop where
  recorded : RecordedReads s.log s.isOpen failed s.reader s.accepted
  orderly : Orderly s.reader
  released : ∀ k ∈ s.retired, ReleasedReader s.reader.requests s.accepted k

/-- The flags and the reader are in a stage that fits a place of the owner. -/
def At (s : MediaFoundationCamera) (p : MediaFoundationPhase) : Prop :=
  ∃ st, Fits p st ∧ InStage s.isOpen s.streaming s.readerFailed s.reader st

structure ReadsInv (s : MediaFoundationCamera) : Prop where
  core : Core s (meets s.owner || s.readerFailed)
  stage : At s s.owner
  holds : Holds s.owner (books s.log)

section

variable {failed : Bool}

theorem Core.onReadSample {status timestamp : Int} {flags : BitVec 32} {sample : Bool}
    (h : Core s failed) (hr : r ∈ s.reader.requests)
    (husable : s.reader.callback.publishes = true → s.isOpen = true ∧ failed = false) :
    Core { s.record (.answered r status flags s.reader.callback.publishes) with
      reader := s.reader.onReadSample r status flags timestamp sample } failed := by
  have hnil : (s.reader.onReadSample r status flags timestamp sample).requests = [] :=
    onReadSample_requests h.orderly hr
  refine ⟨?_, onReadSample_orderly h.orderly hr, fun k hk => ?_⟩
  · show RecordedReads (s.log ++ [.answered r status flags s.reader.callback.publishes]) _ _ _ _
    cases hp : s.reader.callback.publishes with
    | false => exact h.recorded.dropped rfl rfl (onReadSample_callback hp)
    | true =>
      obtain ⟨ho, rfl⟩ := husable hp
      have hrec := h.recorded
      rw [ho] at hrec
      show RecordedReads _ s.isOpen false _ _
      rw [ho]
      obtain ⟨hready, hsample, hshown⟩ := receive_publishes hp status flags timestamp
        (if sample then some r else none)
      refine hrec.published (h.orderly.only hr) (h.orderly.not_ready hr) hnil rfl hready
        (fun q hq => ?_) hshown
      have hq : (if sample then some r else none) = some q := hsample.symm.trans hq
      split at hq
      · exact (Option.some.inj hq).symm
      · cases hq
  · obtain ⟨hc, ho, hq⟩ := h.released k hk
    refine ⟨hc, ho, fun q hm => ⟨(hq q hm).1, ?_⟩⟩
    rw [hnil]
    exact List.not_mem_nil

theorem Core.onFlush (h : Core s failed) :
    Core { s.record .flushed with reader := s.reader.onFlush } failed := by
  obtain ⟨-, -, -, hshows⟩ := flushed_flags s.reader.callback
  have honce := h.orderly.flushOnce
  refine ⟨h.recorded.flushed rfl (show s.reader.flushes - 1 = 0 by omega) hshows,
    onFlush_orderly h.orderly, fun k hk => ?_⟩
  obtain ⟨hc, ho, hq⟩ := h.released k hk
  exact ⟨hc, ho, fun q hm => ⟨(hq q hm).1, List.not_mem_nil⟩⟩

/-- A reader that was released answers, and is dropped. -/
theorem Core.late {status : Int} {flags : BitVec 32} {k' : SourceReader} {i : Nat}
    (h : Core s failed) (hk : s.retired[i]? = some k)
    (hr : r ∈ k.requests) (hk' : ReleasedReader s.reader.requests s.accepted k') :
    Core { s.record (.answered r status flags false) with retired := s.retired.set i k' }
      failed := by
  have hother := ((h.released k (List.mem_of_getElem? hk)).other r hr).2
  refine ⟨h.recorded.dropped (List.erase_of_not_mem hother).symm rfl rfl, h.orderly,
    fun m hm => ?_⟩
  obtain hm | rfl := List.mem_or_eq_of_mem_set hm
  · exact h.released m hm
  · exact hk'

end

theorem ReleasedReader.onReadSample {asked : List Nat} {n : Nat} {status timestamp : Int}
    {flags : BitVec 32} {sample : Bool} (h : ReleasedReader asked n k) :
    ReleasedReader asked n (k.onReadSample r status flags timestamp sample) where
  closed := (receive_flags _ _ _ _ _).1.trans h.closed
  one := Nat.le_trans List.erase_sublist.length_le h.one
  other q hq := h.other q (List.mem_of_mem_erase hq)

theorem ReleasedReader.onFlush {asked : List Nat} {n : Nat} (h : ReleasedReader asked n k) :
    ReleasedReader asked n k.onFlush where
  closed := (flushed_flags _).1.trans h.closed
  one := Nat.zero_le _
  other _ hq := nomatch hq

/-- Only `taken` and `returned` change what `readFrame` holds. -/
theorem Holds.mono {p : MediaFoundationPhase} {b b' : ReadBooks} (h : Holds p b)
    (ht : b'.taken = b.taken) : Holds p b' := by
  cases p
  all_goals first
    | exact trivial
    | exact ht.trans h
    | exact fun r hr => ht.trans (h r hr)

/-! ## The owner -/

/-- The owner goes on to another place. -/
theorem Core.moves {p : MediaFoundationPhase} (h : Core s (meets p || s.readerFailed)) (hp : At s p)
    (hh : Holds p (books s.log)) : ReadsInv { s with owner := p } :=
  ⟨⟨h.recorded, h.orderly, h.released⟩, hp, hh⟩

/-- A call returns. -/
theorem Core.returns {v : MediaFoundationResult} (h : Core s s.readerFailed) (hp : At s .idle)
    (hv : ∀ r q t, v = .frame r q t → (books s.log).taken = some r) :
    ReadsInv (s.returns v) := by
  refine ⟨⟨h.recorded.returned hv, h.orderly, h.released⟩, hp, ?_⟩
  show (books (s.log ++ [.returned v])).taken = none
  rw [books_snoc]
  rfl

theorem Core.fails {e : CameraError} (h : Core s s.readerFailed) (hp : At s .idle) :
    ReadsInv (s.returns (.failed e)) := h.returns hp fun _ _ _ he => nomatch he

theorem Core.succeeds (h : Core s s.readerFailed) (hp : At s .idle) :
    ReadsInv (s.returns .succeeded) :=
  h.returns hp fun _ _ _ he => nomatch he

/-- Where the owner meets no error, the flag says whether the reader has failed. -/
theorem ReadsInv.core_at (h : ReadsInv s) {p : MediaFoundationPhase} (ho : s.owner = p)
    (hp : meets p = false) : Core s s.readerFailed := by
  have hcore := h.core
  rwa [ho, hp, Bool.false_or] at hcore

theorem At.shut (h : At s .idle) (ho : s.isOpen = false) :
    s.streaming = false ∧ s.readerFailed = false ∧ s.reader = {} := by
  obtain ⟨st, rfl | rfl | rfl | rfl, hin⟩ := h
  · exact hin.2
  all_goals exact absurd (hin.1.symm.trans ho) Bool.noConfusion

theorem At.still (h : At s .idle) (ho : s.isOpen = true) (hs : s.streaming = false)
    (hf : s.readerFailed = false) : LiveReader s.reader ∧ Unasked s.reader := by
  obtain ⟨st, rfl | rfl | rfl | rfl, hin⟩ := h
  · exact absurd (hin.1.symm.trans ho) Bool.noConfusion
  · exact hin.2.2.2
  · exact absurd (hin.2.1.symm.trans hs) Bool.noConfusion
  · exact absurd (hin.2.2.1.symm.trans hf) Bool.noConfusion

theorem At.streams (h : At s .idle) (hs : s.streaming = true) :
    InStage s.isOpen s.streaming s.readerFailed s.reader .streams := by
  obtain ⟨st, rfl | rfl | rfl | rfl, hin⟩ := h
  · exact absurd (hin.2.1.symm.trans hs) Bool.noConfusion
  · exact absurd (hin.2.1.symm.trans hs) Bool.noConfusion
  · exact hin
  · exact absurd (hin.2.1.symm.trans hs) Bool.noConfusion

/-- Between calls the camera may be closed, if it does not stream. -/
theorem At.closing (h : At s .idle) (hs : s.streaming = false) : At s .closing := by
  obtain ⟨st, rfl | rfl | rfl | rfl, hin⟩ := h
  · exact ⟨.shut, .inl rfl, hin⟩
  · exact ⟨.still, .inr (.inl rfl), hin⟩
  · exact absurd (hin.2.1.symm.trans hs) Bool.noConfusion
  · exact ⟨.dead, .inr (.inr rfl), hin⟩

theorem open_inv (h : ReadsInv s) (hi : s.owner = .idle) (failure : Option CameraError) :
    ReadsInv (s.open failure) := by
  have hp : At s .idle := hi ▸ h.stage
  have hcore := h.core_at hi rfl
  unfold MediaFoundationCamera.open
  split
  · exact hcore.fails hp
  · next ho =>
    have ho : s.isOpen = false := Bool.eq_false_iff.mpr ho
    cases failure with
    | some e => exact hcore.fails hp
    | none =>
      obtain ⟨hs, hf, hr⟩ := hp.shut ho
      have hrec := hcore.recorded
      rw [ho, hr] at hrec
      refine Core.succeeds ⟨hrec.opened, ⟨Nat.zero_le _, nofun, nofun, Nat.zero_le _⟩,
        fun k hk => ?_⟩
        ⟨.still, .inr (.inl rfl), rfl, hs, hf, ⟨rfl, rfl, rfl⟩, rfl, rfl⟩
      have hk := hcore.released k hk
      exact ⟨hk.closed, hk.one, fun q hq => ⟨(hk.other q hq).1, List.not_mem_nil⟩⟩

theorem reset_live {c : MediaFoundationReadState} (hc : c.closed = false)
    (hf : c.flushing = false) :
    c.reset.ready = false ∧ c.reset.closed = false ∧ c.reset.flushing = false := by
  rw [MediaFoundationReadState.reset, hc, hf]
  exact ⟨rfl, rfl, rfl⟩

theorem start_inv (h : ReadsInv s) (hi : s.owner = .idle) : ReadsInv s.start := by
  have hp : At s .idle := hi ▸ h.stage
  have hcore := h.core_at hi rfl
  unfold MediaFoundationCamera.start
  split
  · exact hcore.fails hp
  split
  · exact hcore.fails hp
  split
  · exact hcore.fails hp
  next ho hf hs =>
    have ho : s.isOpen = true := by simpa using ho
    have hf : s.readerFailed = false := Bool.eq_false_iff.mpr hf
    have hs : s.streaming = false := Bool.eq_false_iff.mpr hs
    obtain ⟨hl, hq, hready⟩ := hp.still ho hs hf
    obtain ⟨hready', hc', hf'⟩ := reset_live hl.closed hl.flushing
    have hrec := hcore.recorded
    rw [ho, hf] at hrec
    have ht : (books s.log).taken = none := by
      have := h.holds
      rwa [hi] at this
    refine Core.succeeds ⟨?_, ⟨?_, ?_, ?_, ?_⟩, hcore.released⟩
      ⟨.streams, .inr (.inr (.inl rfl)), ho, rfl, hf, hc', hf', hl.flushes⟩
    · show RecordedReads (s.log ++ [.started]) s.isOpen s.readerFailed _ _
      rw [ho, hf]
      exact (hrec.started hq hready ht).reader rfl rfl (shows_nothing hready' hready)
    · exact hcore.orderly.one
    · exact fun hne => absurd hq hne
    · exact fun _ => hq
    · exact hcore.orderly.flushOnce

theorem readFrame_inv (h : ReadsInv s) (hi : s.owner = .idle) : ReadsInv s.readFrame := by
  have hp : At s .idle := hi ▸ h.stage
  have hcore := h.core_at hi rfl
  unfold MediaFoundationCamera.readFrame
  split
  · exact hcore.fails hp
  · next hs =>
    exact hcore.moves (p := .reading) ⟨.streams, rfl, hp.streams (by simpa using hs)⟩ trivial

/-- The stream is stopped, and the flush follows. -/
theorem flush_follows (h : Core s s.readerFailed)
    (hin : InStage s.isOpen s.streaming s.readerFailed s.reader .streams)
    (k : MediaFoundationStopCaller) :
    ReadsInv { s with streaming := false, owner := .flushBegin k } :=
  ⟨⟨h.recorded, h.orderly, h.released⟩, ⟨.stops, rfl, hin.1, rfl, hin.2.2⟩, trivial⟩

theorem stop_inv (h : ReadsInv s) (hi : s.owner = .idle) : ReadsInv s.stop := by
  have hp : At s .idle := hi ▸ h.stage
  have hcore := h.core_at hi rfl
  unfold MediaFoundationCamera.stop
  split
  · exact hcore.succeeds hp
  · next hs => exact flush_follows hcore (hp.streams (by simpa using hs)) .stop

theorem close_inv (h : ReadsInv s) (hi : s.owner = .idle) : ReadsInv s.close := by
  have hp : At s .idle := hi ▸ h.stage
  have hcore := h.core_at hi rfl
  unfold MediaFoundationCamera.close
  split
  · next hs => exact flush_follows hcore (hp.streams hs) .close
  · next hs => exact hcore.moves (p := .closing) (hp.closing (Bool.eq_false_iff.mpr hs)) trivial

theorem call_inv (h : ReadsInv s) (hi : s.owner = .idle) (c : MediaFoundationCall) :
    ReadsInv (s.call c) := by
  cases c with
  | «open» failure => exact open_inv h hi failure
  | start => exact start_inv h hi
  | readFrame => exact readFrame_inv h hi
  | stop => exact stop_inv h hi
  | close => exact close_inv h hi

/-! ## The steps of `readFrame` -/

/-- Between calls, the camera streams. -/
theorem streams_idle (h : InStage s.isOpen s.streaming s.readerFailed s.reader .streams) :
    At s .idle := ⟨.streams, .inr (.inr (.inl rfl)), h⟩

/-- A frame that is copied is the one that was taken. -/
theorem copy_frame {b : MediaBuffer} {sample sequence r q : Nat} {timestamp t : Int}
    (h : copyMediaFoundationFrame b sample sequence timestamp = .frame r q t) : r = sample := by
  unfold copyMediaFoundationFrame at h
  repeat' split at h
  all_goals cases h
  rfl

theorem copy_inv (h : Core s s.readerFailed)
    (hin : InStage s.isOpen s.streaming s.readerFailed s.reader .streams)
    (hh : (books s.log).taken = some r) (timestamp converted : Int) (b : MediaBuffer) :
    ReadsInv (s.copy r timestamp converted b) := by
  unfold MediaFoundationCamera.copy
  split
  · exact h.fails (streams_idle hin)
  · refine Core.returns ⟨h.recorded, h.orderly, h.released⟩ (streams_idle hin) fun q m t he => ?_
    rw [copy_frame he]
    exact hh

/-! ## The steps of `stop` and `close` -/

theorem release_inv (h : Core s s.readerFailed) (hp : At s .closing) :
    ReadsInv (s.release.returns .succeeded) := by
  obtain ⟨st, hst, hin⟩ := hp
  have hready : s.reader.callback.ready = false := by
    obtain rfl | rfl | rfl := hst
    · rw [hin.2.2.2]
    · exact hin.2.2.2.2.2
    · exact hin.2.2.2.1
  unfold MediaFoundationCamera.release
  cases ho : s.isOpen with
  | true =>
    refine Core.succeeds ⟨h.recorded.closed hready, ⟨Nat.zero_le _, nofun, nofun, Nat.zero_le _⟩,
      fun k hk => ?_⟩
      ⟨.shut, .inl rfl, rfl, rfl, rfl, rfl⟩
    obtain rfl | hk := List.mem_cons.mp hk
    · exact ⟨rfl, h.orderly.one, fun r hr => ⟨(h.recorded.fresh r hr).1, List.not_mem_nil⟩⟩
    · obtain ⟨hc, hone, hother⟩ := h.released k hk
      exact ⟨hc, hone, fun r hr => ⟨(hother r hr).1, List.not_mem_nil⟩⟩
  | false =>
    obtain rfl | rfl | rfl := hst
    · have hrec := h.recorded
      rw [ho, hin.2.2.1] at hrec
      exact Core.succeeds ⟨hrec, h.orderly, h.released⟩ ⟨.shut, .inl rfl, rfl, rfl, rfl, hin.2.2.2⟩
    · exact absurd (ho.symm.trans hin.1) Bool.noConfusion
    · exact absurd (ho.symm.trans hin.1) Bool.noConfusion

/-! ## Runs -/

end WSE.Proof.Tmr
