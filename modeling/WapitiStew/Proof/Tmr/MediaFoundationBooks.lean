import WapitiStew.Spec.Tmr.MediaFoundationCamera

/-!
# The books of a Media Foundation camera

`RecordedReads` ties what the monitor knows after a history to the open reader and the flags
of the camera. One lemma for each event that the history goes on with.
-/

namespace WSE.Proof.Tmr

open WSE.Framework WSE.Impl.Tmr WSE.Spec.Tmr

variable {log : List MediaFoundationEvent} {isOpen failed : Bool} {k : SourceReader} {n r : Nat}

/-- What is known of the reader after a history. -/
abbrev books (log : List MediaFoundationEvent) : ReadBooks := mediaFoundationReads.after log

theorem books_snoc (log : List MediaFoundationEvent) (e : MediaFoundationEvent) :
    books (log ++ [e]) = mediaFoundationReads.next (books log) e :=
  Monitor.after_append _ log [e]

theorem receivedSamples_snoc (log : List MediaFoundationEvent) (e : MediaFoundationEvent) :
    receivedSamples (log ++ [e]) = receivedSamples log ++ receivedSamples [e] :=
  List.filterMap_append

theorem returnedSamples_snoc (log : List MediaFoundationEvent) (e : MediaFoundationEvent) :
    returnedSamples (log ++ [e]) = returnedSamples log ++ returnedSamples [e] :=
  List.filterMap_append

/-- What is being read, oldest first. -/
def inHand (b : ReadBooks) : List Nat := b.taken.toList ++ b.unread.toList

/-- A read state shows the same as another one, as far as `readFrame` looks at it. -/
structure Shows (c' c : MediaFoundationReadState) : Prop where
  ready : c'.ready = c.ready
  sample : c'.ready = true → c'.sample = c.sample
  status : c'.ready = true → c'.status = c.status
  flags : c'.ready = true → c'.flags = c.flags

/-- Nothing is shown before and after. -/
theorem shows_nothing {c' c : MediaFoundationReadState} (h' : c'.ready = false)
    (h : c.ready = false) : Shows c' c :=
  have hn (hr : c'.ready = true) : False := Bool.false_ne_true (h'.symm.trans hr)
  ⟨h'.trans h.symm, fun hr => (hn hr).elim, fun hr => (hn hr).elim, fun hr => (hn hr).elim⟩

structure RecordedReads (log : List MediaFoundationEvent) (isOpen failed : Bool) (k : SourceReader)
    (n : Nat) : Prop where
  accepts : mediaFoundationReads.Accepts log
  isOpen : (books log).isOpen = isOpen
  failed : (books log).failed = failed
  outstanding : (books log).outstanding = k.requests
  unread : (books log).unread.isSome = k.callback.ready
  sample : ∀ r q, (books log).unread = some r → k.callback.sample = some q → q = r
  ends : k.callback.ready = true →
    (books log).ends = readerEnded k.callback.status k.callback.flags
  flushing : (books log).flushing = decide (0 < k.flushes)
  current : ∀ r, r ∈ k.requests ∨ r ∈ inHand (books log) → r ∈ (books log).current
  inOrder : (returnedSamples log ++ inHand (books log)).Sublist (receivedSamples log)
  once : (receivedSamples log).Nodup
  numbered : ∀ r ∈ receivedSamples log, r < n
  fresh : ∀ r ∈ k.requests, r < n ∧ r ∉ receivedSamples log

theorem unread_eq_none {b : ReadBooks} (h : b.unread.isSome = false) : b.unread = none :=
  Option.not_isSome_iff_eq_none.mp (Bool.eq_false_iff.mp h)

namespace RecordedReads

theorem nothing : RecordedReads [] false false {} 0 where
  accepts := Monitor.accepts_nil _
  isOpen := rfl
  failed := rfl
  outstanding := rfl
  unread := rfl
  sample r q hr := nomatch hr
  ends hr := nomatch hr
  flushing := rfl
  current r hr := by simp [inHand, books, mediaFoundationReads] at hr
  inOrder := List.nil_sublist _
  once := List.nodup_nil
  numbered r hr := nomatch hr
  fresh r hr := nomatch hr

/-- Another state of the reader, with the same requests and flushes, that shows the same. -/
theorem reader {k' : SourceReader} (h : RecordedReads log isOpen failed k n)
    (hr : k'.requests = k.requests) (hf : k'.flushes = k.flushes)
    (hs : Shows k'.callback k.callback) : RecordedReads log isOpen failed k' n where
  accepts := h.accepts
  isOpen := h.isOpen
  failed := h.failed
  outstanding := h.outstanding.trans hr.symm
  unread := h.unread.trans hs.ready.symm
  sample r q hr' hq := by
    have hu := h.unread
    rw [hr', Option.isSome_some, ← hs.ready] at hu
    exact h.sample r q hr' ((hs.sample hu.symm) ▸ hq)
  ends hready := by
    rw [hs.status hready, hs.flags hready]
    exact h.ends (hs.ready.symm.trans hready)
  flushing := hf ▸ h.flushing
  current r hm := h.current r (by rwa [hr] at hm)
  inOrder := h.inOrder
  once := h.once
  numbered := h.numbered
  fresh r hm := h.fresh r (by rwa [hr] at hm)

/-- Nothing is unread of a reader that is not ready. -/
theorem unread_none (h : RecordedReads log isOpen failed k n) (hk : k.callback.ready = false) :
    (books log).unread = none := unread_eq_none (h.unread.trans hk)

/-- An event that brings no sample and returns none. -/
theorem next (h : RecordedReads log isOpen failed k n) (k' : SourceReader)
    {e : MediaFoundationEvent} (ha : mediaFoundationReads.allowed (books log) e)
    (hnone : receivedSamples [e] = [] ∧ returnedSamples [e] = [])
    (hhand : (inHand (mediaFoundationReads.next (books log) e)).Sublist (inHand (books log)))
    (hreq : k'.requests ⊆ k.requests)
    (ho : (mediaFoundationReads.next (books log) e).outstanding = k'.requests)
    (hu : (mediaFoundationReads.next (books log) e).unread.isSome = k'.callback.ready)
    (hs : ∀ r q, (mediaFoundationReads.next (books log) e).unread = some r →
      k'.callback.sample = some q → q = r)
    (he : k'.callback.ready = true → (mediaFoundationReads.next (books log) e).ends =
      readerEnded k'.callback.status k'.callback.flags)
    (hf : (mediaFoundationReads.next (books log) e).flushing = decide (0 < k'.flushes))
    (hc : ∀ r, r ∈ k'.requests ∨ r ∈ inHand (mediaFoundationReads.next (books log) e) →
      r ∈ (mediaFoundationReads.next (books log) e).current) :
    RecordedReads (log ++ [e]) (mediaFoundationReads.next (books log) e).isOpen
      (mediaFoundationReads.next (books log) e).failed k' n := by
  obtain ⟨hrec, hret⟩ := hnone
  constructor
  · exact Monitor.accepts_snoc.mpr ⟨h.accepts, ha⟩
  all_goals simp only [books_snoc, receivedSamples_snoc, returnedSamples_snoc, hrec, hret,
    List.append_nil]
  · exact ho
  · exact hu
  · exact hs
  · exact he
  · exact hf
  · exact hc
  · exact ((List.Sublist.refl _).append hhand).trans h.inOrder
  · exact h.once
  · exact h.numbered
  · exact fun r hr => h.fresh r (hreq hr)

theorem opened (h : RecordedReads log false failed {} n) :
    RecordedReads (log ++ [.opened]) true failed {} n :=
  h.failed ▸ h.next {} h.isOpen ⟨rfl, rfl⟩ (.refl _) (fun _ hr => hr) h.outstanding h.unread
    h.sample h.ends h.flushing h.current

/-- A start of a reader that has nothing to answer and nothing to hand over. -/
theorem started (h : RecordedReads log true false k n) (hq : k.requests = [])
    (hk : k.callback.ready = false) (ht : (books log).taken = none) :
    RecordedReads (log ++ [.started]) true false k n := by
  have hn := h.unread_none hk
  have hnext := h.next k (e := .started) ⟨h.isOpen, h.failed, hn⟩ ⟨rfl, rfl⟩ (.refl _)
    (fun _ hr => hr) h.outstanding h.unread h.sample h.ends h.flushing (by
      intro r hr
      have hhand : inHand (books log) = [] := by rw [inHand, hn, ht]; rfl
      rw [hq] at hr
      exact absurd (hr.resolve_left List.not_mem_nil) (hhand ▸ List.not_mem_nil))
  rwa [show (mediaFoundationReads.next (books log) .started).isOpen = true from h.isOpen,
    show (mediaFoundationReads.next (books log) .started).failed = false from h.failed] at hnext

/-- `ReadSample` fails: the reader has failed. -/
theorem refused (h : RecordedReads log isOpen failed k n) (hq : k.requests = []) {hr : Int}
    (hf : hresultFailed hr = true) :
    RecordedReads (log ++ [.requested hr n]) isOpen true k n := by
  have hnext : mediaFoundationReads.next (books log) (.requested hr n) =
      { books log with failed := true } := if_pos hf
  have h' := h.next k (e := .requested hr n) (h.outstanding.trans hq) ⟨rfl, rfl⟩
  rw [hnext] at h'
  exact h.isOpen ▸ h' (.refl _) (fun _ hr => hr) h.outstanding h.unread h.sample h.ends h.flushing
    h.current

/-- A flush is accepted. -/
theorem flushRequested {k' : SourceReader} (h : RecordedReads log isOpen failed k n) {hr : Int}
    (hf : ¬hresultFailed hr = true) (hq : k'.requests = k.requests) (hfl : 0 < k'.flushes)
    (hc : k'.callback = k.callback) :
    RecordedReads (log ++ [.flushRequested hr]) isOpen failed k' n := by
  have hnext : mediaFoundationReads.next (books log) (.flushRequested hr) =
      { books log with flushing := true } := if_neg hf
  have h' := h.next k' (e := .flushRequested hr) trivial ⟨rfl, rfl⟩
  rw [hnext] at h'
  exact h.failed ▸ h.isOpen ▸ h' (.refl _) (hq ▸ List.Subset.refl _) (h.outstanding.trans hq.symm)
    (h.unread.trans (hc ▸ rfl)) (hc ▸ h.sample) (hc ▸ h.ends) (decide_eq_true hfl).symm
    (fun r hm => h.current r (by rwa [hq] at hm))

/-- The wait for a flush ends: the reader has failed if the flush is not over. -/
theorem flushWaited (h : RecordedReads log isOpen failed k n) :
    RecordedReads (log ++ [.flushWaited]) isOpen (decide (0 < k.flushes) || failed) k n :=
  h.flushing ▸ h.failed ▸ h.isOpen ▸ h.next k (e := .flushWaited) trivial ⟨rfl, rfl⟩ (.refl _)
    (fun _ hr => hr) h.outstanding h.unread h.sample h.ends h.flushing h.current

/-- The reader is released; nothing that it has published is unread. -/
theorem closed (h : RecordedReads log isOpen failed k n) (hk : k.callback.ready = false) :
    RecordedReads (log ++ [.closed]) false false {} n := by
  have hn := h.unread_none hk
  refine h.next {} hn ⟨rfl, rfl⟩ (.refl _) (fun _ hr => nomatch hr) rfl (h.unread.trans hk) ?_
    (fun hr => nomatch hr) rfl ?_
  · intro r q hr
    rw [show (mediaFoundationReads.next (books log) .closed).unread = none from hn] at hr
    cases hr
  · intro r hr
    exact h.current r (.inr (hr.resolve_left List.not_mem_nil))

/-- `OnFlush`: the reader answers none of its requests. -/
theorem flushed {k' : SourceReader} (h : RecordedReads log isOpen failed k n)
    (hr : k'.requests = []) (hfl : k'.flushes = 0) (hs : Shows k'.callback k.callback) :
    RecordedReads (log ++ [.flushed]) isOpen failed k' n := by
  have hlast : RecordedReads log isOpen failed { k with callback := k'.callback } n :=
    h.reader rfl rfl hs
  have hnext := hlast.next k' (e := .flushed) trivial ⟨rfl, rfl⟩ (.refl _)
    (hr ▸ List.nil_subset _) hr.symm hlast.unread hlast.sample hlast.ends
    (by rw [hfl]; rfl) (by
      intro r hm
      rw [hr] at hm
      exact h.current r (.inr (hm.resolve_left List.not_mem_nil)))
  rwa [show (mediaFoundationReads.next (books log) .flushed).isOpen = isOpen from h.isOpen,
    show (mediaFoundationReads.next (books log) .flushed).failed = failed from h.failed] at hnext

/-- A stop discards what is unread. -/
theorem discarded {k' : SourceReader} (h : RecordedReads log isOpen failed k n)
    (hr : k'.requests = k.requests) (hfl : k'.flushes = k.flushes)
    (hready : k'.callback.ready = false) :
    RecordedReads (log ++ [.discarded]) isOpen failed k' n := by
  have hhand : (inHand (mediaFoundationReads.next (books log) .discarded)).Sublist
      (inHand (books log)) := List.Sublist.append (.refl _) (List.nil_sublist _)
  have hnext := h.next k' (e := .discarded) trivial ⟨rfl, rfl⟩ hhand
    (hr ▸ List.Subset.refl _) (h.outstanding.trans hr.symm) hready.symm
    (fun _ _ hu => nomatch hu) (fun ht => absurd (hready.symm.trans ht) Bool.noConfusion)
    (hfl ▸ h.flushing) (by
      intro r hm
      rw [hr] at hm
      exact h.current r (hm.imp_right (hhand.subset ·)))
  rwa [show (mediaFoundationReads.next (books log) .discarded).isOpen = isOpen from h.isOpen,
    show (mediaFoundationReads.next (books log) .discarded).failed = failed from h.failed] at hnext

/-- `readFrame` moves out what is unread: the reader has failed if that came with an error or the
end of the stream. -/
theorem taken {k' : SourceReader} (h : RecordedReads log isOpen failed k n)
    (hr : k'.requests = k.requests) (hfl : k'.flushes = k.flushes)
    (hk : k.callback.ready = true) (hready : k'.callback.ready = false) :
    RecordedReads (log ++ [.taken]) isOpen
      (readerEnded k.callback.status k.callback.flags || failed) k' n := by
  have hhand : (inHand (mediaFoundationReads.next (books log) .taken)).Sublist
      (inHand (books log)) := by
    show ((books log).unread.toList ++ []).Sublist _
    rw [List.append_nil]
    exact List.sublist_append_right _ _
  have hnext := h.next k' (e := .taken) trivial ⟨rfl, rfl⟩ hhand
    (hr ▸ List.Subset.refl _) (h.outstanding.trans hr.symm) hready.symm
    (fun _ _ hu => nomatch hu) (fun ht => absurd (hready.symm.trans ht) Bool.noConfusion)
    (hfl ▸ h.flushing) (by
      intro r hm
      rw [hr] at hm
      exact h.current r (hm.imp_right (hhand.subset ·)))
  have hfailed : (mediaFoundationReads.next (books log) .taken).failed =
      (readerEnded k.callback.status k.callback.flags || failed) := by
    rw [← h.ends hk, ← h.failed]
    rfl
  rwa [show (mediaFoundationReads.next (books log) .taken).isOpen = isOpen from h.isOpen,
    hfailed] at hnext

/-- An answer is dropped. -/
theorem dropped {k' : SourceReader} {status : Int} {flags : BitVec 32}
    (h : RecordedReads log isOpen failed k n)
    (hr : k'.requests = k.requests.erase r) (hfl : k'.flushes = k.flushes)
    (hc : k'.callback = k.callback) :
    RecordedReads (log ++ [.answered r status flags false]) isOpen failed k' n := by
  have hsub : k'.requests ⊆ k.requests := hr ▸ List.erase_subset
  have hnext := h.next k' (e := .answered r status flags false) trivial ⟨rfl, rfl⟩ (.refl _) hsub
    (by rw [hr, ← h.outstanding]; rfl) (h.unread.trans (hc ▸ rfl)) (hc ▸ h.sample)
    (hc ▸ h.ends) (hfl ▸ h.flushing) (fun q hm => h.current q (hm.imp_left (hsub ·)))
  rwa [show (mediaFoundationReads.next (books log) (.answered r status flags false)).isOpen = isOpen
      from h.isOpen,
    show (mediaFoundationReads.next (books log) (.answered r status flags false)).failed = failed
      from h.failed] at hnext

/-- What is answered is published. -/
theorem published {k' : SourceReader} {status : Int} {flags : BitVec 32}
    (h : RecordedReads log true false k n)
    (hone : k.requests = [r]) (hk : k.callback.ready = false) (hr : k'.requests = [])
    (hfl : k'.flushes = k.flushes) (hready : k'.callback.ready = true)
    (hs : ∀ q, k'.callback.sample = some q → q = r)
    (hst : k'.callback.status = status ∧ k'.callback.flags = flags) :
    RecordedReads (log ++ [.answered r status flags true]) true false k' n := by
  have hmem : r ∈ k.requests := hone ▸ List.mem_singleton_self r
  have hn := h.unread_none hk
  have hin : inHand (books log) = (books log).taken.toList := by
    rw [inHand, hn]
    exact List.append_nil _
  obtain ⟨hlt, hnew⟩ := h.fresh r hmem
  constructor
  · refine Monitor.accepts_snoc.mpr ⟨h.accepts, h.isOpen, h.failed, ?_, hn⟩
    rw [h.outstanding]
    exact hmem
  all_goals simp only [books_snoc, receivedSamples_snoc, returnedSamples_snoc]
  · exact h.isOpen
  · exact h.failed
  · show (books log).outstanding.erase r = _
    rw [h.outstanding, hone, hr, List.erase_cons_head]
  · exact hready.symm
  · rintro q m hq hm
    cases hq
    exact hs m hm
  · rw [hst.1, hst.2]
    exact fun _ => rfl
  · exact hfl ▸ h.flushing
  · intro q hq
    rw [hr] at hq
    have hq : q ∈ (books log).taken.toList ++ [r] := hq.resolve_left List.not_mem_nil
    rw [← hin] at hq
    obtain hq | hq := List.mem_append.mp hq
    · exact h.current q (.inr hq)
    · exact h.current q (.inl (List.mem_singleton.mp hq ▸ hmem))
  · show (returnedSamples log ++ [] ++ ((books log).taken.toList ++ [r])).Sublist
      (receivedSamples log ++ [r])
    rw [List.append_nil, ← List.append_assoc, ← hin]
    exact h.inOrder.append (.refl _)
  · show (receivedSamples log ++ [r]).Nodup
    refine List.nodup_append.mpr ⟨h.once, List.pairwise_singleton _ r, fun q hq m hm he => ?_⟩
    exact hnew (List.mem_singleton.mp hm ▸ he ▸ hq)
  · intro q hq
    obtain hq | hq := List.mem_append.mp hq
    · exact h.numbered q hq
    · exact List.mem_singleton.mp hq ▸ hlt
  · rw [hr]
    exact fun q hq => nomatch hq

/-- A request is accepted while none is outstanding. -/
theorem requested {k' : SourceReader} (h : RecordedReads log isOpen failed k n) {answer : Int}
    (hf : ¬hresultFailed answer = true) (hq : k.requests = []) (hr : k'.requests = [n])
    (hfl : k'.flushes = k.flushes) (hc : k'.callback = k.callback) :
    RecordedReads (log ++ [.requested answer n]) isOpen failed k' (n + 1) := by
  have hnext : mediaFoundationReads.next (books log) (.requested answer n) =
      { books log with
        outstanding := (books log).outstanding ++ [n], current := (books log).current ++ [n] } :=
    if_neg hf
  constructor
  · exact Monitor.accepts_snoc.mpr ⟨h.accepts, h.outstanding.trans hq⟩
  all_goals simp only [books_snoc, hnext, receivedSamples_snoc, returnedSamples_snoc,
    List.append_nil, show receivedSamples [.requested answer n] = [] from rfl,
    show returnedSamples [.requested answer n] = [] from rfl]
  · exact h.isOpen
  · exact h.failed
  · show (books log).outstanding ++ [n] = _
    rw [h.outstanding, hq, hr]
    rfl
  · exact h.unread.trans (hc ▸ rfl)
  · exact hc ▸ h.sample
  · exact hc ▸ h.ends
  · exact hfl ▸ h.flushing
  · intro r hm
    show r ∈ (books log).current ++ [n]
    rw [hr] at hm
    obtain hm | hm := hm
    · exact List.mem_append_right _ hm
    · exact List.mem_append_left _ (h.current r (.inr hm))
  · exact h.inOrder
  · exact h.once
  · exact fun r hm => Nat.lt_succ_of_lt (h.numbered r hm)
  · intro r hm
    rw [hr, List.mem_singleton] at hm
    subst hm
    exact ⟨Nat.lt_succ_self _, fun hm => Nat.lt_irrefl _ (h.numbered r hm)⟩

/-- A call returns. A frame is what it has taken. -/
theorem returned {v : MediaFoundationResult} (h : RecordedReads log isOpen failed k n)
    (hv : ∀ r q t, v = .frame r q t → (books log).taken = some r) :
    RecordedReads (log ++ [.returned v]) isOpen failed k n := by
  constructor
  · refine Monitor.accepts_snoc.mpr ⟨h.accepts, ?_⟩
    cases v with
    | frame r q t =>
      have ht := hv r q t rfl
      exact ⟨ht, h.current r (.inr (by rw [inHand, ht]; exact List.mem_cons_self ..))⟩
    | succeeded | failed e => trivial
  all_goals simp only [books_snoc, receivedSamples_snoc, returnedSamples_snoc, List.append_nil,
    show receivedSamples [.returned v] = [] from rfl]
  · exact h.isOpen
  · exact h.failed
  · exact h.outstanding
  · exact h.unread
  · exact h.sample
  · exact h.ends
  · exact h.flushing
  · intro r hm
    exact h.current r (hm.imp_right (List.mem_append_right _ ·))
  · have hin := h.inOrder
    show (returnedSamples log ++ returnedSamples [.returned v] ++
      ([] ++ (books log).unread.toList)).Sublist (receivedSamples log)
    rw [List.nil_append, List.append_assoc]
    refine List.Sublist.trans ((List.Sublist.refl _).append ?_) hin
    refine List.Sublist.append ?_ (.refl _)
    cases v with
    | frame r q t =>
      rw [hv r q t rfl]
      exact .refl _
    | succeeded | failed e => exact List.nil_sublist _
  · exact h.once
  · exact h.numbered
  · exact h.fresh

end RecordedReads

end WSE.Proof.Tmr
