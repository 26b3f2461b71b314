import WapitiStew.Framework.Lists
import WapitiStew.Proof.Xpt.HttpClient

/-!
# The body of a response

* `writeBody_cases`: a chunk is taken whole or refused, and it is refused exactly if it does not
  fit.
* `collected_holds`: after any number of chunks the body is what was taken of them, and the writer
  has refused none or the last one.
* `executeAttempt_outcome`: what an attempt reports of its transfer.
* `bounded_response`: what a request reports.
-/

namespace WSE.Proof.Xpt

open WSE.Framework WSE.Framework.Running WSE.Impl.Xpt WSE.Spec.Xpt

variable {t : Transfer} {maximum k : Nat}

/-! ## The writer -/

theorem exceeds_size {size count : Nat} :
    (size ≠ 0 ∧ sizeMax / size < count) ↔ sizeMax < size * count := by
  constructor
  · intro ⟨hs, h⟩
    rw [Nat.mul_comm]
    exact (Nat.div_lt_iff_lt_mul (Nat.pos_of_ne_zero hs)).mp h
  · intro h
    have hs : size ≠ 0 := by
      intro h0
      rw [h0, Nat.zero_mul] at h
      exact Nat.not_lt_zero _ h
    rw [Nat.mul_comm] at h
    exact ⟨hs, (Nat.div_lt_iff_lt_mul (Nat.pos_of_ne_zero hs)).mpr h⟩

/-- The room that is left, in `std::size_t`. -/
theorem room_left {n : Nat} (hn : n ≤ maximum) (hm : maximum ≤ sizeMax) :
    (maximum + (sizeMax + 1) - n) % (sizeMax + 1) = maximum - n := by
  have h : maximum + (sizeMax + 1) - n = maximum - n + (sizeMax + 1) := by omega
  rw [h, Nat.add_mod_right, Nat.mod_eq_of_lt (by omega)]

theorem writeBody_refused {acc : ResponseAccumulator} {c : Chunk}
    (hb : acc.body.length ≤ acc.maximumBodySize) (hm : acc.maximumBodySize ≤ sizeMax)
    (h : acc.maximumBodySize < acc.body.length + c.size * c.count) :
    writeBody acc c = ({ acc with bodyLimitExceeded := true }, 0) := by
  unfold writeBody
  split
  · rfl
  · rw [room_left hb hm, if_pos (by omega)]

theorem writeBody_taken {acc : ResponseAccumulator} {c : Chunk} (ha : c.allocates = true)
    (hb : acc.body.length ≤ acc.maximumBodySize) (hm : acc.maximumBodySize ≤ sizeMax)
    (h : acc.body.length + c.size * c.count ≤ acc.maximumBodySize) :
    writeBody acc c = ({ acc with body := acc.body ++ c.content }, c.size * c.count) := by
  have hsize : ¬(c.size ≠ 0 ∧ sizeMax / c.size < c.count) := by
    rw [exceeds_size]
    omega
  unfold writeBody
  rw [if_neg hsize, room_left hb hm, if_neg (by omega), if_pos ha]

/-! ## A transfer -/

theorem writeHeader_keeps (acc : ResponseAccumulator) (c : Chunk) :
    (writeHeader acc c).1.body = acc.body ∧
    (writeHeader acc c).1.maximumBodySize = acc.maximumBodySize ∧
    (writeHeader acc c).1.bodyLimitExceeded = acc.bodyLimitExceeded := by
  unfold writeHeader
  split
  · exact ⟨rfl, rfl, rfl⟩
  split
  · simp only
    split <;> exact ⟨rfl, rfl, rfl⟩
  · exact ⟨rfl, rfl, rfl⟩

theorem headers_keep (cs : List Chunk) (acc : ResponseAccumulator) :
    (cs.foldl (fun acc c => (writeHeader acc c).1) acc).body = acc.body ∧
    (cs.foldl (fun acc c => (writeHeader acc c).1) acc).maximumBodySize = acc.maximumBodySize ∧
    (cs.foldl (fun acc c => (writeHeader acc c).1) acc).bodyLimitExceeded =
      acc.bodyLimitExceeded := by
  induction cs generalizing acc with
  | nil => exact ⟨rfl, rfl, rfl⟩
  | cons c cs ih =>
    obtain ⟨hb, hm, he⟩ := ih (writeHeader acc c).1
    obtain ⟨hb', hm', he'⟩ := writeHeader_keeps acc c
    exact ⟨hb.trans hb', hm.trans hm', he.trans he'⟩

theorem collected_succ {c : Chunk} (h : t.bodyChunks[k]? = some c) :
    collected t maximum (k + 1) = (writeBody (collected t maximum k) c).1 := by
  unfold collected Transfer.accumulate
  simp only
  rw [List.take_add_one, h, Option.toList_some, List.foldl_append]
  rfl

theorem collected_past (h : t.bodyChunks.length ≤ k) :
    collected t maximum k = t.accumulate maximum := by
  unfold collected
  rw [List.take_of_length_le h]

/-- The accumulator after `k` chunks: all of them are taken, or the last one there is was
refused. -/
structure Collected (t : Transfer) (maximum k : Nat) (acc : ResponseAccumulator) : Prop where
  limit : acc.maximumBodySize = maximum
  bounded : acc.body.length ≤ maximum
  body : acc.bodyLimitExceeded = false ∧
      acc.body = ((t.bodyChunks.take k).map Chunk.content).flatten ∨
    acc.bodyLimitExceeded = true ∧ ∃ j, j < k ∧ Refuses t maximum j ∧
      acc.body = ((t.bodyChunks.take j).map Chunk.content).flatten

theorem collected_zero (t : Transfer) (maximum : Nat) :
    Collected t maximum 0 (collected t maximum 0) := by
  obtain ⟨hb, hm, he⟩ := headers_keep t.headerChunks { maximumBodySize := maximum }
  have hbody : (collected t maximum 0).body = [] := hb
  refine ⟨hm, ?_, .inl ⟨he, hb⟩⟩
  rw [hbody]
  exact Nat.zero_le _

/-- The writer takes the whole of a chunk, or refuses it. -/
theorem writeBody_cases (hm : maximum ≤ sizeMax) (hd : Documented t maximum) {c : Chunk}
    (h : Collected t maximum k (collected t maximum k)) (hc : t.bodyChunks[k]? = some c) :
    (Refuses t maximum k ∧ maximum < (collected t maximum k).body.length + c.size * c.count ∧
      collected t maximum (k + 1) =
        { collected t maximum k with bodyLimitExceeded := true }) ∨
    (¬Refuses t maximum k ∧
      (collected t maximum k).body.length + c.size * c.count ≤ maximum ∧
      collected t maximum (k + 1) =
        { collected t maximum k with body := (collected t maximum k).body ++ c.content }) := by
  have hb : (collected t maximum k).body.length ≤ (collected t maximum k).maximumBodySize := by
    rw [h.limit]
    exact h.bounded
  have hs : (collected t maximum k).maximumBodySize ≤ sizeMax := by
    rw [h.limit]
    exact hm
  obtain hlt | hle := Nat.lt_or_ge maximum ((collected t maximum k).body.length + c.size * c.count)
  · have hw := writeBody_refused hb hs (by rw [h.limit]; exact hlt)
    refine .inl ⟨⟨c, hc, ?_⟩, hlt, ?_⟩
    · have hbound := h.bounded
      rw [hw]
      show 0 ≠ c.size * c.count
      omega
    · rw [collected_succ hc, hw]
  · have hw := writeBody_taken (hd.allocates c (List.mem_of_getElem? hc)) hb hs
      (by rw [h.limit]; exact hle)
    refine .inr ⟨?_, hle, ?_⟩
    · intro ⟨c', hc', hne⟩
      rw [hc] at hc'
      cases hc'
      rw [hw] at hne
      exact hne rfl
    · rw [collected_succ hc, hw]

/-- One more chunk. -/
theorem Collected.next (hm : maximum ≤ sizeMax) (hd : Documented t maximum)
    (h : Collected t maximum k (collected t maximum k)) :
    Collected t maximum (k + 1) (collected t maximum (k + 1)) := by
  cases hc : t.bodyChunks[k]? with
  | none =>
    have hlen := List.getElem?_eq_none_iff.mp hc
    have hsame : collected t maximum (k + 1) = collected t maximum k := by
      rw [collected_past hlen, collected_past (by omega)]
    have htake : t.bodyChunks.take (k + 1) = t.bodyChunks.take k := by
      rw [List.take_of_length_le hlen, List.take_of_length_le (by omega)]
    rw [hsame]
    refine ⟨h.limit, h.bounded, ?_⟩
    rw [htake]
    exact h.body.imp id fun ⟨he, j, hj, hr⟩ => ⟨he, j, by omega, hr⟩
  | some c =>
    -- no chunk before this one was refused, as it would have been the last
    obtain ⟨hclear, hbody⟩ | ⟨-, j, hj, hr, -⟩ := h.body
    · have hsized := hd.sized c (List.mem_of_getElem? hc)
      obtain ⟨hr, -, hnext⟩ | ⟨-, hle, hnext⟩ := writeBody_cases hm hd h hc
      · rw [hnext]
        exact ⟨h.limit, h.bounded, .inr ⟨rfl, k, Nat.lt_succ_self k, hr, hbody⟩⟩
      · rw [hnext]
        refine ⟨h.limit, ?_, .inl ⟨hclear, ?_⟩⟩
        · rw [List.length_append, hsized]
          exact hle
        · rw [List.take_add_one, hc, Option.toList_some, List.map_append, List.flatten_append,
            ← hbody, List.map_singleton, List.flatten_singleton]
    · have hlen := (hd.ends j hr).1
      have hk := lt_of_getElem? hc
      omega

theorem collected_holds (hm : maximum ≤ sizeMax) (hd : Documented t maximum) (k : Nat) :
    Collected t maximum k (collected t maximum k) := by
  induction k with
  | zero => exact collected_zero t maximum
  | succ k ih => exact ih.next hm hd

theorem bounded_body (hm : maximum ≤ sizeMax) (hd : Documented t maximum) :
    BoundedBody t maximum where
  chunks k := by
    obtain ⟨-, hb⟩ | ⟨-, j, hj, hr, hb⟩ := (collected_holds hm hd k).body
    · exact ⟨k, Nat.le_refl k, .inl rfl, hb⟩
    · exact ⟨j, Nat.le_of_lt hj, .inr hr, hb⟩
  bounded k := (collected_holds hm hd k).bounded
  refuses k c hc := by
    obtain ⟨hr, hlt, -⟩ | ⟨hr, hle, -⟩ := writeBody_cases hm hd (collected_holds hm hd k) hc
    · exact iff_of_true hr hlt
    · exact iff_of_false hr (by omega)

/-- The flag that the attempt reads after the transfer. -/
theorem exceeded_of_refuses (hm : maximum ≤ sizeMax) (hd : Documented t maximum)
    (h : Refuses t maximum k) : (t.accumulate maximum).bodyLimitExceeded = true := by
  obtain ⟨c, hc, -⟩ := id h
  obtain ⟨-, -, hnext⟩ | ⟨hr, -⟩ := writeBody_cases hm hd (collected_holds hm hd k) hc
  · rw [← collected_past (Nat.le_of_eq (hd.ends k h).1), hnext]
  · exact absurd h hr

/-! ## An attempt -/

variable {w : HttpWorld} {A : List Attempt} {n : Nat} {deadline : Int}

/-- The attempts that are recorded, and a number of readings and polls made. -/
structure Since (A : List Attempt) (n : Nat) (s : HttpState) : Prop where
  attempts : s.attempts = A
  tick : n ≤ s.tick

theorem interrupted_mono {s t : HttpState} (h : Interrupted w deadline s) (ht : s.tick ≤ t.tick) :
    Interrupted w deadline t := by
  obtain ⟨k, hk, hc⟩ | ⟨k, hk, hc⟩ := h
  · exact .inl ⟨k, Nat.lt_of_lt_of_le hk ht, hc⟩
  · exact .inr ⟨k, Nat.lt_of_lt_of_le hk ht, hc⟩

theorem now_since : Holds (Since A n) w.now fun t s =>
    Since A n s ∧ ∃ k, k < s.tick ∧ t = w.clock k := by
  intro s t s' hs hr
  cases hr
  exact ⟨⟨hs.attempts, Nat.le_succ_of_le hs.tick⟩, s.tick, Nat.lt_succ_self _, rfl⟩

theorem poll_since (deadline : Int) : Holds (Since A n) w.poll fun b s =>
    Since A n s ∧ (b = true → Interrupted w deadline s) := by
  intro s b s' hs hr
  cases hr
  exact ⟨⟨hs.attempts, Nat.le_succ_of_le hs.tick⟩, fun hb => .inl ⟨s.tick, Nat.lt_succ_self _, hb⟩⟩

/-- Time is left unless the deadline is reached; a rest of less than a millisecond counts as one. -/
theorem remaining_pos {longMax t : Int} (hlong : 0 < longMax) (h : t < deadline) :
    0 < (remainingMilliseconds longMax deadline t).value := by
  have hr : (remainingMilliseconds longMax deadline t).value =
      min longMax (if durationCastMs (int64 (deadline - t)).value ≤ 0 then 1
        else durationCastMs (int64 (deadline - t)).value) := by
    unfold remainingMilliseconds
    rw [if_neg (by omega)]
    rfl
  rw [hr, lt_min_iff]
  refine ⟨hlong, ?_⟩
  split <;> omega

theorem remaining_since (hlong : 0 < w.longMax) :
    Holds (Since A n) (w.remaining deadline) fun r s =>
      Since A n s ∧ (r ≤ 0 → Interrupted w deadline s) := by
  refine Holds.bind now_since fun t => Holds.pure fun s ⟨hs, k, hk, ht⟩ => ⟨hs, fun hr => ?_⟩
  refine .inr ⟨k, hk, ?_⟩
  obtain hlt | hge := Int.lt_or_le t deadline
  · exact absurd hr (Int.not_le.mpr (remaining_pos hlong hlt))
  · exact ht ▸ hge

theorem performLoop_since (hlong : 0 < w.longMax) (performs : List Perform) :
    Holds (Since A n) (performLoop w deadline performs) fun code s =>
      Since A n s ∧ (code = some .operationTimedout → Interrupted w deadline s) := by
  induction performs with
  | nil => exact Holds.pure fun _ h => ⟨h, fun hc => by cases hc⟩
  | cons p performs ih =>
    cases p with
    | finished => exact Holds.pure fun _ h => ⟨h, fun hc => by cases hc⟩
    | failed => exact Holds.pure fun _ h => ⟨h, fun hc => by cases hc⟩
    | running =>
      refine Holds.bind (poll_since deadline) fun b => Holds.ite (fun _ => ?_) fun _ => ?_
      · exact Holds.pure fun _ h => ⟨h.1, fun hc => by cases hc⟩
      refine Holds.bind ((remaining_since hlong).imp (fun _ h => h.1) fun _ _ h => h) fun r => ?_
      refine Holds.ite (fun hr => Holds.pure fun _ h => ⟨h.1, fun _ => h.2 hr⟩) fun _ => ?_
      exact ih.imp (fun _ h => h.1) fun _ _ h => h

theorem transferResult_since (hlong : 0 < w.longMax) (t : Transfer) :
    Holds (Since A n) (transferResult w deadline t) fun code s =>
      Since A n s ∧ (code = .operationTimedout →
        Interrupted w deadline s ∨ t.message = some .operationTimedout) := by
  refine Holds.ite (fun _ => Holds.pure fun _ h => ⟨h, fun hc => by cases hc⟩) fun _ => ?_
  refine Holds.bind (performLoop_since hlong _) fun c => ?_
  cases c with
  | some code =>
    exact Holds.pure fun _ h => ⟨h.1, fun hc => .inl (h.2 (congrArg some hc))⟩
  | none =>
    refine Holds.pure fun _ h => ⟨h.1, fun hc => .inr ?_⟩
    cases hm : t.message with
    | none => rw [hm] at hc; cases hc
    | some code => rw [hm] at hc; exact congrArg some hc

/-- What an attempt reports of its transfer. -/
structure Reports (w : HttpWorld) (maximum : Nat) (deadline : Int) (t : Transfer) (r : HttpResult)
    (s : HttpState) : Prop where
  value : r.value = {} ∨ r.value.headers = (t.accumulate maximum).headers ∧
    r.value.body = (t.accumulate maximum).body
  refused : Refused t maximum → r.succeeded = false ∧
    (Interrupted w deadline s ∨ r.error.code = .responseTooLarge)

/-- An attempt that made no transfer. -/
theorem Reports.unsent {e : TransportError} {s : HttpState} (h : ¬Refused t maximum) :
    Reports w maximum deadline t ⟨{}, e⟩ s where
  value := .inl rfl
  refused hr := absurd hr h

/-- An attempt that failed after a transfer that was interrupted. -/
theorem Reports.interrupted {r : HttpResult} {s : HttpState}
    (hv : r.value.headers = (t.accumulate maximum).headers ∧
      r.value.body = (t.accumulate maximum).body)
    (hf : r.succeeded = false) (h : Refused t maximum → Interrupted w deadline s) :
    Reports w maximum deadline t r s where
  value := .inr hv
  refused hr := ⟨hf, .inl (h hr)⟩

theorem executeAttempt_outcome (hlong : 0 < w.longMax) (hm : maximum ≤ sizeMax)
    (hd : ∀ i, Documented (w.transfer i) maximum) (i : Nat) :
    Holds (Since A n) (executeAttempt w maximum deadline i) fun r s =>
      Since A n s ∧ Reports w maximum deadline (w.transfer i) r s := by
  unfold executeAttempt
  refine Holds.ite (fun hh => Holds.pure fun _ h => ⟨h, .unsent fun hr => ?_⟩) fun _ => ?_
  · rw [hr.handles] at hh
    exact absurd hh (by decide)
  refine Holds.ite (fun hh => Holds.pure fun _ h => ⟨h, .unsent fun hr => ?_⟩) fun _ => ?_
  · rw [hr.headerList] at hh
    exact absurd hh (by decide)
  refine Holds.bind (Holds.discard ((remaining_since hlong).imp (fun _ h => h) fun _ _ h => h.1))
    fun _ => ?_
  refine Holds.ite (fun hs => Holds.pure fun _ h => ⟨h, .unsent fun hr => hs hr.setup⟩) fun _ => ?_
  refine Holds.bind (transferResult_since hlong _) fun code => ?_
  -- the poll and the reading after the transfer come before what the writer found
  refine Holds.bind (Q := fun b s => Since A n s ∧ (b = true → Interrupted w deadline s) ∧
    (code = .operationTimedout →
      Interrupted w deadline s ∨ (w.transfer i).message = some .operationTimedout)) ?_ fun b => ?_
  · intro s b s' hs hr
    obtain ⟨hk, hb⟩ := poll_since deadline s b s' hs.1 hr
    cases hr
    exact ⟨hk, hb, fun hc => (hs.2 hc).imp_left fun h => interrupted_mono h (Nat.le_succ _)⟩
  refine Holds.ite (fun hb => Holds.pure fun s h => ⟨h.1, ?_⟩) fun _ => ?_
  · exact .interrupted ⟨rfl, rfl⟩ rfl fun _ => h.2.1 hb
  refine Holds.bind (Q := fun r s => Since A n s ∧ (r ≤ 0 → Interrupted w deadline s) ∧
    (code = .operationTimedout →
      Interrupted w deadline s ∨ (w.transfer i).message = some .operationTimedout)) ?_ fun r => ?_
  · intro s r s' hs hr
    obtain ⟨hk, hb⟩ := remaining_since hlong s r s' hs.1 hr
    cases hr
    exact ⟨hk, hb, fun hc => (hs.2.2 hc).imp_left fun h => interrupted_mono h (Nat.le_succ _)⟩
  refine Holds.ite (fun hr => Holds.pure fun s h => ⟨h.1, ?_⟩) fun _ => ?_
  · refine .interrupted ⟨rfl, rfl⟩ rfl fun href => ?_
    obtain hr | hc := Bool.or_eq_true_iff.mp hr
    · exact h.2.1 (of_decide_eq_true hr)
    · obtain h | hmsg := h.2.2 (of_decide_eq_true hc)
      · exact h
      · obtain ⟨k, hk⟩ := href.refuses
        have hcode := ((hd i).ends k hk).2 _ hmsg
        cases hcode
  refine Holds.ite (fun _ => Holds.pure fun s h => ⟨h.1, .inr ⟨rfl, rfl⟩, fun _ => ⟨rfl, .inr rfl⟩⟩)
    fun hflag => ?_
  -- from here on no chunk was refused
  have hnone (r : HttpResult) (s : HttpState)
      (hv : r.value.headers = ((w.transfer i).accumulate maximum).headers ∧
        r.value.body = ((w.transfer i).accumulate maximum).body) :
      Reports w maximum deadline (w.transfer i) r s := by
    refine ⟨.inr hv, fun hr => ?_⟩
    obtain ⟨k, hk⟩ := hr.refuses
    exact absurd (exceeded_of_refuses hm (hd i) hk) hflag
  refine Holds.ite (fun _ => Holds.pure fun s h => ⟨h.1, hnone _ s ⟨rfl, rfl⟩⟩) fun _ => ?_
  refine Holds.ite (fun _ => Holds.pure fun s h => ⟨h.1, hnone _ s ⟨rfl, rfl⟩⟩) fun _ => ?_
  refine Holds.ite (fun _ => Holds.pure fun s h => ⟨h.1, hnone _ s ⟨rfl, rfl⟩⟩) fun _ => ?_
  exact Holds.pure fun s h => ⟨h.1, hnone _ s ⟨rfl, rfl⟩⟩

/-! ## The attempts of a request -/

theorem waitLoop_since (requestedEnd : Int) (fuel : Nat) :
    Holds (Since A n) (waitLoop w requestedEnd deadline fuel) fun status s =>
      Since A n s ∧ ∀ e, status = .error e → e.ok = false := by
  induction fuel with
  | zero => exact Holds.running
  | succ fuel ih =>
    refine Holds.bind now_since fun t => Holds.ite (fun _ => ?_) fun _ => ?_
    · refine Holds.bind ((poll_since deadline).imp (fun _ h => h.1) fun _ _ h => h)
        fun b => Holds.ite (fun _ => ?_) fun _ => ?_
      · exact Holds.pure fun _ h => ⟨h.1, fun e he => by cases he; rfl⟩
      refine Holds.bind (now_since.imp (fun _ h => h.1) fun _ _ h => h) fun t =>
        Holds.ite (fun _ => ?_) fun _ => ?_
      · exact Holds.pure fun _ h => ⟨h.1, fun e he => by cases he; rfl⟩
      · exact ih.imp (fun _ h => h.1) fun _ _ h => h
    · exact Holds.pure fun _ h => ⟨h.1, fun e he => by cases he⟩

theorem waitForRetry_since (waitFuel : Nat) (delay : Int) :
    Holds (Since A n) (waitForRetry w waitFuel delay deadline) fun status s =>
      Since A n s ∧ ∀ e, status = .error e → e.ok = false :=
  Holds.bind (Holds.modify (Q := fun _ s => Since A n s) fun _ h => ⟨h.attempts, h.tick⟩) fun _ =>
    Holds.bind now_since fun now =>
      (waitLoop_since (requestedEnd now delay).value waitFuel).imp (fun _ h => h.1) fun _ _ h => h

/-- The attempts so far: each reports its own transfer, and one that refused a chunk was
interrupted. -/
structure Continued (w : HttpWorld) (maximum : Nat) (deadline : Int) (n : Nat) (s : HttpState) :
    Prop where
  count : s.attempts.length = n
  reports : ∀ i a, s.attempts[i]? = some a →
    Reports w maximum deadline (w.transfer (i + 1)) a.outcome s
  interrupted : ∀ i a, s.attempts[i]? = some a → Refused (w.transfer (i + 1)) maximum →
    Interrupted w deadline s

theorem Reports.mono {r : HttpResult} {s s' : HttpState}
    (h : Reports w maximum deadline t r s) (ht : s.tick ≤ s'.tick) :
    Reports w maximum deadline t r s' where
  value := h.value
  refused hr := ⟨(h.refused hr).1, (h.refused hr).2.imp_left fun h => interrupted_mono h ht⟩

/-- The attempts after one more. -/
theorem Continued.reports_snoc {s s' : HttpState} {a : Attempt}
    (h : Continued w maximum deadline n s) (ha : s'.attempts = s.attempts ++ [a])
    (ht : s.tick ≤ s'.tick)
    (hr : Reports w maximum deadline (w.transfer (n + 1)) a.outcome s') (i : Nat) (b : Attempt)
    (hb : s'.attempts[i]? = some b) :
    Reports w maximum deadline (w.transfer (i + 1)) b.outcome s' ∧
      (i = n ∧ b = a ∨ i < n ∧ (Refused (w.transfer (i + 1)) maximum →
        Interrupted w deadline s')) := by
  rw [ha] at hb
  obtain hold | ⟨hi, rfl⟩ := getElem?_append_cases hb
  · have hlt := lt_of_getElem? hold
    rw [h.count] at hlt
    refine ⟨(h.reports i b hold).mono ht, .inr ⟨hlt, fun href => ?_⟩⟩
    exact interrupted_mono (h.interrupted i b hold href) ht
  · rw [h.count] at hi
    subst hi
    exact ⟨hr, .inl ⟨rfl, rfl⟩⟩

/-- The recorded attempt is the last one, and reports its transfer. -/
theorem recordedAttempt_reports (hlong : 0 < w.longMax) (hm : maximum ≤ sizeMax)
    (hd : ∀ i, Documented (w.transfer i) maximum) {s u : HttpState} {outcome : HttpResult} {i : Nat}
    (h : recordedAttempt w maximum deadline i s = some (outcome, u)) :
    ∃ a, a.outcome = outcome ∧ u.attempts = s.attempts ++ [a] ∧ s.tick ≤ u.tick ∧
      Reports w maximum deadline (w.transfer i) outcome u := by
  obtain ⟨b, s₀, hget, h⟩ := bind_eq_some.mp h
  cases hget
  obtain ⟨r, v, hexec, h⟩ := bind_eq_some.mp h
  obtain ⟨hv, hr⟩ := executeAttempt_outcome hlong hm hd i s r v
    (⟨rfl, Nat.le_refl _⟩ : Since s.attempts s.tick s) hexec
  cases h
  refine ⟨⟨s.lastReading, s.cancelSeen, outcome⟩, rfl, ?_, hv.tick, hr.mono (Nat.le_refl _)⟩
  exact congrArg (· ++ [(⟨s.lastReading, s.cancelSeen, outcome⟩ : Attempt)]) hv.attempts

/-- The request ends with the outcome of the last attempt, or with the failure of a wait after an
attempt that refused nothing or was interrupted. -/
theorem Continued.bounded {options : HttpExecutionOptions} {timeout : Int} {s s' : HttpState}
    {a : Attempt} {result : HttpResult}
    (h : Continued w options.maximumResponseBodySize (effectiveDeadline w timeout) n s)
    (ha : s'.attempts = s.attempts ++ [a]) (ht : s.tick ≤ s'.tick)
    (hr : Reports w options.maximumResponseBodySize (effectiveDeadline w timeout)
      (w.transfer (n + 1)) a.outcome s')
    (hresult : result = a.outcome ∨ result.succeeded = false ∧
      (Refused (w.transfer (n + 1)) options.maximumResponseBodySize →
        Interrupted w (effectiveDeadline w timeout) s')) :
    BoundedResponse w options timeout result s' where
  fresh i b hb := (h.reports_snoc ha ht hr i b hb).1.value
  refused i b hb href := by
    obtain ⟨hrep, hpos⟩ := h.reports_snoc ha ht hr i b hb
    obtain ⟨hfail, hint | hcode⟩ := hrep.refused href
    · exact ⟨hfail, .inl hint⟩
    refine ⟨hfail, ?_⟩
    obtain ⟨rfl, rfl⟩ | ⟨-, hint⟩ := hpos
    · obtain hsame | ⟨-, hint⟩ := hresult
      · refine .inr ⟨hcode, ?_, hsame⟩
        rw [ha, List.length_append, h.count]
        rfl
      · exact .inl (hint href)
    · exact .inl (hint href)
  success hs := by
    obtain hsame | ⟨hf, -⟩ := hresult
    · exact ⟨a, by rw [ha, List.getLast?_concat], hsame⟩
    · rw [hf] at hs
      cases hs

theorem attemptLoop_bounded {options : HttpExecutionOptions} {timeout : Int} (hlong : 0 < w.longMax)
    (hm : options.maximumResponseBodySize ≤ sizeMax)
    (hd : ∀ i, Documented (w.transfer i) options.maximumResponseBodySize)
    (waitFuel fuel n : Nat) :
    Holds (Continued w options.maximumResponseBodySize
        (effectiveDeadline w timeout) n)
      (attemptLoop w options (effectiveDeadline w timeout) waitFuel fuel n)
      (BoundedResponse w options timeout) := by
  induction fuel generalizing n with
  | zero => exact Holds.running
  | succ fuel ih =>
    intro s result s' hs hrun
    obtain ⟨outcome, u, hattempt, hrun⟩ := bind_eq_some.mp hrun
    obtain ⟨a, rfl, ha, hu, hr⟩ := recordedAttempt_reports hlong hm hd hattempt
    split at hrun
    · cases hrun
      exact hs.bounded ha hu hr (.inl rfl)
    simp only at hrun
    split at hrun
    · cases hrun
      exact hs.bounded ha hu hr (.inl rfl)
    rename_i hretry
    -- a response that is too large is not retried
    obtain ⟨hmay, -⟩ := shouldRetry_of (by simpa using hretry)
    have hint (v : HttpState) (hv : u.tick ≤ v.tick)
        (href : Refused (w.transfer (n + 1)) options.maximumResponseBodySize) :
        Interrupted w (effectiveDeadline w timeout) v := by
      obtain h | h := (hr.refused href).2
      · exact interrupted_mono h hv
      · exact absurd h hmay.tooLarge
    obtain ⟨status, v, hwait, hrun⟩ := bind_eq_some.mp hrun
    obtain ⟨hv, hfail⟩ := waitForRetry_since waitFuel _ u status v
      (⟨rfl, Nat.le_refl _⟩ : Since u.attempts u.tick u) hwait
    have ha' := hv.attempts.trans ha
    have ht' := Nat.le_trans hu hv.tick
    have hr' := hr.mono hv.tick
    cases status with
    | error e =>
      cases hrun
      exact hs.bounded ha' ht' hr' (.inr ⟨hfail e rfl, hint _ hv.tick⟩)
    | ok _ =>
      refine ih (n + 1) v result s' ⟨?_, fun i b hb => ?_, fun i b hb href => ?_⟩ hrun
      · rw [ha', List.length_append, hs.count]
        rfl
      · exact (hs.reports_snoc ha' ht' hr' i b hb).1
      · obtain ⟨rfl, rfl⟩ | ⟨-, h⟩ := (hs.reports_snoc ha' ht' hr' i b hb).2
        · exact hint v hv.tick href
        · exact h href

/-! ## Requests -/

/-- A request that made no attempt reports an error. -/
theorem bounded_unsent {options : HttpExecutionOptions} {timeout : Int} {e : TransportError}
    {s : HttpState} (he : e.ok = false) (hs : s.attempts = []) :
    BoundedResponse w options timeout ⟨{}, e⟩ s where
  fresh i a ha := by rw [hs] at ha; cases ha
  refused i a ha := by rw [hs] at ha; cases ha
  success h := by
    rw [TransferResult.succeeded, he] at h
    cases h

theorem validateRequest_fails {request : HttpRequest} {options : HttpExecutionOptions}
    {timeout : Int} {authentication : Option HttpAuthentication} {e : TransportError}
    (h : validateRequest request options timeout authentication = some e) : e.ok = false := by
  unfold validateRequest at h
  split at h
  · cases h
    rfl
  split at h
  · cases h
    rfl
  split at h
  · cases h
    rfl
  · cases h

theorem convertCurlError_fails (w : HttpWorld) (code : CurlCode) :
    (w.convertCurlError code).ok = false := by
  cases code <;> rfl

/-- A request that is cancelled at once. -/
theorem executeRequest_cancelled {request : HttpRequest} {options : HttpExecutionOptions}
    {timeout : Int} {authentication : Option HttpAuthentication}
    (hvalid : validateRequest request options timeout authentication = none)
    (hcancel : w.cancelled 0 = true) (fuel : Nat) :
    executeRequest w request options timeout authentication fuel {} =
      some (⟨{}, httpCancellationError⟩, { tick := 1, cancelSeen := true }) := by
  have hpoll : w.poll {} = some (true, { tick := 1, cancelSeen := true }) := by
    show some (w.cancelled 0, _) = _
    rw [hcancel]
    rfl
  rw [executeRequest]
  simp only [hvalid]
  rw [bind_some hpoll]
  rfl

theorem executeRequest_terminates (w : HttpWorld) (request : HttpRequest)
    (options : HttpExecutionOptions) (timeout : Int) (authentication : Option HttpAuthentication) :
    ∃ fuel r, executeRequest w request options timeout authentication fuel {} = some r := by
  cases hvalid : validateRequest request options timeout authentication with
  | some e =>
    refine ⟨0, (⟨{}, e⟩, {}), ?_⟩
    rw [executeRequest]
    simp only [hvalid]
    rfl
  | none =>
    cases hcancel : w.cancelled 0 with
    | true => exact ⟨0, _, executeRequest_cancelled hvalid hcancel 0⟩
    | false =>
      by_cases hi : w.initialization ≠ .ok
      · exact ⟨0, _, (executeRequest_run hvalid hcancel 0).trans (if_pos hi)⟩
      · obtain ⟨K, hK⟩ := w.clock_reaches
        obtain ⟨-, hmax⟩ := valid_of_validateRequest hvalid
        refine ⟨max (K + 1) options.retryPolicy.maximumAttempts, ?_⟩
        rw [executeRequest_run hvalid hcancel, if_neg hi]
        exact attemptLoop_ends hK (by omega) (by omega) (attempted_first hmax _)

theorem effectiveDeadline_eq (w : HttpWorld) {timeout : Int} (ht : 0 ≤ timeout) :
    effectiveDeadline w timeout = (calculateDeadline (w.clock 1) timeout).value := by
  unfold effectiveDeadline
  split
  · rename_i h
    rw [calculateDeadline, saturatingSum_eq h.1 h.2.1 ht h.2.2]
    rfl
  · rfl

theorem continued_first (w : HttpWorld) (maximum : Nat) (deadline : Int) :
    Continued w maximum deadline 0 (firstState w) where
  count := rfl
  reports i a ha := by cases ha
  interrupted i a ha := by cases ha

/-- Every transfer collects whole chunks up to the limit, and every request ends and reports a
transfer that exceeded it as too large, unless it was cancelled or late. -/
theorem bounded_response (w : HttpWorld) (request : HttpRequest) (options : HttpExecutionOptions)
    (timeout : Int) (authentication : Option HttpAuthentication) (hlong : 0 < w.longMax)
    (hm : options.maximumResponseBodySize ≤ sizeMax)
    (hd : ∀ i, Documented (w.transfer i) options.maximumResponseBodySize) :
    (∀ i, BoundedBody (w.transfer i) options.maximumResponseBodySize) ∧
    (∃ fuel r, executeRequest w request options timeout authentication fuel {} = some r) ∧
    ∀ fuel result s,
      executeRequest w request options timeout authentication fuel {} = some (result, s) →
        BoundedResponse w options timeout result s := by
  refine ⟨fun i => bounded_body hm (hd i),
    executeRequest_terminates w request options timeout authentication, ?_⟩
  intro fuel result s hrun
  cases hvalid : validateRequest request options timeout authentication with
  | some e =>
    rw [executeRequest] at hrun
    simp only [hvalid] at hrun
    cases hrun
    exact bounded_unsent (validateRequest_fails hvalid) rfl
  | none =>
    cases hcancel : w.cancelled 0 with
    | true =>
      rw [executeRequest_cancelled hvalid hcancel] at hrun
      cases hrun
      exact bounded_unsent rfl rfl
    | false =>
      rw [executeRequest_run hvalid hcancel] at hrun
      split at hrun
      · cases hrun
        exact bounded_unsent (convertCurlError_fails w _) rfl
      · rw [← effectiveDeadline_eq w (valid_of_validateRequest hvalid).1] at hrun
        exact attemptLoop_bounded hlong hm hd fuel fuel 0 _ result s (continued_first w _ _) hrun

/-- Two chunks of three bytes each, for a limit of four. -/
def longTransfer : Transfer where
  performs := [.finished]
  message := some writeError
  bodyChunks := [⟨1, 3, [1, 2, 3], true⟩, ⟨1, 3, [4, 5, 6], true⟩]

theorem longTransfer_documented : Documented longTransfer 4 where
  allocates := by decide
  sized := by decide
  ends := by
    intro k ⟨c, hc, hne⟩
    refine ⟨?_, fun code h => (Option.some.inj h).symm⟩
    obtain _ | _ | k := k
    · have htaken : (writeBody (collected longTransfer 4 0) ⟨1, 3, [1, 2, 3], true⟩).2 = 1 * 3 :=
        congrArg Prod.snd (writeBody_taken rfl (by decide) (by decide) (by decide))
      cases hc
      exact absurd htaken hne
    · rfl
    · cases hc

def longWorld : HttpWorld := { lateWorld with transfer := fun _ => longTransfer }

theorem bounded_response_long :
    ∃ fuel r, executeRequest longWorld lateRequest { maximumResponseBodySize := 4 } 1 none fuel {} =
      some r :=
  (bounded_response longWorld lateRequest { maximumResponseBodySize := 4 } 1 none (by decide)
    (by decide) fun _ => longTransfer_documented).2.1

end WSE.Proof.Xpt
