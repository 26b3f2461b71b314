import Mathlib.Algebra.Order.Ring.Int
import Mathlib.Data.List.Forall2
import Mathlib.Tactic.ByContra
import WapitiStew.Impl.Xpt.RetryPolicy
import WapitiStew.Proof.Xpt.Deadline
import WapitiStew.Spec.Xpt.HttpClient

/-!
# When the policy decides for a retry, and after how long

* `evaluate_shouldRetry`: the policy decides for a retry exactly of a failure
  that is neither a cancellation nor refused, of an operation that is
  idempotent and classified as retryable, while attempts are left.
* `exponential_backoff`: the delay of an exponential policy is the initial one doubled for every
  further attempt, up to the maximum.
-/

namespace WSE.Proof.Xpt

open WSE.Impl.Xpt

/-- The categories of errors that the policy may repeat. -/
theorem category_of_policyRetryable {e : TransportError} (h : isPolicyRetryableError e = true) :
    e.category ≠ .validation ∧ e.category ≠ .cancellation ∧ e.category ≠ .protocol ∧
      e.category ≠ .security := by
  unfold isPolicyRetryableError at h
  split at h
  · cases h
  · refine ⟨fun hc => ?_, fun hc => ?_, fun hc => ?_, fun hc => ?_⟩
    all_goals
      rw [hc] at h
      cases h

theorem evaluate_shouldRetry {p : RetryPolicy} {n : Nat} {safety : RetryOperationSafety}
    {disposition : RetryFailureDisposition} {e : TransportError} :
    (p.evaluate n safety disposition e).shouldRetry = true ↔
      p.isValid = true ∧ n ≠ 0 ∧ e.ok = false ∧ e.category ≠ .cancellation ∧
        e.code ≠ .cancelled ∧ safety = .idempotent ∧ disposition = .retryable ∧
        isPolicyRetryableError e = true ∧ n < p.maximumAttempts := by
  have hstop (reason : RetryStopReason) (P : Prop) (hP : ¬P) :
      (RetryPolicy.createStopDecision reason).shouldRetry = true ↔ P :=
    iff_of_false Bool.false_ne_true hP
  unfold RetryPolicy.evaluate
  split
  · rename_i h
    exact hstop _ _ fun hp => by rw [hp.1] at h; exact absurd h (by decide)
  rename_i hvalid
  split
  · rename_i h
    exact hstop _ _ fun hp => hp.2.1 h
  rename_i hn
  split
  · rename_i h
    exact hstop _ _ fun hp => by rw [hp.2.2.1] at h; exact absurd h (by decide)
  rename_i hok
  split
  · rename_i h
    refine hstop _ _ fun hp => ?_
    simp only [hp.2.2.2.1, hp.2.2.2.2.1, decide_false, Bool.or_self, Bool.false_eq_true] at h
  rename_i hcancel
  simp only [Bool.or_eq_true, decide_eq_true_eq, not_or] at hcancel
  split
  · rename_i h
    refine hstop _ _ fun hp => ?_
    rw [hp.2.2.2.2.2.1] at h
    exact absurd h (by decide)
  rename_i hsafety
  split
  · rename_i h
    refine hstop _ _ fun hp => ?_
    obtain ⟨-, -, -, -, -, -, hd, he, -⟩ := hp
    rw [hd, he] at h
    exact absurd h (by decide)
  rename_i hclass
  split
  · rename_i h
    refine hstop _ _ fun hp => ?_
    obtain ⟨-, -, -, -, -, -, -, -, hl⟩ := hp
    omega
  rename_i hlimit
  simp only [Bool.or_eq_true, Bool.not_eq_true', not_or, Bool.not_eq_false, isRetryableSafety,
    isRetryableDisposition, decide_eq_false_iff_not, not_not] at hvalid hok hsafety hclass
  refine iff_of_true rfl ⟨hvalid, hn, by simpa using hok, hcancel.1, hcancel.2, hsafety, hclass.1,
    hclass.2, by omega⟩

/-! ## The delay -/

section Delay

variable {n : Nat} {delay maximum : Int}

/-- Above half of the maximum the double is no less than it. -/
theorem le_double_of_half (h0 : 0 ≤ maximum) (h : maximum.tdiv 2 < delay) : maximum ≤ delay * 2 := by
  rw [Int.tdiv_eq_ediv_of_nonneg h0] at h
  omega

theorem double_le_of_half (h0 : 0 ≤ maximum) (h : ¬maximum.tdiv 2 < delay) :
    delay * 2 ≤ maximum := by
  rw [Int.tdiv_eq_ediv_of_nonneg h0] at h
  omega

theorem le_mul_two_pow (h0 : 0 ≤ delay) (n : Nat) : delay ≤ delay * 2 ^ n :=
  le_mul_of_one_le_right h0 (one_le_pow₀ (by decide))

/-- The loop doubles and saturates. By induction on the attempts that are left to count. -/
theorem delayLoop_eq (h0 : 0 ≤ delay) (hd : delay ≤ maximum) :
    RetryPolicy.delayLoop maximum n delay = min maximum (delay * 2 ^ n) := by
  induction n generalizing delay with
  | zero => rw [RetryPolicy.delayLoop, pow_zero, mul_one, min_eq_right hd]
  | succ n ih =>
    rw [RetryPolicy.delayLoop]
    split
    · split
      · rename_i hhalf
        have hdouble := le_double_of_half (h0.trans hd) hhalf
        have hle := hdouble.trans (le_mul_two_pow (show 0 ≤ delay * 2 by omega) n)
        rw [pow_succ', ← mul_assoc, min_eq_left hle]
      · rename_i hhalf
        rw [ih (by omega) (double_le_of_half (h0.trans hd) hhalf), pow_succ', ← mul_assoc]
    · rename_i hmax
      rw [show delay = maximum by omega, min_eq_left (le_mul_two_pow (h0.trans hd) _)]

/-- The loop computes no product above the maximum. -/
theorem loopProducts_le (h0 : 0 ≤ delay) (hd : delay ≤ maximum) :
    ∀ x ∈ RetryPolicy.loopProducts maximum n delay, 0 ≤ x ∧ x ≤ maximum := by
  induction n generalizing delay with
  | zero => exact fun x hx => nomatch hx
  | succ n ih =>
    rw [RetryPolicy.loopProducts]
    split
    · split
      · exact fun x hx => nomatch hx
      · rename_i hhalf
        have hdouble := double_le_of_half (h0.trans hd) hhalf
        exact List.forall_mem_cons.mpr ⟨⟨by omega, hdouble⟩, ih (by omega) hdouble⟩
    · exact fun x hx => nomatch hx

end Delay

theorem calculateDelay_eq {p : RetryPolicy} (hs : p.backoffStrategy = .exponential)
    (hv : p.isValid = true) (n : Nat) :
    p.calculateDelay n = min p.maximumDelay (p.initialDelay * 2 ^ (n - 1)) := by
  simp only [RetryPolicy.isValid, Bool.and_eq_true, decide_eq_true_eq] at hv
  obtain ⟨⟨⟨-, h0⟩, hmax⟩, -⟩ := hv
  rw [RetryPolicy.calculateDelay, hs]
  split
  · rename_i hz
    have hzero : p.initialDelay = 0 := by simpa using hz
    rw [hzero, zero_mul, min_eq_right (h0.trans hmax)]
  · exact delayLoop_eq h0 hmax

/-- The delay of a valid exponential policy, with what its loop computes: a 64-bit count does for
all of it, for the maximum is one. -/
theorem exponential_backoff {p : RetryPolicy} (hs : p.backoffStrategy = .exponential)
    (hv : p.isValid = true) :
    (∀ k, 1 ≤ k → p.calculateDelay k = min p.maximumDelay (p.initialDelay * 2 ^ (k - 1)) ∧
      p.calculateDelay k ≤ p.maximumDelay ∧
      ∀ x ∈ p.delayProducts k, 0 ≤ x ∧ x ≤ p.maximumDelay) ∧
    ∀ j k, 1 ≤ j → j ≤ k → p.calculateDelay j ≤ p.calculateDelay k := by
  have hval := hv
  simp only [RetryPolicy.isValid, Bool.and_eq_true, decide_eq_true_eq] at hval
  obtain ⟨⟨⟨-, h0⟩, hmax⟩, -⟩ := hval
  refine ⟨fun k _ => ⟨calculateDelay_eq hs hv k, ?_, ?_⟩, fun j k _ hjk => ?_⟩
  · rw [calculateDelay_eq hs hv]
    exact min_le_left _ _
  · rw [RetryPolicy.delayProducts]
    split
    · exact fun x hx => nomatch hx
    · exact loopProducts_le h0 hmax
  · rw [calculateDelay_eq hs hv, calculateDelay_eq hs hv]
    refine min_le_min_left _ (mul_le_mul_of_nonneg_left ?_ h0)
    exact pow_le_pow_right₀ (by decide) (Nat.sub_le_sub_right hjk 1)

/-- A maximum that is no power of two times the initial delay. -/
theorem exponential_backoff_saturates :
    (RetryPolicy.createExponential 5 3 (2 ^ 63 - 1)).calculateDelay 4294967295 = 2 ^ 63 - 1 := by
  rw [((exponential_backoff (p := RetryPolicy.createExponential 5 3 (2 ^ 63 - 1)) rfl
    (by decide)).1 4294967295 (by decide)).1]
  refine min_eq_left (le_trans ?_ (mul_le_mul_of_nonneg_left
    (pow_le_pow_right₀ (by decide) (show 62 ≤ 4294967295 - 1 by decide)) (by decide)))
  decide

/-!
## The retries of the HTTP client

* `executeAttempt_ends`: an attempt ends, starts no other, and fails as
  cancelled if it saw the token cancelled.
* `waitLoop_left`: what a wait for a retry leaves; `waitLoop_ends`: it ends.
* `attemptLoop_holds`: the loop keeps `Attempted`, and ends as `RetrySafe` says.
* `executeRequest_ends`, `retry_safety`: a request ends, and is safe exactly if
  its waits are in time.
-/

section

open WSE.Framework WSE.Framework.Running WSE.Spec.Xpt

variable (w : HttpWorld)

/-! ### What a state has seen -/

/-- A token that was seen cancelled is cancelled from then on. -/
def Observed (s : HttpState) : Prop := s.cancelSeen = true → w.cancelled s.tick = true

/-- The same attempts and waits as before. -/
structure Keeps (attempts : List Attempt) (waits : List RetryWait) (s : HttpState) : Prop where
  attempts : s.attempts = attempts
  waits : s.waits = waits
  observed : Observed w s

variable {w} {A : List Attempt} {W : List RetryWait}

theorem now_ends : Ends (Keeps w A W) w.now fun t s =>
    Keeps w A W s ∧ s.lastReading = t := by
  intro s hs
  refine ⟨_, _, rfl, ⟨hs.attempts, hs.waits, fun h => ?_⟩, rfl⟩
  exact w.cancelled_mono (Nat.le_succ _) (hs.observed h)

theorem now_ends_unseen :
    Ends (fun s => Keeps w A W s ∧ s.cancelSeen = false) w.now fun t s =>
      Keeps w A W s ∧ s.cancelSeen = false ∧ s.lastReading = t := by
  intro s ⟨hs, hn⟩
  obtain ⟨t, s', hr, hk, hl⟩ := now_ends s hs
  cases hr
  exact ⟨_, _, rfl, hk, hn, hl⟩

theorem poll_ends : Ends (Keeps w A W) w.poll fun b s =>
    Keeps w A W s ∧ (b = false → s.cancelSeen = false) := by
  intro s hs
  refine ⟨_, _, rfl, ⟨hs.attempts, hs.waits, fun h => ?_⟩, fun h => ?_⟩
  · obtain h | h := Bool.or_eq_true_iff.mp h
    · exact w.cancelled_mono (Nat.le_succ _) (hs.observed h)
    · exact w.cancelled_mono (Nat.le_succ _) h
  · have hseen : s.cancelSeen = false := by
      by_contra hn
      rw [hs.observed (by simpa using hn)] at h
      exact absurd h (by decide)
    show (s.cancelSeen || w.cancelled s.tick) = false
    rw [hseen, h]
    rfl

theorem remaining_ends (deadline : Int) :
    Ends (Keeps w A W) (w.remaining deadline) fun _ s => Keeps w A W s :=
  Ends.bind now_ends fun _ => Ends.pure fun _ h => h.1

theorem performLoop_ends (deadline : Int) (performs : List Perform) :
    Ends (Keeps w A W) (performLoop w deadline performs) fun _ s => Keeps w A W s := by
  induction performs with
  | nil => exact Ends.pure fun _ h => h
  | cons p performs ih =>
    cases p with
    | finished => exact Ends.pure fun _ h => h
    | failed => exact Ends.pure fun _ h => h
    | running =>
      refine Ends.bind poll_ends fun b => Ends.ite (fun _ => Ends.pure fun _ h => h.1) fun _ => ?_
      refine Ends.bind ((remaining_ends deadline).imp (fun _ h => h.1) fun _ _ h => h) fun r => ?_
      exact Ends.ite (fun _ => Ends.pure fun _ h => h) fun _ => ih

theorem transferResult_ends (deadline : Int) (t : Transfer) :
    Ends (Keeps w A W) (transferResult w deadline t) fun _ s => Keeps w A W s := by
  refine Ends.ite (fun _ => Ends.pure fun _ h => h) fun _ => ?_
  refine Ends.bind (performLoop_ends deadline _) fun c => ?_
  cases c <;> exact Ends.pure fun _ h => h

/-- An attempt changes no record, and fails as cancelled if it saw the token cancelled. -/
theorem executeAttempt_ends (maximumBodySize : Nat) (deadline : Int) (n : Nat) :
    Ends (fun s => Keeps w A W s ∧ s.cancelSeen = false)
      (executeAttempt w maximumBodySize deadline n) fun r s =>
        Keeps w A W s ∧ (s.cancelSeen = true → r.error = httpCancellationError) := by
  have hunseen (r : HttpResult) (s : HttpState) (h : Keeps w A W s ∧ s.cancelSeen = false) :
      Keeps w A W s ∧ (s.cancelSeen = true → r.error = httpCancellationError) :=
    ⟨h.1, fun hs => absurd (h.2.symm.trans hs) (by decide)⟩
  have hremaining : Ends (fun s => Keeps w A W s ∧ s.cancelSeen = false) (w.remaining deadline)
      fun _ s => Keeps w A W s ∧ s.cancelSeen = false :=
    Ends.bind now_ends_unseen fun _ => Ends.pure fun _ h => ⟨h.1, h.2.1⟩
  unfold executeAttempt
  refine Ends.ite (fun _ => Ends.pure (hunseen _)) fun _ => ?_
  refine Ends.ite (fun _ => Ends.pure (hunseen _)) fun _ => ?_
  refine Ends.bind (Ends.discard hremaining) fun _ => ?_
  refine Ends.ite (fun _ => Ends.pure (hunseen _)) fun _ => ?_
  refine Ends.bind ((transferResult_ends deadline _).imp (fun _ h => h.1) fun _ _ h => h)
    fun code => ?_
  -- the last poll decides whether the outcome is a cancellation
  refine Ends.bind poll_ends fun b => ?_
  refine Ends.ite (fun _ => Ends.pure fun _ h => ⟨h.1, fun _ => rfl⟩) fun hb => ?_
  have hb' : b = false := by simpa using hb
  refine Ends.bind (hremaining.imp (fun _ h => ⟨h.1, h.2 hb'⟩) fun _ _ h => h) fun r => ?_
  refine Ends.ite (fun _ => Ends.pure (hunseen _)) fun _ => ?_
  refine Ends.ite (fun _ => Ends.pure (hunseen _)) fun _ => ?_
  refine Ends.ite (fun _ => Ends.pure (hunseen _)) fun _ => ?_
  refine Ends.ite (fun _ => Ends.pure (hunseen _)) fun _ => ?_
  exact Ends.ite (fun _ => Ends.pure (hunseen _)) fun _ => Ends.pure (hunseen _)

/-- The attempt is recorded with what was known when it started. -/
theorem recordedAttempt_ends (maximumBodySize : Nat) (deadline : Int) (n : Nat) (r : Int) :
    Ends (fun s => Keeps w A W s ∧ s.cancelSeen = false ∧ s.lastReading = r)
      (recordedAttempt w maximumBodySize deadline n) fun outcome s =>
        Keeps w (A ++ [⟨r, false, outcome⟩]) W s ∧
          (s.cancelSeen = true → outcome.error = httpCancellationError) := by
  intro s ⟨hk, hseen, hr⟩
  obtain ⟨outcome, t, hrun, ht, hcancel⟩ := executeAttempt_ends maximumBodySize deadline n s
    ⟨hk, hseen⟩
  refine ⟨outcome, { t with attempts := t.attempts ++ [⟨s.lastReading, s.cancelSeen, outcome⟩] },
    ?_, ⟨?_, ht.waits, ht.observed⟩, hcancel⟩
  · rw [recordedAttempt, bind_some (get_run s), bind_some hrun, bind_some (Running.modify_run _ t),
      Running.pure_run]
  · rw [ht.attempts, hseen, hr]

/-! ### The waits -/

/-- A wait comes to its end at one test. -/
theorem endsAt_unique {x : RetryWait} {deadline : Int} {m n : Nat} (hm : EndsAt w x deadline m)
    (hn : EndsAt w x deadline n) : m = n := by
  have not_before {i j : Nat} (hi : EndsAt w x deadline i) (hj : EndsAt w x deadline j) : ¬i < j :=
    fun hlt => Int.not_lt.mpr hi.2 (hj.1 i hlt).early
  exact Nat.le_antisymm (Nat.not_lt.mp (not_before hn hm)) (Nat.not_lt.mp (not_before hm hn))

/-- A wait that does not go on after a test that came before its end never comes to it. -/
theorem not_endsAt {x : RetryWait} {deadline : Int} {n : Nat}
    (hon : ∀ j, j < n → GoesOn w x deadline j) (hearly : testReading w x n < waitEnd w x)
    (hstop : ¬GoesOn w x deadline n) (m : Nat) : ¬EndsAt w x deadline m := by
  rintro ⟨hbefore, hend⟩
  obtain hlt | rfl | hgt := Nat.lt_trichotomy m n
  · exact Int.not_lt.mpr hend (hon m hlt).early
  · exact Int.not_lt.mpr hend hearly
  · exact hstop (hbefore n hgt)

/-- What the loop of the wait `x` leaves: its end is reached with no cancellation seen, at the
last reading, or it is never reached. -/
def RetryWaitLeft (w : HttpWorld) (x : RetryWait) (deadline : Int) (t : HttpState) :
    TransportStatus → Prop
  | .ok _ => t.cancelSeen = false ∧ ∃ n, EndsAt w x deadline n ∧ t.lastReading = testReading w x n
  | .error e => (e = httpCancellationError ∨ e = httpTimeoutError) ∧
      ∀ n, ¬EndsAt w x deadline n

/-- By induction on the fuel, from test `n` of the wait `x`. -/
theorem waitLoop_left (x : RetryWait) (deadline : Int) {fuel n : Nat} {s t : HttpState}
    {status : TransportStatus} (hs : Keeps w A W s) (hseen : s.cancelSeen = false)
    (htick : s.tick = x.tick + 3 * n + 1) (hon : ∀ j, j < n → GoesOn w x deadline j)
    (hrun : waitLoop w (waitEnd w x) deadline fuel s = some (status, t)) :
    Keeps w A W t ∧ RetryWaitLeft w x deadline t status := by
  induction fuel generalizing n s with
  | zero => cases hrun
  | succ fuel ih =>
    obtain ⟨_, _, hr, hk, hs₁, hlast⟩ := now_ends_unseen s ⟨hs, hseen⟩
    rw [waitLoop, bind_some hr] at hrun
    cases hr
    have htest : w.clock s.tick = testReading w x n := congrArg w.clock htick
    split at hrun
    · rename_i hlt
      have hearly : testReading w x n < waitEnd w x := htest ▸ hlt
      obtain ⟨b, s₂, hr, hk, hb⟩ := poll_ends _ hk
      have hpoll : b = w.cancelled (x.tick + 3 * n + 2) ∧ s₂.tick = x.tick + 3 * n + 3 := by
        cases hr
        exact ⟨congrArg (fun k => w.cancelled (k + 1)) htick, congrArg (· + 1 + 1) htick⟩
      rw [bind_some hr] at hrun
      split at hrun
      · rename_i hcancelled
        cases hrun
        refine ⟨hk, .inl rfl, not_endsAt hon hearly fun h => ?_⟩
        rw [hpoll.1, h.uncancelled] at hcancelled
        exact absurd hcancelled Bool.false_ne_true
      · rename_i hcancelled
        have hfalse : b = false := by simpa using hcancelled
        obtain ⟨_, _, hr, hk, hs₃, -⟩ := now_ends_unseen s₂ ⟨hk, hb hfalse⟩
        rw [bind_some hr] at hrun
        cases hr
        have hsecond : w.clock s₂.tick = w.clock (x.tick + 3 * n + 3) := congrArg w.clock hpoll.2
        split at hrun
        · rename_i hlate
          cases hrun
          refine ⟨hk, .inr rfl, not_endsAt hon hearly fun h => ?_⟩
          exact Int.not_lt.mpr (hsecond ▸ hlate) h.inTime
        · rename_i htime
          refine ih hk hs₃ (n := n + 1) (by show s₂.tick + 1 = _; omega) (fun j hj => ?_) hrun
          obtain hlt | rfl := Nat.lt_succ_iff_lt_or_eq.mp hj
          · exact hon j hlt
          · exact ⟨hearly, hpoll.1.symm.trans hfalse, Int.not_le.mp (hsecond ▸ htime)⟩
    · rename_i hend
      cases hrun
      exact ⟨hk, hs₁, n, ⟨hon, htest ▸ Int.not_lt.mp hend⟩, htest⟩

/-- A wait records what it starts from. -/
theorem waitForRetry_left {delay deadline : Int} {fuel : Nat} {s t : HttpState}
    {status : TransportStatus} (hs : Keeps w A W s) (hseen : s.cancelSeen = false)
    (hrun : waitForRetry w fuel delay deadline s = some (status, t)) :
    Keeps w A (W ++ [⟨s.tick, delay⟩]) t ∧ RetryWaitLeft w ⟨s.tick, delay⟩ deadline t status := by
  rw [waitForRetry, bind_some (Running.modify_run _ s)] at hrun
  obtain ⟨_, _, hr, hk, hs₁, -⟩ := now_ends_unseen
    { s with waits := s.waits ++ [⟨s.tick, delay⟩] }
    ⟨⟨hs.attempts, congrArg (· ++ [(⟨s.tick, delay⟩ : RetryWait)]) hs.waits, hs.observed⟩, hseen⟩
  rw [bind_some hr] at hrun
  cases hr
  exact waitLoop_left ⟨s.tick, delay⟩ deadline (n := 0) hk hs₁ rfl nofun hrun

/-- With fuel up to a reading at the end of the wait, the wait ends. -/
theorem waitLoop_ends {requestedEnd : Int} {K : Nat} (hK : requestedEnd ≤ w.clock K)
    (deadline : Int) {fuel : Nat} {s : HttpState} (hfuel : 0 < fuel) (htick : K < s.tick + fuel) :
    ∃ r, waitLoop w requestedEnd deadline fuel s = some r := by
  induction fuel generalizing s with
  | zero => omega
  | succ fuel ih =>
    rw [waitLoop, bind_some (show w.now s = some (_, _) from rfl)]
    split
    · rename_i hlt
      have hbefore : s.tick < K := by
        by_contra hn
        have := w.clock_mono (Nat.not_lt.mp hn)
        omega
      rw [bind_some (show w.poll _ = some (_, _) from rfl)]
      split
      · exact ⟨_, rfl⟩
      · rw [bind_some (show w.now _ = some (_, _) from rfl)]
        split
        · exact ⟨_, rfl⟩
        · exact ih (by omega) (by show K < s.tick + 1 + 1 + 1 + fuel; omega)
    · exact ⟨_, rfl⟩

/-- No wait is asked to go beyond the last time point. -/
theorem requestedEnd_le (now delay : Int) : (requestedEnd now delay).value ≤ timePointMax := by
  show (if _ then (pure timePointMax : Checked Int) else int64 _).value ≤ timePointMax
  split
  · exact Int.le_refl _
  · exact int64_le _

/-! ### The decision -/

theorem not_tooLarge_of_transient {r : HttpResult} (h : isTransientFailure r = true) :
    r.succeeded = false ∧ r.error.code ≠ .responseTooLarge := by
  unfold isTransientFailure at h
  split at h
  · cases h
  rename_i hs
  refine ⟨by simpa using hs, fun hc => ?_⟩
  rw [hc, if_neg (by decide)] at h
  split at h <;> cases h

/-- A retry is decided for a repeatable request after an outcome that allows it, and while
attempts are left. -/
theorem shouldRetry_of {options : HttpExecutionOptions} {n : Nat} {r : HttpResult}
    (h : (retryDecision options n r).shouldRetry = true) :
    MayRetry r ∧ Repeatable options ∧ n < options.retryPolicy.maximumAttempts := by
  obtain ⟨-, -, -, -, -, hsafety, hdisposition, herror, hlimit⟩ := evaluate_shouldRetry.mp h
  have hclass : (options.retryTransientFailures && isTransientFailure r) = true := by
    by_contra hn
    rw [if_neg hn] at hdisposition
    cases hdisposition
  obtain ⟨hretry, htransient⟩ := Bool.and_eq_true_iff.mp hclass
  obtain ⟨hfailed, hlarge⟩ := not_tooLarge_of_transient htransient
  obtain ⟨hval, hcan, hprot, hsec⟩ := category_of_policyRetryable herror
  exact ⟨⟨hfailed, hcan, hval, hsec, hprot, hlarge⟩, ⟨hsafety, hretry⟩, hlimit⟩

/-! ### The attempts -/

/-- The waits came to their ends at these readings. -/
def EndedAt (w : HttpWorld) (deadline : Int) : List RetryWait → List Int → Prop :=
  List.Forall₂ fun x t => ∃ n, EndsAt w x deadline n ∧ t = testReading w x n

/-- The request is about to start attempt `n + 1`, the first one after the reading `base`. -/
structure Attempted (w : HttpWorld) (options : HttpExecutionOptions) (deadline base : Int) (n : Nat)
    (s : HttpState) : Prop where
  count : s.attempts.length = n
  below : n < options.retryPolicy.maximumAttempts
  retried : ∀ a ∈ s.attempts, MayRetry a.outcome
  repeatable : n ≠ 0 → Repeatable options
  uncancelled : ∀ a ∈ s.attempts, a.cancelSeen = false
  unseen : s.cancelSeen = false
  observed : Observed w s
  readings : ∃ ends, s.attempts.map (·.lastReading) ++ [s.lastReading] = base :: ends ∧
    EndedAt w deadline s.waits ends

/-- The request has ended, after waits that came to their ends and at most one that did not. -/
structure Finished (w : HttpWorld) (options : HttpExecutionOptions) (deadline base : Int)
    (result : HttpResult) (s : HttpState) : Prop where
  atLeastOne : 1 ≤ s.attempts.length
  atMost : s.attempts.length ≤ options.retryPolicy.maximumAttempts
  result : ∀ a, s.attempts.getLast? = some a → ResultOf a.outcome result
  once : ¬Repeatable options → s.attempts.length = 1
  stops : ∀ a ∈ s.attempts.dropLast, MayRetry a.outcome
  uncancelled : ∀ a ∈ s.attempts, a.cancelSeen = false
  readings : ∃ ends ended more, s.attempts.map (·.lastReading) = base :: ends ∧
    s.waits = ended ++ more ∧ EndedAt w deadline ended ends ∧
    ∀ x ∈ more, ∀ n, ¬EndsAt w x deadline n

/-- After one more attempt the request may end with a result of that attempt. -/
theorem Attempted.finished {options : HttpExecutionOptions} {deadline base : Int} {n : Nat}
    {s t : HttpState} {outcome result : HttpResult} {more : List RetryWait}
    (h : Attempted w options deadline base n s)
    (ha : t.attempts = s.attempts ++ [⟨s.lastReading, false, outcome⟩])
    (hw : t.waits = s.waits ++ more) (hmore : ∀ x ∈ more, ∀ n, ¬EndsAt w x deadline n)
    (hr : ResultOf outcome result) : Finished w options deadline base result t where
  atLeastOne := by
    rw [ha, List.length_append]
    exact Nat.le_add_left _ _
  atMost := by
    have := h.below
    rw [ha, List.length_append, h.count]
    exact this
  result a hlast := by
    rw [ha, List.getLast?_concat] at hlast
    cases hlast
    exact hr
  once hn := by
    have h0 : n = 0 := by
      by_contra h0
      exact hn (h.repeatable h0)
    rw [ha, List.length_append, h.count, h0]
    rfl
  stops a hm := by
    rw [ha, List.dropLast_concat] at hm
    exact h.retried a hm
  uncancelled a hm := by
    rw [ha, List.mem_append, List.mem_singleton] at hm
    obtain hm | rfl := hm
    · exact h.uncancelled a hm
    · rfl
  readings := by
    obtain ⟨ends, hreadings, hended⟩ := h.readings
    refine ⟨ends, s.waits, more, ?_, hw, hended, hmore⟩
    rw [ha, List.map_append]
    exact hreadings

/-- After one more attempt and a wait that is over the next attempt may start. -/
theorem Attempted.next {options : HttpExecutionOptions} {deadline base : Int} {n : Nat}
    {s t : HttpState} {outcome : HttpResult} {x : RetryWait}
    (h : Attempted w options deadline base n s)
    (ha : t.attempts = s.attempts ++ [⟨s.lastReading, false, outcome⟩])
    (hw : t.waits = s.waits ++ [x])
    (hend : ∃ n, EndsAt w x deadline n ∧ t.lastReading = testReading w x n)
    (hseen : t.cancelSeen = false) (hobs : Observed w t) (hretry : MayRetry outcome)
    (hrep : Repeatable options) (hbelow : n + 1 < options.retryPolicy.maximumAttempts) :
    Attempted w options deadline base (n + 1) t where
  count := by
    rw [ha, List.length_append, h.count]
    rfl
  below := hbelow
  retried a hm := by
    rw [ha, List.mem_append, List.mem_singleton] at hm
    obtain hm | rfl := hm
    · exact h.retried a hm
    · exact hretry
  repeatable _ := hrep
  uncancelled a hm := by
    rw [ha, List.mem_append, List.mem_singleton] at hm
    obtain hm | rfl := hm
    · exact h.uncancelled a hm
    · rfl
  unseen := hseen
  observed := hobs
  readings := by
    obtain ⟨ends, hreadings, hended⟩ := h.readings
    refine ⟨ends ++ [t.lastReading], ?_, ?_⟩
    · rw [ha, List.map_append]
      exact congrArg (· ++ [t.lastReading]) hreadings
    · rw [hw]
      exact List.rel_append hended (.cons hend .nil)

/-- What an attempt and the wait after it leave: the next attempt may start, or the wait failed. -/
theorem Attempted.waited {options : HttpExecutionOptions} {deadline base delay : Int}
    {waitFuel n : Nat} {s u v : HttpState} {outcome : HttpResult} {status : TransportStatus}
    (hs : Attempted w options deadline base n s)
    (hattempt : recordedAttempt w options.maximumResponseBodySize deadline (n + 1) s =
      some (outcome, u))
    (hretry : (retryDecision options (n + 1) outcome).shouldRetry = true)
    (hwait : waitForRetry w waitFuel delay deadline u = some (status, v)) :
    match status with
    | .ok _ => Attempted w options deadline base (n + 1) v
    | .error e => Finished w options deadline base ⟨outcome.value, e⟩ v := by
  obtain ⟨hu, hcancel⟩ := (recordedAttempt_ends options.maximumResponseBodySize deadline (n + 1)
    s.lastReading).holds s outcome u ⟨⟨rfl, rfl, hs.observed⟩, hs.unseen, rfl⟩ hattempt
  obtain ⟨hmay, hrep, hbelow⟩ := shouldRetry_of hretry
  have hseen : u.cancelSeen = false := by
    by_contra hn
    have herror := hcancel (by simpa using hn)
    exact hmay.cancellation (congrArg TransportError.category herror)
  obtain ⟨hk, hleft⟩ := waitForRetry_left hu hseen hwait
  cases status with
  | error e =>
    obtain ⟨he, hnever⟩ := hleft
    refine hs.finished hk.attempts hk.waits ?_ (.inr ?_)
    · exact fun x hx => List.mem_singleton.mp hx ▸ hnever
    · exact he.imp (fun h => by rw [h]) fun h => by rw [h]
  | ok _ =>
    obtain ⟨hseen', hend⟩ := hleft
    exact hs.next hk.attempts hk.waits hend hseen' hk.observed hmay hrep hbelow

theorem attemptLoop_holds (options : HttpExecutionOptions) (deadline base : Int)
    (waitFuel fuel n : Nat) :
    Holds (Attempted w options deadline base n) (attemptLoop w options deadline waitFuel fuel n)
      (Finished w options deadline base) := by
  induction fuel generalizing n with
  | zero => exact Holds.running
  | succ fuel ih =>
    intro s result t hs hrun
    obtain ⟨outcome, u, hattempt, hrun⟩ := bind_eq_some.mp hrun
    obtain ⟨hu, -⟩ := (recordedAttempt_ends options.maximumResponseBodySize deadline (n + 1)
      s.lastReading).holds s outcome u ⟨⟨rfl, rfl, hs.observed⟩, hs.unseen, rfl⟩ hattempt
    split at hrun
    · cases hrun
      exact hs.finished hu.attempts (hu.waits.trans (List.append_nil _).symm) nofun (.inl rfl)
    simp only at hrun
    split at hrun
    · cases hrun
      exact hs.finished hu.attempts (hu.waits.trans (List.append_nil _).symm) nofun (.inl rfl)
    rename_i hretry
    obtain ⟨status, v, hwait, hrun⟩ := bind_eq_some.mp hrun
    have hv := hs.waited hattempt (by simpa using hretry) hwait
    cases status with
    | error e =>
      cases hrun
      exact hv
    | ok _ => exact ih (n + 1) v result t hv hrun

/-! ### Every request ends -/

theorem waitForRetry_ends {K waitFuel : Nat} (hK : timePointMax ≤ w.clock K)
    (hfuel : K < waitFuel) (delay deadline : Int) (s : HttpState) :
    ∃ status t, waitForRetry w waitFuel delay deadline s = some (status, t) := by
  rw [waitForRetry, bind_some (Running.modify_run _ s),
    bind_some (show w.now _ = some (_, _) from rfl)]
  obtain ⟨⟨status, t⟩, hr⟩ := waitLoop_ends
    (Int.le_trans (requestedEnd_le (w.clock s.tick) delay) hK) deadline
    (s := { s with
      tick := s.tick + 1, lastReading := w.clock s.tick, waits := s.waits ++ [⟨s.tick, delay⟩] })
    (Nat.zero_lt_of_lt hfuel) (by omega)
  exact ⟨status, t, hr⟩

theorem attemptLoop_ends {options : HttpExecutionOptions} {base : Int} {K waitFuel : Nat}
    (hK : timePointMax ≤ w.clock K) (hwait : K < waitFuel) {deadline : Int} {fuel n : Nat}
    (hfuel : options.retryPolicy.maximumAttempts ≤ n + fuel) {s : HttpState}
    (hs : Attempted w options deadline base n s) :
    ∃ r, attemptLoop w options deadline waitFuel fuel n s = some r := by
  induction fuel generalizing n s with
  | zero =>
    have := hs.below
    omega
  | succ fuel ih =>
    obtain ⟨outcome, u, hattempt, -⟩ := recordedAttempt_ends options.maximumResponseBodySize
      deadline (n + 1) s.lastReading s ⟨⟨rfl, rfl, hs.observed⟩, hs.unseen, rfl⟩
    rw [attemptLoop, bind_some hattempt]
    split
    · exact ⟨_, rfl⟩
    simp only
    split
    · exact ⟨_, rfl⟩
    rename_i hretry
    obtain ⟨status, v, hw⟩ := waitForRetry_ends hK hwait
      (retryDecision options (n + 1) outcome).delay deadline u
    have hv := hs.waited hattempt (by simpa using hretry) hw
    rw [bind_some hw]
    cases status with
    | error e => exact ⟨_, rfl⟩
    | ok _ => exact ih (by omega) hv

/-! ### Requests -/

theorem valid_of_validateRequest {request : HttpRequest} {options : HttpExecutionOptions}
    {timeout : Int} {authentication : Option HttpAuthentication}
    (h : validateRequest request options timeout authentication = none) :
    0 ≤ timeout ∧ 0 < options.retryPolicy.maximumAttempts := by
  unfold validateRequest at h
  split at h
  · cases h
  rename_i hv
  simp only [Bool.or_eq_true, not_or, Bool.not_eq_true', decide_eq_false_iff_not, not_not,
    Bool.not_eq_false, HttpExecutionOptions.isValid, RetryPolicy.isValid, Bool.and_eq_true,
    decide_eq_true_eq] at hv
  obtain ⟨⟨⟨⟨ht, ho⟩, -⟩, -⟩, -⟩ := hv
  exact ⟨ht, ho.1.2.1.1.1⟩

/-- The state in which the first attempt starts. -/
def firstState (w : HttpWorld) : HttpState := { tick := 2, lastReading := w.clock 1 }

theorem attempted_first {options : HttpExecutionOptions}
    (h : 0 < options.retryPolicy.maximumAttempts) (deadline : Int) :
    Attempted w options deadline (w.clock 1) 0 (firstState w) where
  count := rfl
  below := h
  retried _ hm := nomatch hm
  repeatable h0 := absurd rfl h0
  uncancelled _ hm := nomatch hm
  unseen := rfl
  observed hs := nomatch hs
  readings := ⟨[], rfl, .nil⟩

/-- A valid request with a token that is not cancelled is its attempts, if libcurl is ready. -/
theorem executeRequest_run {request : HttpRequest} {options : HttpExecutionOptions} {timeout : Int}
    {authentication : Option HttpAuthentication}
    (hvalid : validateRequest request options timeout authentication = none)
    (hcancel : w.cancelled 0 = false) (fuel : Nat) :
    executeRequest w request options timeout authentication fuel {} =
      if w.initialization ≠ .ok then
        some (⟨{}, w.convertCurlError w.initialization⟩, { tick := 1 })
      else attemptLoop w options (calculateDeadline (w.clock 1) timeout).value fuel fuel 0
        (firstState w) := by
  have hpoll : w.poll {} = some (false, { tick := 1 }) := by
    show some (w.cancelled 0, _) = _
    rw [hcancel]
    rfl
  rw [executeRequest]
  simp only [hvalid]
  rw [bind_some hpoll]
  by_cases hi : w.initialization ≠ .ok
  · rw [if_neg (by decide), if_pos hi, if_pos hi]
    rfl
  · rw [if_neg (by decide), if_neg hi, if_neg hi]
    rfl

/-- Waits that came to their ends did so in time exactly if these readings are. -/
theorem EndedAt.inTime {deadline limit : Int} {waits : List RetryWait} {ends : List Int}
    (h : EndedAt w deadline waits ends) :
    (∀ t ∈ ends, t ≤ limit) ↔
      ∀ x ∈ waits, ∀ n, EndsAt w x deadline n → testReading w x n ≤ limit := by
  induction h with
  | nil => exact iff_of_true nofun nofun
  | cons hx hrest ih =>
    obtain ⟨n, hn, rfl⟩ := hx
    rw [List.forall_mem_cons, List.forall_mem_cons, ih]
    refine and_congr_left' ⟨fun h m hm => ?_, fun h => h n hn⟩
    rw [endsAt_unique hm hn]
    exact h

/-- A request that has ended is safe exactly if its waits were in time. -/
theorem Finished.safe {options : HttpExecutionOptions} {timeout deadline : Int}
    {result : HttpResult} {s : HttpState} (h : Finished w options deadline (w.clock 1) result s)
    (ht : 0 ≤ timeout) :
    RetrySafe w options timeout result s ↔
      ∀ x ∈ s.waits, ∀ n, EndsAt w x deadline n →
        testReading w x n ≤ overallDeadline w timeout := by
  obtain ⟨ends, ended, more, hreadings, hwaits, hended, hmore⟩ := h.readings
  have hbase : w.clock 1 ≤ overallDeadline w timeout := by
    unfold overallDeadline instant perMillisecond
    omega
  have htimes : (∀ a ∈ s.attempts, a.lastReading ≤ overallDeadline w timeout) ↔
      ∀ x ∈ s.waits, ∀ n, EndsAt w x deadline n →
        testReading w x n ≤ overallDeadline w timeout := by
    rw [← List.forall_mem_map (f := Attempt.lastReading)
      (P := fun t => t ≤ overallDeadline w timeout), hreadings, List.forall_mem_cons,
      and_iff_right hbase, hended.inTime, hwaits, List.forall_mem_append]
    exact (and_iff_left fun x hx n hn => absurd hn (hmore x hx n)).symm
  constructor
  · intro hs
    exact htimes.mp hs.inTime
  · intro hs
    exact ⟨h.atLeastOne, h.atMost, h.result, h.once, h.stops, h.uncancelled, htimes.mpr hs⟩

/-- A valid request whose token is not cancelled yet ends, and it was retried safely exactly if
libcurl was ready and no wait for a retry, from where it started, comes to its end beyond the
overall deadline. -/
theorem retry_safety (w : HttpWorld) {request : HttpRequest} {options : HttpExecutionOptions}
    {timeout : Int} {authentication : Option HttpAuthentication}
    (hvalid : validateRequest request options timeout authentication = none)
    (hcancel : w.cancelled 0 = false) :
    (∃ fuel r, executeRequest w request options timeout authentication fuel {} = some r) ∧
      ∀ fuel result s,
        executeRequest w request options timeout authentication fuel {} = some (result, s) →
          (RetrySafe w options timeout result s ↔ WaitsInTime w timeout s) := by
  obtain ⟨ht, hmax⟩ := valid_of_validateRequest hvalid
  have hfirst := attempted_first (w := w) hmax (calculateDeadline (w.clock 1) timeout).value
  by_cases hi : w.initialization ≠ .ok
  · have hrun (fuel : Nat) := executeRequest_run (w := w) hvalid hcancel fuel
    simp only [if_pos hi] at hrun
    refine ⟨⟨0, _, hrun 0⟩, fun fuel result s h => ?_⟩
    rw [hrun fuel] at h
    cases h
    exact iff_of_false (fun hs => absurd hs.atLeastOne (by decide)) fun hs => hi hs.1
  have hrun (fuel : Nat) := executeRequest_run (w := w) hvalid hcancel fuel
  simp only [if_neg hi] at hrun
  constructor
  · obtain ⟨K, hK⟩ := w.clock_reaches
    refine ⟨max (K + 1) options.retryPolicy.maximumAttempts, ?_⟩
    rw [hrun]
    exact attemptLoop_ends hK (by omega) (by omega) hfirst
  · intro fuel result s h
    rw [hrun fuel] at h
    have hs := attemptLoop_holds options _ (w.clock 1) fuel fuel 0 _ result s hfirst h
    rw [hs.safe ht]
    exact (and_iff_right (not_not.mp hi)).symm

/-- A clock that is past a deadline of one millisecond at its third reading. -/
def lateWorld : HttpWorld where
  clock k := if k ≤ 1 then 0 else if k ≤ 40 then 2000000 else timePointMax
  clock_mono {i j} h := by
    unfold timePointMax
    grind
  clock_reaches := ⟨41, by decide⟩
  cancelled _ := false
  cancelled_mono _ h := h
  transfer _ := { performs := [.running] }

def lateRequest : HttpRequest := { method := .get, url := httpScheme ++ [97] }

/-- Two attempts, with no delay between them. -/
def lateOptions : HttpExecutionOptions :=
  { retryPolicy := .createFixed 2 0, operationSafety := .idempotent,
    retryTransientFailures := true }

theorem retry_safety_late :
    ∃ fuel r, executeRequest lateWorld lateRequest lateOptions 1 none fuel {} = some r :=
  (retry_safety lateWorld (by decide) rfl).1

/-- The first attempt runs into the overall deadline, and the second is started after it. -/
theorem attempt_after_deadline :
    validateRequest lateRequest lateOptions 1 none = none ∧ lateWorld.cancelled 0 = false ∧
      ∃ result s, executeRequest lateWorld lateRequest lateOptions 1 none 2 {} =
          some (result, s) ∧
        s.attempts.map (·.lastReading) = [0, 2000000] ∧ overallDeadline lateWorld 1 = 1000000 ∧
        ¬RetrySafe lateWorld lateOptions 1 result s := by
  have hmap : (executeRequest lateWorld lateRequest lateOptions 1 none 2 {}).map
      (fun r => r.2.attempts.map (·.lastReading)) = some [0, 2000000] := by decide +kernel
  obtain ⟨⟨result, s⟩, hrun, hreadings⟩ := Option.map_eq_some_iff.mp hmap
  refine ⟨by decide, rfl, result, s, hrun, hreadings, by decide, fun h => ?_⟩
  have hmem : (2000000 : Int) ∈ s.attempts.map (·.lastReading) := by
    rw [hreadings]
    decide
  obtain ⟨a, ha, hlast⟩ := List.mem_map.mp hmem
  have hle := h.inTime a ha
  rw [hlast] at hle
  exact absurd hle (by decide)

end

end WSE.Proof.Xpt
