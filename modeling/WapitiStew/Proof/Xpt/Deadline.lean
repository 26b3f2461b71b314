import WapitiStew.Spec.Xpt.Deadline

/-!
# When deadlines are right

* `saturatingSum_eq`, `operationDeadline_eq`, `waitDeadline_eq`: what each sum
  is where nothing overflows; the `_overflow` lemmas say where something does.
* `remainingMilliseconds_right`: when the time limit of a transfer is right.
* `deadlines_agree`: a site agrees exactly where it fits.
-/

namespace WSE.Proof.Xpt

open WSE.Impl.Xpt WSE.Spec.Xpt

/-! ## Operations that do not overflow -/

theorem pure_bind_checked {α β : Type} (a : α) (f : α → Checked β) :
    ((⟨a, false⟩ : Checked α) >>= f) = f a := by
  show (⟨(f a).value, false || (f a).overflow⟩ : Checked β) = f a
  rw [Bool.false_or]

theorem overflow_bind {α β : Type} (x : Checked α) (f : α → Checked β) :
    (x >>= f).overflow = (x.overflow || (f x.value).overflow) := rfl

theorem int64_eq {n : Int} (h : IsInt64 n) : int64 n = ⟨n, false⟩ := by
  have hn := h.1
  have hn' := h.2
  have hmod : Int.bmod n 18446744073709551616 = n := Int.bmod_eq_of_le (by omega) (by omega)
  rw [int64, hmod, decide_eq_false (not_not_intro h)]

theorem int64_overflow {n : Int} (h : ¬IsInt64 n) : (int64 n).overflow = true :=
  decide_eq_true h

/-- No sum is beyond the last time point. -/
theorem int64_le (n : Int) : (int64 n).value ≤ timePointMax := by
  have := Int.bmod_lt (x := n) (m := 18446744073709551616) (by decide)
  show n.bmod 18446744073709551616 ≤ 9223372036854775807
  omega

section Sums

variable {now ms : Int}

theorem nanoseconds_eq (hms : 0 ≤ ms) (h : ms * perMillisecond ≤ timePointMax) :
    nanoseconds ms = ⟨ms * perMillisecond, false⟩ := by
  unfold perMillisecond timePointMax at h
  exact int64_eq ⟨by unfold perMillisecond; omega, h⟩

theorem room_eq (hnow : 0 ≤ now) (hmax : now ≤ timePointMax) :
    int64 (timePointMax - now) = ⟨timePointMax - now, false⟩ := by
  unfold timePointMax at *
  exact int64_eq ⟨by omega, by omega⟩

theorem sum_eq (hnow : IsInt64 now) (hms : 0 ≤ ms) (h : instant now ms ≤ timePointMax) :
    int64 (now + ms * perMillisecond) = ⟨instant now ms, false⟩ := by
  have := hnow.1
  unfold instant perMillisecond timePointMax at *
  exact int64_eq ⟨by omega, h⟩

theorem saturatingSum_eq (hnow : 0 ≤ now) (hmax : now ≤ timePointMax) (hms : 0 ≤ ms)
    (h : ms * perMillisecond ≤ timePointMax) :
    saturatingSum now ms = ⟨min (instant now ms) timePointMax, false⟩ := by
  rw [saturatingSum, nanoseconds_eq hms h, pure_bind_checked, room_eq hnow hmax,
    pure_bind_checked]
  by_cases hr : timePointMax - now ≤ ms * perMillisecond
  · rw [if_pos hr, Int.min_eq_right (by unfold instant; omega)]
    rfl
  · have hle : instant now ms ≤ timePointMax := by
      unfold instant
      omega
    have h64 : IsInt64 now := by
      unfold timePointMax at hmax
      exact ⟨by omega, hmax⟩
    rw [if_neg hr, sum_eq h64 hms hle, Int.min_eq_left hle]

theorem saturatingSum_overflow
    (h : now < 0 ∨ timePointMax < ms * perMillisecond) :
    (saturatingSum now ms).overflow = true := by
  rw [saturatingSum, overflow_bind, overflow_bind]
  obtain h | h := h
  · have hr : ¬IsInt64 (timePointMax - now) := by
      unfold IsInt64 timePointMax
      omega
    rw [int64_overflow hr, Bool.true_or, Bool.or_true]
  · have hd : ¬IsInt64 (ms * perMillisecond) := by
      unfold IsInt64
      unfold timePointMax at h
      omega
    rw [nanoseconds, int64_overflow hd, Bool.true_or]

theorem operationDeadline_eq (hnow : 0 ≤ now) (hmax : now ≤ timePointMax) (hms : 0 ≤ ms) :
    operationDeadline now ms =
      ⟨if durationCastMs (timePointMax - now) ≤ ms then timePointMax else instant now ms, false⟩ := by
  rw [operationDeadline, room_eq hnow hmax, pure_bind_checked]
  by_cases hr : durationCastMs (timePointMax - now) ≤ ms
  · rw [if_pos hr, if_pos hr]
    rfl
  · have hle : instant now ms ≤ timePointMax := by
      unfold durationCastMs at hr
      rw [Int.tdiv_eq_ediv_of_nonneg (by omega)] at hr
      unfold instant perMillisecond at *
      omega
    have hfit : ms * perMillisecond ≤ timePointMax := by
      unfold instant at hle
      omega
    have h64 : IsInt64 now := by
      unfold timePointMax at hmax
      exact ⟨by omega, hmax⟩
    rw [if_neg hr, if_neg hr, nanoseconds_eq hms hfit, pure_bind_checked, sum_eq h64 hms hle]

theorem operationDeadline_le (now ms : Int) :
    (operationDeadline now ms).value ≤ timePointMax := by
  show (if durationCastMs (int64 (timePointMax - now)).value ≤ ms then _ else _ :
    Checked Int).value ≤ timePointMax
  split
  · exact Int.le_refl _
  · exact int64_le _

theorem operationDeadline_overflow (h : now < 0) :
    (operationDeadline now ms).overflow = true := by
  have hr : ¬IsInt64 (timePointMax - now) := by
    unfold IsInt64 timePointMax
    omega
  rw [operationDeadline, overflow_bind, int64_overflow hr, Bool.true_or]

theorem waitDeadline_eq (hnow : IsInt64 now) (hms : 0 ≤ ms)
    (hd : ms * perMillisecond ≤ timePointMax) (h : instant now ms ≤ timePointMax) :
    waitDeadline now ms = ⟨instant now ms, false⟩ := by
  rw [waitDeadline, nanoseconds_eq hms hd, pure_bind_checked, sum_eq hnow hms h]

theorem waitDeadline_overflow (hms : 0 ≤ ms)
    (h : timePointMax < ms * perMillisecond ∨ timePointMax < instant now ms) :
    (waitDeadline now ms).overflow = true := by
  rw [waitDeadline, overflow_bind]
  by_cases hd : ms * perMillisecond ≤ timePointMax
  · have hs : ¬IsInt64 (now + ms * perMillisecond) := by
      unfold IsInt64
      unfold instant timePointMax at *
      omega
    rw [nanoseconds_eq hms hd, int64_overflow hs, Bool.or_true]
  · have hd' : ¬IsInt64 (ms * perMillisecond) := by
      unfold IsInt64
      unfold timePointMax at hd
      omega
    rw [nanoseconds, int64_overflow hd', Bool.true_or]

end Sums

/-! ## Right deadlines -/

/-- The instant, cut off at the last time point, is right. -/
theorem deadlineRight_min (now ms : Int) :
    DeadlineRight now ms ⟨min (instant now ms) timePointMax, false⟩ where
  noOverflow := rfl
  reached h := Int.min_eq_left (by unfold perMillisecond at h; omega)
  saturated h := Int.min_eq_right (by omega)
  timely _ h := h

/-- So is the last time point, where less than a millisecond is left after the instant. -/
theorem deadlineRight_max {now ms : Int}
    (h : timePointMax < instant now ms + perMillisecond) :
    DeadlineRight now ms ⟨timePointMax, false⟩ where
  noOverflow := rfl
  reached h' := by omega
  saturated _ := rfl
  timely _ h' := Int.le_trans (Int.min_le_right _ _) h'

theorem not_deadlineRight {now ms : Int} {d : Checked Int} (h : d.overflow = true) :
    ¬DeadlineRight now ms d :=
  fun hr => absurd (hr.noOverflow.symm.trans h) Bool.false_ne_true

theorem operationDeadline_right {now ms : Int} (hnow : IsInt64 now) (hms : 0 ≤ ms) :
    DeadlineRight now ms (operationDeadline now ms) ↔ 0 ≤ now := by
  constructor
  · intro h
    by_contra hn
    exact not_deadlineRight (operationDeadline_overflow (by omega)) h
  · intro h0
    have hmax : now ≤ timePointMax := hnow.2
    rw [operationDeadline_eq h0 hmax hms]
    have hdiv : durationCastMs (timePointMax - now) = (timePointMax - now) / perMillisecond :=
      Int.tdiv_eq_ediv_of_nonneg (by omega)
    by_cases hr : durationCastMs (timePointMax - now) ≤ ms
    · rw [if_pos hr]
      refine deadlineRight_max ?_
      rw [hdiv] at hr
      unfold instant perMillisecond at *
      omega
    · rw [if_neg hr]
      have hle : instant now ms ≤ timePointMax := by
        rw [hdiv] at hr
        unfold instant perMillisecond at *
        omega
      have hmin := deadlineRight_min now ms
      rwa [Int.min_eq_left hle] at hmin

theorem saturatingSum_right {now ms : Int} (hnow : IsInt64 now) (hms : 0 ≤ ms) :
    DeadlineRight now ms (saturatingSum now ms) ↔
      0 ≤ now ∧ ms * perMillisecond ≤ timePointMax := by
  constructor
  · intro h
    by_contra hn
    exact not_deadlineRight (saturatingSum_overflow (by omega)) h
  · intro ⟨h0, hd⟩
    rw [saturatingSum_eq h0 hnow.2 hms hd]
    exact deadlineRight_min now ms

theorem waitDeadline_right {now ms : Int} (hnow : IsInt64 now) (hms : 0 ≤ ms) :
    DeadlineRight now ms (waitDeadline now ms) ↔
      ms * perMillisecond ≤ timePointMax ∧ instant now ms ≤ timePointMax := by
  constructor
  · intro h
    by_contra hn
    exact not_deadlineRight (waitDeadline_overflow hms (by omega)) h
  · intro ⟨hd, h⟩
    rw [waitDeadline_eq hnow hms hd h]
    have hmin := deadlineRight_min now ms
    rwa [Int.min_eq_left h] at hmin

/-! ## The time limit of a transfer -/

theorem remainingMilliseconds_right {longMax deadline t : Int} (hlong : 0 < longMax)
    (ht : 0 ≤ t) (hd : deadline ≤ timePointMax) :
    LimitRight longMax deadline t ↔ InMilliseconds longMax deadline t := by
  by_cases hover : deadline ≤ t
  · have hlimit : remainingMilliseconds longMax deadline t = ⟨0, false⟩ := if_pos hover
    refine iff_of_true ⟨by rw [hlimit], .inl (by rw [hlimit])⟩ (.inl ?_)
    unfold perMillisecond
    omega
  have hleft : int64 (deadline - t) = ⟨deadline - t, false⟩ := by
    unfold timePointMax at hd
    exact int64_eq ⟨by omega, by omega⟩
  have hdiv : durationCastMs (deadline - t) = (deadline - t) / 1000000 :=
    Int.tdiv_eq_ediv_of_nonneg (by omega)
  have hlimit : remainingMilliseconds longMax deadline t =
      ⟨min longMax (if (deadline - t) / 1000000 ≤ 0 then 1 else (deadline - t) / 1000000),
        false⟩ := by
    rw [remainingMilliseconds, if_neg hover, hleft, pure_bind_checked, hdiv]
    rfl
  have hright : LimitRight longMax deadline t ↔
      min longMax (if (deadline - t) / 1000000 ≤ 0 then 1 else (deadline - t) / 1000000) = 0 ∨
        deadline ≤ t + min longMax (if (deadline - t) / 1000000 ≤ 0 then 1
          else (deadline - t) / 1000000) * perMillisecond := by
    constructor
    · intro h
      have := h.timely
      rwa [hlimit] at this
    · intro h
      exact ⟨by rw [hlimit], by rw [hlimit]; exact h⟩
  rw [hright]
  unfold InMilliseconds perMillisecond
  split
  · omega
  · omega

/-! ## All sites -/

/-- Every deadline is right, and the time limit of a transfer too, exactly where it fits. -/
theorem deadlines_agree (site : DeadlineSite) {now ms longMax t : Int} (hnow : IsInt64 now)
    (hms : 0 ≤ ms) (hlong : 0 < longMax) (ht : now ≤ t) :
    Agrees site now ms longMax t ↔ Fits site now ms longMax t := by
  cases site with
  | httpClient =>
    have hright : DeadlineRight now ms (DeadlineSite.httpClient.deadline now ms) ↔
        0 ≤ now ∧ ms * perMillisecond ≤ timePointMax := saturatingSum_right hnow hms
    have hlimit (h : 0 ≤ now ∧ ms * perMillisecond ≤ timePointMax) :
        LimitRight longMax (DeadlineSite.httpClient.deadline now ms).value t ↔
          InMilliseconds longMax (min (instant now ms) timePointMax) t := by
      have hvalue : DeadlineSite.httpClient.deadline now ms =
          ⟨min (instant now ms) timePointMax, false⟩ := saturatingSum_eq h.1 hnow.2 hms h.2
      rw [hvalue]
      exact remainingMilliseconds_right hlong (Int.le_trans h.1 ht) (Int.min_le_right _ _)
    constructor
    · intro ⟨hd, hl⟩
      have h := hright.mp hd
      exact ⟨h.1, h.2, (hlimit h).mp (hl rfl)⟩
    · intro ⟨h0, hd, hl⟩
      exact ⟨hright.mpr ⟨h0, hd⟩, fun _ => (hlimit ⟨h0, hd⟩).mpr hl⟩
  | httpRetry =>
    refine (and_iff_left nofun).trans ?_
    exact saturatingSum_right hnow hms
  | tcpClient =>
    refine (and_iff_left nofun).trans ?_
    exact operationDeadline_right hnow hms
  | udpClient =>
    refine (and_iff_left nofun).trans ?_
    exact operationDeadline_right hnow hms
  | serialPort =>
    refine (and_iff_left nofun).trans ?_
    exact operationDeadline_right hnow hms
  | runtimeWait =>
    refine (and_iff_left nofun).trans ?_
    exact waitDeadline_right hnow hms

/-- An hour from the start of the clock, in the TCP client. -/
theorem deadlines_agree_hour : Agrees .tcpClient 0 3600000 2147483647 0 :=
  (deadlines_agree .tcpClient (by decide) (by decide) (by decide) (by decide)).mpr
    (by decide : (0 : Int) ≤ 0)

/-- The longest timeouts wrap to an instant before the start of the operation. -/
theorem calculateDeadline_wraps :
    (calculateDeadline 0 9223372036855).overflow = true ∧
      (calculateDeadline 0 9223372036855).value < 0 ∧
      ¬DeadlineRight 0 9223372036855 (calculateDeadline 0 9223372036855) :=
  ⟨by decide, by decide, fun h => absurd h.noOverflow (by decide)⟩

end WSE.Proof.Xpt
