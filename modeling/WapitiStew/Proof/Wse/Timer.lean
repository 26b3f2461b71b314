import WapitiStew.Proof.Wse.WorkerController

/-!
# The promise of a stop

`Promised` ties what the monitor knows to the workers and the calls: one lemma for each event.
A step that meets `StopsItsWorker` keeps it (`promised_step`), whatever else interferes.
-/

namespace WSE.Proof.Wse

open WSE.Framework WSE.Impl.Wse WSE.Spec.Wse

section

variable {s s' : WorkerController} {i n w v : Nat} {c : WorkerCall} {r : ControllerResult}
  {log : List WorkerEvent} {asked : Bool} {ws ws' : List WorkerPhase} {calls : List WorkerCall}

abbrev stopBooks (log : List WorkerEvent) : StopBooks := stopPromise.after log

theorem stopBooks_snoc (log : List WorkerEvent) (e : WorkerEvent) :
    stopBooks (log ++ [e]) = stopPromise.next (stopBooks log) e := Monitor.after_append _ log [e]

/-- The phases of a call of `stop`. -/
def InStop : CallPhase → Prop
  | .stopRequesting | .stopTaking | .stopJoin _ | .returned _ => True
  | _ => False

def Live (ws : List WorkerPhase) (w : Nat) : Prop := w < ws.length ∧ ws[w]? ≠ some .ended

/-- `asked`: the flag `m_stop_requested`. -/
structure Promised (log : List WorkerEvent) (asked : Bool) (ws : List WorkerPhase)
    (calls : List WorkerCall) : Prop where
  accepts : stopPromise.Accepts log
  launched : (stopBooks log).launched = ws.length
  live : ∀ w ∈ (stopBooks log).live, Live ws w
  asked : asked = true → (stopBooks log).asked = ws.length
  stops : ∀ i n, (i, n) ∈ (stopBooks log).stops → n ≤ ws.length ∧
    ∃ c : WorkerCall, calls[i]? = some c ∧ c.caller = none ∧ c.launched = n ∧ InStop c.phase
  finished : ∀ n ∈ (stopBooks log).finished, n ≤ ws.length ∧ ∀ w, Live ws w → n ≤ w

namespace Promised

theorem empty : Promised [] false [] [] where
  accepts := Monitor.accepts_nil _
  launched := rfl
  live _ hw := nomatch hw
  asked := nofun
  stops _ _ hn := nomatch hn
  finished _ hn := nomatch hn

/-- An event that the monitor does not look at. -/
theorem unread {e : WorkerEvent} (h : Promised log asked ws calls)
    (he : stopPromise.next (stopBooks log) e = stopBooks log)
    (ha : stopPromise.allowed (stopBooks log) e) : Promised (log ++ [e]) asked ws calls := by
  have hb : stopBooks (log ++ [e]) = stopBooks log := (stopBooks_snoc log e).trans he
  constructor
  case accepts => exact Monitor.accepts_snoc.mpr ⟨h.accepts, ha⟩
  all_goals rw [hb]
  case launched => exact h.launched
  case live => exact h.live
  case asked => exact h.asked
  case stops => exact h.stops
  case finished => exact h.finished

theorem goesTo {p : CallPhase} (h : Promised log asked ws calls) (hc : calls[i]? = some c)
    (hp : InStop c.phase → InStop p) :
    Promised log asked ws (calls.set i { c with phase := p }) where
  accepts := h.accepts
  launched := h.launched
  live := h.live
  asked := h.asked
  stops j n hn := by
    obtain ⟨hle, d, hd, h1, h2, h3⟩ := h.stops j n hn
    refine ⟨hle, ?_⟩
    by_cases hj : i = j
    · subst hj
      cases hc.symm.trans hd
      exact ⟨_, List.getElem?_set_self (lt_of_getElem? hc), h1, h2, hp h3⟩
    · exact ⟨d, (List.getElem?_set_ne hj).trans hd, h1, h2, h3⟩
  finished := h.finished

/-- A call begins. -/
theorem called {d : ControllerCall} {p : CallPhase} {caller : Option Nat}
    (h : Promised log asked ws calls) (hp : d = .stop → p = .stopRequesting) :
    Promised (log ++ [.called calls.length caller d]) asked ws
      (calls ++ [{ caller, launched := ws.length, phase := p }]) := by
  have hold : ∀ j n, (j, n) ∈ (stopBooks log).stops → n ≤ ws.length ∧
      ∃ c : WorkerCall, (calls ++ [{ caller, launched := ws.length, phase := p }])[j]? = some c ∧
        c.caller = none ∧ c.launched = n ∧ InStop c.phase := by
    intro j n hn
    obtain ⟨hle, e, he, h1⟩ := h.stops j n hn
    exact ⟨hle, e, getElem?_append_old _ he, h1⟩
  have hacc : stopPromise.Accepts (log ++ [.called calls.length caller d]) :=
    Monitor.accepts_snoc.mpr ⟨h.accepts, trivial⟩
  have hb := stopBooks_snoc log (.called calls.length caller d)
  by_cases hstop : caller = none ∧ d = .stop
  · obtain ⟨rfl, rfl⟩ := hstop
    cases hp rfl
    refine ⟨hacc, ?_, ?_, ?_, ?_, ?_⟩
    all_goals rw [hb]
    · exact h.launched
    · exact h.live
    · exact h.asked
    · intro j n hn
      obtain hn | hn := List.mem_append.mp hn
      · exact hold j n hn
      · cases List.mem_singleton.mp hn
        rw [h.launched]
        exact ⟨Nat.le_refl _, _, List.getElem?_concat_length, rfl, rfl, trivial⟩
    · exact h.finished
  · have hsame : stopPromise.next (stopBooks log) (.called calls.length caller d) =
        stopBooks log := by
      cases caller with
      | none =>
        cases d with
        | stop => exact absurd ⟨rfl, rfl⟩ hstop
        | start body => rfl
        | requestStop => rfl
      | some w => rfl
    rw [hsame] at hb
    refine ⟨hacc, ?_, ?_, ?_, ?_, ?_⟩
    all_goals rw [hb]
    · exact h.launched
    · exact h.live
    · exact h.asked
    · exact hold
    · exact h.finished

theorem requested (h : Promised log asked ws calls) :
    Promised (log ++ [.requested i]) true ws calls := by
  have hb := stopBooks_snoc log (.requested i)
  refine ⟨Monitor.accepts_snoc.mpr ⟨h.accepts, trivial⟩, ?_, ?_, ?_, ?_, ?_⟩
  all_goals rw [hb]
  · exact h.launched
  · exact h.live
  · exact fun _ => h.launched
  · exact h.stops
  · exact h.finished

theorem notAsked (h : Promised log asked ws calls) : Promised log false ws calls :=
  ⟨h.accepts, h.launched, h.live, nofun, h.stops, h.finished⟩

theorem launches (h : Promised log asked ws calls) :
    Promised (log ++ [.launched ws.length]) false (ws ++ [WorkerPhase.launched]) calls := by
  have hb := stopBooks_snoc log (.launched ws.length)
  have hlen : (ws ++ [WorkerPhase.launched]).length = ws.length + 1 := List.length_append
  refine ⟨Monitor.accepts_snoc.mpr ⟨h.accepts, trivial⟩, ?_, ?_, nofun, ?_, ?_⟩
  all_goals rw [hb]
  · exact (congrArg (· + 1) h.launched).trans hlen.symm
  · intro w hw
    obtain hw | hw := List.mem_append.mp hw
    · obtain ⟨hlt, hne⟩ := h.live w hw
      refine ⟨by omega, ?_⟩
      rw [List.getElem?_append_left hlt]
      exact hne
    · rw [List.mem_singleton.mp hw]
      refine ⟨by omega, ?_⟩
      rw [List.getElem?_concat_length]
      nofun
  · intro j n hn
    obtain ⟨hle, hc⟩ := h.stops j n hn
    exact ⟨by omega, hc⟩
  · intro n hn
    obtain ⟨hle, hlive⟩ := h.finished n hn
    refine ⟨by omega, fun w ⟨hlt, hne⟩ => ?_⟩
    obtain hw | hw := Nat.lt_or_ge w ws.length
    · rw [List.getElem?_append_left hw] at hne
      exact hlive w ⟨hw, hne⟩
    · exact Nat.le_trans hle hw

/-- A worker goes on, and has not ended. -/
theorem goes {p q : WorkerPhase} (h : Promised log asked ws calls) (hw : ws[w]? = some p)
    (hp : p ≠ .ended) (hq : q ≠ .ended) : Promised log asked (ws.set w q) calls := by
  have hlive : ∀ v, Live (ws.set w q) v ↔ Live ws v := by
    intro v
    unfold Live
    rw [List.length_set]
    by_cases hv : w = v
    · subst hv
      have hlt := lt_of_getElem? hw
      simp only [List.getElem?_set_self hlt, hw, ne_eq, Option.some.injEq, hp, hq,
        not_false_iff]
    · rw [List.getElem?_set_ne hv]
  refine ⟨h.accepts, ?_, fun v hv => (hlive v).mpr (h.live v hv), ?_, ?_, ?_⟩
  · rw [List.length_set]
    exact h.launched
  · rw [List.length_set]
    exact h.asked
  · rw [List.length_set]
    exact h.stops
  · rw [List.length_set]
    exact fun n hn => ⟨(h.finished n hn).1, fun v hv => (h.finished n hn).2 v ((hlive v).mp hv)⟩

theorem ended (h : Promised log asked ws calls) (hw : w < ws.length) :
    Promised (log ++ [.ended w]) asked (ws.set w .ended) calls := by
  have hb := stopBooks_snoc log (.ended w)
  have hlive : ∀ v, Live (ws.set w .ended) v ↔ v ≠ w ∧ Live ws v := by
    intro v
    unfold Live
    rw [List.length_set]
    by_cases hv : w = v
    · subst hv
      simp [List.getElem?_set_self hw]
    · rw [List.getElem?_set_ne hv]
      exact ⟨fun h => ⟨Ne.symm hv, h⟩, fun h => h.2⟩
  refine ⟨Monitor.accepts_snoc.mpr ⟨h.accepts, trivial⟩, ?_, ?_, ?_, ?_, ?_⟩
  all_goals rw [hb]
  all_goals try rw [List.length_set]
  · exact h.launched
  · intro v hv
    obtain ⟨hv, hne⟩ := List.mem_filter.mp hv
    exact (hlive v).mpr ⟨by simpa using hne, h.live v hv⟩
  · exact h.asked
  · exact h.stops
  · exact fun n hn => ⟨(h.finished n hn).1, fun v hv => (h.finished n hn).2 v ((hlive v).mp hv).2⟩

theorem worked (h : Promised log asked ws calls) (hw : Live ws w) :
    Promised (log ++ [.worked w]) asked ws calls :=
  h.unread rfl fun n hn => (h.finished n hn).2 w hw

theorem waits (h : Promised log asked ws calls) (hw : Live ws w → asked = true) :
    Promised (log ++ [.waits i w]) asked ws calls := by
  refine h.unread rfl fun hm => ?_
  have hlive := h.live w hm
  rw [h.asked (hw hlive)]
  exact hlive.1

/-- A call returns; if it is a stop from outside, the workers from before it have ended. -/
theorem returned (h : Promised log asked ws calls)
    (hr : ∀ n, (i, n) ∈ (stopBooks log).stops → ∀ w, Live ws w → n ≤ w) :
    Promised (log ++ [.returned i r]) asked ws calls := by
  have hb := stopBooks_snoc log (.returned i r)
  refine ⟨Monitor.accepts_snoc.mpr ⟨h.accepts, fun n hn w hw => hr n hn w (h.live w hw)⟩,
    ?_, ?_, ?_, ?_, ?_⟩
  all_goals rw [hb]
  · exact h.launched
  · exact h.live
  · exact h.asked
  · exact h.stops
  · intro n hn
    obtain hn | hn := List.mem_append.mp hn
    · exact h.finished n hn
    · obtain ⟨⟨j, m⟩, hm, rfl⟩ := List.mem_map.mp hn
      obtain ⟨hmem, hj⟩ := List.mem_filter.mp hm
      have hj : j = i := by simpa using hj
      subst hj
      exact ⟨(h.stops j m hmem).1, hr m hmem⟩

end Promised

/-- The state of a controller meets the promise so far. -/
def Keeps (s : WorkerController) : Prop := Promised s.log s.stopRequested s.workers s.calls

theorem live_iff_liveWorker : Live s.workers w ↔ LiveWorker s w := live_iff.symm

/-- A call returns. -/
theorem Keeps.returns (h : Keeps s) (hc : s.calls[i]? = some c)
    (hr : InStop c.phase → c.caller = none → ∀ w, LiveWorker s w → c.launched ≤ w) :
    Keeps (s.returns i c r) := by
  refine (Promised.returned h fun n hn w hw => ?_).goesTo hc fun _ => trivial
  obtain ⟨-, d, hd, hcaller, hlaunched, hstop⟩ := h.stops i n hn
  cases hc.symm.trans hd
  exact hlaunched ▸ hr hstop hcaller w (live_iff_liveWorker.mp hw)

/-- A call that is no stop returns. -/
theorem Keeps.returnsOther (h : Keeps s) (hc : s.calls[i]? = some c) (hp : ¬InStop c.phase) :
    Keeps (s.returns i c r) := h.returns hc fun hstop => absurd hstop hp

theorem keeps_startFirst (h : Keeps s) (hc : s.calls[i]? = some c) (hp : c.phase = .startFirst) :
    Keeps (s.startFirst i c) := by
  have hno : ¬InStop c.phase := by
    rw [hp]
    exact id
  unfold WorkerController.startFirst
  split
  · exact h.returnsOther hc hno
  · split
    · exact Promised.goesTo h hc fun hstop => absurd hstop hno
    · exact Promised.goesTo h hc fun hstop => absurd hstop hno

theorem keeps_startSecond (h : Keeps s) (hc : s.calls[i]? = some c) (hp : c.phase = .startSecond)
    (throws : Bool) : Keeps (s.startSecond i c throws) := by
  have hno : ¬InStop c.phase := by
    rw [hp]
    exact id
  unfold WorkerController.startSecond
  split
  · exact h.returnsOther hc hno
  · split
    · exact Keeps.returnsOther (s := { s with stopRequested := false, running := true })
        (Promised.notAsked h) hc hno
    · have hl : Keeps { s with stopRequested := false, running := true }.launch :=
        Promised.launches h
      exact hl.returnsOther hc hno

theorem keeps_stopTaking {throws : Bool} (h : Keeps s) (hc : s.calls[i]? = some c)
    (hp : c.phase = .stopTaking) (hok : StopsItsWorker s (.proceed i throws)) :
    Keeps (s.stopTaking i c) := by
  obtain ⟨hnone, hasked⟩ := hok c hc hp
  unfold WorkerController.stopTaking
  split
  · next ht => exact h.returns hc fun _ hcaller => hnone ht hcaller
  · next w ht =>
    split
    · next hself =>
      refine h.returns hc fun _ hcaller => ?_
      rw [hcaller] at hself
      cases hself
    · have hwaits := Promised.waits (i := i) h fun hlive =>
        hasked w ht (live_iff_liveWorker.mp hlive)
      exact hwaits.goesTo hc fun _ => trivial

theorem keeps_proceed {throws : Bool} (h : Keeps s) (hs : Sound s) (hc : s.calls[i]? = some c)
    (hok : StopsItsWorker s (.proceed i throws)) (hp : s.proceed i c throws = some s') :
    Keeps s' := by
  unfold WorkerController.proceed at hp
  split at hp
  · next hph => exact Option.some.inj hp ▸ keeps_startFirst h hc hph
  · next w hph =>
    obtain ⟨-, he⟩ := Option.ite_none_right_eq_some.mp hp
    cases he
    refine (Promised.unread (e := .joined w) h rfl trivial).goesTo hc fun hstop => ?_
    rw [hph] at hstop
    exact hstop.elim
  · next hph => exact Option.some.inj hp ▸ keeps_startSecond h hc hph throws
  · next hph =>
    cases hp
    refine Keeps.returnsOther (s := s.requestStop i) (Promised.requested h) hc ?_
    rw [hph]
    exact id
  · cases hp
    exact (Promised.requested h).goesTo hc fun _ => trivial
  · next hph => exact Option.some.inj hp ▸ keeps_stopTaking h hc hph hok
  · next w hph =>
    obtain ⟨hended, he⟩ := Option.ite_none_right_eq_some.mp hp
    cases he
    refine Keeps.returns (s := s.record (.joined w)) (Promised.unread h rfl trivial) hc
      fun _ _ v hv => Nat.le_of_not_lt fun hlt => ?_
    obtain ⟨-, hne⟩ := live_iff.mp hv
    by_cases hvw : v = w
    · subst hvw
      exact hne (hasEnded_iff.mp hended)
    · exact hne ((hs.calls i c hc).joins w hph v hlt hvw)
  · cases hp

theorem keeps_call (h : Keeps s) (caller : Option Nat) (d : ControllerCall) :
    Keeps (s.call caller d) := by
  unfold WorkerController.call
  split
  · exact Promised.called h nofun
  · have hcalled : Promised (s.log ++ [.called s.calls.length caller (.start false)])
        s.stopRequested s.workers (s.calls ++ [{ caller, launched := s.workers.length
                                                 phase := .returned (.started false) }]) :=
      Promised.called h nofun
    refine hcalled.returned fun n hn => ?_
    have hn : (s.calls.length, n) ∈ (stopBooks s.log).stops := by
      rw [stopBooks_snoc] at hn
      cases caller <;> exact hn
    obtain ⟨-, e, he, -⟩ := h.stops _ n hn
    exact absurd (lt_of_getElem? he) (Nat.lt_irrefl _)
  · exact Promised.called h nofun
  · exact Promised.called h fun _ => rfl

theorem promised_step {a : WorkerAction} (h : Keeps s) (hs : Sound s) (hok : StopsItsWorker s a)
    (ht : workerStep s a = some s') : Keeps s' := by
  cases a with
  | call caller d =>
    cases caller with
    | none => exact Option.some.inj ht ▸ keeps_call h none d
    | some w =>
      obtain ⟨-, he⟩ := Option.ite_none_right_eq_some.mp ht
      exact Option.some.inj he ▸ keeps_call h (some w) d
  | proceed i throws =>
    obtain ⟨c, hc, hp⟩ := Option.bind_eq_some_iff.mp ht
    exact keeps_proceed h hs hc hok hp
  | begins w =>
    obtain ⟨hw, he⟩ := Option.ite_none_right_eq_some.mp ht
    cases he
    exact Promised.goes h hw nofun nofun
  | works w =>
    obtain ⟨hb, he⟩ := Option.ite_none_right_eq_some.mp ht
    cases he
    exact Promised.worked h (live_iff_liveWorker.mpr (live_of_inBody hb))
  | ends w =>
    obtain ⟨hb, he⟩ := Option.ite_none_right_eq_some.mp ht
    cases he
    exact Promised.ended h (lt_of_getElem? (body_of_inBody hb))

/-- What a run keeps whose stops find their worker. -/
theorem keeps_run {as : List WorkerAction} (hr : run workerStep {} as = some s)
    (hok : Along workerStep StopsItsWorker {} as) : Keeps s := by
  have hempty : Keeps {} := Promised.empty
  have hstep : ∀ s a s', Keeps s ∧ Sound s → StopsItsWorker s a → workerStep s a = some s' →
      Keeps s' ∧ Sound s' :=
    fun _ _ _ ⟨hk, hs⟩ ha ht => ⟨promised_step hk hs ha ht, sound_step hs ht⟩
  exact (run_invariant_along hstep ⟨hempty, .empty⟩ hok hr).1

end

/-!
## Timers stop

What a timer does to its controller is a step of the controller (`timer_refines`), and a callback is
a piece of work of the body, so the promise of a stop is that of the controller
(`stop_promise`). Without its condition it is broken in two ways (`stop_promise_broken`).
-/

section

variable {κ : Type*} {t t' : Timer κ}

/-- Either the controller does not move, or it makes a step. -/
def Refines (t t' : Timer κ) (a : TimerAction κ) : Prop :=
  t'.worker = t.worker ∨ ∃ b, workerStep t.worker b = some t'.worker ∧
    (TimerStopsItsWorker t a → StopsItsWorker t.worker b)

theorem body_refines {w : Nat} {timeout throws : Bool}
    (h : t.bodyStep w timeout throws = some t') :
    t'.worker = t.worker ∨ workerStep t.worker (.works w) = some t'.worker := by
  unfold Timer.bodyStep at h
  obtain ⟨-, h⟩ := Option.ite_none_right_eq_some.mp h
  obtain ⟨phase, -, h⟩ := Option.bind_eq_some_iff.mp h
  cases phase with
  | loaded callback =>
    obtain ⟨worker, hw, rfl⟩ := Option.map_eq_some_iff.mp h
    exact .inr hw
  | interval | leaving =>
    obtain ⟨-, h⟩ := Option.ite_none_left_eq_some.mp h
    cases h
    exact .inl rfl
  | waiting interval =>
    simp only at h
    split at h
    · cases h
      exact .inl rfl
    · obtain ⟨-, h⟩ := Option.ite_none_right_eq_some.mp h
      cases h
      exact .inl rfl
  | loading =>
    obtain ⟨-, h⟩ := Option.ite_none_left_eq_some.mp h
    cases hc : t.callback with
    | none =>
      rw [hc] at h
      cases h
      exact .inl rfl
    | some callback =>
      rw [hc] at h
      cases h
      exact .inl rfl
  | calling =>
    cases h
    exact .inl rfl
  | left => cases h

theorem finishStart_worker (h : t.finishStart = some t') : t'.worker = t.worker := by
  unfold Timer.finishStart at h
  obtain ⟨m, -, h⟩ := Option.bind_eq_some_iff.mp h
  obtain ⟨c, -, h⟩ := Option.bind_eq_some_iff.mp h
  split at h
  · cases h
    rfl
  · cases h
    rfl
  · cases h

/-- Every step of the controller that a timer makes is one of `workerStep`. -/
theorem timer_refines {a : TimerAction κ} (h : timerStep t a = some t') : Refines t t' a := by
  cases a with
  | start caller interval callback =>
    simp only [timerStep] at h
    split at h
    · cases h
    split at h
    · next callback _ =>
      unfold Timer.start at h
      split at h
      · cases h
      split at h
      · cases h
        exact .inl rfl
      · obtain ⟨worker, hw, rfl⟩ := Option.map_eq_some_iff.mp h
        exact .inr ⟨_, hw, fun _ => by cases caller <;> trivial⟩
    · cases h
      exact .inl rfl
  | finishStart => exact .inl (finishStart_worker h)
  | stop caller =>
    simp only [timerStep] at h
    split at h
    · cases h
    · obtain ⟨worker, hw, rfl⟩ := Option.map_eq_some_iff.mp h
      exact .inr ⟨_, hw, fun _ => by cases caller <;> trivial⟩
  | setInterval interval =>
    simp only [timerStep] at h
    split at h
    · cases h
      exact .inl rfl
    · obtain ⟨-, h⟩ := Option.ite_none_left_eq_some.mp h
      cases h
      exact .inl rfl
  | proceed i throws =>
    obtain ⟨worker, hw, rfl⟩ := Option.map_eq_some_iff.mp h
    exact .inr ⟨_, hw, id⟩
  | thread w =>
    simp only [timerStep, Timer.threadStep] at h
    split at h
    · obtain ⟨worker, hw, rfl⟩ := Option.map_eq_some_iff.mp h
      exact .inr ⟨_, hw, fun _ => trivial⟩
    · obtain ⟨worker, hw, rfl⟩ := Option.map_eq_some_iff.mp h
      exact .inr ⟨_, hw, fun _ => trivial⟩
    · cases h
  | body w timeout throws =>
    obtain h | h := body_refines h
    · exact .inl h
    · exact .inr ⟨_, h, fun _ => trivial⟩

theorem timer_keeps {as : List (TimerAction κ)} (hr : run timerStep {} as = some t)
    (hok : Along timerStep TimerStopsItsWorker {} as) : Keeps t.worker := by
  have hempty : Keeps {} := Promised.empty
  have hstep : ∀ (t : Timer κ) a t', Keeps t.worker ∧ Sound t.worker → TimerStopsItsWorker t a →
      timerStep t a = some t' → Keeps t'.worker ∧ Sound t'.worker := by
    rintro t a t' ⟨hk, hs⟩ ha ht
    obtain he | ⟨b, hb, himp⟩ := timer_refines ht
    · rw [he]
      exact ⟨hk, hs⟩
    · exact ⟨promised_step hk hs (himp ha) hb, sound_step hs hb⟩
  exact (run_invariant_along hstep ⟨hempty, .empty⟩ hok hr).1

theorem stop_promise :
    (∀ as s, run workerStep {} as = some s → Along workerStep StopsItsWorker {} as →
      stopPromise.Accepts s.log) ∧
    ∀ as (t : Timer κ), run timerStep {} as = some t →
      Along timerStep TimerStopsItsWorker {} as → stopPromise.Accepts t.worker.log :=
  ⟨fun _ _ hr hok => (keeps_run hr hok).accepts, fun _ _ hr hok => (timer_keeps hr hok).accepts⟩

/-- A worker that is stopped from outside. -/
def orderlyStop : List WorkerAction :=
  [.call none (.start true), .proceed 0 false, .proceed 0 false, .begins 0, .call none .stop,
    .proceed 1 false, .proceed 1 false, .works 0, .ends 0, .proceed 1 false]

theorem stopsItsWorker_of_phase {s : WorkerController} {i : Nat} {c : WorkerCall} {throws : Bool}
    (hc : s.calls[i]? = some c) (hp : c.phase ≠ .stopTaking) :
    StopsItsWorker s (.proceed i throws) := fun d hd hph => by
  cases hc.symm.trans hd
  exact absurd hph hp

theorem orderlyStop_along : Along workerStep StopsItsWorker {} orderlyStop := by
  refine .cons trivial rfl (.cons (stopsItsWorker_of_phase rfl nofun) rfl ?_)
  refine .cons (stopsItsWorker_of_phase rfl nofun) rfl (.cons trivial rfl (.cons trivial rfl ?_))
  refine .cons (stopsItsWorker_of_phase rfl nofun) rfl (.cons (fun c hc _ => ?_) rfl ?_)
  · exact ⟨nofun, fun _ _ _ => rfl⟩
  · exact .cons trivial rfl (.cons trivial rfl
      (.cons (stopsItsWorker_of_phase rfl nofun) rfl trivial))

theorem stop_promise_orderly : ∃ s, run workerStep {} orderlyStop = some s ∧
    .returned 1 .done ∈ s.log ∧ stopPromise.Accepts s.log :=
  ⟨_, rfl, by decide, (stop_promise (κ := Unit)).1 _ _ rfl orderlyStop_along⟩

/-- The second of two stops returns at once, since the first one has the thread; then the callback
begins. -/
def doubleStop : List (TimerAction Unit) :=
  [.start none 10 (some ()), .proceed 0 false, .proceed 0 false, .finishStart, .thread 0,
    .body 0 false false, .body 0 true false,
    .stop none, .proceed 1 false, .proceed 1 false, .stop none, .proceed 2 false, .proceed 2 false,
    .body 0 false false, .body 0 false false]

/-- A start between the two regions of a stop takes back the request. -/
def restartedStop : List (TimerAction Unit) :=
  [.start none 10 (some ()), .proceed 0 false, .proceed 0 false, .finishStart, .thread 0,
    .body 0 false false, .stop none, .proceed 1 false, .body 0 false false, .body 0 false false,
    .thread 0,
    .start none 10 (some ()), .proceed 2 false, .proceed 2 false, .proceed 2 false, .finishStart,
    .proceed 1 false]

theorem not_accepts {log post : List WorkerEvent} (pre : List WorkerEvent) (e : WorkerEvent)
    (h : log = pre ++ e :: post) (he : ¬stopPromise.allowed (stopBooks pre) e) :
    ¬stopPromise.Accepts log := fun ha => he (ha pre e post h)

theorem stop_promise_broken :
    (∃ t, run timerStep {} doubleStop = some t ∧ ¬stopPromise.Accepts t.worker.log) ∧
      ∃ t, run timerStep {} restartedStop = some t ∧ ¬stopPromise.Accepts t.worker.log := by
  refine ⟨⟨_, rfl, ?_⟩, ⟨_, rfl, ?_⟩⟩
  · refine not_accepts
      [.called 0 none (.start true), .launched 0, .returned 0 (.started true),
        .called 1 none .stop, .requested 1, .waits 1 0, .called 2 none .stop, .requested 2]
      (.returned 2 .done) rfl ?_
    intro h
    exact absurd (h 1 (by decide) 0 (by decide)) (by decide)
  · refine not_accepts
      [.called 0 none (.start true), .launched 0, .returned 0 (.started true),
        .called 1 none .stop, .requested 1, .ended 0, .called 2 none (.start true), .joined 0,
        .launched 1, .returned 2 (.started true)]
      (.waits 1 1) rfl ?_
    intro h
    exact absurd (h (by decide)) (by decide)

end

end WSE.Proof.Wse
