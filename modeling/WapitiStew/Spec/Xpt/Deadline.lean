import Mathlib.Order.Defs.LinearOrder
import WapitiStew.Impl.Xpt.Deadline
import WapitiStew.Impl.Xpt.WaitLoops

/-!
# Deadlines and waits

The instant at which a wait ends, and the polls and sleeps on the way to it.
-/

namespace WSE.Spec.Xpt

open WSE.Impl.Xpt

/-!
## The right deadline

A deadline is the instant that lies a number of milliseconds after a reading of
the clock (`instant`). It is right if it is this instant, where a millisecond is
left to the clock's last time point, or the last time point, where the instant
lies beyond that; if no operation on the way overflows; and if nothing that takes
a reading as past the deadline is early (`DeadlineRight`). The HTTP client also
hands libcurl a time limit in milliseconds, which must not end before the
deadline (`LimitRight`).
-/

/-- The places where a deadline is computed. -/
inductive DeadlineSite
  | httpClient | httpRetry | tcpClient | udpClient | serialPort | runtimeWait
  deriving DecidableEq, Repr

def DeadlineSite.deadline : DeadlineSite → Int → Int → Checked Int
  | httpClient => calculateDeadline
  | httpRetry => requestedEnd
  | tcpClient => tcpDeadline
  | udpClient => udpDeadline
  | serialPort => serialDeadline
  | runtimeWait => waitDeadline

/-- The instant `ms` milliseconds after `now`. -/
def instant (now ms : Int) : Int := now + ms * perMillisecond

structure DeadlineRight (now ms : Int) (deadline : Checked Int) : Prop where
  noOverflow : deadline.overflow = false
  reached : instant now ms + perMillisecond ≤ timePointMax → deadline.value = instant now ms
  saturated : timePointMax < instant now ms → deadline.value = timePointMax
  timely : ∀ t, deadline.value ≤ t → min (instant now ms) timePointMax ≤ t

/-- The time limit set at the reading `t` is none, or ends at the deadline or later. -/
structure LimitRight (longMax deadline t : Int) : Prop where
  noOverflow : (remainingMilliseconds longMax deadline t).overflow = false
  timely : (remainingMilliseconds longMax deadline t).value = 0 ∨
    deadline ≤ t + (remainingMilliseconds longMax deadline t).value * perMillisecond

/-- The deadline that is computed at the reading `now` is right, and for the HTTP client so is the
time limit of a transfer that is set at the reading `t`. -/
def Agrees (site : DeadlineSite) (now ms longMax t : Int) : Prop :=
  DeadlineRight now ms (site.deadline now ms) ∧
    (site = .httpClient → LimitRight longMax (site.deadline now ms).value t)

/-- The time from `t` to `deadline` can be given in milliseconds of the type `long`: it is over,
less than one, or a whole number of them. -/
def InMilliseconds (longMax deadline t : Int) : Prop :=
  deadline < t + perMillisecond ∨
    perMillisecond ∣ deadline - t ∧ deadline - t ≤ longMax * perMillisecond

/-- When a site agrees. -/
def Fits (site : DeadlineSite) (now ms longMax t : Int) : Prop :=
  match site with
  | .httpClient => 0 ≤ now ∧ ms * perMillisecond ≤ timePointMax ∧
      InMilliseconds longMax (min (instant now ms) timePointMax) t
  | .httpRetry => 0 ≤ now ∧ ms * perMillisecond ≤ timePointMax
  | .tcpClient | .udpClient | .serialPort => 0 ≤ now
  | .runtimeWait => ms * perMillisecond ≤ timePointMax ∧ instant now ms ≤ timePointMax

/-!
## Waits that are exact and in bounds

What a wait reports is what its last question was answered. Each native call comes right after a
poll of the token that found no cancellation and a reading of the clock that leaves it the time it
takes, and a descriptor set takes only what fits in it.
-/

/-- The microseconds that a native wait may last. -/
def duration : WaitEvent → Option Int
  | .selected _ _ time _ _ => some (time.seconds * 1000000 + time.microseconds)
  | .descriptorPolled _ _ milliseconds _ => some (milliseconds * 1000)
  | _ => none

/-- The native call reports the descriptor ready. -/
def ReportsReady (descriptor : Nat) (operation : WaitOperation) : WaitEvent → Prop
  | .selected op _ _ answer left => op = operation ∧ answer = .ready ∧ descriptor ∈ left
  | .descriptorPolled d op _ answer => d = descriptor ∧ op = operation ∧ answer.has operation = true
  | _ => False

/-- What stands before a native wait: the token, the clock, and nothing but descriptor sets. -/
def Prepared (deadline : Int) (before : List WaitEvent) (microseconds : Int) : Prop :=
  ∃ past now sets, before = past ++ [.polled false, .read now] ++ sets ∧
    (∀ e ∈ sets, ∃ d, e = .added d) ∧ microseconds ≤ 20000 ∧
      microseconds * 1000 ≤ deadline - now + perMillisecond

/-- A wait for a descriptor that has come to `turn`, and what it did. -/
structure WaitsRight (descriptor : Nat) (operation : WaitOperation) (deadline : Int)
    (log : List WaitEvent) (turn : WaitTurn) : Prop where
  timeout : ∀ e, turn = .done e → e.category = .timeout ∨ e.code = .timedOut →
    ∃ past now, log = past ++ [.read now] ∧ deadline ≤ now
  cancellation : ∀ e, turn = .done e → e.category = .cancellation ∨ e.code = .cancelled →
    ∃ past, log = past ++ [.polled true]
  ready : ∀ e, turn = .done e → e.ok = true →
    ∃ past wait, log = past ++ [wait] ∧ ReportsReady descriptor operation wait
  prepared : ∀ before wait after microseconds, log = before ++ wait :: after →
    duration wait = some microseconds → Prepared deadline before microseconds
  inBounds : ∀ d, .added d ∈ log → d < fdSetSize

/-- The wait has no set, its descriptor fits in one, or it ends before it comes to one. -/
def FitsSet (w : WaitWorld) (client : WaitClient) (descriptor : Nat) (deadline : Int) (tick : Nat) :
    Prop :=
  client = .serial ∨ descriptor < fdSetSize ∨ w.cancelled tick = true ∨
    deadline ≤ w.clock (tick + 1)

end WSE.Spec.Xpt
