/-!
# Deadlines

How the transports, and `Runtime::wait` of the bindings, turn a number of
milliseconds into a time point of `std::chrono::steady_clock`. Time points and
durations are counts of nanoseconds in `int64_t`, timeouts and delays counts of
milliseconds in `int64_t`; an operation on both converts to nanoseconds first.

Each function takes the reading of the clock it makes. A signed overflow is
undefined behaviour: `Checked` goes on with the wrapped value, and remembers.
-/

namespace WSE.Impl.Xpt

/-- A value, and whether a signed 64-bit operation overflowed on the way. -/
structure Checked (α : Type) where
  value : α
  overflow : Bool := false
  deriving DecidableEq, Repr

instance : Monad Checked where
  pure a := ⟨a, false⟩
  bind x f := ⟨(f x.value).value, x.overflow || (f x.value).overflow⟩

/-- The values of `int64_t`. -/
def IsInt64 (n : Int) : Prop := -9223372036854775808 ≤ n ∧ n ≤ 9223372036854775807

instance (n : Int) : Decidable (IsInt64 n) := inferInstanceAs (Decidable (_ ∧ _))

/-- The result of an operation on `int64_t`. -/
def int64 (n : Int) : Checked Int := ⟨Int.bmod n 18446744073709551616, ¬IsInt64 n⟩

/-- The count of `Clock::time_point::max()`. -/
def timePointMax : Int := 9223372036854775807

/-- Nanoseconds in a millisecond. -/
def perMillisecond : Int := 1000000

/-- The conversion of milliseconds to `Clock::duration`. -/
def nanoseconds (ms : Int) : Checked Int := int64 (ms * perMillisecond)

/-- `duration_cast<milliseconds>`. -/
def durationCastMs (ns : Int) : Int := ns.tdiv perMillisecond

/-! ## The HTTP client -/

/-- The saturating sum of the HTTP client, which compares nanoseconds. -/
def saturatingSum (now ms : Int) : Checked Int := do
  let duration ← nanoseconds ms
  let room ← int64 (timePointMax - now)
  if room ≤ duration then
    return timePointMax
  int64 (now + duration)

/-- `calculateDeadline`. -/
def calculateDeadline (now timeout : Int) : Checked Int := saturatingSum now timeout

/-- `requested_end` of `waitForRetry`. -/
def requestedEnd (now delay : Int) : Checked Int := saturatingSum now delay

/-- `remainingMilliseconds`, the time limit of a transfer; 0 is no limit. -/
def remainingMilliseconds (longMax deadline now : Int) : Checked Int := do
  if deadline ≤ now then
    return 0
  let left ← int64 (deadline - now)
  let remaining := durationCastMs left
  let rounded := if remaining ≤ 0 then 1 else remaining
  return min longMax rounded

/-! ## The socket and serial clients -/

/-- The sum of the socket and serial clients, which compares milliseconds. -/
def operationDeadline (now timeout : Int) : Checked Int := do
  let room ← int64 (timePointMax - now)
  if durationCastMs room ≤ timeout then
    return timePointMax
  let duration ← nanoseconds timeout
  int64 (now + duration)

/-- `operationDeadline` of `TcpClient.cpp`. -/
def tcpDeadline (now timeout : Int) : Checked Int := operationDeadline now timeout

/-- `operationDeadline` of `UdpClient.cpp`. -/
def udpDeadline (now timeout : Int) : Checked Int := operationDeadline now timeout

/-- `operationDeadline` of `SerialPort.cpp`. -/
def serialDeadline (now timeout : Int) : Checked Int := operationDeadline now timeout

/-! ## The bindings -/

/-- `deadline` of `Runtime::wait`. -/
def waitDeadline (now duration : Int) : Checked Int := do
  int64 (now + (← nanoseconds duration))

end WSE.Impl.Xpt
