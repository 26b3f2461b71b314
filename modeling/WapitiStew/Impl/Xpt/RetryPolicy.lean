import WapitiStew.Impl.Xpt.TransportError

/-!
# The retry policy

`RetryPolicy` of `core/xpt/retry`. Delays are counts of milliseconds. An
enumeration over `uint8_t` may hold a value that it does not name (`other`).
-/

namespace WSE.Impl.Xpt

/-- `eRetryOperationSafety`. -/
inductive RetryOperationSafety
  | nonIdempotent | idempotent
  | other (value : UInt8)
  deriving DecidableEq, Repr

/-- `eRetryFailureDisposition`. -/
inductive RetryFailureDisposition
  | doNotRetry | retryable
  | other (value : UInt8)
  deriving DecidableEq, Repr

/-- `eRetryBackoffStrategy`. -/
inductive RetryBackoffStrategy
  | fixed | exponential
  | other (value : UInt8)
  deriving DecidableEq, Repr

/-- `eRetryStopReason`. -/
inductive RetryStopReason
  | none | invalidPolicy | invalidAttempt | noFailure | nonIdempotentOperation
  | failureNotRetryable | attemptLimitReached | cancelled
  deriving DecidableEq, Repr

def isValidStrategy (strategy : RetryBackoffStrategy) : Bool :=
  strategy = .fixed || strategy = .exponential

def isRetryableSafety (safety : RetryOperationSafety) : Bool := safety = .idempotent

def isRetryableDisposition (disposition : RetryFailureDisposition) : Bool :=
  disposition = .retryable

def isPolicyRetryableError (error : TransportError) : Bool :=
  if error.ok || error.code = .cancelled || error.code = .unsupported then false
  else
    match error.category with
    | .resolution | .connection | .inputOutput | .timeout | .http => true
    | .none | .validation | .cancellation | .protocol | .security => false

structure RetryDecision where
  shouldRetry : Bool
  delay : Int
  stopReason : RetryStopReason
  deriving DecidableEq, Repr

structure RetryPolicy where
  maximumAttempts : Nat := 1
  initialDelay : Int := 0
  maximumDelay : Int := 0
  backoffStrategy : RetryBackoffStrategy := .fixed
  deriving DecidableEq, Repr

namespace RetryPolicy

def createFixed (maximumAttempts : Nat) (delay : Int) : RetryPolicy :=
  ⟨maximumAttempts, delay, delay, .fixed⟩

def createExponential (maximumAttempts : Nat) (initialDelay maximumDelay : Int) : RetryPolicy :=
  ⟨maximumAttempts, initialDelay, maximumDelay, .exponential⟩

def isValid (p : RetryPolicy) : Bool :=
  1 ≤ p.maximumAttempts && 0 ≤ p.initialDelay && p.initialDelay ≤ p.maximumDelay &&
    isValidStrategy p.backoffStrategy

/-- The loop of `calculateDelay` for the attempts that are left to count. -/
def delayLoop (maximumDelay : Int) : Nat → Int → Int
  | 0, delay => delay
  | attempts + 1, delay =>
    if delay < maximumDelay then
      if maximumDelay.tdiv 2 < delay then maximumDelay
      else delayLoop maximumDelay attempts (delay * 2)
    else delay

/-- The products that the loop computes. -/
def loopProducts (maximumDelay : Int) : Nat → Int → List Int
  | 0, _ => []
  | attempts + 1, delay =>
    if delay < maximumDelay then
      if maximumDelay.tdiv 2 < delay then []
      else delay * 2 :: loopProducts maximumDelay attempts (delay * 2)
    else []

def calculateDelay (p : RetryPolicy) (attemptsCompleted : Nat) : Int :=
  if p.backoffStrategy = .fixed || p.initialDelay = 0 then p.initialDelay
  else delayLoop p.maximumDelay (attemptsCompleted - 1) p.initialDelay

/-- The products that `calculateDelay` computes. -/
def delayProducts (p : RetryPolicy) (attemptsCompleted : Nat) : List Int :=
  if p.backoffStrategy = .fixed || p.initialDelay = 0 then []
  else loopProducts p.maximumDelay (attemptsCompleted - 1) p.initialDelay

def createStopDecision (reason : RetryStopReason) : RetryDecision := ⟨false, 0, reason⟩

def evaluate (p : RetryPolicy) (attemptsCompleted : Nat) (operationSafety : RetryOperationSafety)
    (failureDisposition : RetryFailureDisposition) (error : TransportError) : RetryDecision :=
  if !p.isValid then createStopDecision .invalidPolicy
  else if attemptsCompleted = 0 then createStopDecision .invalidAttempt
  else if error.ok then createStopDecision .noFailure
  else if error.category = .cancellation || error.code = .cancelled then
    createStopDecision .cancelled
  else if !isRetryableSafety operationSafety then createStopDecision .nonIdempotentOperation
  else if !isRetryableDisposition failureDisposition || !isPolicyRetryableError error then
    createStopDecision .failureNotRetryable
  else if p.maximumAttempts ≤ attemptsCompleted then createStopDecision .attemptLimitReached
  else ⟨true, p.calculateDelay attemptsCompleted, .none⟩

end RetryPolicy

end WSE.Impl.Xpt
