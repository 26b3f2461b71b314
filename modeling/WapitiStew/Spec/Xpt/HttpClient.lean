import WapitiStew.Impl.Xpt.HttpClient
import WapitiStew.Spec.Xpt.Deadline

/-!
# Safe retries and bounded responses

A request is sent again only after an outcome that allows it (`MayRetry`), and
only if its options say that it may be. `RetrySafe` is what a caller can rely on
when a request has ended: how many attempts were made, what the result is made
of, and what was known when each attempt started. `BoundedBody` is what a transfer collects, and
`BoundedResponse` what a request reports of it.
-/

namespace WSE.Spec.Xpt

open WSE.Impl.Xpt

/-- The overall deadline: the world is asked for the token first, then for the clock. -/
def overallDeadline (w : HttpWorld) (timeout : Int) : Int := instant (w.clock 1) timeout

/-- Neither a success nor a failure that another attempt cannot or must not answer. -/
structure MayRetry (r : HttpResult) : Prop where
  failed : r.succeeded = false
  cancellation : r.error.category ≠ .cancellation
  validation : r.error.category ≠ .validation
  security : r.error.category ≠ .security
  protocol : r.error.category ≠ .protocol
  tooLarge : r.error.code ≠ .responseTooLarge

/-- Retries are possible at all. -/
def Repeatable (options : HttpExecutionOptions) : Prop :=
  options.operationSafety = .idempotent ∧ options.retryTransientFailures = true

/-- The result is the outcome of the last attempt, or its response with the error of the wait
after it. -/
def ResultOf (last result : HttpResult) : Prop :=
  result = last ∨ result = ⟨last.value, httpCancellationError⟩ ∨
    result = ⟨last.value, httpTimeoutError⟩

/-- What holds of the result and the attempts of a request, with or without the deadline. -/
structure RetrySafe (w : HttpWorld) (options : HttpExecutionOptions) (timeout : Int)
    (result : HttpResult) (s : HttpState) : Prop where
  atLeastOne : 1 ≤ s.attempts.length
  atMost : s.attempts.length ≤ options.retryPolicy.maximumAttempts
  result : ∀ a, s.attempts.getLast? = some a → ResultOf a.outcome result
  once : ¬Repeatable options → s.attempts.length = 1
  stops : ∀ a ∈ s.attempts.dropLast, MayRetry a.outcome
  uncancelled : ∀ a ∈ s.attempts, a.cancelSeen = false
  inTime : ∀ a ∈ s.attempts, a.lastReading ≤ overallDeadline w timeout

/-- The end of a wait, from the first reading after it has started. -/
def waitEnd (w : HttpWorld) (x : RetryWait) : Int := (requestedEnd (w.clock x.tick) x.delay).value

/-- The reading of test `n` of the wait, which comes before a poll and a second reading. -/
def testReading (w : HttpWorld) (x : RetryWait) (n : Nat) : Int := w.clock (x.tick + 3 * n + 1)

/-- The wait goes on after test `n`: its end is not reached, the token not cancelled and the
deadline not passed. -/
structure GoesOn (w : HttpWorld) (x : RetryWait) (deadline : Int) (n : Nat) : Prop where
  early : testReading w x n < waitEnd w x
  uncancelled : w.cancelled (x.tick + 3 * n + 2) = false
  inTime : w.clock (x.tick + 3 * n + 3) < deadline

/-- Test `n` finds the end of the wait reached. -/
def EndsAt (w : HttpWorld) (x : RetryWait) (deadline : Int) (n : Nat) : Prop :=
  (∀ j, j < n → GoesOn w x deadline j) ∧ waitEnd w x ≤ testReading w x n

/-- libcurl is initialized, and no wait for a retry, from where it starts, comes to its end at a
reading beyond the deadline. -/
def WaitsInTime (w : HttpWorld) (timeout : Int) (s : HttpState) : Prop :=
  w.initialization = .ok ∧
    ∀ x ∈ s.waits, ∀ n, EndsAt w x (calculateDeadline (w.clock 1) timeout).value n →
      testReading w x n ≤ overallDeadline w timeout

/-! ## The body of a response -/

/-- `CURLE_WRITE_ERROR`, with which libcurl ends a transfer when a callback takes fewer bytes than
it is handed. -/
def writeError : CurlCode := .other 23

/-- The accumulator after the first `k` chunks of the body. -/
def collected (t : Transfer) (maximum k : Nat) : ResponseAccumulator :=
  { t with bodyChunks := t.bodyChunks.take k }.accumulate maximum

/-- The writer does not take the whole of chunk `k`. -/
def Refuses (t : Transfer) (maximum k : Nat) : Prop :=
  ∃ c, t.bodyChunks[k]? = some c ∧ (writeBody (collected t maximum k) c).2 ≠ c.size * c.count

/-- Memory can be had, a chunk holds the bytes that its sizes say, and a refused chunk is the last
one and ends the transfer. -/
structure Documented (t : Transfer) (maximum : Nat) : Prop where
  allocates : ∀ c ∈ t.bodyChunks, c.allocates = true
  sized : ∀ c ∈ t.bodyChunks, c.content.length = c.size * c.count
  ends : ∀ k, Refuses t maximum k →
    t.bodyChunks.length = k + 1 ∧ ∀ code, t.message = some code → code = writeError

/-- The body is made of whole chunks, up to the first one that does not fit. -/
structure BoundedBody (t : Transfer) (maximum : Nat) : Prop where
  chunks : ∀ k, ∃ j, j ≤ k ∧ (j = k ∨ Refuses t maximum j) ∧
    (collected t maximum k).body = ((t.bodyChunks.take j).map Chunk.content).flatten
  bounded : ∀ k, (collected t maximum k).body.length ≤ maximum
  refuses : ∀ k c, t.bodyChunks[k]? = some c → (Refuses t maximum k ↔
    maximum < (collected t maximum k).body.length + c.size * c.count)

/-- The transfer took place, and a chunk was refused. -/
structure Refused (t : Transfer) (maximum : Nat) : Prop where
  handles : t.handles = true
  headerList : t.headerList = true
  setup : t.setup = .ok
  added : t.added = true
  refuses : ∃ k, Refuses t maximum k

/-- The deadline that an attempt is held to: the overall one, no later than the clock's last time
point, where the timeout fits in nanoseconds; beyond that, what the client makes of it. -/
def effectiveDeadline (w : HttpWorld) (timeout : Int) : Int :=
  if 0 ≤ w.clock 1 ∧ w.clock 1 ≤ timePointMax ∧ timeout * perMillisecond ≤ timePointMax then
    min (overallDeadline w timeout) timePointMax
  else (calculateDeadline (w.clock 1) timeout).value

/-- Before the request has ended, its token was cancelled or its deadline had passed. -/
def Interrupted (w : HttpWorld) (deadline : Int) (s : HttpState) : Prop :=
  (∃ k, k < s.tick ∧ w.cancelled k = true) ∨ ∃ k, k < s.tick ∧ deadline ≤ w.clock k

/-- The headers and the body of an attempt are those of its own transfer, and a transfer that
refused a chunk ends the request as too large. -/
structure BoundedResponse (w : HttpWorld) (options : HttpExecutionOptions) (timeout : Int)
    (result : HttpResult) (s : HttpState) : Prop where
  fresh : ∀ i a, s.attempts[i]? = some a → a.outcome.value = {} ∨
    a.outcome.value.headers =
      ((w.transfer (i + 1)).accumulate options.maximumResponseBodySize).headers ∧
    a.outcome.value.body =
      ((w.transfer (i + 1)).accumulate options.maximumResponseBodySize).body
  refused : ∀ i a, s.attempts[i]? = some a →
    Refused (w.transfer (i + 1)) options.maximumResponseBodySize → a.outcome.succeeded = false ∧
      (Interrupted w (effectiveDeadline w timeout) s ∨
        a.outcome.error.code = .responseTooLarge ∧ i + 1 = s.attempts.length ∧
          result = a.outcome)
  success : result.succeeded = true →
    ∃ a, s.attempts.getLast? = some a ∧ result = a.outcome

end WSE.Spec.Xpt
