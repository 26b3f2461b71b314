import WapitiStew.Framework.Bytes
import WapitiStew.Framework.Running
import WapitiStew.Impl.Xpt.Deadline
import WapitiStew.Impl.Xpt.RetryPolicy

/-!
# The HTTP client

`executeRequest` of `platform/xpt/http/HttpClient.cpp` with its checks, its
attempts and its waits. What the request leaves open is a `HttpWorld`: the
readings of the clock and the polls of the cancellation token, in the order in
which they are made, and what libcurl does in each attempt (`Transfer`).

`HttpState` counts the readings and polls that were made, and records what each
attempt started from and ended with, and what each wait started from; only the
count matters to the code.
-/

namespace WSE.Impl.Xpt

open WSE.Framework

/-! ## Requests and responses -/

/-- `eHttpMethod`. -/
inductive HttpMethod
  | get | head | post | put | patch | delete
  | other (value : UInt8)
  deriving DecidableEq, Repr

/-- `sHttpHeader`. -/
structure HttpHeader where
  name : Bytes
  value : Bytes
  deriving DecidableEq, Repr

structure HttpRequest where
  method : HttpMethod
  url : Bytes
  headers : List HttpHeader := []
  body : Bytes := []
  deriving DecidableEq, Repr

/-- `HttpResponse`. -/
structure HttpResponse where
  statusCode : UInt16 := 0
  headers : List HttpHeader := []
  body : Bytes := []
  attemptCount : Nat := 0
  deriving DecidableEq, Repr

abbrev HttpResult := TransferResult HttpResponse

structure HttpExecutionOptions where
  maximumResponseBodySize : Nat := 8388608
  retryPolicy : RetryPolicy := {}
  operationSafety : RetryOperationSafety := .nonIdempotent
  retryTransientFailures : Bool := false
  deriving DecidableEq, Repr

def HttpExecutionOptions.isValid (o : HttpExecutionOptions) : Bool :=
  0 < o.maximumResponseBodySize && o.retryPolicy.isValid &&
    (o.operationSafety = .nonIdempotent || o.operationSafety = .idempotent)

/-- `HttpAuthentication`; the policy is `ServerNegotiated` or no value of the enumeration. -/
structure HttpAuthentication where
  serverNegotiated : Bool
  username : Bytes
  secret : Bytes
  deriving DecidableEq, Repr

def validAuthenticationText (text : Bytes) : Bool :=
  !text.isEmpty && text.all fun c => !(c = 0 || c = 13 || c = 10)

def HttpAuthentication.isValid (a : HttpAuthentication) : Bool :=
  a.serverNegotiated && validAuthenticationText a.username && validAuthenticationText a.secret

/-! ## The checks of a request -/

def toLowerAscii (text : Bytes) : Bytes :=
  text.map fun c => if 65 ≤ c ∧ c ≤ 90 then c + 32 else c

/-- `"http://"`. -/
def httpScheme : Bytes := [104, 116, 116, 112, 58, 47, 47]

/-- `"https://"`. -/
def httpsScheme : Bytes := [104, 116, 116, 112, 115, 58, 47, 47]

def isValidUrl (url : Bytes) : Bool :=
  let lower := toLowerAscii url
  if !httpScheme.isPrefixOf lower && !httpsScheme.isPrefixOf lower then false
  else if lower.length ≤ (if httpsScheme.isPrefixOf lower then 8 else 7) then false
  else url.all fun c => !(c ≤ 0x20 || c = 0x7F)

def isValidMethod : HttpMethod → Bool
  | .other _ => false
  | _ => true

def isValidHeader (h : HttpHeader) : Bool :=
  let containsControl (text : Bytes) := text.contains 13 || text.contains 10
  if h.name.isEmpty || h.name.contains 58 then false
  else !containsControl h.name && !containsControl h.value

def httpValidationError (message : String) : TransportError :=
  { category := .validation, code := .invalidArgument, message }

def httpTimeoutError : TransportError :=
  { category := .timeout, code := .timedOut,
    message := "The HTTP operation exceeded its deadline." }

def httpCancellationError : TransportError :=
  { category := .cancellation, code := .cancelled, message := "The HTTP operation was cancelled." }

/-- The checks of `executeRequest` before it looks at the token; `timeout` is in milliseconds. -/
def validateRequest (request : HttpRequest) (options : HttpExecutionOptions) (timeout : Int)
    (authentication : Option HttpAuthentication) : Option TransportError :=
  if !(0 ≤ timeout) || !options.isValid || !isValidMethod request.method ||
      !isValidUrl request.url || authentication.any fun a => !a.isValid then
    some (httpValidationError
      "The HTTP request, authentication, options, and timeout must be valid.")
  else if (request.method = .get || request.method = .head) && !request.body.isEmpty then
    some (httpValidationError "GET and HEAD requests must not contain a body.")
  else if !request.headers.all isValidHeader then
    some (httpValidationError "The HTTP request contains an invalid header.")
  else none

/-! ## libcurl -/

/-- `CURLcode`. -/
inductive CurlCode
  | ok | failedInit | urlMalformat | unsupportedProtocol | couldntResolveHost | couldntConnect
  | sendError | recvError | partialFile | operationTimedout | sslConnectError
  | peerFailedVerification | sslCertproblem | sslCacertBadfile | outOfMemory | abortedByCallback
  | other (value : Nat)
  deriving DecidableEq, Repr

/-- The outcome of `curl_multi_perform`, of a `curl_multi_poll` before it too. -/
inductive Perform
  | running | finished | failed
  deriving DecidableEq, Repr

/-- Bytes handed to a callback: an element size and count, and whether memory can be had. -/
structure Chunk where
  size : Nat
  count : Nat
  content : Bytes
  allocates : Bool := true
  deriving DecidableEq, Repr

/-- What libcurl does in one attempt. -/
structure Transfer where
  handles : Bool := true
  headerList : Bool := true
  setup : CurlCode := .ok
  added : Bool := true
  performs : List Perform := []
  message : Option CurlCode := none
  statusCode : Int := 0
  headerChunks : List Chunk := []
  bodyChunks : List Chunk := []
  deriving DecidableEq, Repr

structure HttpWorld where
  clock : Nat → Int
  clock_mono : ∀ {i j}, i ≤ j → clock i ≤ clock j
  clock_reaches : ∃ k, timePointMax ≤ clock k
  cancelled : Nat → Bool
  cancelled_mono : ∀ {i j}, i ≤ j → cancelled i = true → cancelled j = true
  transfer : Nat → Transfer
  initialization : CurlCode := .ok
  strerror : CurlCode → String := fun _ => ""
  nativeCode : CurlCode → Int := fun _ => 0
  longMax : Int := 9223372036854775807

/-- What an attempt started from, and its outcome. -/
structure Attempt where
  lastReading : Int
  cancelSeen : Bool
  outcome : HttpResult
  deriving DecidableEq, Repr

/-- The readings and polls made before a wait, and the delay it was asked for. -/
structure RetryWait where
  tick : Nat
  delay : Int
  deriving DecidableEq, Repr

structure HttpState where
  tick : Nat := 0
  lastReading : Int := 0
  cancelSeen : Bool := false
  attempts : List Attempt := []
  waits : List RetryWait := []
  deriving DecidableEq, Repr

abbrev HttpM := Running HttpState

namespace HttpWorld

variable (w : HttpWorld)

/-- `Clock::now()`. -/
def now : HttpM Int := fun s =>
  some (w.clock s.tick, { s with tick := s.tick + 1, lastReading := w.clock s.tick })

/-- `isCancellationRequested()`. -/
def poll : HttpM Bool := fun s =>
  some (w.cancelled s.tick,
    { s with tick := s.tick + 1, cancelSeen := s.cancelSeen || w.cancelled s.tick })

/-- `remainingMilliseconds`. -/
def remaining (deadline : Int) : HttpM Int := do
  return (remainingMilliseconds w.longMax deadline (← w.now)).value

def convertCurlError (result : CurlCode) : TransportError :=
  let message := w.strerror result
  let nativeCode := w.nativeCode result
  match result with
  | .urlMalformat => httpValidationError message
  | .unsupportedProtocol => ⟨.protocol, .unsupported, message, nativeCode⟩
  | .couldntResolveHost => ⟨.resolution, .hostNotFound, message, nativeCode⟩
  | .couldntConnect => ⟨.connection, .connectionRefused, message, nativeCode⟩
  | .sendError => ⟨.inputOutput, .sendFailed, message, nativeCode⟩
  | .recvError | .partialFile => ⟨.inputOutput, .receiveFailed, message, nativeCode⟩
  | .operationTimedout => httpTimeoutError
  | .sslConnectError | .peerFailedVerification | .sslCertproblem | .sslCacertBadfile =>
    ⟨.security, .securityFailed, message, nativeCode⟩
  | .outOfMemory => ⟨.inputOutput, .resourceExhausted, message, nativeCode⟩
  | _ => ⟨.inputOutput, .unknown, message, nativeCode⟩

end HttpWorld

/-! ## The callbacks -/

/-- `std::numeric_limits<std::size_t>::max()`. -/
def sizeMax : Nat := 18446744073709551615

structure ResponseAccumulator where
  headers : List HttpHeader := []
  body : Bytes := []
  maximumBodySize : Nat
  bodyLimitExceeded : Bool := false
  allocationFailed : Bool := false
  deriving DecidableEq, Repr

/-- `writeBody`: the accumulator, and the bytes consumed. -/
def writeBody (acc : ResponseAccumulator) (chunk : Chunk) : ResponseAccumulator × Nat :=
  if chunk.size ≠ 0 ∧ sizeMax / chunk.size < chunk.count then
    ({ acc with bodyLimitExceeded := true }, 0)
  else
    let total := chunk.size * chunk.count
    if (acc.maximumBodySize + (sizeMax + 1) - acc.body.length) % (sizeMax + 1) < total then
      ({ acc with bodyLimitExceeded := true }, 0)
    else if chunk.allocates then ({ acc with body := acc.body ++ chunk.content }, total)
    else ({ acc with allocationFailed := true }, 0)

/-- `trimHttpWhitespace`. -/
def trimHttpWhitespace (text : Bytes) : Bytes :=
  let blank (c : Byte) : Bool := c = 32 || c = 9
  ((text.dropWhile blank).reverse.dropWhile blank).reverse

/-- A header line without the line ends at its end. -/
def headerLine (content : Bytes) : Bytes :=
  (content.reverse.dropWhile fun c => c = 13 || c = 10).reverse

/-- `writeHeader`. -/
def writeHeader (acc : ResponseAccumulator) (chunk : Chunk) : ResponseAccumulator × Nat :=
  if chunk.size ≠ 0 ∧ sizeMax / chunk.size < chunk.count then
    ({ acc with allocationFailed := true }, 0)
  else if chunk.allocates then
    let line := headerLine chunk.content
    let name := line.takeWhile (· ≠ 58)
    if name.length < line.length then
      ({ acc with headers := acc.headers ++
          [⟨trimHttpWhitespace name, trimHttpWhitespace (line.drop (name.length + 1))⟩] },
        chunk.size * chunk.count)
    else (acc, chunk.size * chunk.count)
  else ({ acc with allocationFailed := true }, 0)

/-- The accumulator after the callbacks of a transfer. -/
def Transfer.accumulate (t : Transfer) (maximumBodySize : Nat) : ResponseAccumulator :=
  t.bodyChunks.foldl (fun acc c => (writeBody acc c).1)
    (t.headerChunks.foldl (fun acc c => (writeHeader acc c).1)
      { maximumBodySize := maximumBodySize })

/-! ## An attempt -/

def isTransientHttpStatus (status : UInt16) : Bool :=
  status = 408 || status = 425 || status = 429 || status = 500 || status = 502 || status = 503 ||
    status = 504

def isTransientFailure (result : HttpResult) : Bool :=
  if result.succeeded then false
  else if result.error.code = .httpStatusError then isTransientHttpStatus result.value.statusCode
  else
    match result.error.category with
    | .resolution | .connection | .inputOutput | .timeout =>
      result.error.code ≠ .responseTooLarge && result.error.code ≠ .resourceExhausted
    | _ => false

section Attempts

variable (w : HttpWorld)

/-- The loop over `curl_multi_perform`: the code that ends it, if it is not left to libcurl. -/
def performLoop (deadline : Int) : List Perform → HttpM (Option CurlCode)
  | [] => return none
  | .finished :: _ => return none
  | .failed :: _ => return some .recvError
  | .running :: performs => do
    if ← w.poll then
      return some .abortedByCallback
    let remainingMs ← w.remaining deadline
    if remainingMs ≤ 0 then
      return some .operationTimedout
    performLoop deadline performs

/-- `portable_status`. -/
def portableStatus (statusCode : Int) : UInt16 :=
  if 0 ≤ statusCode ∧ statusCode ≤ 65535 then UInt16.ofNat statusCode.toNat else 0

/-- `transfer_result`, when the transfer is over. -/
def transferResult (deadline : Int) (t : Transfer) : HttpM CurlCode := do
  if !t.added then
    return .failedInit
  match ← performLoop w deadline t.performs with
  | some code => return code
  | none => return t.message.getD .failedInit

/-- `executeAttempt`. -/
def executeAttempt (maximumBodySize : Nat) (deadline : Int) (attemptCount : Nat) :
    HttpM HttpResult := do
  let t := w.transfer attemptCount
  if !t.handles then
    return ⟨{}, { category := .inputOutput, code := .resourceExhausted,
                  message := "Creating the libcurl request handles failed." }⟩
  if !t.headerList then
    return ⟨{}, { category := .inputOutput, code := .resourceExhausted,
                  message := "Allocating the libcurl header list failed." }⟩
  discard (w.remaining deadline)
  if t.setup ≠ .ok then
    return ⟨{}, w.convertCurlError t.setup⟩
  let transferResult ← transferResult w deadline t
  let status := portableStatus t.statusCode
  let accumulator := t.accumulate maximumBodySize
  let response : HttpResponse := ⟨status, accumulator.headers, accumulator.body, attemptCount⟩
  if ← w.poll then
    return ⟨response, httpCancellationError⟩
  if (← w.remaining deadline) ≤ 0 || transferResult = .operationTimedout then
    return ⟨response, httpTimeoutError⟩
  if accumulator.bodyLimitExceeded then
    return ⟨response, { category := .http, code := .responseTooLarge,
                        message := "The HTTP response body exceeded the configured limit." }⟩
  if accumulator.allocationFailed then
    return ⟨response, { category := .inputOutput, code := .resourceExhausted,
                        message := "Allocating the HTTP response failed." }⟩
  if transferResult ≠ .ok then
    return ⟨response, w.convertCurlError transferResult⟩
  if 400 ≤ status then
    return ⟨response, ⟨.http, .httpStatusError, "The HTTP server returned an error status.",
                       status.toNat⟩⟩
  return ⟨response, {}⟩

/-! ## The waits and the attempts -/

/-- The loop of `waitForRetry`. -/
def waitLoop (requestedEnd deadline : Int) : Nat → HttpM TransportStatus
  | 0 => stillRunning
  | fuel + 1 => do
    let t ← w.now
    if t < requestedEnd then
      if ← w.poll then
        return .error httpCancellationError
      if deadline ≤ (← w.now) then
        return .error httpTimeoutError
      -- sleeps for at most 20 ms, and not beyond the end of the wait or the deadline
      waitLoop requestedEnd deadline fuel
    else
      return .ok ()

def waitForRetry (fuel : Nat) (delay deadline : Int) : HttpM TransportStatus := do
  modify fun s => { s with waits := s.waits ++ [⟨s.tick, delay⟩] }
  let now ← w.now
  waitLoop w (requestedEnd now delay).value deadline fuel

/-- The attempt, and its record. -/
def recordedAttempt (maximumBodySize : Nat) (deadline : Int) (attemptCount : Nat) :
    HttpM HttpResult := do
  let before ← get
  let outcome ← executeAttempt w maximumBodySize deadline attemptCount
  modify fun s =>
    { s with attempts := s.attempts ++ [⟨before.lastReading, before.cancelSeen, outcome⟩] }
  return outcome

/-- The decision about an outcome. -/
def retryDecision (options : HttpExecutionOptions) (attemptCount : Nat) (result : HttpResult) :
    RetryDecision :=
  let disposition : RetryFailureDisposition :=
    if options.retryTransientFailures && isTransientFailure result then .retryable
    else .doNotRetry
  options.retryPolicy.evaluate attemptCount options.operationSafety disposition result.error

/-- The loop of `executeRequest`, after `attemptCount` attempts. -/
def attemptLoop (options : HttpExecutionOptions) (deadline : Int) (waitFuel : Nat) :
    Nat → Nat → HttpM HttpResult
  | 0, _ => stillRunning
  | fuel + 1, attemptCount => do
    let attemptCount := attemptCount + 1
    let result ← recordedAttempt w options.maximumResponseBodySize deadline attemptCount
    if result.succeeded then
      return result
    let decision := retryDecision options attemptCount result
    if !decision.shouldRetry then
      return result
    match ← waitForRetry w waitFuel decision.delay deadline with
    | .error e => return ⟨result.value, e⟩
    | .ok () => attemptLoop options deadline waitFuel fuel attemptCount

/-- `executeRequest`. -/
def executeRequest (request : HttpRequest) (options : HttpExecutionOptions) (timeout : Int)
    (authentication : Option HttpAuthentication) (fuel : Nat) : HttpM HttpResult := do
  match validateRequest request options timeout authentication with
  | some e => return ⟨{}, e⟩
  | none =>
    if ← w.poll then
      return ⟨{}, httpCancellationError⟩
    if w.initialization ≠ .ok then
      return ⟨{}, w.convertCurlError w.initialization⟩
    let now ← w.now
    attemptLoop w options (calculateDeadline now timeout).value fuel fuel 0

end Attempts

end WSE.Impl.Xpt
