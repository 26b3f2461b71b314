/-!
# Transport errors

`TransportError` of `core/xpt/error`: a category and a code that callers branch
on, a message and a native code.
-/

namespace WSE.Impl.Xpt

/-- `eTransportErrorCategory`. -/
inductive TransportErrorCategory
  | none | validation | resolution | connection | inputOutput | timeout | cancellation | protocol
  | security | http
  deriving DecidableEq, Repr

/-- `eTransportErrorCode`. -/
inductive TransportErrorCode
  | none | invalidArgument | hostNotFound | addressUnavailable | connectionRefused
  | connectionReset | networkUnreachable | notConnected | remoteClosed | timedOut | cancelled
  | bindFailed | sendFailed | receiveFailed | messageTooLarge | datagramTruncated
  | resourceExhausted | unsupported | unknown | openFailed | configurationFailed
  | httpStatusError | responseTooLarge | securityFailed
  deriving DecidableEq, Repr

structure TransportError where
  category : TransportErrorCategory := .none
  code : TransportErrorCode := .none
  message : String := ""
  nativeCode : Int := 0
  deriving DecidableEq, Repr

def TransportError.ok (e : TransportError) : Bool := e.category = .none && e.code = .none

abbrev TransportStatus := Except TransportError Unit

/-- `TransferResult`: the progress value stays meaningful when the operation fails. -/
structure TransferResult (α : Type) where
  value : α
  error : TransportError := {}
  deriving DecidableEq, Repr

def TransferResult.succeeded {α : Type} (r : TransferResult α) : Bool := r.error.ok

end WSE.Impl.Xpt
