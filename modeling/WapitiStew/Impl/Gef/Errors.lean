import WapitiStew.Framework.Stream

/-!
# GEF errors and file helpers

The error values of `api/gef/error/GefError.h`, the read budgets of
`api/gef/format/ReadLimits.h` and the failures and the stream shutdown that the
BIN and CSV controllers share (`core/gef/FileOperations.h`). A call of the
library returns a `GefStatus` or throws (`Abort.thrown`); reading past the end of
a vector, which the language leaves undefined, is `Abort.undefined`.
-/

namespace WSE.Impl.Gef

open WSE.Framework

inductive GefErrorCategory
  | none | io | format | resource
  deriving DecidableEq, Repr

inductive GefErrorCode
  | none | fileOpenFailed | readFailed | malformedData | noData | writeFailed | limitExceeded
  deriving DecidableEq, Repr

structure GefError where
  category : GefErrorCategory
  code : GefErrorCode
  message : String
  nativeCode : Int := 0
  deriving DecidableEq, Repr

inductive GefStatus
  | success
  | failure (error : GefError)
  deriving DecidableEq, Repr

def GefStatus.succeeded : GefStatus → Bool
  | .success => true
  | .failure _ => false

/-- The standard exceptions that the modelled calls throw. -/
inductive Exception
  | badAlloc
  | lengthError (message : String)
  | logicError (message : String)
  deriving DecidableEq, Repr

/-- Why a call does not return. -/
inductive Abort
  | thrown (exception : Exception)
  | undefined
  deriving DecidableEq, Repr

/-- Inclusive read budgets. -/
structure ReadLimits where
  maxInputBytes : UInt64 := 64 * 1024 * 1024
  maxBlocks : UInt64 := 1024 * 1024
  maxElements : UInt64 := 4 * 1024 * 1024
  maxRows : UInt64 := 1024 * 1024
  maxCells : UInt64 := 4 * 1024 * 1024
  maxCellBytes : UInt64 := 1024 * 1024
  deriving DecidableEq

def ReadLimits.unlimited : ReadLimits :=
  let maximum : UInt64 := 0xFFFFFFFFFFFFFFFF
  ⟨maximum, maximum, maximum, maximum, maximum, maximum⟩

def limitFailure : GefStatus :=
  .failure ⟨.resource, .limitExceeded, "the configured GEF read budget was exceeded", 0⟩

def writeFailure : GefStatus :=
  .failure ⟨.io, .writeFailed, "the file write, flush, close or replacement failed", 0⟩

/-- `finishWrite`: the stream as it is left, and the status. -/
def finishWrite (flush close : IOResult) (file : OStream) : OStream × GefStatus :=
  let file := file.flush flush
  let flushed := !file.failed
  let file := file.close close
  (file, if flushed && !file.failed then .success else writeFailure)

theorem finishWrite_success {fl cl : IOResult} {s : OStream} :
    (finishWrite fl cl s).2 = .success ↔ s.Finished fl cl := by
  simp only [finishWrite, OStream.Finished, OStream.finish]
  cases (s.flush fl).failed <;> cases ((s.flush fl).close cl).failed <;> simp [writeFailure]

/-- The environment of one `write`: the results of its calls on the output stream. -/
structure WriteEnv where
  opens : Bool
  writes : Nat → IOResult
  flush : IOResult
  close : IOResult

/-- No call on the output stream fails. -/
structure WriteEnv.Healthy (env : WriteEnv) : Prop where
  opens : env.opens = true
  writes : ∀ i, (env.writes i).ok = true
  flush : env.flush.ok = true
  close : env.close.ok = true

/-- The calls on the output stream that a `write` makes: the bytes of each `write`, and
how the loop that makes them ends. -/
structure Emitted where
  chunks : List Bytes
  ended : Except Abort Unit

/-- What remains of a `write` once its calls are known: open in mode `app` or `trunc`, the
calls, `finishWrite`. When the loop throws, the destructor of the stream closes it. -/
def Emitted.save (e : Emitted) (env : WriteEnv) (openFailure : GefError) (isUpdate : Bool)
    (before : Option Bytes) : Option Bytes × Except Abort GefStatus :=
  if !env.opens then (before, .ok (.failure openFailure))
  else
    let file := OStream.opened (if isUpdate then before.getD [] else [])
    let file := file.writeAll env.writes e.chunks
    match e.ended with
    | .error abort => (some (file.close env.close).disk, .error abort)
    | .ok () =>
      let (file, status) := finishWrite env.flush env.close file
      (some file.disk, .ok status)

end WSE.Impl.Gef
