import WapitiStew.Framework.History
import WapitiStew.Impl.Tmr.MediaFoundationCamera

/-!
# What a Media Foundation camera reads

A monitor of the history (`mediaFoundationReads`) knows which requests the open reader may
still answer, what was published and not yet read, and what was requested since the
latest start. It decides for itself, from what the reader answers and brings, that the
reader has failed: when `Flush` fails or the wait for it ends before `OnFlush`, when
`ReadSample` fails, or when `readFrame` moves out an error or the end of the stream; what a
stop discards nobody finds.
-/

namespace WSE.Spec.Tmr

open WSE.Framework WSE.Impl.Tmr

structure ReadBooks where
  isOpen : Bool := false
  failed : Bool := false
  /-- Requests that the open reader may still answer. -/
  outstanding : List Nat := []
  /-- Published, and neither read nor discarded. -/
  unread : Option Nat := none
  /-- What is unread came with an error or the end of the stream. -/
  ends : Bool := false
  /-- A `Flush` was accepted, and `OnFlush` has not come. -/
  flushing : Bool := false
  /-- What `readFrame` has moved out last. -/
  taken : Option Nat := none
  /-- Requested since the latest start. -/
  current : List Nat := []

/-- A start or a publication needs an open reader that has not failed, a request that none is
outstanding, a publication that nothing is unread. A frame that is returned was moved out and was
requested since the latest start. -/
def mediaFoundationReads : Monitor MediaFoundationEvent ReadBooks where
  init := {}
  next
    | b, .opened => { b with isOpen := true }
    | b, .started => { b with current := [] }
    | b, .requested hr r =>
      if hresultFailed hr then { b with failed := true }
      else { b with outstanding := b.outstanding ++ [r], current := b.current ++ [r] }
    | b, .answered r status flags true =>
      { b with
        outstanding := b.outstanding.erase r, unread := some r, ends := readerEnded status flags }
    | b, .answered r _ _ false => { b with outstanding := b.outstanding.erase r }
    | b, .taken =>
      { b with taken := b.unread, unread := none, ends := false, failed := b.ends || b.failed }
    | b, .discarded => { b with unread := none, ends := false }
    | b, .flushRequested hr =>
      if hresultFailed hr then { b with failed := true } else { b with flushing := true }
    | b, .flushed => { b with outstanding := [], flushing := false }
    | b, .flushWaited => { b with failed := b.flushing || b.failed }
    | b, .closed =>
      { b with isOpen := false, failed := false, outstanding := [], flushing := false }
    | b, .returned _ => { b with taken := none }
  allowed
    | b, .opened => b.isOpen = false
    | b, .started => b.isOpen = true ∧ b.failed = false ∧ b.unread = none
    | b, .requested _ _ => b.outstanding = []
    | b, .answered r _ _ true =>
      b.isOpen = true ∧ b.failed = false ∧ r ∈ b.outstanding ∧ b.unread = none
    | b, .closed => b.unread = none
    | b, .returned (.frame r _ _) => b.taken = some r ∧ r ∈ b.current
    | _, _ => True

/-- The samples that were published, in order of arrival. -/
def receivedSamples (log : List MediaFoundationEvent) : List Nat :=
  log.filterMap fun
    | .answered r _ _ true => some r
    | _ => none

/-- The samples that `readFrame` has returned. -/
def returnedSamples (log : List MediaFoundationEvent) : List Nat :=
  log.filterMap fun
    | .returned (.frame r _ _) => some r
    | _ => none

end WSE.Spec.Tmr
