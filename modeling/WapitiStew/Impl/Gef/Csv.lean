import WapitiStew.Impl.Gef.Errors

/-!
# The CSV controller

`CSVController` of `core/gef/csv/csvController.cpp`: a table of cells, read byte
by byte with the budgets of `ReadLimits` and written cell by cell. `alloc` says
of every byte whether the allocations for it succeed. The `uint64_t` counters
`cells` and `bytes` are natural numbers: each is compared with its budget before
it grows, so neither reaches `2 ^ 64`.
-/

namespace WSE.Impl.Gef

open WSE.Framework

abbrev CsvRows := List (List Bytes)

def comma : Byte := 0x2C
def newline : Byte := 0x0A

/-- The local variables of `readCsv`. -/
structure CsvState where
  staged : CsvRows
  row : List Bytes
  cell : Bytes
  file : IStream
  cells : Nat
  bytes : Nat
  lineStarted : Bool
  cellPending : Bool

/-- How one round of the loop ends: it goes on, breaks out of the loop, or ends the call. -/
inductive CsvFlow
  | next (s : CsvState)
  | leave (s : CsvState)
  | stop (result : Except Exception GefStatus)

/-- The cells of the retained rows, unless they exceed the budgets. -/
def retainedCells (limits : ReadLimits) : CsvRows → Nat → Option Nat
  | [], cells => some cells
  | row :: rows, cells =>
    if limits.maxCells.toNat - cells < row.length then none
    else if row.any fun cell => limits.maxCellBytes.toNat < cell.length then none
    else retainedCells limits rows (cells + row.length)

/-- `append_cell`: `none` when the cell budget is used up. -/
def CsvState.appendCell (limits : ReadLimits) (s : CsvState) : Option CsvState :=
  if s.cells = limits.maxCells.toNat then none
  else some { s with row := s.row ++ [s.cell], cell := [], cells := s.cells + 1 }

/-- `cell_pending && !append_cell()`, with `none` where that holds. -/
def CsvState.appendPending (limits : ReadLimits) (s : CsvState) : Option CsvState :=
  if s.cellPending then s.appendCell limits else some s

/-- What the loop does with one byte. -/
def csvByte (limits : ReadLimits) (value : Byte) (s : CsvState) : CsvFlow :=
  if value = newline then
    match s.appendPending limits with
    | none => .stop (.ok limitFailure)
    | some s =>
      .next { s with staged := s.staged ++ [s.row], row := [], lineStarted := false, cellPending := false }
  else
    let s := { s with lineStarted := true }
    if value = comma then
      match s.appendCell limits with
      | none => .stop (.ok limitFailure)
      | some s => .next { s with cellPending := false }
    else if s.cell.length = limits.maxCellBytes.toNat then .stop (.ok limitFailure)
    else .next { s with cell := s.cell ++ [value], cellPending := true }

/-- One round of the loop, after a `peek` that is not `EOF`. -/
def csvRound (alloc : Nat → Bool) (limits : ReadLimits) (s : CsvState) : CsvFlow :=
  if s.bytes = limits.maxInputBytes.toNat ∨ limits.maxRows.toNat ≤ s.staged.length then
    .stop (.ok limitFailure)
  else
    match s.file.get with
    | (none, file) => .leave { s with file := file }
    | (some value, file) =>
      if alloc s.bytes then csvByte limits value { s with file := file, bytes := s.bytes + 1 }
      else .stop (.error .badAlloc)

theorem csvByte_file {limits : ReadLimits} {value : Byte} {s s' : CsvState}
    (h : csvByte limits value s = .next s') : s'.file = s.file := by
  unfold csvByte CsvState.appendPending CsvState.appendCell at h
  split at h
  · split at h
    · cases h
    · rename_i t ht
      cases h
      split at ht
      · split at ht
        · cases ht
        · cases ht
          rfl
      · cases ht
        rfl
  · dsimp only at h
    split at h
    · split at h
      · cases h
      · rename_i t ht
        cases h
        split at ht
        · cases ht
        · cases ht
          rfl
    · split at h
      · cases h
      · cases h
        rfl

theorem csvRound_rest {alloc : Nat → Bool} {limits : ReadLimits} {s s' : CsvState}
    (h : csvRound alloc limits s = .next s') : s'.file.rest.length < s.file.rest.length := by
  unfold csvRound at h
  split at h
  · cases h
  · split at h
    · cases h
    · rename_i value file hget
      split at h
      · rw [csvByte_file h, IStream.rest_get hget]
        exact Nat.lt_succ_self _
      · cases h

/-- The loop of `readCsv`, with the stream as the last `peek` leaves it. -/
def csvLoop (alloc : Nat → Bool) (limits : ReadLimits) (s : CsvState) : CsvFlow :=
  match s.file.peek with
  | (none, file) => .leave { s with file := file }
  | (some _, _) =>
    match _h : csvRound alloc limits s with
    | .stop result => .stop result
    | .leave s => .leave s
    | .next s => csvLoop alloc limits s
termination_by s.file.rest.length
decreasing_by exact csvRound_rest _h

/-- `readCsv`: the rows after the call, and how it ends. -/
def readCsv (alloc : Nat → Bool) (input : InputFile) (limits : ReadLimits) (rows : CsvRows) :
    CsvRows × Except Exception GefStatus :=
  if !input.opens then
    (rows, .ok (.failure ⟨.io, .fileOpenFailed, "the CSV file cannot be opened", 0⟩))
  else if limits.maxRows.toNat < rows.length then (rows, .ok limitFailure)
  else
    match retainedCells limits rows 0 with
    | none => (rows, .ok limitFailure)
    | some cells =>
      match csvLoop alloc limits ⟨rows, [], [], input.stream, cells, 0, false, false⟩ with
      | .stop result => (rows, result)
      | .next s | .leave s =>
        if s.file.badbit || !s.file.eofbit then
          (rows, .ok (.failure ⟨.io, .readFailed, "the CSV stream failed", 0⟩))
        else
          match if s.lineStarted then
              (s.appendPending limits).map fun s => { s with staged := s.staged ++ [s.row] }
            else some s with
          | none => (rows, .ok limitFailure)
          | some s =>
            if s.file.clear.close.fail then
              (rows, .ok (.failure ⟨.io, .readFailed, "the CSV stream cannot be closed", 0⟩))
            else (s.staged, .ok .success)

structure CSVController where
  contents : CsvRows := []
  deriving DecidableEq

namespace CSVController

/-- `readWithLimits`: append the rows of a file. -/
def readWithLimits (alloc : Nat → Bool) (input : InputFile) (limits : ReadLimits)
    (c : CSVController) : CSVController × Except Exception GefStatus :=
  let (rows, result) := readCsv alloc input limits c.contents
  (⟨rows⟩, result)

def read (alloc : Nat → Bool) (input : InputFile) (c : CSVController) :
    CSVController × Except Exception GefStatus :=
  c.readWithLimits alloc input .unlimited

/-- `readReplace`: replace the table by the rows of a file. -/
def readReplace (alloc : Nat → Bool) (input : InputFile) (limits : ReadLimits)
    (c : CSVController) : CSVController × Except Exception GefStatus :=
  let (staged, result) := readCsv alloc input limits []
  (if result = .ok .success then ⟨staged⟩ else c, result)

/-- The calls on the stream: each cell and its delimiter, and the end of each row. -/
def emitted (c : CSVController) : Emitted :=
  ⟨c.contents.flatMap fun row => row.flatMap (fun cell => [cell, [comma]]) ++ [[newline]], .ok ()⟩

def write (env : WriteEnv) (c : CSVController) (before : Option Bytes) :
    Option Bytes × Except Abort GefStatus :=
  c.emitted.save env ⟨.io, .fileOpenFailed, "the CSV file cannot be opened", 0⟩ false before

end CSVController

end WSE.Impl.Gef
