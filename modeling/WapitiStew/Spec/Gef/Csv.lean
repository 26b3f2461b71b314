import WapitiStew.Impl.Gef.Csv

/-!
# The CSV format

A file is a sequence of lines, the last of which may lack its newline, and a
line is a sequence of cells, each ended by a comma except that the last one may
lack it when it is not empty. `parse` reads a file so, and `render` writes every
cell with its comma and every row with its newline.
-/

namespace WSE.Spec.Gef

open WSE.Framework WSE.Impl.Gef

/-- The cells of a line, of which `cell` begins the first. -/
def cellsOf (cell : Bytes) : Bytes → List Bytes
  | [] => if cell = [] then [] else [cell]
  | b :: bs => if b = comma then cell :: cellsOf [] bs else cellsOf (cell ++ [b]) bs

/-- The rows of a file, of which `line` begins the first. -/
def rowsOf (line : Bytes) : Bytes → CsvRows
  | [] => if line = [] then [] else [cellsOf [] line]
  | b :: bs => if b = newline then cellsOf [] line :: rowsOf [] bs else rowsOf (line ++ [b]) bs

def parse (bytes : Bytes) : CsvRows := rowsOf [] bytes

def renderRow (row : List Bytes) : Bytes := row.flatMap (· ++ [comma])

def render (rows : CsvRows) : Bytes := rows.flatMap fun row => renderRow row ++ [newline]

/-- No cell contains the delimiter or a line break. -/
def Clean (rows : CsvRows) : Prop := ∀ row ∈ rows, ∀ cell ∈ row, comma ∉ cell ∧ newline ∉ cell

instance (rows : CsvRows) : Decidable (Clean rows) := by
  unfold Clean
  infer_instance

def cellCount (rows : CsvRows) : Nat := (rows.map List.length).sum

/-- A table, read from so many bytes in the end, is within the budgets. -/
structure WithinLimits (limits : ReadLimits) (table : CsvRows) (bytes : Nat) : Prop where
  rows : table.length ≤ limits.maxRows.toNat
  cells : cellCount table ≤ limits.maxCells.toNat
  cellBytes : ∀ row ∈ table, ∀ cell ∈ row, cell.length ≤ limits.maxCellBytes.toNat
  inputBytes : bytes ≤ limits.maxInputBytes.toNat

/-- No I/O operation, allocation or budget ends the read of the file behind the retained rows. -/
structure Completes (alloc : Nat → Bool) (input : InputFile) (limits : ReadLimits)
    (retained : CsvRows) : Prop where
  readable : input.Readable
  allocated : ∀ i < input.bytes.length, alloc i = true
  within : WithinLimits limits (retained ++ parse input.bytes) input.bytes.length

end WSE.Spec.Gef
