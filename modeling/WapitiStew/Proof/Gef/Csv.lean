import WapitiStew.Proof.Gef.CsvRead
import WapitiStew.Proof.Gef.Save

/-!
# CSV files: reading and writing

`parse_render` and `clean_parse` are the two halves of the round trip. Budgets that
suffice for any file of a size (`Fits`) do for what is read of it (`readCsv_fits`), and
`csv_roundtrip` puts them together.
-/

namespace WSE.Proof.Gef

open WSE.Framework WSE.Impl.Gef WSE.Spec.Gef

/-! ## The format -/

/-- A cell up to its comma. -/
theorem cellsOf_comma {c : Bytes} (cell rest : Bytes) (h : comma ∉ c) :
    cellsOf cell (c ++ comma :: rest) = (cell ++ c) :: cellsOf [] rest := by
  induction c generalizing cell with
  | nil => rw [List.nil_append, cellsOf, if_pos rfl, List.append_nil]
  | cons b c ih =>
    obtain ⟨hb, hc⟩ := not_or.mp (mt List.mem_cons.mpr h)
    rw [List.cons_append, cellsOf, if_neg (Ne.symm hb), ih _ hc, List.append_assoc,
      List.singleton_append]

/-- A line up to its newline. -/
theorem rowsOf_newline {l : Bytes} (line rest : Bytes) (h : newline ∉ l) :
    rowsOf line (l ++ newline :: rest) = cellsOf [] (line ++ l) :: rowsOf [] rest := by
  induction l generalizing line with
  | nil => rw [List.nil_append, rowsOf, if_pos rfl, List.append_nil]
  | cons b l ih =>
    obtain ⟨hb, hl⟩ := not_or.mp (mt List.mem_cons.mpr h)
    rw [List.cons_append, rowsOf, if_neg (Ne.symm hb), ih _ hl, List.append_assoc,
      List.singleton_append]

theorem renderRow_cons (cell : Bytes) (row : List Bytes) :
    renderRow (cell :: row) = cell ++ comma :: renderRow row := by
  rw [renderRow, List.flatMap_cons, ← renderRow, List.append_assoc, List.singleton_append]

theorem cellsOf_renderRow {row : List Bytes} (h : ∀ cell ∈ row, comma ∉ cell) :
    cellsOf [] (renderRow row) = row := by
  induction row with
  | nil => rfl
  | cons cell row ih =>
    rw [renderRow_cons, cellsOf_comma _ _ (h cell List.mem_cons_self), List.nil_append,
      ih fun c hc => h c (List.mem_cons_of_mem _ hc)]

theorem newline_notMem_renderRow {row : List Bytes} (h : ∀ cell ∈ row, newline ∉ cell) :
    newline ∉ renderRow row := by
  intro hmem
  obtain ⟨cell, hcell, hm⟩ := List.mem_flatMap.mp hmem
  rcases List.mem_append.mp hm with hm | hm
  · exact h cell hcell hm
  · exact absurd (List.mem_singleton.mp hm) (by decide)

/-- A table of clean cells is read back from its rendering. -/
theorem parse_render {rows : CsvRows} (h : Clean rows) : parse (render rows) = rows := by
  induction rows with
  | nil => rfl
  | cons row rows ih =>
    have hrow := h row List.mem_cons_self
    have hclean : Clean rows := fun r hr => h r (List.mem_cons_of_mem _ hr)
    rw [parse, render, List.flatMap_cons, List.append_assoc, List.singleton_append,
      rowsOf_newline _ _ (newline_notMem_renderRow fun c hc => (hrow c hc).2), List.nil_append,
      cellsOf_renderRow fun c hc => (hrow c hc).1]
    exact congrArg (row :: ·) (ih hclean)

theorem clean_cellsOf {cell bytes : Bytes} (hc : comma ∉ cell ∧ newline ∉ cell)
    (hb : newline ∉ bytes) : ∀ c ∈ cellsOf cell bytes, comma ∉ c ∧ newline ∉ c := by
  induction bytes generalizing cell with
  | nil =>
    intro c hmem
    rw [cellsOf] at hmem
    split at hmem
    · cases hmem
    · rw [List.mem_singleton.mp hmem]
      exact hc
  | cons b bytes ih =>
    obtain ⟨hne, hbytes⟩ := not_or.mp (mt List.mem_cons.mpr hb)
    intro c hmem
    rw [cellsOf] at hmem
    split at hmem
    · rcases List.mem_cons.mp hmem with rfl | hmem
      · exact hc
      · exact ih ⟨List.not_mem_nil, List.not_mem_nil⟩ hbytes c hmem
    · rename_i hcomma
      refine ih ⟨fun hm => ?_, fun hm => ?_⟩ hbytes c hmem
      · rcases List.mem_append.mp hm with hm | hm
        · exact hc.1 hm
        · exact hcomma (List.mem_singleton.mp hm).symm
      · rcases List.mem_append.mp hm with hm | hm
        · exact hc.2 hm
        · exact hne (List.mem_singleton.mp hm)

theorem clean_rowsOf {line bytes : Bytes} (hl : newline ∉ line) : Clean (rowsOf line bytes) := by
  induction bytes generalizing line with
  | nil =>
    intro row hrow
    rw [rowsOf] at hrow
    split at hrow
    · cases hrow
    · rw [List.mem_singleton.mp hrow]
      exact clean_cellsOf ⟨List.not_mem_nil, List.not_mem_nil⟩ hl
  | cons b bytes ih =>
    intro row hrow
    rw [rowsOf] at hrow
    split at hrow
    · rcases List.mem_cons.mp hrow with rfl | hrow
      · exact clean_cellsOf ⟨List.not_mem_nil, List.not_mem_nil⟩ hl
      · exact ih List.not_mem_nil row hrow
    · rename_i hb
      refine ih (fun hm => ?_) row hrow
      rcases List.mem_append.mp hm with hm | hm
      · exact hl hm
      · exact hb (List.mem_singleton.mp hm).symm

/-- What is read from any file is clean. -/
theorem clean_parse (bytes : Bytes) : Clean (parse bytes) := clean_rowsOf List.not_mem_nil

/-! ## Budgets that suffice -/

/-- Budgets that suffice for the rows of any file of `n` bytes, behind the retained rows. -/
structure Fits (limits : ReadLimits) (rows : CsvRows) (n : Nat) : Prop where
  bytes : n ≤ limits.maxInputBytes.toNat
  rowCount : rows.length + n ≤ limits.maxRows.toNat
  cells : cellCount rows + n ≤ limits.maxCells.toNat
  cellBytes : n ≤ limits.maxCellBytes.toNat
  retained : ∀ row ∈ rows, ∀ cell ∈ row, cell.length ≤ limits.maxCellBytes.toNat

/-- The cells of a line are no more than its bytes, and none is longer than the line. -/
theorem cellsOf_length (cell bytes : Bytes) :
    (cellsOf cell bytes).length ≤ cell.length + bytes.length ∧
      ∀ c ∈ cellsOf cell bytes, c.length ≤ cell.length + bytes.length := by
  induction bytes generalizing cell with
  | nil =>
    rw [cellsOf]
    split
    · exact ⟨Nat.zero_le _, fun c hc => absurd hc List.not_mem_nil⟩
    · rename_i hne
      have hpos := List.length_pos_iff.mpr hne
      refine ⟨by rw [List.length_singleton]; omega, fun c hc => ?_⟩
      rw [List.mem_singleton.mp hc]
      omega
  | cons b bytes ih =>
    rw [cellsOf]
    split
    · obtain ⟨hlen, hcells⟩ := ih []
      rw [List.length_nil, Nat.zero_add] at hlen hcells
      refine ⟨by rw [List.length_cons, List.length_cons]; omega, fun c hc => ?_⟩
      rw [List.length_cons]
      obtain rfl | hc := List.mem_cons.mp hc
      · omega
      · have := hcells c hc
        omega
    · obtain ⟨hlen, hcells⟩ := ih (cell ++ [b])
      rw [List.length_append, List.length_singleton] at hlen hcells
      refine ⟨by rw [List.length_cons]; omega, fun c hc => ?_⟩
      have := hcells c hc
      rw [List.length_cons]
      omega

/-- So are the rows of a file, and their cells. -/
theorem rowsOf_length (line bytes : Bytes) :
    (rowsOf line bytes).length ≤ line.length + bytes.length ∧
      cellCount (rowsOf line bytes) ≤ line.length + bytes.length ∧
      ∀ row ∈ rowsOf line bytes, ∀ c ∈ row, c.length ≤ line.length + bytes.length := by
  have hline := cellsOf_length [] line
  rw [List.length_nil, Nat.zero_add] at hline
  induction bytes generalizing line with
  | nil =>
    rw [rowsOf]
    split
    · exact ⟨Nat.zero_le _, Nat.zero_le _, fun row hrow => absurd hrow List.not_mem_nil⟩
    · rename_i hne
      have hpos := List.length_pos_iff.mpr hne
      refine ⟨by rw [List.length_singleton]; omega, ?_, fun row hrow => ?_⟩
      · rw [cellCount_cons]
        exact hline.1
      · rw [List.mem_singleton.mp hrow]
        exact hline.2
  | cons b bytes ih =>
    rw [rowsOf]
    split
    · obtain ⟨hrows, hcells, hlen⟩ := ih [] ⟨Nat.le_refl _, fun c hc => absurd hc List.not_mem_nil⟩
      rw [List.length_nil, Nat.zero_add] at hrows hcells hlen
      refine ⟨by rw [List.length_cons, List.length_cons]; omega, ?_, fun row hrow c hc => ?_⟩
      · have := hline.1
        rw [cellCount_cons, List.length_cons]
        omega
      · rw [List.length_cons]
        obtain rfl | hrow := List.mem_cons.mp hrow
        · have := hline.2 c hc
          omega
        · have := hlen row hrow c hc
          omega
    · have hbegun := cellsOf_length [] (line ++ [b])
      rw [List.length_nil, Nat.zero_add] at hbegun
      obtain ⟨hrows, hcells, hlen⟩ := ih (line ++ [b]) hbegun
      rw [List.length_append, List.length_singleton] at hrows hcells hlen
      refine ⟨by rw [List.length_cons]; omega, by rw [List.length_cons]; omega, ?_⟩
      intro row hrow c hc
      have := hlen row hrow c hc
      rw [List.length_cons]
      omega

theorem readCsv_fits {alloc : Nat → Bool} (halloc : ∀ i, alloc i = true) {input : InputFile}
    (hread : input.Readable) {limits : ReadLimits} {rows : CsvRows}
    (hfits : Fits limits rows input.bytes.length) :
    readCsv alloc input limits rows = (rows ++ parse input.bytes, .ok .success) := by
  obtain ⟨hrows, hcells, hlen⟩ := rowsOf_length [] input.bytes
  rw [List.length_nil, Nat.zero_add] at hrows hcells hlen
  refine readCsv_completes ⟨hread, fun i _ => halloc i, ?_, ?_, fun row hrow cell hcell => ?_,
    hfits.bytes⟩
  · rw [List.length_append]
    exact Nat.le_trans (Nat.add_le_add_left hrows _) hfits.rowCount
  · rw [cellCount_append]
    exact Nat.le_trans (Nat.add_le_add_left hcells _) hfits.cells
  · obtain hr | hr := List.mem_append.mp hrow
    · exact hfits.retained row hr cell hcell
    · exact Nat.le_trans (hlen row hr cell hcell) hfits.cellBytes

/-! ## Round trips -/

theorem flatten_emitted (c : CSVController) : c.emitted.chunks.flatten = render c.contents := by
  have hrow : ∀ row : List Bytes,
      (row.flatMap fun cell => [cell, [comma]]).flatten = renderRow row := by
    intro row
    induction row with
    | nil => rfl
    | cons cell row ih =>
      rw [List.flatMap_cons, List.flatten_append, ih, renderRow_cons]
      simp
  unfold CSVController.emitted render
  dsimp only
  induction c.contents with
  | nil => rfl
  | cons row rows ih =>
    rw [List.flatMap_cons, List.flatten_append, ih, List.flatMap_cons, List.flatten_append, hrow]
    simp

theorem fits_unlimited {n : Nat} (h : n ≤ maxFileSize) : Fits .unlimited [] n := by
  have hn : n ≤ 2 ^ 64 - 1 := Nat.le_trans h (by decide)
  refine ⟨?_, ?_, ?_, ?_, fun row hrow => absurd hrow List.not_mem_nil⟩ <;>
    simp only [ReadLimits.unlimited, maxUInt64_toNat, cellCount, List.length_nil, List.map_nil,
      List.sum_nil] <;>
    omega

/-- A read of `file` into an empty controller succeeds with `rows`, unless it meets an I/O error
or a failing allocation. -/
def CsvReadsAs (file : Bytes) (rows : CsvRows) : Prop :=
  ∀ (alloc : Nat → Bool) (input : InputFile), (∀ i, alloc i = true) → input.Readable →
    input.bytes = file → CSVController.read alloc input {} = (⟨rows⟩, .ok .success)

theorem csvReadsAs_parse {file : Bytes} (h : file.length ≤ maxFileSize) :
    CsvReadsAs file (parse file) := by
  intro alloc input halloc hread hbytes
  subst hbytes
  unfold CSVController.read CSVController.readWithLimits
  rw [readCsv_fits halloc hread (fits_unlimited h)]
  rfl

theorem csv_write_success {env : WriteEnv} {c : CSVController} {before : Option Bytes}
    {file : Bytes} (h : c.write env before = (some file, .ok .success)) :
    file = render c.contents ∧ file.length ≤ maxFileSize := by
  have hfile := save_success h
  rw [flatten_emitted] at hfile
  exact ⟨Option.some.inj hfile, save_length h (Nat.zero_le _)⟩

theorem csv_write_healthy {env : WriteEnv} (henv : env.Healthy) (c : CSVController)
    (before : Option Bytes) (hsize : (render c.contents).length ≤ maxFileSize) :
    c.write env before = (some (render c.contents), .ok .success) := by
  have h := save_healthy (e := c.emitted) rfl henv
    ⟨.io, .fileOpenFailed, "the CSV file cannot be opened", 0⟩ false before
    (by rw [flatten_emitted]; exact hsize)
  rw [flatten_emitted] at h
  exact h

/-- A table of clean cells is written and read back cell for cell and row for row; what is read
from any file is read back from what is written of it; and a read into a table that holds rows
appends exactly the rows of the file, those a read into an empty table finds. -/
theorem csv_roundtrip :
    (∀ rows, Clean rows → ∀ env before file,
      CSVController.write env ⟨rows⟩ before = (some file, .ok .success) → CsvReadsAs file rows) ∧
    (∀ rows env before, env.Healthy → (render rows).length ≤ maxFileSize →
      CSVController.write env ⟨rows⟩ before = (some (render rows), .ok .success)) ∧
    (∀ alloc input table, CSVController.read alloc input {} = (table, .ok .success) →
      ∀ env before file, table.write env before = (some file, .ok .success) →
        CsvReadsAs file table.contents) ∧
    (∀ alloc input limits c c', CSVController.readWithLimits alloc input limits c =
        (c', .ok .success) →
      c'.contents = c.contents ++ parse input.bytes ∧
      ∀ alloc' limits' c'', CSVController.readWithLimits alloc' input limits' {} =
        (c'', .ok .success) → c'.contents = c.contents ++ c''.contents) ∧
    (∀ alloc input limits c, (∀ i, alloc i = true) → input.Readable →
      Fits limits c.contents input.bytes.length →
      CSVController.readWithLimits alloc input limits c =
        (⟨c.contents ++ parse input.bytes⟩, .ok .success)) := by
  have hwrite : ∀ rows, Clean rows → ∀ env before file,
      CSVController.write env ⟨rows⟩ before = (some file, .ok .success) → CsvReadsAs file rows := by
    intro rows hclean env before file h
    obtain ⟨hfile, hlen⟩ := csv_write_success h
    have hreads := csvReadsAs_parse hlen
    rw [hfile, parse_render hclean] at hreads
    rw [hfile]
    exact hreads
  have happend : ∀ alloc input limits c c', CSVController.readWithLimits alloc input limits c =
      (c', .ok .success) → c'.contents = c.contents ++ parse input.bytes := by
    intro alloc input limits c c' h
    unfold CSVController.readWithLimits at h
    obtain ⟨hok, -⟩ | ⟨r, hr, hne, -⟩ := readCsv_exact alloc input limits c.contents
    · rw [hok] at h
      rw [← (Prod.mk.inj h).1]
    · rw [hr] at h
      exact absurd (Prod.mk.inj h).2 hne
  refine ⟨hwrite, fun rows env before henv hsize => csv_write_healthy henv ⟨rows⟩ before hsize,
    fun alloc input table h env before file hw => ?_,
    fun alloc input limits c c' h => ⟨happend _ _ _ _ _ h, fun alloc' limits' c'' h' => ?_⟩,
    fun alloc input limits c halloc hread hfits => ?_⟩
  · have htable := happend _ _ _ _ _ h
    have hclean : Clean table.contents := by
      rw [htable]
      exact clean_parse input.bytes
    exact hwrite table.contents hclean env before file hw
  · rw [happend _ _ _ _ _ h, happend _ _ _ _ _ h']
    rfl
  · unfold CSVController.readWithLimits
    rw [readCsv_fits halloc hread hfits]

end WSE.Proof.Gef
