import WapitiStew.Spec.Gef.Csv

/-!
# CSV files: reading within budgets

The reader's locals after the bytes `line` of the current line are described by
`AtLine`: the row and the cell so far, continued by any rest of the line, are the
cells of the whole line. So what is staged and what the rest of the file makes of
it is one table from the first byte to the last. Where the reader stops, that
table is not within the budgets; while it goes on, what it has staged is (`Held`).
Every byte keeps this (`csvByte_cases`), so the loop ends with the table or finds
that it is not within the budgets (`csvLoop_cases`), and a read succeeds exactly
when the whole table is within (`readCsv_exact`).
-/

namespace WSE.Proof.Gef

open WSE.Framework WSE.Impl.Gef WSE.Spec.Gef

/-! ## The table that is being read -/

theorem cellCount_append (xs ys : CsvRows) :
    cellCount (xs ++ ys) = cellCount xs + cellCount ys := by
  rw [cellCount, List.map_append, List.sum_append, ← cellCount, ← cellCount]

theorem cellCount_cons (row : List Bytes) (rows : CsvRows) :
    cellCount (row :: rows) = row.length + cellCount rows := by
  rw [cellCount, List.map_cons, List.sum_cons, ← cellCount]

/-- A line that has begun is a row, which some bytes end. -/
theorem rowsOf_begun {line : Bytes} (h : line ≠ []) (rest : Bytes) :
    ∃ l more, rowsOf line rest = cellsOf [] (line ++ l) :: more := by
  induction rest generalizing line with
  | nil =>
    refine ⟨[], [], ?_⟩
    rw [rowsOf, if_neg h, List.append_nil]
  | cons b rest ih =>
    rw [rowsOf]
    split
    · exact ⟨[], _, by rw [List.append_nil]⟩
    · obtain ⟨l, more, he⟩ := ih (List.append_ne_nil_of_right_ne_nil line (List.cons_ne_nil b []))
      exact ⟨b :: l, more, by rw [he, List.append_assoc, List.singleton_append]⟩

/-- A cell that has begun is a cell, which some bytes end. -/
theorem cellsOf_begun {cell : Bytes} (h : cell ≠ []) (rest : Bytes) :
    ∃ c more, cellsOf cell rest = (cell ++ c) :: more := by
  induction rest generalizing cell with
  | nil =>
    refine ⟨[], [], ?_⟩
    rw [cellsOf, if_neg h, List.append_nil]
  | cons b rest ih =>
    rw [cellsOf]
    split
    · exact ⟨[], _, by rw [List.append_nil]⟩
    · obtain ⟨c, more, he⟩ := ih (List.append_ne_nil_of_right_ne_nil cell (List.cons_ne_nil b []))
      exact ⟨b :: c, more, by rw [he, List.append_assoc, List.singleton_append]⟩

/-- A table is beyond the cell budget when what is staged and a row of it are. -/
theorem not_within_cells {limits : ReadLimits} {staged more : CsvRows} {row : List Bytes} {n : Nat}
    (h : limits.maxCells.toNat < cellCount staged + row.length) :
    ¬WithinLimits limits (staged ++ row :: more) n := by
  intro hw
  have hcells := hw.cells
  rw [cellCount_append, cellCount_cons] at hcells
  omega

/-! ## The locals of the reader -/

/-- The locals after the bytes `line` of the current line. -/
structure AtLine (s : CsvState) (line : Bytes) : Prop where
  cells : ∀ rest, cellsOf [] (line ++ rest) = s.row ++ cellsOf s.cell rest
  started : s.lineStarted = !line.isEmpty
  pending : s.cellPending = !s.cell.isEmpty

/-- What is staged is within the budgets. -/
structure Held (limits : ReadLimits) (s : CsvState) (line : Bytes) : Prop where
  bytes : s.bytes ≤ limits.maxInputBytes.toNat
  rows : s.staged.length ≤ limits.maxRows.toNat
  begun : line ≠ [] → s.staged.length < limits.maxRows.toNat
  counted : s.cells = cellCount s.staged + s.row.length
  cells : s.cells ≤ limits.maxCells.toNat
  staged : ∀ row ∈ s.staged, ∀ cell ∈ row, cell.length ≤ limits.maxCellBytes.toNat
  row : ∀ cell ∈ s.row, cell.length ≤ limits.maxCellBytes.toNat
  cell : s.cell.length ≤ limits.maxCellBytes.toNat

theorem AtLine.row {s : CsvState} {line : Bytes} (h : AtLine s line) :
    cellsOf [] line = s.row ++ if s.cellPending then [s.cell] else [] := by
  have hcells := h.cells []
  rw [List.append_nil] at hcells
  rw [hcells, h.pending, cellsOf]
  cases s.cell <;> rfl

/-- The cells of the line so far. -/
theorem Held.line {limits : ReadLimits} {s : CsvState} {line : Bytes} (hs : Held limits s line)
    (h : AtLine s line) : ∀ cell ∈ cellsOf [] line, cell.length ≤ limits.maxCellBytes.toNat := by
  rw [h.row]
  intro cell hcell
  obtain hc | hc := List.mem_append.mp hcell
  · exact hs.row cell hc
  · split at hc
    · rw [List.mem_singleton.mp hc]
      exact hs.cell
    · exact nomatch hc

/-- The row that a newline or the end of the file completes. -/
theorem appendPending_cases (limits : ReadLimits) {s : CsvState} {line : Bytes}
    (h : AtLine s line) (hs : Held limits s line) :
    (∃ t, s.appendPending limits = some t ∧ t.row = cellsOf [] line ∧ t.cell = [] ∧
      t.staged = s.staged ∧ t.file = s.file ∧ t.bytes = s.bytes ∧
      t.cells = cellCount s.staged + (cellsOf [] line).length ∧
      t.cells ≤ limits.maxCells.toNat) ∨
    (s.appendPending limits = none ∧
      limits.maxCells.toNat < cellCount s.staged + (cellsOf [] line).length) := by
  have hcounted := hs.counted
  have hcells := hs.cells
  unfold CsvState.appendPending CsvState.appendCell
  rw [h.row]
  cases hp : s.cellPending with
  | true =>
    rw [if_pos rfl, if_pos rfl, List.length_append, List.length_singleton]
    split
    · exact .inr ⟨rfl, by omega⟩
    · exact .inl ⟨_, rfl, rfl, rfl, rfl, rfl, rfl, by dsimp only; omega, by dsimp only; omega⟩
  | false =>
    have hcell : s.cell = [] := by
      have hpend := h.pending
      rw [hp] at hpend
      cases hc : s.cell with
      | nil => rfl
      | cons b bs =>
        rw [hc] at hpend
        cases hpend
    rw [if_neg Bool.false_ne_true, if_neg Bool.false_ne_true, List.append_nil]
    exact .inl ⟨s, rfl, rfl, hcell, rfl, rfl, rfl, hcounted, hcells⟩

/-! ## The loop -/

/-- A line that is ended: its row is staged. -/
theorem Held.stage {limits : ReadLimits} {s t : CsvState} {line : Bytes} (hs : Held limits s line)
    (h : AtLine s line) (hroom : s.staged.length < limits.maxRows.toNat)
    (hrow : t.row = cellsOf [] line) (hcell : t.cell = []) (hst : t.staged = s.staged)
    (hbytes : t.bytes = s.bytes)
    (hcounted : t.cells = cellCount s.staged + (cellsOf [] line).length)
    (hcells : t.cells ≤ limits.maxCells.toNat) :
    Held limits
      { t with
        staged := t.staged ++ [t.row], row := [], lineStarted := false, cellPending := false }
      [] where
  bytes := hbytes ▸ hs.bytes
  rows := by
    rw [hst, List.length_append, List.length_singleton]
    exact hroom
  begun h := absurd rfl h
  counted := by
    dsimp only
    rw [hst, hrow, cellCount_append, cellCount_cons, hcounted]
    rfl
  cells := hcells
  staged row hmem := by
    rw [hst, hrow] at hmem
    obtain hm | hm := List.mem_append.mp hmem
    · exact hs.staged row hm
    · rw [List.mem_singleton.mp hm]
      exact hs.line h
  row _ hmem := nomatch hmem
  cell := by
    dsimp only
    rw [hcell]
    exact Nat.zero_le _

/-- What a byte does to the locals, unless a budget is used up. -/
theorem csvByte_cases (limits : ReadLimits) (value : Byte) {s : CsvState} {line : Bytes}
    (h : AtLine s line) (hs : Held limits s line)
    (hroom : s.staged.length < limits.maxRows.toNat) :
    (∃ t line', csvByte limits value s = .next t ∧ AtLine t line' ∧ Held limits t line' ∧
      t.file = s.file ∧ t.bytes = s.bytes ∧
      ∀ rest, t.staged ++ rowsOf line' rest = s.staged ++ rowsOf line (value :: rest)) ∨
    (csvByte limits value s = .stop (.ok limitFailure) ∧
      ∀ rest n, ¬WithinLimits limits (s.staged ++ rowsOf line (value :: rest)) n) := by
  unfold csvByte
  by_cases hn : value = newline
  · rw [if_pos hn]
    obtain ⟨t, ht, hrow, hcell, hst, hfile, hbytes, hcounted, hcells⟩ | ⟨ht, hfull⟩ :=
      appendPending_cases limits h hs
    · rw [ht]
      refine .inl ⟨_, [], rfl, ⟨fun rest => ?_, rfl, ?_⟩,
        hs.stage h hroom hrow hcell hst hbytes hcounted hcells, hfile, hbytes, fun rest => ?_⟩
      · rw [List.nil_append, List.nil_append, hcell]
      · rw [hcell]
        rfl
      · rw [hrow, hst, rowsOf, if_pos hn, List.append_assoc, List.singleton_append]
    · rw [ht]
      refine .inr ⟨rfl, fun rest n => ?_⟩
      rw [rowsOf, if_pos hn]
      exact not_within_cells hfull
  rw [if_neg hn]
  dsimp only
  have hstarted : (true : Bool) = !(line ++ [value]).isEmpty := by
    cases line <;> rfl
  have hbegun : line ++ [value] ≠ [] := by simp
  have hcounted := hs.counted
  have hcells := hs.cells
  by_cases hc : value = comma
  · rw [if_pos hc]
    unfold CsvState.appendCell
    dsimp only
    by_cases hfull : s.cells = limits.maxCells.toNat
    · rw [if_pos hfull]
      refine .inr ⟨rfl, fun rest n => ?_⟩
      obtain ⟨l, more, hl⟩ := rowsOf_begun hbegun rest
      rw [rowsOf, if_neg hn, hl, List.append_assoc, h.cells]
      refine not_within_cells ?_
      rw [List.singleton_append, cellsOf, if_pos hc, List.length_append, List.length_cons]
      omega
    · rw [if_neg hfull]
      refine .inl ⟨_, line ++ [value], rfl, ⟨fun rest => ?_, hstarted, rfl⟩, ?_, rfl, rfl,
        fun rest => ?_⟩
      · rw [List.append_assoc, List.singleton_append, h.cells, cellsOf, if_pos hc,
          List.append_assoc, List.singleton_append]
      · refine ⟨hs.bytes, hs.rows, fun _ => hroom, ?_, ?_, hs.staged, ?_, Nat.zero_le _⟩
        · dsimp only
          rw [List.length_append, List.length_singleton]
          omega
        · dsimp only
          omega
        · exact List.forall_mem_append.mpr ⟨hs.row, List.forall_mem_singleton.mpr hs.cell⟩
      · rw [rowsOf, if_neg hn]
  · rw [if_neg hc]
    split
    · rename_i hfull
      refine .inr ⟨rfl, fun rest n hw => ?_⟩
      obtain ⟨l, more, hl⟩ := rowsOf_begun hbegun rest
      rw [rowsOf, if_neg hn, hl, List.append_assoc, h.cells, List.singleton_append, cellsOf,
        if_neg hc] at hw
      obtain ⟨c, cells, hcell⟩ := cellsOf_begun
        (List.append_ne_nil_of_right_ne_nil s.cell (List.cons_ne_nil value [])) l
      have hlong := hw.cellBytes (s.row ++ cellsOf (s.cell ++ [value]) l) (by simp)
        (s.cell ++ [value] ++ c) (by rw [hcell]; simp)
      rw [List.length_append, List.length_append, List.length_singleton] at hlong
      omega
    · rename_i hshort
      refine .inl ⟨_, line ++ [value], rfl, ⟨fun rest => ?_, hstarted, ?_⟩, ?_, rfl, rfl,
        fun rest => ?_⟩
      · rw [List.append_assoc, List.singleton_append, h.cells, cellsOf, if_neg hc]
      · cases s.cell <;> rfl
      · refine ⟨hs.bytes, hs.rows, fun _ => hroom, hcounted, hcells, hs.staged, hs.row, ?_⟩
        have hcell := hs.cell
        dsimp only
        rw [List.length_append, List.length_singleton]
        omega
      · rw [rowsOf, if_neg hn]

/-- The allocations for the bytes from `k` on. -/
def AllocatesFrom (alloc : Nat → Bool) (k n : Nat) : Prop := ∀ i, k ≤ i → i < k + n → alloc i = true

/-- The loop reads to the end of the file, unless a budget or an allocation fails. By induction
on the bytes that are left. -/
theorem csvLoop_cases (alloc : Nat → Bool) (limits : ReadLimits) (s : CsvState) (line : Bytes)
    (hf : s.file.Open) (h : AtLine s line) (hs : Held limits s line) :
    (∃ t line', csvLoop alloc limits s = .leave t ∧ AtLine t line' ∧ Held limits t line' ∧
      t.file = s.file.exhaust ∧ t.bytes = s.bytes + s.file.rest.length ∧
      t.staged ++ rowsOf line' [] = s.staged ++ rowsOf line s.file.rest ∧
      AllocatesFrom alloc s.bytes s.file.rest.length) ∨
    (∃ r, csvLoop alloc limits s = .stop r ∧ r ≠ .ok .success ∧
      (AllocatesFrom alloc s.bytes s.file.rest.length →
        ¬WithinLimits limits (s.staged ++ rowsOf line s.file.rest)
          (s.bytes + s.file.rest.length))) := by
  rw [csvLoop]
  cases hrest : s.file.rest with
  | nil =>
    rw [hf.peek_nil hrest]
    refine .inl ⟨_, line, rfl, ⟨h.cells, h.started, h.pending⟩, ?_, rfl, rfl, rfl,
      fun i hi hlt => absurd hlt (Nat.not_lt.mpr hi)⟩
    exact ⟨hs.bytes, hs.rows, hs.begun, hs.counted, hs.cells, hs.staged, hs.row, hs.cell⟩
  | cons value rest =>
    rw [hf.peek_cons hrest]
    dsimp only
    unfold csvRound
    by_cases hbudget : s.bytes = limits.maxInputBytes.toNat ∨ limits.maxRows.toNat ≤ s.staged.length
    · rw [if_pos hbudget]
      refine .inr ⟨_, rfl, (by intro h; cases h), fun _ hw => ?_⟩
      obtain hb | hr := hbudget
      · have hbytes := hw.inputBytes
        rw [List.length_cons] at hbytes
        omega
      · have hrows := hw.rows
        -- the byte belongs to a row that is not staged yet
        have hmore : ∃ row more, rowsOf line (value :: rest) = row :: more := by
          rw [rowsOf]
          split
          · exact ⟨_, _, rfl⟩
          · obtain ⟨l, more, hl⟩ := rowsOf_begun
              (List.append_ne_nil_of_right_ne_nil line (List.cons_ne_nil value [])) rest
            exact ⟨_, _, hl⟩
        obtain ⟨row, more, hmore⟩ := hmore
        rw [hmore, List.length_append, List.length_cons] at hrows
        omega
    rw [if_neg hbudget, hf.get_cons hrest]
    obtain ⟨hb, hr⟩ := not_or.mp hbudget
    dsimp only
    by_cases ha : alloc s.bytes = true
    case neg =>
      rw [if_neg ha]
      refine .inr ⟨_, rfl, (by intro h; cases h), fun hall => ?_⟩
      refine absurd (hall s.bytes (Nat.le_refl _) ?_) ha
      rw [List.length_cons]
      omega
    rw [if_pos ha]
    have hline : AtLine { s with file := { s.file with rest := rest }, bytes := s.bytes + 1 }
        line :=
      ⟨h.cells, h.started, h.pending⟩
    have hheld : Held limits { s with file := { s.file with rest := rest }, bytes := s.bytes + 1 }
        line :=
      ⟨Nat.lt_of_le_of_ne hs.bytes hb, hs.rows, hs.begun, hs.counted, hs.cells, hs.staged, hs.row,
        hs.cell⟩
    have hlen : s.bytes + (value :: rest).length = s.bytes + 1 + rest.length := by
      rw [List.length_cons]
      omega
    rw [hlen]
    obtain ⟨t, line', ht, hat, hheld', hfile, hbytes, hrows⟩ | ⟨ht, hno⟩ :=
      csvByte_cases limits value hline hheld (Nat.not_le.mp hr)
    · have hfile' : t.file = { s.file with rest := rest } := hfile
      have hbytes' : t.bytes = s.bytes + 1 := hbytes
      have hshort : t.file.rest.length < s.file.rest.length := by
        rw [hfile', hrest]
        exact Nat.lt_succ_self _
      have hopen : t.file.Open := by
        rw [hfile']
        exact hf.advance rest
      rw [ht]
      dsimp only
      obtain ⟨u, line'', hu, hat', hheld'', hufile, hubytes, hurows, halloc⟩ | ⟨r, hr, hne, hno⟩ :=
        csvLoop_cases alloc limits t line' hopen hat hheld'
      · rw [hfile'] at hufile hubytes hurows halloc
        rw [hbytes'] at hubytes halloc
        refine .inl ⟨u, line'', hu, hat', hheld'', hufile, hubytes, hurows.trans (hrows rest),
          fun i hi hlt => ?_⟩
        obtain rfl | hi := Nat.eq_or_lt_of_le hi
        · exact ha
        · exact halloc i hi (hlen ▸ hlt)
      · rw [hfile', hbytes'] at hno
        refine .inr ⟨r, hr, hne, fun hall => ?_⟩
        have hmore := hno fun i hi hlt => hall i (Nat.le_of_succ_le hi) (hlen ▸ hlt)
        exact hrows rest ▸ hmore
    · rw [ht]
      exact .inr ⟨_, rfl, (by intro h; cases h), fun _ => hno rest _⟩
termination_by s.file.rest.length

/-! ## The call -/

theorem retainedCells_cases (limits : ReadLimits) (rows : CsvRows) (k : Nat) :
    (retainedCells limits rows k = some (k + cellCount rows) ∧
      (k ≤ limits.maxCells.toNat → k + cellCount rows ≤ limits.maxCells.toNat) ∧
      ∀ row ∈ rows, ∀ cell ∈ row, cell.length ≤ limits.maxCellBytes.toNat) ∨
    (retainedCells limits rows k = none ∧
      ¬(k + cellCount rows ≤ limits.maxCells.toNat ∧
        ∀ row ∈ rows, ∀ cell ∈ row, cell.length ≤ limits.maxCellBytes.toNat)) := by
  induction rows generalizing k with
  | nil => exact .inl ⟨rfl, id, fun _ h => nomatch h⟩
  | cons row rows ih =>
    rw [retainedCells, cellCount_cons]
    by_cases hlen : limits.maxCells.toNat - k < row.length
    · rw [if_pos hlen]
      exact .inr ⟨rfl, fun h => by omega⟩
    rw [if_neg hlen]
    by_cases hany : (row.any fun cell => decide (limits.maxCellBytes.toNat < cell.length)) = true
    · rw [if_pos hany]
      obtain ⟨cell, hcell, hlong⟩ := List.any_eq_true.mp hany
      refine .inr ⟨rfl, fun h => ?_⟩
      have hshort := h.2 row List.mem_cons_self cell hcell
      exact absurd (of_decide_eq_true hlong) (Nat.not_lt.mpr hshort)
    · rw [if_neg hany, ← Nat.add_assoc]
      have hrow : ∀ cell ∈ row, cell.length ≤ limits.maxCellBytes.toNat := fun cell hcell =>
        Nat.not_lt.mp fun hlong => hany (List.any_eq_true.mpr ⟨cell, hcell, decide_eq_true hlong⟩)
      obtain ⟨hok, hcount, hcells⟩ | ⟨hno, hbad⟩ := ih (k + row.length)
      · exact .inl ⟨hok, fun hk => hcount (by omega), List.forall_mem_cons.mpr ⟨hrow, hcells⟩⟩
      · exact .inr ⟨hno, fun h => hbad ⟨h.1, fun r hr => h.2 r (List.mem_cons_of_mem _ hr)⟩⟩

/-- The unterminated last line, at the end of the loop. -/
theorem lastLine_cases (limits : ReadLimits) {s : CsvState} {line : Bytes} (h : AtLine s line)
    (hs : Held limits s line) :
    (∃ t, (if s.lineStarted then
          (s.appendPending limits).map fun s => { s with staged := s.staged ++ [s.row] }
        else some s) = some t ∧ t.staged = s.staged ++ rowsOf line [] ∧ t.file = s.file ∧
      WithinLimits limits t.staged s.bytes) ∨
    ((if s.lineStarted then
        (s.appendPending limits).map fun s => { s with staged := s.staged ++ [s.row] }
      else some s) = none ∧ ∀ n, ¬WithinLimits limits (s.staged ++ rowsOf line []) n) := by
  rw [h.started, rowsOf]
  cases hline : line with
  | nil =>
    refine .inl ⟨s, rfl, (List.append_nil _).symm, rfl, hs.rows, ?_, hs.staged, hs.bytes⟩
    have hcounted := hs.counted
    have hcells := hs.cells
    omega
  | cons b bs =>
    rw [← hline, if_pos (by rw [hline]; rfl), if_neg (by rw [hline]; exact List.cons_ne_nil _ _)]
    obtain ⟨t, ht, hrow, hcell, hst, hfile, hbytes, hcounted, hcells⟩ | ⟨ht, hfull⟩ :=
      appendPending_cases limits h hs
    · have hroom := hs.begun (by rw [hline]; exact List.cons_ne_nil _ _)
      have hheld := hs.stage h hroom hrow hcell hst hbytes hcounted hcells
      rw [ht]
      refine .inl ⟨_, rfl, by dsimp only; rw [hrow, hst], hfile, hheld.rows, ?_, hheld.staged,
        hs.bytes⟩
      have hcount := hheld.counted
      dsimp only at hcount ⊢
      rw [List.length_nil] at hcount
      omega
    · rw [ht]
      exact .inr ⟨rfl, fun n => not_within_cells hfull⟩

/-- `readCsv` appends the rows of the file, or leaves the rows as they were: the second exactly
where a budget, an I/O operation or an allocation fails. -/
theorem readCsv_exact (alloc : Nat → Bool) (input : InputFile) (limits : ReadLimits)
    (rows : CsvRows) :
    (readCsv alloc input limits rows = (rows ++ parse input.bytes, .ok .success) ∧
      Completes alloc input limits rows) ∨
    (∃ r, readCsv alloc input limits rows = (rows, r) ∧ r ≠ .ok .success ∧
      ¬Completes alloc input limits rows) := by
  have hstop : ∀ {e : GefError}, readCsv alloc input limits rows = (rows, .ok (.failure e)) →
      ¬Completes alloc input limits rows →
      ∃ r, readCsv alloc input limits rows = (rows, r) ∧ r ≠ .ok .success ∧
        ¬Completes alloc input limits rows :=
    fun h hno => ⟨_, h, (by intro hc; cases hc), hno⟩
  unfold readCsv at hstop ⊢
  by_cases hopens : input.opens = true
  case neg =>
    rw [if_pos (by rw [Bool.eq_false_iff.mpr hopens]; rfl)] at hstop ⊢
    exact .inr (hstop rfl fun hc => absurd hc.readable.1 hopens)
  rw [if_neg (by rw [hopens]; decide)] at hstop ⊢
  by_cases hrows : limits.maxRows.toNat < rows.length
  · rw [if_pos hrows] at hstop ⊢
    refine .inr (hstop rfl fun hc => ?_)
    have h := hc.within.rows
    rw [List.length_append] at h
    omega
  rw [if_neg hrows] at hstop ⊢
  obtain ⟨hret, hcount, hcells⟩ | ⟨hret, hno⟩ := retainedCells_cases limits rows 0
  case inr =>
    rw [hret] at hstop ⊢
    refine .inr (hstop rfl fun hc => hno ⟨?_, fun row hrow => ?_⟩)
    · have h := hc.within.cells
      rw [cellCount_append] at h
      omega
    · exact hc.within.cellBytes row (List.mem_append_left _ hrow)
  rw [hret] at hstop ⊢
  rw [Nat.zero_add] at hcount hstop ⊢
  dsimp only at hstop ⊢
  have hat : AtLine ⟨rows, [], [], input.stream, cellCount rows, 0, false, false⟩ [] :=
    ⟨fun _ => rfl, rfl, rfl⟩
  have hheld : Held limits ⟨rows, [], [], input.stream, cellCount rows, 0, false, false⟩ [] :=
    ⟨Nat.zero_le _, Nat.not_lt.mp hrows, fun h => absurd rfl h, rfl, hcount (Nat.zero_le _), hcells,
      (fun _ h => nomatch h), Nat.zero_le _⟩
  have hf := IStream.open_stream input
  have hzero : 0 + input.stream.rest.length = input.bytes.length := Nat.zero_add _
  obtain ⟨t, line, ht, hline, hheld', hfile, hbytes, hstaged, halloc⟩ | ⟨r, hr, hne, hno⟩ :=
    csvLoop_cases alloc limits _ [] hf hat hheld
  case inr =>
    rw [hr]
    refine .inr ⟨r, rfl, hne, fun hc => hno (fun i _ hi => hc.allocated i (hzero ▸ hi)) ?_⟩
    rw [hzero]
    exact hc.within
  rw [ht] at hstop ⊢
  dsimp only at hstop ⊢
  rw [hfile, hf.ended_exhaust] at hstop ⊢
  by_cases hfault : input.stream.faulty = true
  · rw [if_pos hfault] at hstop ⊢
    refine .inr (hstop rfl fun hc => ?_)
    rw [show input.stream.faulty = input.faulty from rfl, hc.readable.2.1] at hfault
    cases hfault
  rw [if_neg hfault] at hstop ⊢
  obtain ⟨u, hu, hstaged', hfile', hwithin⟩ | ⟨hu, hno⟩ := lastLine_cases limits hline hheld'
  case inr =>
    rw [hu] at hstop ⊢
    refine .inr (hstop rfl fun hc => hno input.bytes.length ?_)
    rw [hstaged]
    exact hc.within
  rw [hu] at hstop ⊢
  dsimp only at hstop ⊢
  rw [hfile', hfile, IStream.fail_close_clear, IStream.exhaust_closes] at hstop ⊢
  by_cases hcloses : input.stream.closes = true
  case neg =>
    rw [if_pos (by rw [Bool.eq_false_iff.mpr hcloses]; rfl)] at hstop ⊢
    exact .inr (hstop rfl fun hc => absurd hc.readable.2.2 hcloses)
  rw [if_neg (by rw [hcloses]; decide)]
  rw [hstaged', hstaged, hbytes] at hwithin
  refine .inl ⟨by rw [hstaged', hstaged]; rfl, ⟨hopens, Bool.eq_false_iff.mpr hfault, hcloses⟩,
    fun i hi => halloc i (Nat.zero_le i) (hzero.symm ▸ hi), hzero ▸ hwithin⟩

/-! ## Bounded reads -/

theorem maxUInt64_toNat : (0xFFFFFFFFFFFFFFFF : UInt64).toNat = 2 ^ 64 - 1 := rfl

/-- What is within any budgets is within the largest. -/
theorem csvWithin_unlimited {limits : ReadLimits} {table : CsvRows} {n : Nat}
    (h : WithinLimits limits table n) : WithinLimits .unlimited table n := by
  have hle : ∀ m : UInt64, m.toNat ≤ 2 ^ 64 - 1 := fun m => Nat.le_pred_of_lt m.toNat_lt
  refine ⟨?_, ?_, fun row hrow cell hcell => ?_, ?_⟩ <;>
    simp only [ReadLimits.unlimited, maxUInt64_toNat]
  · exact Nat.le_trans h.rows (hle _)
  · exact Nat.le_trans h.cells (hle _)
  · exact Nat.le_trans (h.cellBytes row hrow cell hcell) (hle _)
  · exact Nat.le_trans h.inputBytes (hle _)

theorem completes_unlimited {alloc : Nat → Bool} {input : InputFile} {limits : ReadLimits}
    {rows : CsvRows} (h : Completes alloc input limits rows) :
    Completes alloc input .unlimited rows := ⟨h.readable, h.allocated, csvWithin_unlimited h.within⟩

theorem readCsv_completes {alloc : Nat → Bool} {input : InputFile} {limits : ReadLimits}
    {rows : CsvRows} (h : Completes alloc input limits rows) :
    readCsv alloc input limits rows = (rows ++ parse input.bytes, .ok .success) := by
  obtain ⟨hok, -⟩ | ⟨r, -, -, hno⟩ := readCsv_exact alloc input limits rows
  · exact hok
  · exact absurd h hno

/-- A bounded read succeeds exactly when what is retained and what is read are within the budgets,
and then it reads what an unlimited read does; a read that fails leaves the table. -/
theorem csv_bounded_read (alloc : Nat → Bool) (input : InputFile) (limits : ReadLimits)
    (c : CSVController) :
    ((c.readWithLimits alloc input limits).2 = .ok .success ↔
      Completes alloc input limits c.contents) ∧
    ((c.readReplace alloc input limits).2 = .ok .success ↔ Completes alloc input limits []) ∧
    ((c.readWithLimits alloc input limits).2 = .ok .success →
      (c.readWithLimits alloc input limits).1 = ⟨c.contents ++ parse input.bytes⟩ ∧
      c.read alloc input = c.readWithLimits alloc input limits) ∧
    ((c.readReplace alloc input limits).2 = .ok .success →
      (c.readReplace alloc input limits).1 = ⟨parse input.bytes⟩ ∧
      c.readReplace alloc input .unlimited = c.readReplace alloc input limits) ∧
    ((c.readWithLimits alloc input limits).2 ≠ .ok .success →
      (c.readWithLimits alloc input limits).1 = c) ∧
    ((c.readReplace alloc input limits).2 ≠ .ok .success →
      (c.readReplace alloc input limits).1 = c) := by
  simp only [CSVController.read, CSVController.readWithLimits, CSVController.readReplace]
  refine ⟨?_, ?_, ?_, ?_, ?_, ?_⟩
  · obtain ⟨hok, hc⟩ | ⟨r, hr, hne, hno⟩ := readCsv_exact alloc input limits c.contents
    · rw [hok]
      exact iff_of_true rfl hc
    · rw [hr]
      exact iff_of_false hne hno
  · obtain ⟨hok, hc⟩ | ⟨r, hr, hne, hno⟩ := readCsv_exact alloc input limits []
    · rw [hok]
      exact iff_of_true rfl hc
    · rw [hr]
      exact iff_of_false hne hno
  · obtain ⟨hok, hc⟩ | ⟨r, hr, hne, -⟩ := readCsv_exact alloc input limits c.contents
    · rw [hok, readCsv_completes (completes_unlimited hc)]
      exact fun _ => ⟨rfl, rfl⟩
    · rw [hr]
      exact fun h => absurd h hne
  · obtain ⟨hok, hc⟩ | ⟨r, hr, hne, -⟩ := readCsv_exact alloc input limits []
    · rw [hok, readCsv_completes (completes_unlimited hc)]
      exact fun _ => ⟨if_pos rfl, rfl⟩
    · rw [hr]
      exact fun h => absurd h hne
  · obtain ⟨hok, -⟩ | ⟨r, hr, -, -⟩ := readCsv_exact alloc input limits c.contents
    · rw [hok]
      exact fun h => absurd rfl h
    · rw [hr]
      exact fun _ => rfl
  · exact fun h => if_neg h

end WSE.Proof.Gef
