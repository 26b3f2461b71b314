import WapitiStew.Spec.Iui.LinuxKeyboardDevices

/-!
# The keyboard devices are sound

`Books` is what holds at any point, of the descriptors that are open then: they are not closed yet,
and none of them has failed a query of its keys but those that are about to be closed. `scan` and
`capture` keep it for the descriptors of the vector.
-/

namespace WSE.Proof.Iui

open WSE.Framework WSE.Framework.Ledger WSE.Impl.Iui WSE.Spec.Iui

/-- So many files and directories are open; the files in `failing` may have failed. -/
structure Books (files directories failing : List Nat) (s : Devices) : Prop where
  opened : s.opened.Held files
  directories : s.directories.Held directories
  never : NeverAgain s.queries
  failed : ∀ q ∈ s.queries, FailsKeys q →
    ∃ fd, q.fd = some fd ∧ (fd ∈ s.opened.released ∨ fd ∈ failing)

section Steps

variable {files directories failing : List Nat} {s : Devices} {fd : Nat} {α : Type}

theorem books_start : Books [] [] [] {} where
  opened := .empty
  directories := .empty
  never := .nil
  failed := nofun

theorem not_failsKeys_interrupted {d : Descriptor} {request : Request} :
    ¬FailsKeys ⟨d, request, some EINTR⟩ := by
  rintro ⟨-, e, he, hne⟩
  exact hne (Option.some.inj he).symm

/-- The last of the queries that a query makes. -/
def lastQuery (d : Descriptor) (request : Request) (r : Reply α) : Query :=
  ⟨d, request, match r.result with
    | .ok _ => none
    | .error e => some e.errno⟩

theorem Books.query (h : Books files directories [] s) (hfd : fd ∈ files) (request : Request)
    (r : Reply α) : Books files directories [fd] (s.query (some fd) request r) := by
  have hold : ∀ q ∈ s.queries, FailsKeys q → some fd ≠ q.fd := by
    intro q hq hfails he
    obtain ⟨fd', hfd', hreleased | hnone⟩ := h.failed q hq hfails
    · rw [hfd'] at he
      cases he
      exact ((h.opened.live fd).mpr hfd).2 hreleased
    · exact absurd hnone (List.not_mem_nil)
  have hnew : ∀ q ∈ List.replicate r.interrupted ⟨some fd, request, some EINTR⟩ ++
      [lastQuery (some fd) request r], q.fd = some fd := by
    refine List.forall_mem_append.mpr ⟨fun q hq => ?_, List.forall_mem_singleton.mpr rfl⟩
    rw [List.eq_of_mem_replicate hq]
  have hqueries : (s.query (some fd) request r).queries = s.queries ++
      (List.replicate r.interrupted ⟨some fd, request, some EINTR⟩ ++
        [lastQuery (some fd) request r]) := List.append_assoc _ _ _
  refine ⟨h.opened, h.directories, ?_, ?_⟩
  · rw [NeverAgain, hqueries, List.pairwise_append]
    refine ⟨h.never, ?_, fun q hq q' hq' hfails => (hnew q' hq').symm ▸ hold q hq hfails⟩
    rw [List.pairwise_append]
    refine ⟨List.pairwise_replicate.mpr (.inr fun hfails => ?_), List.pairwise_singleton _ _,
      fun q hq q' _ hfails => ?_⟩
    · exact absurd hfails not_failsKeys_interrupted
    · rw [List.eq_of_mem_replicate hq] at hfails
      exact absurd hfails not_failsKeys_interrupted
  · rw [hqueries]
    refine List.forall_mem_append.mpr ⟨fun q hq hfails => ?_, fun q hq _ => ?_⟩
    · obtain ⟨fd', hfd', hreleased | hnone⟩ := h.failed q hq hfails
      · exact ⟨fd', hfd', .inl hreleased⟩
      · exact absurd hnone (List.not_mem_nil)
    · exact ⟨fd, hnew q hq, .inr (List.mem_singleton_self fd)⟩

/-- A query that does not fail its keys. -/
theorem Books.query_fine (h : Books files directories [] s) (hfd : fd ∈ files)
    (request : Request) (r : Reply α) (hfine : ¬FailsKeys (lastQuery (some fd) request r)) :
    Books files directories [] (s.query (some fd) request r) := by
  obtain ⟨hopened, hdirectories, hnever, -⟩ := h.query hfd request r
  refine ⟨hopened, hdirectories, hnever, fun q hq hfails => ?_⟩
  obtain hq | hq := List.mem_append.mp hq
  · obtain hq | hq := List.mem_append.mp hq
    · exact h.failed q hq hfails
    · rw [List.eq_of_mem_replicate hq] at hfails
      exact absurd hfails not_failsKeys_interrupted
  · rw [List.mem_singleton.mp hq] at hfails
    exact absurd hfails hfine

/-- A file is closed. -/
theorem Books.reset {a b : List Nat} (h : Books (a ++ (fd :: b)) directories failing s)
    (hf : ∀ f ∈ failing, f = fd) : Books (a ++ b) directories [] (s.reset (some fd)) where
  opened := Held.release (g := [fd]) h.opened
  directories := h.directories
  never := h.never
  failed := fun q hq hfails => by
    obtain ⟨fd', hfd', hreleased | hfailing⟩ := h.failed q hq hfails
    · exact ⟨fd', hfd', .inl (List.mem_append_left _ hreleased)⟩
    · have hfd := hf fd' hfailing
      exact ⟨fd', hfd', .inl (List.mem_append_right _ (hfd ▸ List.mem_singleton_self _))⟩

theorem Books.openDevice (h : Books files directories failing s) :
    Books (files ++ [s.opened.acquired]) directories failing s.openDevice :=
  ⟨h.opened.acquire, h.directories, h.never, h.failed⟩

theorem Books.openDirectory (h : Books files [] failing s) :
    Books files [s.directories.acquired] failing s.openDirectory :=
  ⟨h.opened, h.directories.acquire, h.never, h.failed⟩

theorem Books.closeDirectory {d : Nat} (h : Books files [d] failing s) :
    Books files [] failing (s.closeDirectory d) := by
  have hd : Held s.directories ([] ++ ([d] ++ [])) := h.directories
  exact ⟨h.opened, hd.release, h.never, h.failed⟩

/-- The books do not depend on the vector. -/
theorem Books.vector (h : Books files directories failing s) (l : List Descriptor) :
    Books files directories failing { s with descriptors := l } :=
  ⟨h.opened, h.directories, h.never, h.failed⟩

end Steps

/-- The books of the files of the vector. -/
def Holding (directories : List Nat) (s : Devices) : Prop :=
  ∃ files, s.descriptors = files.map some ∧ Books files directories [] s

/-! ## Scan -/

section Scan

variable {directories : List Nat} {s : Devices}

theorem foldl_reset_books {files : List Nat} (h : Books files directories [] s) :
    Books [] directories [] ((files.map some).foldl Devices.reset s) := by
  induction files generalizing s with
  | nil => exact h
  | cons fd files ih => exact ih (h.reset (a := []) nofun)

theorem Holding.clear (h : Holding directories s) : Holding directories s.clear := by
  obtain ⟨files, hd, hb⟩ := h
  refine ⟨[], rfl, ?_⟩
  rw [Devices.clear, hd]
  exact (foldl_reset_books hb).vector []

theorem examine_books {files : List Nat} {fd : Nat} (h : Books files directories [] s)
    (hfd : fd ∈ files) (r : DeviceReplies) (denied : Bool) :
    Books files directories [fd] (s.examine r (some fd) denied).2 ∧
      ((s.examine r (some fd) denied).1.1 = true →
        Books files directories [] (s.examine r (some fd) denied).2) ∧
      (s.examine r (some fd) denied).2.descriptors = s.descriptors := by
  have hidentity : ∀ q, ¬FailsKeys (lastQuery (α := Nat) (some fd) .identity q) := by
    rintro q ⟨hr | hr, -⟩ <;> cases hr
  have h1 := h.query_fine hfd .identity r.bustype (hidentity _)
  have hbad : ∀ {t}, Books files directories [] t → Books files directories [fd] t :=
    fun ht => ⟨ht.opened, ht.directories, ht.never, fun q hq hfails => by
      obtain ⟨fd', hfd', hreleased | hnone⟩ := ht.failed q hq hfails
      · exact ⟨fd', hfd', .inl hreleased⟩
      · exact absurd hnone (List.not_mem_nil)⟩
  unfold Devices.examine
  dsimp only
  split
  · exact ⟨hbad h1, nofun, rfl⟩
  split
  · exact ⟨hbad h1, nofun, rfl⟩
  split
  · exact ⟨h1.query hfd .capabilities r.capabilities, nofun, rfl⟩
  · rename_i keys hkeys
    have hfine : ¬FailsKeys (lastQuery (some fd) .capabilities r.capabilities) := by
      rintro ⟨-, e, he, -⟩
      rw [lastQuery, hkeys] at he
      cases he
    have h2 := h1.query_fine hfd .capabilities r.capabilities hfine
    exact ⟨hbad h2, fun _ => h2, rfl⟩

theorem Holding.scanEntry (h : Holding directories s) (e : Entry) (denied : Bool) :
    Holding directories (s.scanEntry e denied).2 := by
  unfold Devices.scanEntry
  split
  · exact h
  split
  · exact h
  split
  · exact h
  rename_i r _
  obtain ⟨files, hd, hb⟩ := h
  have hopen := hb.openDevice
  obtain ⟨hbad, hkept, hdescriptors⟩ := examine_books hopen
    (List.mem_append_right files (List.mem_singleton_self s.opened.acquired)) r denied
  have hd' : (s.openDevice.examine r (some s.opened.acquired) denied).2.descriptors =
      files.map some := hdescriptors.trans hd
  -- the candidate is the last file that was opened
  have hreset := hbad.reset (a := files) (b := []) fun f hf => List.mem_singleton.mp hf
  rw [List.append_nil] at hreset
  dsimp only
  split
  · exact ⟨files, hd', hreset⟩
  rename_i hkeyboard
  split
  · exact ⟨files, hd', hreset⟩
  · refine ⟨files ++ [s.opened.acquired], ?_, (hkept (by simpa using hkeyboard)).vector _⟩
    show _ ++ [some s.opened.acquired] = _
    rw [hd', List.map_append]
    rfl

theorem Holding.scanEntries (h : Holding directories s) (entries : List Entry) (denied : Bool) :
    Holding directories (s.scanEntries entries denied).2 := by
  induction entries generalizing s denied with
  | nil => exact h
  | cons e entries ih =>
    have he := h.scanEntry e denied
    unfold Devices.scanEntries
    split
    · rename_i t heq
      rw [heq] at he
      exact he
    · rename_i denied' t heq
      rw [heq] at he
      exact ih he denied'

theorem Holding.scan (h : Holding [] s) (d : Directory) : Holding [] (s.scan d).2 := by
  unfold Devices.scan
  split
  · exact h.clear
  · rename_i entries errno
    obtain ⟨files, hd, hb⟩ := h.clear
    have hscan := Holding.scanEntries (s := s.clear.openDirectory)
      ⟨files, hd, hb.openDirectory⟩ entries false
    obtain ⟨files', hd', hb'⟩ := hscan
    have hclosed : Holding [] ((s.clear.openDirectory.scanEntries entries false).2.closeDirectory
        s.clear.directories.acquired) := ⟨files', hd', hb'.closeDirectory⟩
    dsimp only
    split
    · exact hclosed.clear
    · split
      · exact hclosed
      · split
        · exact hclosed
        · exact hclosed

end Scan

/-! ## Capture -/

/-- Whatever is moved, the file of the erased element is closed and the others stay. -/
theorem erase_eq (d : Descriptor) (rest : List Descriptor) : erase d rest = (d.toList, rest) := by
  induction rest generalizing d with
  | nil => rfl
  | cons next rest ih =>
    rw [erase, ih]
    dsimp only
    rw [Option.toList_none, List.append_nil]

section Capture

variable {replies : Descriptor → CaptureReplies} {c : Capture}

/-- The books at an iterator. -/
def HoldingAt (c : Capture) : Prop :=
  ∃ before after, c.before = before.map some ∧ c.after = after.map some ∧
    Books (before ++ after) [] [] c.devices

theorem HoldingAt.turn (h : HoldingAt c) {d : Descriptor} {rest : List Descriptor}
    (hd : c.after = d :: rest) : HoldingAt (c.turn replies d rest) := by
  obtain ⟨before, after, hbefore, hafter, hb⟩ := h
  obtain ⟨fd, files, rfl, rfl, rfl⟩ : ∃ fd files, after = fd :: files ∧ d = some fd ∧
      rest = files.map some := by
    cases after with
    | nil => cases hd.symm.trans hafter
    | cons fd files =>
      cases hd.symm.trans hafter
      exact ⟨fd, files, rfl, rfl, rfl⟩
  have hfd : fd ∈ before ++ fd :: files := List.mem_append_right _ List.mem_cons_self
  unfold Capture.turn
  dsimp only
  split
  · -- The device that failed is closed.
    rw [erase_eq]
    refine ⟨before, files, hbefore, rfl, ?_⟩
    exact (hb.query hfd .keys (replies (some fd)).keys).reset fun f hf => List.mem_singleton.mp hf
  · rename_i keys hkeys
    have hfine : ¬FailsKeys (lastQuery (some fd) .keys (replies (some fd)).keys) := by
      rintro ⟨-, e, he, -⟩
      rw [lastQuery, hkeys] at he
      cases he
    have hleds : ¬FailsKeys (lastQuery (some fd) .leds (replies (some fd)).leds) := by
      rintro ⟨hr | hr, -⟩ <;> cases hr
    refine ⟨before ++ [fd], files, ?_, rfl, ?_⟩
    · show c.before ++ [some fd] = _
      rw [hbefore, List.map_append]
      rfl
    · rw [List.append_assoc]
      exact (hb.query_fine hfd .keys _ hfine).query_fine hfd .leds _ hleds

theorem HoldingAt.loop (h : HoldingAt c) (replies : Descriptor → CaptureReplies) (n : Nat) :
    HoldingAt (c.loop replies n) := by
  induction n generalizing c with
  | zero => exact h
  | succ n ih =>
    unfold Capture.loop
    split
    · exact h
    · rename_i d rest hd
      exact ih (h.turn hd)

theorem Holding.capture {s : Devices} (h : Holding [] s) : Holding [] (s.capture replies).2 := by
  obtain ⟨files, hd, hb⟩ := h
  have hstart : HoldingAt (.start s) := ⟨[], files, rfl, hd, hb⟩
  obtain ⟨before, after, hbefore, hafter, hb'⟩ :=
    hstart.loop replies s.descriptors.length
  refine ⟨before ++ after, ?_, hb'.vector _⟩
  show _ ++ _ = _
  rw [hbefore, hafter, List.map_append]

/-- What a turn adds to what is captured. -/
structure Adds (replies : Descriptor → CaptureReplies) (d : Descriptor) (c c' : Capture) :
    Prop where
  captured : c'.captured = true ↔ c.captured = true ∨ Answers (replies d)
  keys : ∀ key, c'.keys key = true ↔ c.keys key = true ∨ HasBit (replies d).keys key
  leds : ∀ led, c'.leds led = true ↔
    c.leds led = true ∨ Answers (replies d) ∧ HasBit (replies d).leds led

theorem turn_adds (replies : Descriptor → CaptureReplies) (c : Capture) (d : Descriptor)
    (rest : List Descriptor) :
    Adds replies d c (c.turn replies d rest) ∧ (c.turn replies d rest).after = rest := by
  unfold Capture.turn
  dsimp only
  split
  · rename_i e he
    have hno : ¬Answers (replies d) := fun ⟨w, hw⟩ => nomatch hw.symm.trans he
    rw [erase_eq]
    refine ⟨⟨?_, fun key => ?_, fun led => ?_⟩, rfl⟩
    · exact (or_iff_left hno).symm
    · exact (or_iff_left fun ⟨w, hw, _⟩ => hno ⟨w, hw⟩).symm
    · exact (or_iff_left fun h => hno h.1).symm
  · rename_i keys hkeys
    have hyes : Answers (replies d) := ⟨keys, hkeys⟩
    refine ⟨⟨?_, fun key => ?_, fun led => ?_⟩, rfl⟩
    · exact iff_of_true rfl (.inr hyes)
    · rw [Bool.or_eq_true]
      refine or_congr_right ⟨fun h => ⟨keys, hkeys, h⟩, fun ⟨w, hw, h⟩ => ?_⟩
      cases hw.symm.trans hkeys
      exact h
    · dsimp only
      cases hleds : (replies d).leds.result with
      | ok words =>
        rw [Bool.or_eq_true]
        refine or_congr_right ⟨fun h => ⟨hyes, words, hleds, h⟩, fun ⟨_, w, hw, h⟩ => ?_⟩
        cases hw.symm.trans hleds
        exact h
      | error e => exact (or_iff_left fun ⟨_, w, hw, _⟩ => nomatch hw.symm.trans hleds).symm

/-- What the loop makes of the descriptors from the iterator on; it gets to the end of them. -/
theorem loop_adds (replies : Descriptor → CaptureReplies) (n : Nat) (hn : c.after.length = n) :
    ((c.loop replies n).captured = true ↔
      c.captured = true ∨ ∃ d ∈ c.after, Answers (replies d)) ∧
    (∀ key, (c.loop replies n).keys key = true ↔
      c.keys key = true ∨ ∃ d ∈ c.after, HasBit (replies d).keys key) ∧
    (∀ led, (c.loop replies n).leds led = true ↔
      c.leds led = true ∨ ∃ d ∈ c.after, Answers (replies d) ∧ HasBit (replies d).leds led) ∧
    (c.loop replies n).after = [] := by
  induction n generalizing c with
  | zero =>
    have hnil := List.length_eq_zero_iff.mp hn
    rw [hnil]
    exact ⟨by simp [Capture.loop], by simp [Capture.loop], by simp [Capture.loop], hnil⟩
  | succ n ih =>
    obtain ⟨d, rest, hd⟩ := List.exists_cons_of_length_eq_add_one hn
    obtain ⟨hadds, hrest⟩ := turn_adds replies c d rest
    have hlen : (c.turn replies d rest).after.length = n := by
      rw [hrest]
      rw [hd] at hn
      exact Nat.succ.inj hn
    obtain ⟨hcaptured, hkeys, hleds, hend⟩ := ih hlen
    have hloop : c.loop replies (n + 1) = (c.turn replies d rest).loop replies n := by
      rw [Capture.loop, hd]
    rw [hloop, hd]
    rw [hrest] at hcaptured hkeys hleds
    simp only [List.mem_cons, exists_eq_or_imp]
    refine ⟨?_, fun key => ?_, fun led => ?_, hend⟩
    · rw [hcaptured, hadds.captured, or_assoc]
    · rw [hkeys, hadds.keys, or_assoc]
    · rw [hleds, hadds.leds, or_assoc]

theorem capture_reports (replies : Descriptor → CaptureReplies) (s : Devices) :
    Reports replies s.descriptors (s.capture replies).1 := by
  obtain ⟨hcaptured, hkeys, hleds, -⟩ :=
    loop_adds (c := .start s) replies s.descriptors.length rfl
  have hstate : (s.capture replies).1.state = .ready ↔
      ((Capture.start s).loop replies s.descriptors.length).captured = true := by
    show (if _ then _ else _) = _ ↔ _
    split
    · rename_i h
      exact iff_of_true rfl h
    · rename_i h
      refine iff_of_false ?_ h
      split <;> nofun
  have hready : (s.capture replies).1.state = .ready ↔
      ∃ d ∈ s.descriptors, Answers (replies d) := by
    rw [hstate, hcaptured]
    exact or_iff_right Bool.false_ne_true
  have hkeys' : ∀ key, (s.capture replies).1.keys key = true ↔
      ∃ d ∈ s.descriptors, HasBit (replies d).keys key := fun key =>
    (hkeys key).trans (or_iff_right Bool.false_ne_true)
  have hleds' : ∀ led, (s.capture replies).1.leds led = true ↔
      ∃ d ∈ s.descriptors, Answers (replies d) ∧ HasBit (replies d).leds led := fun led =>
    (hleds led).trans (or_iff_right Bool.false_ne_true)
  refine ⟨hready, hkeys', hleds', fun hn => ⟨fun key => ?_, fun led => ?_⟩⟩
  · refine Bool.eq_false_iff.mpr fun h => hn (hready.mpr ?_)
    obtain ⟨d, hd, w, hw, -⟩ := (hkeys' key).mp h
    exact ⟨d, hd, w, hw⟩
  · refine Bool.eq_false_iff.mpr fun h => hn (hready.mpr ?_)
    obtain ⟨d, hd, ha, -⟩ := (hleds' led).mp h
    exact ⟨d, hd, ha⟩

end Capture

/-! ## Runs -/

theorem holding_calls (l : List Call) : Holding [] (Devices.calls l) := by
  have hrun : ∀ s, Holding [] s → Holding [] (l.foldl Devices.call s) := by
    induction l with
    | nil => exact fun s h => h
    | cons c l ih =>
      refine fun s h => ih _ ?_
      cases c with
      | scan d => exact h.scan d
      | capture replies => exact h.capture
  exact hrun {} ⟨[], rfl, books_start⟩

/-- When nothing is held, all was released. -/
theorem closedOnce {l : Ledger} (h : l.Held []) : ClosedOnce l where
  once := h.sound.once
  all := fun r => ⟨h.sound.known r, fun hr => by
    refine Decidable.byContradiction fun hn => ?_
    exact List.not_mem_nil ((h.live r).mp ⟨hr, hn⟩)⟩

section Monitoring

variable {κ : Type} (released : κ)
  (mapKeyboardState : (Fin (KEY_MAX + 1) → Bool) → (Fin (LED_MAX + 1) → Bool) → κ)

theorem calls_snoc (l : List Call) (c : Call) :
    (Devices.calls l).call c = Devices.calls (l ++ [c]) := by
  rw [Devices.calls, Devices.calls, List.foldl_append]
  rfl

theorem publishes_turn {m : Monitor κ} (h : Publishes released mapKeyboardState m) (d : Directory)
    (replies : Descriptor → CaptureReplies) :
    Publishes released mapKeyboardState (m.turn released mapKeyboardState d replies) := by
  obtain ⟨l, hl⟩ := h.devices
  unfold Monitor.turn
  -- the devices that a turn captures from, after a scan or without one
  obtain ⟨access, s, ticks, hturn, l', rfl⟩ : ∃ access s ticks,
      (if m.rescanTicks = 0 then
        ((m.devices.scan d).1, (m.devices.scan d).2, RESCAN_INTERVAL_TICKS)
      else (m.accessState, m.devices, m.rescanTicks - 1)) = (access, s, ticks) ∧
      ∃ l', s = Devices.calls l' := by
    split
    · exact ⟨_, _, _, rfl, l ++ [.scan d], by rw [← calls_snoc, ← hl]; rfl⟩
    · exact ⟨_, _, _, rfl, l, hl⟩
  rw [hturn]
  dsimp only
  split
  · have hcapture : ((Devices.calls l').capture replies).2 =
        Devices.calls (l' ++ [.capture replies]) := calls_snoc l' (.capture replies)
    split
    · rename_i hready
      exact ⟨⟨_, hcapture⟩, fun _ => ⟨l', replies, hready, rfl⟩, fun hn => absurd hready hn⟩
    · rename_i hn
      exact ⟨⟨_, hcapture⟩, fun hready => absurd hready hn, fun _ => rfl⟩
  · rename_i hn
    exact ⟨⟨_, rfl⟩, fun hready => absurd hready hn, fun _ => rfl⟩

theorem publishes_monitored (turns : List (Directory × (Descriptor → CaptureReplies))) :
    Publishes released mapKeyboardState (monitored released mapKeyboardState turns) := by
  have hrun : ∀ m, Publishes released mapKeyboardState m →
      Publishes released mapKeyboardState
        (turns.foldl (fun m t => m.turn released mapKeyboardState t.1 t.2) m) := by
    induction turns with
    | nil => exact fun m h => h
    | cons t turns ih =>
      exact fun m h => ih _ (publishes_turn released mapKeyboardState h t.1 t.2)
  exact hrun _ ⟨⟨[], rfl⟩, nofun, fun _ => rfl⟩

end Monitoring

/-- After any calls: when the devices are destroyed, every file and directory that was opened has
been closed once; no descriptor was queried after a query of its keys failed; what is captured is
what the descriptors reply; and the monitor publishes that, or that all is released. -/
theorem keyboard_devices {κ : Type} (released : κ)
    (mapKeyboardState : (Fin (KEY_MAX + 1) → Bool) → (Fin (LED_MAX + 1) → Bool) → κ) :
    (∀ l, ClosedOnce (Devices.calls l).destroy.opened ∧
      ClosedOnce (Devices.calls l).destroy.directories ∧
      NeverAgain (Devices.calls l).destroy.queries ∧
      ∀ replies, Reports replies (Devices.calls l).descriptors
        ((Devices.calls l).capture replies).1) ∧
    ∀ turns, Publishes released mapKeyboardState (monitored released mapKeyboardState turns) := by
  refine ⟨fun l => ?_, publishes_monitored released mapKeyboardState⟩
  obtain ⟨files, hd, hb⟩ := (holding_calls l).clear
  cases files with
  | nil => exact ⟨closedOnce hb.opened, closedOnce hb.directories, hb.never,
      fun replies => capture_reports replies _⟩
  | cons fd files => cases hd

end WSE.Proof.Iui
