import WapitiStew.Framework.Bytes

/-!
# Standard file streams

What a program sees of a file through `std::ifstream` and `std::ofstream`.

An `InputFile` fixes what reading can meet: a refused open, the bytes, a device
error in place of the end of the file, a failing close. `IStream` keeps the
unread bytes and the three state bits.

An `OStream` splits what the program wrote into what has reached the file
(`disk`) and what is still buffered. Every call takes an `IOResult`: how many
pending bytes it moves to the file, and whether it succeeds. A file holds at
most `maxFileSize` bytes; moving more is a failure of the stream.

* `content_writeAll`: a stream that has not failed holds all that was written.
* `disk_finish`: flush and close without failure leave all of it in the file.
* `finish_healthy`: when no call fails and the file can hold the bytes, the
  stream does not fail.
-/

namespace WSE.Framework

/-! ## Input -/

/-- A file, with everything the environment decides about reading it. -/
structure InputFile where
  opens : Bool := true
  bytes : Bytes
  /-- The device fails where the bytes stop, instead of ending the file. -/
  faulty : Bool := false
  closes : Bool := true
  deriving DecidableEq

/-- The file opens, is read and is closed without an I/O error. -/
def InputFile.Readable (f : InputFile) : Prop :=
  f.opens = true ∧ f.faulty = false ∧ f.closes = true

instance (f : InputFile) : Decidable f.Readable :=
  inferInstanceAs (Decidable (_ ∧ _ ∧ _))

structure IStream where
  rest : Bytes
  faulty : Bool
  closes : Bool
  eofbit : Bool := false
  failbit : Bool := false
  badbit : Bool := false
  deriving DecidableEq

/-- The stream that `std::ifstream` opens. -/
def InputFile.stream (f : InputFile) : IStream := ⟨f.bytes, f.faulty, f.closes, false, false, false⟩

namespace IStream

def good (s : IStream) : Bool := !s.eofbit && !s.failbit && !s.badbit

/-- `fail()`: what `!file` tests. -/
def fail (s : IStream) : Bool := s.failbit || s.badbit

/-- Where the bytes stop: the end of the file, or the device error. -/
def exhaust (s : IStream) : IStream :=
  if s.faulty then { s with rest := [], badbit := true } else { s with rest := [], eofbit := true }

/-- `peek()`; `none` is `EOF`. -/
def peek (s : IStream) : Option Byte × IStream :=
  if s.good then
    match s.rest with
    | [] => (none, s.exhaust)
    | b :: _ => (some b, s)
  else (none, { s with failbit := true })

/-- `read(buffer, n)`: the bytes, unless the stream fails. -/
def read (s : IStream) (n : Nat) : Option Bytes × IStream :=
  if s.good then
    if n ≤ s.rest.length then (some (s.rest.take n), { s with rest := s.rest.drop n })
    else (none, { s.exhaust with failbit := true })
  else (none, { s with failbit := true })

/-- `get(value)`. -/
def get (s : IStream) : Option Byte × IStream :=
  match s.read 1 with
  | (some (b :: _), s) => (some b, s)
  | (_, s) => (none, s)

def clear (s : IStream) : IStream := { s with eofbit := false, failbit := false, badbit := false }

def close (s : IStream) : IStream := if s.closes then s else { s with failbit := true }

/-- A stream that has met neither the end of its file nor an error. -/
structure Open (s : IStream) : Prop where
  eofbit : s.eofbit = false
  failbit : s.failbit = false
  badbit : s.badbit = false

theorem Open.good {s : IStream} (h : s.Open) : s.good = true := by
  simp [IStream.good, h.eofbit, h.failbit, h.badbit]

theorem open_stream (f : InputFile) : f.stream.Open := ⟨rfl, rfl, rfl⟩

theorem Open.advance {s : IStream} (h : s.Open) (bs : Bytes) : { s with rest := bs }.Open :=
  ⟨h.eofbit, h.failbit, h.badbit⟩

theorem Open.peek_nil {s : IStream} (h : s.Open) (hr : s.rest = []) :
    s.peek = (none, s.exhaust) := by
  simp only [peek, h.good, hr, if_true]

theorem Open.peek_cons {s : IStream} (h : s.Open) {b : Byte} {bs : Bytes} (hr : s.rest = b :: bs) :
    s.peek = (some b, s) := by
  simp only [peek, h.good, hr, if_true]

theorem Open.read_of_le {s : IStream} (h : s.Open) {n : Nat} (hn : n ≤ s.rest.length) :
    s.read n = (some (s.rest.take n), { s with rest := s.rest.drop n }) := by
  simp only [read, h.good, hn, if_true]

theorem Open.read_of_lt {s : IStream} (h : s.Open) {n : Nat} (hn : s.rest.length < n) :
    s.read n = (none, { s.exhaust with failbit := true }) := by
  simp only [read, h.good, Nat.not_le.mpr hn, if_true, if_false]

theorem Open.get_cons {s : IStream} (h : s.Open) {b : Byte} {bs : Bytes} (hr : s.rest = b :: bs) :
    s.get = (some b, { s with rest := bs }) := by
  have hn : 1 ≤ s.rest.length := by simp [hr]
  simp only [get, h.read_of_le hn, hr, List.take_succ_cons, List.take_zero, List.drop_succ_cons,
    List.drop_zero]

/-- A successful read takes its bytes from the front of what is left. -/
theorem rest_read {s s' : IStream} {n : Nat} {bs : Bytes} (h : s.read n = (some bs, s')) :
    s.rest = bs ++ s'.rest ∧ bs.length = n := by
  unfold read at h
  split at h
  · split at h
    · rename_i hn
      obtain ⟨h1, h2⟩ := Prod.mk.inj h
      cases Option.some.inj h1
      subst h2
      exact ⟨(List.take_append_drop n s.rest).symm, List.length_take_of_le hn⟩
    · cases (Prod.mk.inj h).1
  · cases (Prod.mk.inj h).1

theorem rest_get {s s' : IStream} {b : Byte} (h : s.get = (some b, s')) :
    s.rest.length = s'.rest.length + 1 := by
  unfold get at h
  split at h
  · rename_i c cs t hr
    cases h
    obtain ⟨hrest, hlen⟩ := rest_read hr
    rw [hrest, List.length_append, hlen, Nat.add_comm]
  · cases (Prod.mk.inj h).1

@[simp] theorem exhaust_faulty (s : IStream) : s.exhaust.faulty = s.faulty := by
  unfold exhaust; split <;> rfl

@[simp] theorem exhaust_closes (s : IStream) : s.exhaust.closes = s.closes := by
  unfold exhaust; split <;> rfl

/-- The test after a read loop: the stream stopped at the end of the file. -/
theorem Open.ended_exhaust {s : IStream} (h : s.Open) :
    (s.exhaust.badbit || !s.exhaust.eofbit) = s.faulty := by
  unfold exhaust
  cases hf : s.faulty <;> simp [h.badbit]

@[simp] theorem fail_close_clear (s : IStream) : s.clear.close.fail = !s.closes := by
  unfold clear close fail
  cases s.closes <;> rfl

end IStream

/-! ## Output -/

/-- The largest file offset (`off_t`). -/
def maxFileSize : Nat := 2 ^ 63 - 1

/-- What the environment does in one call on an output stream. -/
structure IOResult where
  ok : Bool
  /-- The number of pending bytes that reach the file. -/
  moved : Nat
  deriving DecidableEq

structure OStream where
  disk : Bytes
  buffer : Bytes
  failed : Bool
  deriving DecidableEq

namespace OStream

/-- A stream opened on a file that holds `disk`. -/
def opened (disk : Bytes) : OStream := ⟨disk, [], false⟩

/-- All bytes the stream has accepted. -/
def content (s : OStream) : Bytes := s.disk ++ s.buffer

/-- Move pending bytes to the file, as far as it can grow. -/
def push (r : IOResult) (s : OStream) : OStream :=
  let wanted := min r.moved s.buffer.length
  let moved := min wanted (maxFileSize - s.disk.length)
  { disk := s.disk ++ s.buffer.take moved
    buffer := s.buffer.drop moved
    failed := s.failed || !r.ok || decide (moved < wanted) }

/-- Move everything if the call succeeds, and what it reports otherwise. -/
def pushAll (r : IOResult) (s : OStream) : OStream :=
  s.push (if r.ok then ⟨true, s.buffer.length⟩ else r)

/-- `write(bytes, n)`; a failed stream takes nothing. -/
def write (r : IOResult) (bs : Bytes) (s : OStream) : OStream :=
  if s.failed then s else push r { s with buffer := s.buffer ++ bs }

def flush (r : IOResult) (s : OStream) : OStream := if s.failed then s else s.pushAll r

/-- `close()`: the buffer is written out also after a failure. -/
def close (r : IOResult) (s : OStream) : OStream := s.pushAll r

@[simp] theorem content_push (r : IOResult) (s : OStream) : (s.push r).content = s.content := by
  simp only [content, push, List.append_assoc, List.take_append_drop]

theorem disk_push_le (r : IOResult) {s : OStream} (h : s.disk.length ≤ maxFileSize) :
    (s.push r).disk.length ≤ maxFileSize := by
  simp only [push, List.length_append, List.length_take]
  omega

/-- A successful `pushAll` empties the buffer. -/
theorem disk_pushAll {r : IOResult} {s : OStream} (h : (s.pushAll r).failed = false) :
    (s.pushAll r).disk = s.content := by
  have hok : r.ok = true := by
    by_contra hr
    rw [Bool.not_eq_true] at hr
    simp [pushAll, push, hr] at h
  simp only [pushAll, hok, if_true, push, Nat.min_self, Bool.or_eq_false_iff,
    decide_eq_false_iff_not, Nat.not_lt] at h
  simp only [pushAll, hok, if_true, push, Nat.min_self, content]
  rw [List.take_of_length_le h.2]

theorem failed_write {r : IOResult} {bs : Bytes} {s : OStream}
    (h : (s.write r bs).failed = false) : s.failed = false := by
  unfold write at h
  split at h
  · exact h
  · rename_i hs
    exact Bool.eq_false_iff.mpr hs

theorem content_write {r : IOResult} {bs : Bytes} {s : OStream}
    (h : (s.write r bs).failed = false) : (s.write r bs).content = s.content ++ bs := by
  have hs := failed_write h
  unfold write
  rw [if_neg (by simp [hs]), content_push]
  simp [content]

theorem disk_write_le (r : IOResult) (bs : Bytes) {s : OStream}
    (h : s.disk.length ≤ maxFileSize) : (s.write r bs).disk.length ≤ maxFileSize := by
  unfold write
  split
  · exact h
  · exact disk_push_le r h

/-- The calls `write(bs)` for each `bs` in turn; the `i`-th meets `rs i`. -/
def writeAll (rs : Nat → IOResult) : List Bytes → OStream → OStream
  | [], s => s
  | bs :: bss, s => writeAll (fun i => rs (i + 1)) bss (s.write (rs 0) bs)

theorem failed_writeAll {rs : Nat → IOResult} {bss : List Bytes} {s : OStream}
    (h : (s.writeAll rs bss).failed = false) : s.failed = false := by
  induction bss generalizing rs s with
  | nil => exact h
  | cons bs bss ih => exact failed_write (ih h)

theorem content_writeAll {rs : Nat → IOResult} {bss : List Bytes} {s : OStream}
    (h : (s.writeAll rs bss).failed = false) :
    (s.writeAll rs bss).content = s.content ++ bss.flatten := by
  induction bss generalizing rs s with
  | nil => simp [writeAll]
  | cons bs bss ih =>
    rw [writeAll, ih h, content_write (failed_writeAll h), List.flatten_cons, List.append_assoc]

theorem disk_writeAll_le (rs : Nat → IOResult) (bss : List Bytes) {s : OStream}
    (h : s.disk.length ≤ maxFileSize) : (s.writeAll rs bss).disk.length ≤ maxFileSize := by
  induction bss generalizing rs s with
  | nil => exact h
  | cons bs bss ih => exact ih _ (disk_write_le _ _ h)

/-! ### Flush and close -/

/-- `flush()` and then `close()`. -/
def finish (fl cl : IOResult) (s : OStream) : OStream := (s.flush fl).close cl

/-- Neither `flush()` nor `close()` left the stream failed. -/
def Finished (fl cl : IOResult) (s : OStream) : Prop :=
  (s.flush fl).failed = false ∧ (s.finish fl cl).failed = false

instance (fl cl : IOResult) (s : OStream) : Decidable (s.Finished fl cl) :=
  inferInstanceAs (Decidable (_ ∧ _))

theorem failed_flush {r : IOResult} {s : OStream} (h : (s.flush r).failed = false) :
    s.failed = false := by
  unfold flush at h
  split at h
  · exact h
  · rename_i hs
    exact Bool.eq_false_iff.mpr hs

theorem failed_of_finished {fl cl : IOResult} {s : OStream} (h : s.Finished fl cl) :
    s.failed = false := failed_flush h.1

theorem content_flush (r : IOResult) (s : OStream) : (s.flush r).content = s.content := by
  unfold flush
  split
  · rfl
  · exact content_push _ s

theorem disk_finish {fl cl : IOResult} {s : OStream} (h : s.Finished fl cl) :
    (s.finish fl cl).disk = s.content := by
  rw [finish, close, disk_pushAll h.2, content_flush]

theorem disk_flush_le (r : IOResult) {s : OStream} (h : s.disk.length ≤ maxFileSize) :
    (s.flush r).disk.length ≤ maxFileSize := by
  unfold flush
  split
  · exact h
  · exact disk_push_le _ h

theorem disk_finish_le (fl cl : IOResult) {s : OStream} (h : s.disk.length ≤ maxFileSize) :
    (s.finish fl cl).disk.length ≤ maxFileSize :=
  disk_push_le _ (disk_flush_le fl h)

/-! ### Streams that meet no failure -/

theorem push_healthy {r : IOResult} {s : OStream} (hs : s.failed = false) (hr : r.ok = true)
    (hc : s.content.length ≤ maxFileSize) : (s.push r).failed = false := by
  simp only [content, List.length_append] at hc
  simp only [push, hs, hr, Bool.not_true, Bool.or_false, Bool.false_or, decide_eq_false_iff_not]
  omega

theorem pushAll_healthy {r : IOResult} {s : OStream} (hs : s.failed = false) (hr : r.ok = true)
    (hc : s.content.length ≤ maxFileSize) : (s.pushAll r).failed = false := by
  unfold pushAll
  rw [if_pos hr]
  exact push_healthy hs rfl hc

theorem writeAll_healthy {rs : Nat → IOResult} {bss : List Bytes} {s : OStream}
    (hs : s.failed = false) (hr : ∀ i, (rs i).ok = true)
    (hc : (s.content ++ bss.flatten).length ≤ maxFileSize) :
    (s.writeAll rs bss).failed = false := by
  induction bss generalizing rs s with
  | nil => exact hs
  | cons bs bss ih =>
    rw [List.flatten_cons, ← List.append_assoc] at hc
    have hw : (s.write (rs 0) bs).failed = false := by
      unfold write
      rw [if_neg (by simp [hs])]
      refine push_healthy hs (hr 0) ?_
      simp only [content, List.length_append] at hc ⊢
      omega
    exact ih hw (fun i => hr (i + 1)) (by rw [content_write hw]; exact hc)

theorem finish_healthy {fl cl : IOResult} {s : OStream} (hs : s.failed = false)
    (hf : fl.ok = true) (hl : cl.ok = true) (hc : s.content.length ≤ maxFileSize) :
    s.Finished fl cl := by
  have h : (s.flush fl).failed = false := by
    unfold flush
    rw [if_neg (by simp [hs])]
    exact pushAll_healthy hs hf hc
  exact ⟨h, pushAll_healthy h hl (by rw [content_flush]; exact hc)⟩

end OStream

end WSE.Framework
