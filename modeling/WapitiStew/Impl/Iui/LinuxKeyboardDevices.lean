import WapitiStew.Framework.Ledger

/-!
# Keyboard devices

`LinuxKeyboardDevices` of `platform/iui/linux/device/LinuxKeyboardDevices.h`, and what
`Keyboard::monitorLoop` of `platform/iui/linux/device/Keyboard.cpp` does with it. The results of the
native operations are arguments: what a directory lists, with what comes of each entry, and what
each device replies. Descriptors and directories are the numbers of their openings; a listing or a
query that never ends is not modelled.
-/

namespace WSE.Impl.Iui

open WSE.Framework

/-! ## Constants of the system -/

def EPERM : Nat := 1

def EINTR : Nat := 4

def EACCES : Nat := 13

def KEY_MAX : Nat := 767

def LED_MAX : Nat := 15

def KEY_ENTER : Nat := 28

def KEY_A : Nat := 30

def KEY_Z : Nat := 44

def KEY_SPACE : Nat := 57

def BUS_CEC : Nat := 30

inductive KeyboardAccessState
  | starting | ready | unavailable | permissionDenied | disconnected
  deriving DecidableEq

/-- The words of a bit set. -/
abbrev KeyboardBitWords := Nat → UInt64

def keyboardBitSet (words : KeyboardBitWords) (bit : Nat) : Bool :=
  words (bit / 64) &&& 1 <<< UInt64.ofNat (bit % 64) ≠ 0

def keyboardPermissionDenied (error : Nat) : Bool := error = EACCES || error = EPERM

/-! ## Native results -/

/-- An error that ends a query. -/
structure QueryError where
  errno : Nat
  ends : errno ≠ EINTR
  deriving DecidableEq

/-- A query is interrupted some times, and then has a result. -/
structure Reply (α : Type) where
  interrupted : Nat := 0
  result : Except QueryError α

structure DeviceReplies where
  /-- The bus type of `EVIOCGID`. -/
  bustype : Reply Nat
  capabilities : Reply KeyboardBitWords
  /-- Whether the vector of the descriptors can grow. -/
  grows : Bool := true

structure Entry where
  name : List Char
  /-- Whether the path can be allocated. -/
  allocated : Bool := true
  /-- The result of opening the path. -/
  device : Except Nat DeviceReplies

/-- What comes of a directory: it cannot be opened, or lists its entries and ends with an error, or
with none (0). -/
inductive Directory
  | refused (errno : Nat)
  | lists (entries : List Entry) (errno : Nat)

structure CaptureReplies where
  keys : Reply KeyboardBitWords
  leds : Reply KeyboardBitWords

/-! ## Devices -/

inductive Request
  | identity | capabilities | keys | leds
  deriving DecidableEq

/-- The file of a `Descriptor`, if it has not been moved from. -/
abbrev Descriptor := Option Nat

/-- A native query with its error, if it failed. -/
structure Query where
  fd : Descriptor
  request : Request
  error : Option Nat
  deriving DecidableEq

/-- `LinuxKeyboardDevices`, with what was opened and closed, and the queries that were made. -/
structure Devices where
  descriptors : List Descriptor := []
  opened : Ledger := {}
  directories : Ledger := {}
  queries : List Query := []
  deriving DecidableEq

namespace Devices

/-- `Descriptor::reset`. -/
def reset (s : Devices) (d : Descriptor) : Devices :=
  { s with opened := s.opened.release d.toList }

/-- `query`: again while it is interrupted. -/
def query {α : Type} (s : Devices) (fd : Descriptor) (request : Request) (r : Reply α) : Devices :=
  { s with
    queries := s.queries ++ List.replicate r.interrupted ⟨fd, request, some EINTR⟩ ++
      [⟨fd, request, match r.result with
        | .ok _ => none
        | .error e => some e.errno⟩] }

/-- `descriptors.clear()`. -/
def clear (s : Devices) : Devices :=
  { s.descriptors.foldl reset s with descriptors := [] }

def openDevice (s : Devices) : Devices := { s with opened := s.opened.acquire }

def openDirectory (s : Devices) : Devices := { s with directories := s.directories.acquire }

def closeDirectory (s : Devices) (directory : Nat) : Devices :=
  { s with directories := s.directories.release [directory] }

/-! ### Scan -/

/-- The queries of a candidate: whether it is kept, and whether access is denied then. -/
def examine (r : DeviceReplies) (fd : Descriptor) (denied : Bool) (s : Devices) :
    (Bool × Bool) × Devices :=
  let s := s.query fd .identity r.bustype
  match r.bustype.result with
  | .error e => ((false, denied || keyboardPermissionDenied e.errno), s)
  | .ok bustype =>
    if bustype = BUS_CEC then ((false, denied), s)
    else
      let s := s.query fd .capabilities r.capabilities
      match r.capabilities.result with
      | .error e => ((false, denied || keyboardPermissionDenied e.errno), s)
      | .ok keys =>
        ((keyboardBitSet keys KEY_A && keyboardBitSet keys KEY_Z &&
          keyboardBitSet keys KEY_ENTER && keyboardBitSet keys KEY_SPACE, denied), s)

/-- One entry: whether access is denied then, or nothing if an allocation threw. A candidate that
was not moved to the vector is closed in either case. -/
def scanEntry (e : Entry) (denied : Bool) (s : Devices) : Option Bool × Devices :=
  if !"event".toList.isPrefixOf e.name then (some denied, s)
  else if !e.allocated then (none, s)
  else match e.device with
    | .error errno => (some (denied || keyboardPermissionDenied errno), s)
    | .ok r =>
      let fd := some s.opened.acquired
      let ((keyboard, denied), s) := examine r fd denied s.openDevice
      if !keyboard then (some denied, s.reset fd)
      else if !r.grows then (none, s.reset fd)
      else (some denied, { s with descriptors := s.descriptors ++ [fd] })

def scanEntries : List Entry → Bool → Devices → Option Bool × Devices
  | [], denied, s => (some denied, s)
  | e :: entries, denied, s =>
    match scanEntry e denied s with
    | (none, s) => (none, s)
    | (some denied, s) => scanEntries entries denied s

def scan (d : Directory) (s : Devices) : KeyboardAccessState × Devices :=
  let s := s.clear
  match d with
  | .refused errno =>
    (if keyboardPermissionDenied errno then .permissionDenied else .unavailable, s)
  | .lists entries errno =>
    let directory := s.directories.acquired
    let (denied, s) := scanEntries entries false s.openDirectory
    -- The directory is closed when its owner is left, also by an exception.
    let s := s.closeDirectory directory
    match denied with
    | none => (.unavailable, s.clear)
    | some denied =>
      if !s.descriptors.isEmpty then (.ready, s)
      else if denied || keyboardPermissionDenied errno then (.permissionDenied, s)
      else (.unavailable, s)

end Devices

/-! ### Capture -/

/-- `descriptors.erase( iterator )`, from an element on: each is assigned the next one, which closes
what it had, and the last one is destroyed. The files that are closed, and the elements then. -/
def erase : Descriptor → List Descriptor → List Nat × List Descriptor
  | d, [] => (d.toList, [])
  | d, next :: rest =>
    -- The next one has been moved from.
    let (closed, moved) := erase none rest
    (d.toList ++ closed, next :: moved)

/-- `capture` at an iterator, with the vector before and after it. -/
structure Capture where
  before : List Descriptor := []
  after : List Descriptor := []
  keys : Fin (KEY_MAX + 1) → Bool := fun _ => false
  leds : Fin (LED_MAX + 1) → Bool := fun _ => false
  captured : Bool := false
  denied : Bool := false
  devices : Devices := {}

namespace Capture

/-- A turn of the loop, at a descriptor. -/
def turn (replies : Descriptor → CaptureReplies) (c : Capture) (d : Descriptor)
    (rest : List Descriptor) : Capture :=
  let r := replies d
  let s := c.devices.query d .keys r.keys
  match r.keys.result with
  | .error e =>
    let (closed, moved) := erase d rest
    { c with
      after := moved
      denied := c.denied || keyboardPermissionDenied e.errno
      devices := { s with opened := s.opened.release closed } }
  | .ok keys =>
    { c with
      before := c.before ++ [d]
      after := rest
      captured := true
      keys := fun key => c.keys key || keyboardBitSet keys key
      leds := match r.leds.result with
        | .ok leds => fun led => c.leds led || keyboardBitSet leds led
        | .error _ => c.leds
      devices := s.query d .leds r.leds }

/-- The loop, for so many turns. -/
def loop (replies : Descriptor → CaptureReplies) : Nat → Capture → Capture
  | 0, c => c
  | n + 1, c =>
    match c.after with
    | [] => c
    | d :: rest => loop replies n (c.turn replies d rest)

def start (s : Devices) : Capture := { after := s.descriptors, devices := s }

end Capture

/-- What `capture` returns and writes. -/
structure Captured where
  state : KeyboardAccessState
  keys : Fin (KEY_MAX + 1) → Bool
  leds : Fin (LED_MAX + 1) → Bool

/-- A turn passes or erases one descriptor, so that there are as many as descriptors. -/
def Devices.capture (replies : Descriptor → CaptureReplies) (s : Devices) : Captured × Devices :=
  let c := (Capture.start s).loop replies s.descriptors.length
  ({ state := if c.captured then .ready else if c.denied then .permissionDenied else .disconnected
     keys := c.keys
     leds := c.leds }, { c.devices with descriptors := c.before ++ c.after })

/-! ## Runs -/

inductive Call
  | scan (d : Directory)
  | capture (replies : Descriptor → CaptureReplies)

def Devices.call (s : Devices) : Call → Devices
  | .scan d => (s.scan d).2
  | .capture replies => (s.capture replies).2

/-- After calls, from the construction on. -/
def Devices.calls (l : List Call) : Devices := l.foldl Devices.call {}

/-- The destructor. -/
def Devices.destroy (s : Devices) : Devices := s.clear

/-! ## The monitor -/

def RESCAN_INTERVAL_TICKS : Nat := 200

/-- What `monitorLoop` keeps, with the state that it publishes. -/
structure Monitor (κ : Type) where
  devices : Devices := {}
  rescanTicks : Nat := 0
  accessState : KeyboardAccessState := .starting
  current : κ

/-- A turn of `monitorLoop`. `released` is `KeyboardState{}`. -/
def Monitor.turn {κ : Type} (released : κ)
    (mapKeyboardState : (Fin (KEY_MAX + 1) → Bool) → (Fin (LED_MAX + 1) → Bool) → κ)
    (d : Directory) (replies : Descriptor → CaptureReplies) (m : Monitor κ) : Monitor κ :=
  let (access, s, ticks) :=
    if m.rescanTicks = 0 then ((m.devices.scan d).1, (m.devices.scan d).2, RESCAN_INTERVAL_TICKS)
    else (m.accessState, m.devices, m.rescanTicks - 1)
  if access = .ready then
    let (captured, s) := s.capture replies
    if captured.state = .ready then
      ⟨s, ticks, captured.state, mapKeyboardState captured.keys captured.leds⟩
    else ⟨s, RESCAN_INTERVAL_TICKS, captured.state, released⟩
  else ⟨s, ticks, access, released⟩

end WSE.Impl.Iui
