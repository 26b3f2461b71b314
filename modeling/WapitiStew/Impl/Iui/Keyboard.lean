import Mathlib.Data.Fin.VecNotation
import Mathlib.Data.Fintype.Pi
import WapitiStew.Framework.Transition
import WapitiStew.Impl.Iui.LinuxKeyboardDevices

/-!
# The keyboard

`Keyboard` of `platform/iui/linux/device/Keyboard.cpp`: what captured keys and lights mean
(`mapKeyboardState`), and its worker, `monitorLoop`, with the threads that set the callback, ask
whether all keys are released and request the stop. A step is one region of the mutex, one capture,
or the begin or the end of a callback, which may itself do what the other threads do. A keyboard is
followed from its construction until its worker is stopped; copies and moves are not modelled.

The codes of keys and lights are those of `linux/input-event-codes.h`.
-/

namespace WSE.Impl.Iui

/-! ## Keyboard states -/

abbrev ASCII_NUM : Nat := 128

abbrev FANCTION_NUM : Nat := 24

abbrev ARROW_NUM : Nat := 4

abbrev LOCK_NUM : Nat := 3

abbrev COMMAND_NUM : Nat := 9

def COM_SPACE : Fin COMMAND_NUM := 0

def COM_ENTER : Fin COMMAND_NUM := 1

def COM_DELETE : Fin COMMAND_NUM := 2

def COM_ESC : Fin COMMAND_NUM := 3

def COM_TAB : Fin COMMAND_NUM := 4

def COM_BACKSPACE : Fin COMMAND_NUM := 7

structure KeyboardState where
  ascii : Fin ASCII_NUM → Bool := fun _ => false
  function : Fin FANCTION_NUM → Bool := fun _ => false
  arrow : Fin ARROW_NUM → Bool := fun _ => false
  lock : Fin LOCK_NUM → Bool := fun _ => false
  command : Fin COMMAND_NUM → Bool := fun _ => false
  deriving DecidableEq

def statesDiffer (left right : KeyboardState) : Bool :=
  left.ascii ≠ right.ascii || left.function ≠ right.function || left.arrow ≠ right.arrow ||
    left.lock ≠ right.lock || left.command ≠ right.command

abbrev Keys := Fin (KEY_MAX + 1) → Bool

abbrev Leds := Fin (LED_MAX + 1) → Bool

def isPressed (keys : Keys) (key : Nat) : Bool :=
  if h : key < KEY_MAX + 1 then keys ⟨key, h⟩ else false

def LED_NUML : Fin (LED_MAX + 1) := 0

def LED_CAPSL : Fin (LED_MAX + 1) := 1

def LED_SCROLLL : Fin (LED_MAX + 1) := 2

/-! ### Characters -/

/-- The codes of the keys A to Z. -/
def ALPHABET_KEYS : List Nat :=
  [KEY_A, 48, 46, 32, 18, 33, 34, 35, 23, 36, 37, 38, 50, 49, 24, 25, 16, 19, 31, 20, 22, 47, 17,
    45, 21, KEY_Z]

/-- The codes of the keys 0 to 9. -/
def NUMBER_KEYS : List Nat := [11, 2, 3, 4, 5, 6, 7, 8, 9, 10]

/-- The codes of the keys 0 to 9 of the keypad. -/
def KEYPAD_KEYS : List Nat := [82, 79, 80, 81, 75, 76, 77, 71, 72, 73]

def SHIFTED_NUMBERS : List Char := [')', '!', '@', '#', '$', '%', '^', '&', '*', '(']

/-- The codes of the keys F1 to F24. -/
def FUNCTION_KEYS : List Nat :=
  [59, 60, 61, 62, 63, 64, 65, 66, 67, 68, 87, 88, 183, 184, 185, 186, 187, 188, 189, 190, 191,
    192, 193, 194]

def setAscii (s : KeyboardState) (ascii : Nat) (pressed : Bool) : KeyboardState :=
  { s with ascii := fun c => s.ascii c || (c.val == ascii && pressed) }

section

variable (keys : Keys)

/-- What the loop over the letters sets. -/
def letterAsciis (uppercase : Bool) : List (Nat × Bool) :=
  ALPHABET_KEYS.zipIdx.map fun (key, index) =>
    ((if uppercase then 'A' else 'a').toNat + index, isPressed keys key)

/-- What the loop over the digits sets. -/
def numberAsciis (shift numLock : Bool) : List (Nat × Bool) :=
  (List.range NUMBER_KEYS.length).flatMap fun index =>
    let mainPressed := isPressed keys (NUMBER_KEYS.getD index 0)
    let keypadPressed := numLock && isPressed keys (KEYPAD_KEYS.getD index 0)
    [('0'.toNat + index, (!shift && mainPressed) || keypadPressed),
      ((SHIFTED_NUMBERS.getD index ' ').toNat, shift && mainPressed)]

def symbolAsciis (shift numLock : Bool) (command : Fin COMMAND_NUM → Bool) : List (Char × Bool) :=
  [(' ', command COM_SPACE),
    ('-', !shift && isPressed keys 12), ('_', shift && isPressed keys 12),
    ('=', !shift && isPressed keys 13), ('+', shift && isPressed keys 13),
    ('[', !shift && isPressed keys 26), ('\x7b', shift && isPressed keys 26),
    (']', !shift && isPressed keys 27), ('\x7d', shift && isPressed keys 27),
    ('\x5c', !shift && isPressed keys 43), ('|', shift && isPressed keys 43),
    (';', !shift && isPressed keys 39), (':', shift && isPressed keys 39),
    ('\x27', !shift && isPressed keys 40), ('\x22', shift && isPressed keys 40),
    ('\x60', !shift && isPressed keys 41), ('~', shift && isPressed keys 41),
    (',', !shift && isPressed keys 51), ('<', shift && isPressed keys 51),
    ('.', (!shift && isPressed keys 52) || (numLock && isPressed keys 83)),
    ('>', shift && isPressed keys 52),
    ('/', !shift && isPressed keys 53), ('?', shift && isPressed keys 53),
    ('*', isPressed keys 55), ('+', isPressed keys 78), ('-', isPressed keys 74),
    ('/', isPressed keys 98)]

/-- The control characters: `ASCII_BACK`, `ASCII_TAB`, `ASCII_CR`, `ASCII_LF`, `ASCII_ESC` and
`ASCII_DEL`. -/
def controlAsciis (command : Fin COMMAND_NUM → Bool) : List (Nat × Bool) :=
  [(8, command COM_BACKSPACE), (9, command COM_TAB), (10, command COM_ENTER),
    (13, command COM_ENTER), (27, command COM_ESC), (127, command COM_DELETE)]

def shiftHeld : Bool := isPressed keys 42 || isPressed keys 54

/-- The commands, from `COM_SPACE` to `COM_MENU`. -/
def commands : Fin COMMAND_NUM → Bool :=
  ![isPressed keys KEY_SPACE, isPressed keys KEY_ENTER || isPressed keys 96, isPressed keys 111,
    isPressed keys 1, isPressed keys 15, shiftHeld keys, isPressed keys 29 || isPressed keys 97,
    isPressed keys 14, isPressed keys 56 || isPressed keys 100 || isPressed keys 139]

/-- The arrows, from `ARROW_LEFT` to `ARROW_RIGHT`. -/
def arrows : Fin ARROW_NUM → Bool :=
  ![isPressed keys 105, isPressed keys 103, isPressed keys 108, isPressed keys 106]

/-- What is set, in the order of the calls of `setAscii`. -/
def asciis (shift capsLock numLock : Bool) : List (Nat × Bool) :=
  letterAsciis keys (capsLock != shift) ++ numberAsciis keys shift numLock ++
    (symbolAsciis keys shift numLock (commands keys)).map (fun e => (e.1.toNat, e.2)) ++
    controlAsciis (commands keys)

def mapKeyboardState (leds : Leds) : KeyboardState :=
  (asciis keys (shiftHeld keys) (leds LED_CAPSL) (leds LED_NUML)).foldl
    (fun s e => setAscii s e.1 e.2)
    { function := fun index => isPressed keys (FUNCTION_KEYS.getD index 0)
      arrow := arrows keys
      lock := ![leds LED_CAPSL, leds LED_NUML, leds LED_SCROLLL]
      command := commands keys }

end

/-- What `isReleasedAllKey` returns of a snapshot. -/
def KeyboardState.isReleased (s : KeyboardState) : Bool :=
  !((List.finRange _).any s.ascii || (List.finRange _).any s.function ||
    (List.finRange _).any s.arrow || (List.finRange _).any s.command)

/-- What `getASCII` returns of a snapshot: `ASCII_NULL` if no character is pressed. -/
def KeyboardState.getASCII (s : KeyboardState) : Nat :=
  (((List.finRange ASCII_NUM).find? s.ascii).map (·.val)).getD 0

/-! ## The worker and the other threads -/

/-- Where `monitorLoop` is. -/
inductive LoopPoint
  | waiting
  /-- The monitor has a new state. -/
  | captured
  /-- The state is published; what was published before, and the callback that was taken. -/
  | published (previous : KeyboardState) (callback : Option Nat)
  | calling (callback : Nat)
  /-- The callback threw. -/
  | clearing
  | counting
  | ended
  deriving DecidableEq

inductive KeyboardEvent
  | published (state : KeyboardState)
  | called (callback : Nat) (state : KeyboardState)
  | returned (callback : Nat)
  | threw (callback : Nat)
  /-- The loop clears the callback. -/
  | cleared
  /-- A thread sets the callback, or clears it. -/
  | installed (callback : Option Nat)
  | stopRequested
  | counted
  | asked (question : Nat)
  | answered (question : Nat) (released timedOut : Bool)
  deriving DecidableEq

/-- A keyboard. Callbacks and calls of `isReleasedAllKey` are numbered as they come; `questions` are
the scan counts that these calls have read. -/
structure Keyboard where
  monitor : Monitor KeyboardState := { current := {} }
  point : LoopPoint := .waiting
  published : KeyboardState := {}
  callback : Option Nat := none
  callbacks : Nat := 0
  stopRequested : Bool := false
  scanCount : Nat := 0
  questions : List Nat := []
  history : List KeyboardEvent := []

inductive KeyboardAction
  /-- The worker captures: what the directory lists, if it scans, and what the devices reply. -/
  | capture (d : Directory) (replies : Descriptor → CaptureReplies)
  | publish
  | check
  | finishCallback (throws : Bool)
  | clear
  | count
  | leave
  /-- With a callback, or with an empty one. -/
  | setCallback (given : Bool)
  | clearCallback
  | requestStop
  | ask
  /-- The wait of `isReleasedAllKey` ends, and its snapshot is taken. -/
  | answer (question : Nat) (timedOut : Bool)

namespace Keyboard

def record (s : Keyboard) (e : KeyboardEvent) : Keyboard := { s with history := s.history ++ [e] }

/-- The first region of a turn: the state is published and the callback is taken. -/
def publish (s : Keyboard) : Keyboard :=
  { s.record (.published s.monitor.current) with
    published := s.monitor.current
    point := .published s.published s.callback }

/-- What follows the first region: the callback that was taken is called, if there is a change to
tell and no stop has been requested. -/
def check (s : Keyboard) (previous : KeyboardState) : Option Nat → Keyboard
  | none => { s with point := .counting }
  | some c =>
    if statesDiffer previous s.monitor.current && !s.stopRequested then
      { s.record (.called c s.monitor.current) with point := .calling c }
    else { s with point := .counting }

def finishCallback (s : Keyboard) (c : Nat) (throws : Bool) : Keyboard :=
  if throws then { s.record (.threw c) with point := .clearing }
  else { s.record (.returned c) with point := .counting }

def clearCallback (s : Keyboard) : Keyboard :=
  { s.record (.installed none) with callback := none }

def setCallback (s : Keyboard) (given : Bool) : Keyboard :=
  if given then
    { s.record (.installed (some s.callbacks)) with
      callback := some s.callbacks, callbacks := s.callbacks + 1 }
  else s.clearCallback

end Keyboard

def keyboardStep (s : Keyboard) : KeyboardAction → Option Keyboard
  | .capture d replies =>
    if s.point = .waiting && !s.stopRequested then
      some { s with
        monitor := s.monitor.turn {} mapKeyboardState d replies, point := .captured }
    else none
  | .publish => if s.point = .captured then some s.publish else none
  | .check =>
    match s.point with
    | .published previous callback => some (s.check previous callback)
    | _ => none
  | .finishCallback throws =>
    match s.point with
    | .calling c => some (s.finishCallback c throws)
    | _ => none
  | .clear =>
    if s.point = .clearing then
      some { s.record .cleared with callback := none, point := .counting }
    else none
  | .count =>
    if s.point = .counting then
      some { s.record .counted with scanCount := s.scanCount + 1, point := .waiting }
    else none
  | .leave =>
    if s.point = .waiting && s.stopRequested then some { s with point := .ended } else none
  | .setCallback given => some (s.setCallback given)
  | .clearCallback => some s.clearCallback
  | .requestStop => some { s.record .stopRequested with stopRequested := true }
  | .ask =>
    some { s.record (.asked s.questions.length) with questions := s.questions ++ [s.scanCount] }
  | .answer question timedOut =>
    match s.questions[question]? with
    | none => none
    | some entryCount =>
      if s.scanCount ≠ entryCount || timedOut then
        some (s.record (.answered question s.published.isReleased timedOut))
      else none

end WSE.Impl.Iui
