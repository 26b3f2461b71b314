import Mathlib.Order.Bounds.Basic
import WapitiStew.Framework.History
import WapitiStew.Impl.Iui.Keyboard

/-!
# What a keyboard tells

A keyboard types the characters on its keys (`Types`), and is released when no key is pressed that
it tells (`Telling`). Its callbacks are told the changes of what it publishes (`Told`).
-/

namespace WSE.Spec.Iui

open WSE.Framework WSE.Impl.Iui

/-! ## A US keyboard -/

/-- When a key types one of its characters. -/
inductive Layer
  | always | plain | shifted | lower | upper
  /-- With the lock of the keypad. -/
  | numeric
  deriving DecidableEq

def Layer.Holds (shift capsLock numLock : Bool) : Layer → Prop
  | .always => True
  | .plain => shift = false
  | .shifted => shift = true
  | .lower => capsLock = shift
  | .upper => capsLock ≠ shift
  | .numeric => numLock = true

/-- What is on a key. -/
structure Legend where
  key : Nat
  layer : Layer
  char : Char
  deriving DecidableEq

/-- The keys of a row, from its first code on, without and with shift. -/
def row (first : Nat) (plain shifted : String) : List Legend :=
  ((plain.toList.zip shifted.toList).zipIdx first).flatMap fun ((c, d), key) =>
    if c.isAlpha then [⟨key, .lower, c⟩, ⟨key, .upper, d⟩]
    else [⟨key, .plain, c⟩, ⟨key, .shifted, d⟩]

/-- The digits and the point of the keypad need its lock, its operators do not. -/
def keypad (first : Nat) (chars : String) : List Legend :=
  (chars.toList.zipIdx first).map fun (c, key) =>
    ⟨key, if c.isDigit || c = '.' then .numeric else .always, c⟩

def legends : List Legend :=
  row 2 "1234567890-=" "!@#$%^&*()_+" ++ row 16 "qwertyuiop[]" "QWERTYUIOP\x7b\x7d" ++
    row 30 "asdfghjkl;'" "ASDFGHJKL:\"" ++ row 41 "`" "~" ++
    row 43 "\\zxcvbnm,./" "|ZXCVBNM<>?" ++ keypad 71 "789-456+1230." ++ keypad 55 "*" ++
    keypad 98 "/" ++
    -- space, backspace, tab, both keys that enter, escape and delete
    [⟨57, .always, ' '⟩, ⟨14, .always, '\x08'⟩, ⟨15, .always, '\t'⟩, ⟨28, .always, '\n'⟩,
      ⟨28, .always, '\r'⟩, ⟨96, .always, '\n'⟩, ⟨96, .always, '\r'⟩, ⟨1, .always, '\x1b'⟩,
      ⟨111, .always, '\x7f'⟩]

def Types (shift capsLock numLock : Bool) (key ascii : Nat) : Prop :=
  ∃ l ∈ legends, l.key = key ∧ l.char.toNat = ascii ∧ l.layer.Holds shift capsLock numLock

/-- The keys that type nothing: shift, control, alt, menu, the arrows and the function keys. -/
def otherKeys : List Nat := [42, 54, 29, 97, 56, 100, 139, 105, 103, 108, 106] ++ FUNCTION_KEYS

/-- A key that shows while it is pressed. -/
def Telling (numLock : Bool) (key : Nat) : Prop :=
  key ∈ otherKeys ∨ ∃ l ∈ legends, l.key = key ∧ (l.layer = .numeric → numLock = true)

/-- What a mapped state says of the keys that are pressed. -/
structure Maps (keys : Keys) (leds : Leds) (s : KeyboardState) : Prop where
  ascii : ∀ c, s.ascii c = true ↔ ∃ key, isPressed keys key = true ∧
    Types (shiftHeld keys) (leds LED_CAPSL) (leds LED_NUML) key c
  released : s.isReleased = true ↔
    ∀ key, isPressed keys key = true → ¬Telling (leds LED_NUML) key
  /-- The least character that is typed, or `ASCII_NULL`. -/
  least : ∀ n, s.getASCII = n ↔
    IsLeast {ascii | ∃ key, isPressed keys key = true ∧
      Types (shiftHeld keys) (leds LED_CAPSL) (leds LED_NUML) key ascii} n ∨
    n = 0 ∧ ∀ key, isPressed keys key = true →
      ∀ ascii, ¬Types (shiftHeld keys) (leds LED_CAPSL) (leds LED_NUML) key ascii

/-! ## Callbacks -/

/-- What an observer knows of a keyboard, with the changes that were to be told. -/
structure Known where
  published : KeyboardState := {}
  installed : Option Nat := none
  changes : List (Nat × KeyboardState) := []

def Known.next (k : Known) : KeyboardEvent → Known
  | .published state =>
    { k with
      published := state
      changes := k.changes ++
        if state = k.published then [] else (k.installed.map (·, state)).toList }
  | .installed callback => { k with installed := callback }
  | .cleared => { k with installed := none }
  | _ => k

def known (history : List KeyboardEvent) : Known := history.foldl Known.next {}

/-- What was told, and to which callback. -/
def told (history : List KeyboardEvent) : List (Nat × KeyboardState) :=
  history.filterMap fun
    | .called callback state => some (callback, state)
    | _ => none

def IsPublication (e : KeyboardEvent) : Prop := ∃ state, e = .published state

/-- The end of a call. -/
def Ends (callback : Nat) (e : KeyboardEvent) : Prop := e = .returned callback ∨ e = .threw callback

/-- Callbacks are told the changes, in their order, while they are what is published. -/
structure Told (history : List KeyboardEvent) : Prop where
  /-- No change is told twice, or to a callback that was not installed when it was published. -/
  inOrder : told history <+: (known history).changes
  /-- Until a stop is requested, at most the last change has not been told. -/
  complete : .stopRequested ∉ history →
    (known history).changes.length ≤ (told history).length + 1
  stopped : ∀ pre callback state post, history = pre ++ .called callback state :: post →
    .stopRequested ∉ pre
  /-- What a callback is told is published then, and until it returns or throws. -/
  current : ∀ pre callback state mid post,
    history = pre ++ .called callback state :: (mid ++ post) →
      (∀ e ∈ mid, ¬Ends callback e) →
        (known pre).published = state ∧ ∀ e ∈ mid, ¬IsPublication e
  thrown : ∀ pre callback post, history = pre ++ .threw callback :: post →
    ∀ state, .called callback state ∉ post
  /-- A callback that has been replaced is told one more change at most. -/
  replaced : ∀ pre callback installed post,
    history = pre ++ .installed installed :: post → (known pre).installed = some callback →
      ((told post).filter (·.1 = callback)).length ≤ 1
  /-- A question is answered by what is published, when a turn has ended since it was asked, or
  when the time is over. -/
  answered : ∀ pre question released timedOut post,
    history = pre ++ .answered question released timedOut :: post →
      released = (known pre).published.isReleased ∧ ∃ before since,
        pre = before ++ .asked question :: since ∧ (timedOut = true ∨ .counted ∈ since)

/-- All that is published was captured, or is the state in which all is released. -/
def Captures (state : KeyboardState) : Prop :=
  state = {} ∨ ∃ l replies, ((Devices.calls l).capture replies).1.state = .ready ∧
    state = mapKeyboardState ((Devices.calls l).capture replies).1.keys
      ((Devices.calls l).capture replies).1.leds

end WSE.Spec.Iui
