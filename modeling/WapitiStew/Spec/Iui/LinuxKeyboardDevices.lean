import WapitiStew.Impl.Iui.LinuxKeyboardDevices

/-!
# What holds of the keyboard devices

What was opened is closed once (`ClosedOnce`), a descriptor is not queried after a query of its keys
failed (`NeverAgain`), and `capture` reports what the descriptors of the vector reply (`Reports`).
-/

namespace WSE.Spec.Iui

open WSE.Framework WSE.Impl.Iui

/-- Everything that was acquired was released, exactly once. -/
structure ClosedOnce (l : Ledger) : Prop where
  once : l.released.Nodup
  all : ∀ r, r ∈ l.released ↔ r < l.acquired

/-- The query asked for keys, and failed other than by an interruption. -/
def FailsKeys (q : Query) : Prop :=
  (q.request = .capabilities ∨ q.request = .keys) ∧ ∃ e, q.error = some e ∧ e ≠ EINTR

/-- After a query of its keys failed, a descriptor is not queried. -/
def NeverAgain (queries : List Query) : Prop :=
  queries.Pairwise fun q q' => FailsKeys q → q'.fd ≠ q.fd

/-- The bits that a reply has, if any. -/
def HasBit (r : Reply KeyboardBitWords) (bit : Nat) : Prop :=
  ∃ words, r.result = .ok words ∧ keyboardBitSet words bit = true

/-- The device replies to the query of its keys. -/
def Answers (r : CaptureReplies) : Prop := ∃ words, r.keys.result = .ok words

/-- What is captured is the union of what the answering descriptors have. -/
structure Reports (replies : Descriptor → CaptureReplies) (descriptors : List Descriptor)
    (c : Captured) : Prop where
  ready : c.state = .ready ↔ ∃ d ∈ descriptors, Answers (replies d)
  keys : ∀ key, c.keys key = true ↔ ∃ d ∈ descriptors, HasBit (replies d).keys key
  leds : ∀ led, c.leds led = true ↔
    ∃ d ∈ descriptors, Answers (replies d) ∧ HasBit (replies d).leds led
  released : c.state ≠ .ready → (∀ key, c.keys key = false) ∧ ∀ led, c.leds led = false

section

variable {κ : Type}

/-- The states of the monitor after turns. -/
def monitored (released : κ)
    (mapKeyboardState : (Fin (KEY_MAX + 1) → Bool) → (Fin (LED_MAX + 1) → Bool) → κ)
    (turns : List (Directory × (Descriptor → CaptureReplies))) : Monitor κ :=
  turns.foldl (fun m t => m.turn released mapKeyboardState t.1 t.2) { current := released }

/-- What the monitor publishes is what it captured last, and else that all is released. -/
structure Publishes (released : κ)
    (mapKeyboardState : (Fin (KEY_MAX + 1) → Bool) → (Fin (LED_MAX + 1) → Bool) → κ)
    (m : Monitor κ) : Prop where
  devices : ∃ l, m.devices = Devices.calls l
  ready : m.accessState = .ready → ∃ l replies,
    ((Devices.calls l).capture replies).1.state = .ready ∧
      m.current = mapKeyboardState ((Devices.calls l).capture replies).1.keys
        ((Devices.calls l).capture replies).1.leds
  released : m.accessState ≠ .ready → m.current = released

end

end WSE.Spec.Iui
