import WapitiStew.Framework.Loans
import WapitiStew.Impl.Oui.D3D12Surface

/-!
# Display modes that come back

A surface in display-mode fullscreen holds its display: it puts back the mode that it found
(`loans`). The modes come back while the surfaces on a display leave it in turn (`ModesKept`).
-/

namespace WSE.Spec.Oui

open WSE.Framework WSE.Impl.Oui WSE.Impl.Oui.D3D12Surfaces

/-! ## Display modes -/

/-- What the surface puts back when it leaves display-mode fullscreen, and where. -/
def restoring (sf : D3D12SurfaceRecord) : Option (String × NativeDisplayMode) :=
  if sf.windowMode = .displayModeFullscreen then
    some (sf.displayDeviceName, sf.restoreNativeDisplayMode)
  else none

/-- The displays and the surfaces that hold them; a shutdown under way is done with some. -/
def loans (s : D3D12Surfaces) : Loans Nat String NativeDisplayMode where
  current := s.displays
  holder id := if id ∈ s.closing.getD [] then none else (s.surfaces id).bind restoring

/-- No surface is in display-mode fullscreen, and no shutdown is under way. -/
def AllWindowed (s : D3D12Surfaces) : Prop :=
  s.closing = none ∧ ∀ id sf, s.surfaces id = some sf → sf.windowMode ≠ .displayModeFullscreen

/-- The call asks for display-mode fullscreen. -/
def Enters : SurfaceCall → Prop
  | .createSurface d _ => d.type = .directDisplay
  | .setSurfaceWindowMode _ request _ => request.mode = .displayModeFullscreen
  | _ => False

def transitions : SurfaceCall → List TransitionAnswers
  | .createSurface _ a => [a.transition, a.destruction]
  | .resizeSurface _ _ a | .setSurfaceWindowMode _ _ a | .pollSurfaceEvents _ _ a
  | .destroySurface _ a => [a]
  | .presentSurface _ _ _ _ | .destroyTexture _ => []

/-- The operating system carries out the changes of modes that it is asked for. -/
def CarriesOut (a : TransitionAnswers) : Prop := a.modeChange = 0 ∧ a.modeRollback = 0

def ModesCarriedOut : SurfaceAction → Prop
  | .call c => ∀ a ∈ transitions c, CarriesOut a
  | .closes _ a => CarriesOut a
  | _ => True

/-- The rebuild of so many buffers succeeds. -/
def Renews (count : Nat) (a : RebuildAnswers) : Prop :=
  a.descriptorHeap = none ∧ a.idle = none ∧ a.getDesc1 = none ∧ a.resizeBuffers = none ∧
    getBuffers count a.acquire = none

/-- Every native call of the leave succeeds. -/
def Leaves (sf : D3D12SurfaceRecord) (a : TransitionAnswers) : Prop :=
  a.idle = none ∧ a.placement = none ∧ Renews sf.description.bufferCount a.rebuild ∧
    verifyDisplay sf a = .ok ()

/-- The surface that the call takes out of display-mode fullscreen. -/
def leaving (s : D3D12Surfaces) :
    SurfaceCall → Option (Nat × D3D12SurfaceRecord × TransitionAnswers)
  | .setSurfaceWindowMode h request a =>
    if request.mode = .windowed then
      ((s.findSurface h).filter (·.description.type = .window)).map fun sf => (h.value, sf, a)
    else none
  | .destroySurface h a => (s.findSurface h).map fun sf => (h.value, sf, a)
  | _ => none

/-- The operating system carries out the changes of modes; a surface leaves a display on which there
are others only if one of them found the original mode; and a shutdown can wait for the GPU, or the
display is in its original mode. -/
def ModesKept (modes : String → NativeDisplayMode) (s : D3D12Surfaces) : SurfaceAction → Prop
  | .call c => (∀ a ∈ transitions c, CarriesOut a) ∧
      ∀ p ∈ leaving s c, Leaves p.2.1 p.2.2 → (loans s).InTurn modes p.1
  | .closes id a => CarriesOut a ∧ (loans s).InTurn modes id ∧
      (a.idle ≠ none → (loans s).Returned modes id)
  | _ => True

instance (a : TransitionAnswers) : Decidable (CarriesOut a) := inferInstanceAs (Decidable (_ ∧ _))

instance (a : SurfaceAction) : Decidable (ModesCarriedOut a) :=
  match a with
  | .call c => inferInstanceAs (Decidable (∀ a ∈ transitions c, CarriesOut a))
  | .closes _ a => inferInstanceAs (Decidable (CarriesOut a))
  | .initializeWith _ | .message _ _ | .shutdown | .shutdownEnds => isTrue trivial

instance (count : Nat) (a : RebuildAnswers) : Decidable (Renews count a) :=
  inferInstanceAs (Decidable (_ ∧ _))

end WSE.Spec.Oui
