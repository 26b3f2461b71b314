import WapitiStew.Framework.History
import WapitiStew.Framework.Transition
import WapitiStew.Impl.Oui.Renderer

/-!
# The life of a backend

`historyOf` is what was done to a backend, and `backendLife` what may be done to it after what. A
call is passed on to a backend that has just answered that it is initialized, and with arguments
that pass the checks of the interface (`CallChecked`).
-/

namespace WSE.Spec.Oui

open WSE.Framework WSE.Impl.Oui

def historyOf (k : Nat) (log : List BackendEvent) : List BackendStep :=
  log.filterMap fun e => if e.backend = k then some e.step else none

/-- Handles are valid, descriptions pass their checks, and timeouts are finite. -/
def CallChecked : BackendCall → Prop
  | .getCapabilities | .enumerateDisplays => True
  | .createTexture d => validateTextureDescription d = .ok ()
  | .destroyTexture texture => texture.valid = true
  | .uploadTexture texture frame => texture.valid = true ∧ frame.validate = .ok ()
  | .createMesh d => d.validate finiteSingles = .ok ()
  | .updateMesh mesh d => mesh.valid = true ∧ d.validate finiteSingles = .ok ()
  | .destroyMesh mesh => mesh.valid = true
  | .createSurface d => validateSurfaceDescription d = .ok ()
  | .getSurfaceTexture surface | .getSurfaceState surface | .pollSurfaceEvents surface
  | .destroySurface surface | .processSurfaceEvents surface | .presentSurface surface =>
    surface.valid = true
  | .resizeSurface surface extent => surface.valid = true ∧ extent.empty = false
  | .setSurfaceWindowMode surface request =>
    surface.valid = true ∧ validateSurfaceWindowModeRequest request = .ok ()
  | .executeRenderPass d => d.validate = .ok ()
  | .waitFence fence timeoutMs => fence.valid = true ∧ timeoutMs ≠ 4294967295
  | .readTexture texture timeoutMs => texture.valid = true ∧ timeoutMs ≠ 4294967295

inductive BackendStage
  | unborn
  | made (c : RendererConfiguration)
  /-- Ready, when the last thing it did was to answer that it is initialized. -/
  | started (ready : Bool)
  | shut
  | gone

/-- The order in which things are done to a backend. -/
def backendLife : Monitor BackendStep BackendStage where
  init := .unborn
  next _
    | .created c => .made c
    | .initializeWith .. => .started false
    | .asked initialized => .started initialized
    | .called .. => .started false
    | .shutdown => .shut
    | .destroyed => .gone
  allowed
    | .unborn, .created c => c.validate = .ok ()
    | .made c, .initializeWith c' _ => c' = c
    | .started _, .asked _ => True
    | .started ready, .called call _ => ready = true ∧ CallChecked call
    | .started _, .shutdown => True
    | .started _, .destroyed => True
    | .shut, .destroyed => True
    | _, _ => False

def stageOf (k : Nat) (log : List BackendEvent) : BackendStage := backendLife.after (historyOf k log)

def IsStarted (k : Nat) (log : List BackendEvent) : Prop := ∃ ready, stageOf k log = .started ready

/-- Renderer `i` holds backend `k`. -/
def Owns (p : RendererProcess) (i k : Nat) : Prop :=
  ∃ impl, p.renderers[i]? = some (some (some impl)) ∧ impl.backend = some k

/-- The renderers, the backends and what was done to them. -/
structure RendererBooks (p : RendererProcess) : Prop where
  accepts : ∀ k, backendLife.Accepts (historyOf k p.log)
  /-- A backend that was made and not destroyed is started, and a renderer's. -/
  settled : ∀ k, historyOf k p.log = [] ∨ stageOf k p.log = .gone ∨ IsStarted k p.log
  owned : ∀ k, IsStarted k p.log ↔ ∃ i, Owns p i k
  once : ∀ i j k, Owns p i k → Owns p j k → i = j

end WSE.Spec.Oui
