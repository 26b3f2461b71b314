import WapitiStew.Impl.Oui.ProjectionExecution

/-!
# What an execution of a projection does

Its calls say which temporaries a renderer gave out (`createdTextures`, `createdMeshes`) and which
were handed back (`destroyedTextures`, `destroyedMeshes`), however the calls ended.
-/

namespace WSE.Spec.Oui

open WSE.Impl.Oui

section

variable {ε : Type}

/-- The valid textures that were given out, in the order of the calls. -/
def createdTextures (calls : List (RendererCall ε)) : List TextureHandle :=
  calls.filterMap fun
    | .createTexture _ (.ok (.ok h)) => if h.valid then some h else none
    | _ => none

def createdMeshes (calls : List (RendererCall ε)) : List MeshHandle :=
  calls.filterMap fun
    | .createMesh _ (.ok (.ok h)) => if h.valid then some h else none
    | _ => none

def destroyedTextures (calls : List (RendererCall ε)) : List TextureHandle :=
  calls.filterMap fun
    | .destroyTexture h _ => some h
    | _ => none

def destroyedMeshes (calls : List (RendererCall ε)) : List MeshHandle :=
  calls.filterMap fun
    | .destroyMesh h _ => some h
    | _ => none

/-- What the render passes answered. -/
def passes (calls : List (RendererCall ε)) : List (Answer ε FenceHandle) :=
  calls.filterMap fun
    | .executeRenderPass _ answer => some answer
    | _ => none

/-- What the calls that destroy answered. -/
def destroys (calls : List (RendererCall ε)) : List (Answer ε Unit) :=
  calls.filterMap fun
    | .destroyMesh _ answer => some answer
    | .destroyTexture _ answer => some answer
    | _ => none

/-- Every pass of the projection was answered with a fence, and everything handed back was
destroyed. -/
structure Succeeded (d : ProjectionPassDescription) (calls : List (RendererCall ε)) : Prop where
  count : (passes calls).length = d.supersampleScale
  passes : ∀ a ∈ passes calls, ∃ fence, a = .ok (.ok fence)
  destroys : ∀ a ∈ destroys calls, a = .ok (.ok ())

/-- The handles that a renderer gives out are valid, and its textures are none of the
projection's. -/
structure Fresh (r : Renderer ε) (d : ProjectionPassDescription) : Prop where
  mesh : ∀ calls m h, r.createMesh calls m = .ok (.ok h) → h.valid = true
  texture : ∀ calls t h, r.createTexture calls t = .ok (.ok h) → h.valid = true
  attachment : ∀ calls t h, r.createTexture calls t = .ok (.ok h) → h ≠ d.colorAttachment
  layers : ∀ calls t h, r.createTexture calls t = .ok (.ok h) → ∀ l ∈ d.layers,
    l.sourceTexture ≠ h ∧ l.alphaTexture ≠ h

/-- What the renderer is given passes its checks, a pass also with what the backends read of it, and
a texture has twice the extent. -/
def Checked (d : ProjectionPassDescription) : RendererCall ε → Prop
  | .createTexture t _ => validateTextureDescription t = .ok () ∧
      t.extent.width = 2 * d.renderArea.extent.width ∧ t.extent.width < 2 ^ 32 ∧
      t.extent.height = 2 * d.renderArea.extent.height ∧ t.extent.height < 2 ^ 32
  | .createMesh m _ => validateMeshDescription m.description = .ok ()
  | .executeRenderPass p _ => p.validate = .ok () ∧
      validateRenderPassDescription p.description = .ok ()
  | .destroyMesh h _ => h.valid = true
  | .destroyTexture h _ => h.valid = true

end

end WSE.Spec.Oui
