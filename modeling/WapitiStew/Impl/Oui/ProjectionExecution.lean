import WapitiStew.Framework.Throwing
import WapitiStew.Impl.Oui.ProjectionMeshAdapter

/-!
# Execution of projections

`core/oui/renderer/ProjectionExecution.h` with `validateProjectionPassDescription` of
`core/oui/renderer/ProjectionPipeline.cpp`, and `validateRenderPassDescription` of
`core/oui/renderer/RendererTypes.cpp` with its colours, opacities and edges. A renderer is what it
answers to a call after the calls before it, which may be an exception; the calls are logged with
their answers. Descriptions that cannot be allocated are not modelled.
-/

namespace WSE.Impl.Oui

open WSE.Framework

/-! ## Numbers, colours and edges -/

/-- A `float` by its value; there is none where it is not finite. -/
abbrev Single := Option ℚ

/-- `std::isfinite( x ) && x >= 0.0F && x <= 1.0F`. -/
def isNormalized : Single → Bool
  | some x => 0 ≤ x && x ≤ 1
  | none => false

structure RendererColor where
  red : Single := some 0
  green : Single := some 0
  blue : Single := some 0
  alpha : Single := some 1
  deriving DecidableEq

def isNormalizedColor (c : RendererColor) : Bool :=
  isNormalized c.red && isNormalized c.green && isNormalized c.blue && isNormalized c.alpha

inductive TextureSamplingFilter
  | nearest | linear
  deriving DecidableEq

inductive EdgeBlendCurve
  | linear | smoothstep
  deriving DecidableEq

structure EdgeBlendDescription where
  left : Single := some 0
  right : Single := some 0
  top : Single := some 0
  bottom : Single := some 0
  curve : EdgeBlendCurve := .linear
  deriving DecidableEq

def EdgeBlendDescription.isNormalized (e : EdgeBlendDescription) : Bool :=
  Oui.isNormalized e.left && Oui.isNormalized e.right && Oui.isNormalized e.top &&
    Oui.isNormalized e.bottom

/-! ## Render passes -/

/-- `sMeshDrawCommand`, all of it. -/
structure DrawCommand extends MeshDrawCommand where
  samplingFilter : TextureSamplingFilter := .nearest
  opacity : Single := some 1
  edgeBlend : EdgeBlendDescription := {}
  deriving DecidableEq

/-- `sRenderPassDescription`, all of it. -/
structure PassDescription where
  colorAttachment : TextureHandle := {}
  renderArea : RendererRegion2D := {}
  loadOperation : AttachmentLoadOperation := .clear
  storeOperation : AttachmentStoreOperation := .store
  clearColor : RendererColor := {}
  drawCommands : List DrawCommand := []
  finalState : TextureState := .renderTarget
  deriving DecidableEq

/-- What the backends read of it. -/
def PassDescription.description (p : PassDescription) : RenderPassDescription where
  colorAttachment := p.colorAttachment
  renderArea := p.renderArea
  loadOperation := p.loadOperation
  storeOperation := p.storeOperation
  drawCommands := p.drawCommands.map (·.toMeshDrawCommand)
  finalState := p.finalState

def DrawCommand.validate (attachment : TextureHandle) (d : DrawCommand) : RendererStatus := do
  validateDrawCommand attachment d.toMeshDrawCommand
  if !isNormalized d.opacity then
    throw (invalidDescription "Mesh draw opacity must be a finite normalized value.")
  if !d.edgeBlend.isNormalized then
    throw (invalidDescription
      "Mesh draw edge-blend curve and widths must be finite normalized values.")

def PassDescription.validate (p : PassDescription) : RendererStatus := do
  if !p.colorAttachment.valid then
    throw (invalidDescription "Render pass color attachment handle is invalid.")
  if p.loadOperation = .clear && !isNormalizedColor p.clearColor then
    throw (invalidDescription "Clear color must contain finite normalized values.")
  if p.finalState = .undefined then
    throw (invalidDescription "Render pass final state is invalid.")
  if !p.renderArea.extent.empty && (p.renderArea.x > 2 ^ 32 - 1 - p.renderArea.extent.width ||
      p.renderArea.y > 2 ^ 32 - 1 - p.renderArea.extent.height) then
    throw (invalidDescription "Render area overflows its coordinate range.")
  p.drawCommands.forM (DrawCommand.validate p.colorAttachment)

/-! ## Projections -/

structure ProjectionLayerDescription where
  mesh : MeshHandle := {}
  sourceTexture : TextureHandle := {}
  alphaTexture : TextureHandle := {}
  samplingFilter : TextureSamplingFilter := .linear
  opacity : Single := some 1
  edgeBlend : EdgeBlendDescription := {}
  deriving DecidableEq

structure ProjectionPassDescription where
  colorAttachment : TextureHandle := {}
  renderArea : RendererRegion2D := {}
  clearColor : RendererColor := {}
  layers : List ProjectionLayerDescription := []
  finalState : TextureState := .renderTarget
  supersampleScale : Nat := 1
  deriving DecidableEq

def ProjectionLayerDescription.drawCommand (l : ProjectionLayerDescription) : DrawCommand where
  mesh := l.mesh
  sourceTexture := l.sourceTexture
  alphaTexture := l.alphaTexture
  samplingFilter := l.samplingFilter
  blendMode := .sourceAlpha
  opacity := l.opacity
  edgeBlend := l.edgeBlend

def makeProjectionRenderPass (d : ProjectionPassDescription) (colorAttachment : TextureHandle)
    (renderArea : RendererRegion2D) (finalState : TextureState) : PassDescription where
  colorAttachment := colorAttachment
  renderArea := renderArea
  loadOperation := .clear
  storeOperation := .store
  clearColor := d.clearColor
  drawCommands := d.layers.map (·.drawCommand)
  finalState := finalState

/-- `validateProjectionPassDescription`. -/
def ProjectionPassDescription.validate (d : ProjectionPassDescription) : RendererStatus := do
  if !d.colorAttachment.valid then
    throw (invalidDescription "Projection color attachment handle is invalid.")
  if d.layers.isEmpty then
    throw (invalidDescription "Projection pass requires at least one layer.")
  if d.supersampleScale ≠ 1 && d.supersampleScale ≠ 2 then
    throw (invalidDescription "Projection supersample scale must be one or two.")
  if d.supersampleScale = 2 && d.renderArea.extent.empty then
    throw (invalidDescription "Supersampled projection requires an explicit render-area extent.")
  if d.supersampleScale = 2 && (d.renderArea.extent.width > (2 ^ 32 - 1) / 2 ||
      d.renderArea.extent.height > (2 ^ 32 - 1) / 2) then
    throw (invalidDescription "Supersampled projection extent overflows its coordinate range.")
  (makeProjectionRenderPass d d.colorAttachment d.renderArea d.finalState).validate

/-- An exception, or what the call returns. -/
abbrev Answer (ε α : Type) := Except ε (RendererResult α)

inductive RendererCall (ε : Type)
  | createTexture (d : TextureDescription) (answer : Answer ε TextureHandle)
  | createMesh (d : MeshData Single) (answer : Answer ε MeshHandle)
  | executeRenderPass (p : PassDescription) (answer : Answer ε FenceHandle)
  | destroyMesh (h : MeshHandle) (answer : Answer ε Unit)
  | destroyTexture (h : TextureHandle) (answer : Answer ε Unit)

/-- What the calls of a renderer answer after others. -/
structure Renderer (ε : Type) where
  createTexture : List (RendererCall ε) → TextureDescription → Answer ε TextureHandle
  createMesh : List (RendererCall ε) → MeshData Single → Answer ε MeshHandle
  executeRenderPass : List (RendererCall ε) → PassDescription → Answer ε FenceHandle
  destroyMesh : List (RendererCall ε) → MeshHandle → Answer ε Unit
  destroyTexture : List (RendererCall ε) → TextureHandle → Answer ε Unit

/-- The calls, and the handles of `ProjectionTemporaries`. -/
structure Execution (ε : Type) where
  calls : List (RendererCall ε) := []
  mesh : MeshHandle := {}
  texture : TextureHandle := {}

abbrev Executing (ε : Type) := EStateM ε (Execution ε)

variable {ε α : Type}

/-- A call with its answer. -/
def calling (answer : List (RendererCall ε) → Answer ε α) (call : Answer ε α → RendererCall ε) :
    Executing ε (RendererResult α) := do
  let s ← get
  let result := answer s.calls
  set { s with calls := s.calls ++ [call result] }
  rethrow result

section

variable (r : Renderer ε)

/-- `ProjectionTemporaries::release`. The handles are given up before the calls, and the first
exception is thrown after both. -/
def release : Executing ε RendererStatus := do
  let s ← get
  set { s with mesh := {}, texture := {} }
  let mesh ← attempt (if s.mesh.valid then
    calling (r.destroyMesh · s.mesh) (.destroyMesh s.mesh) else pure (.ok ()))
  let texture ← attempt (if s.texture.valid then
    calling (r.destroyTexture · s.texture) (.destroyTexture s.texture) else pure (.ok ()))
  match mesh, texture with
  | .error e, _ => throw e
  | .ok _, .error e => throw e
  | .ok meshStatus, .ok textureStatus =>
    pure (if meshStatus.isOk then textureStatus else meshStatus)

end

end WSE.Impl.Oui
