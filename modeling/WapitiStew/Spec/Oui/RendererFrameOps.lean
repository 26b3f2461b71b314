import WapitiStew.Impl.Oui.RendererFrameOps

/-!
# Conversions between renderer frames and images

An image survives its frame (`Survives`) when the frame that the code reports is valid, has the
image's extent and becomes the image again. A frame survives its image when it comes back packed
(`PackedCopy`).
-/

namespace WSE.Spec.Oui

open WSE.Framework WSE.Impl WSE.Impl.Oui

section

variable (littleEndian : Bool) (images : Nat → Nat → Bool) (allocates : Nat → Bool)
  {q : ImageType}

/-- The frame is valid, has the extent of the image, and becomes the image where one of its extent
can be allocated. -/
structure FrameOf (image : Wse.Image q.core) (f : RendererFrameData) : Prop where
  valid : f.validate = .ok ()
  width : f.width.toNat = image.width
  height : f.height.toNat = image.height
  restores : images image.width image.height = true → ∀ old : Wse.Image q.core,
    toImage littleEndian images q old f = some (.ok (), image)

/-- If the conversion of the image succeeds, its frame is the image's. -/
def Survives (image : Wse.Image q.core) : Prop :=
  ∃ result, toRendererFrame littleEndian allocates q image = some result ∧
    ∀ f, result = .ok f → FrameOf littleEndian images image f

/-- The image has no pixels, its packed size is not a `std::size_t`, or its frame cannot be
allocated. -/
def Refused (image : Wse.Image q.core) : Prop :=
  image.width = 0 ∨ image.height = 0 ∨
    2 ^ 64 ≤ image.width * q.core.pixelBytes * image.height ∨
    allocates (image.width * q.core.pixelBytes * image.height) = false

end

/-- A byte of a row of pixels. -/
def rowByte (f : RendererFrameData) (row k : Nat) : Byte :=
  f.data.getD (row * f.description.effectiveRowPitch + k) 0

/-- The packed frame with the pixels of another. -/
structure PackedCopy (f g : RendererFrameData) : Prop where
  valid : g.validate = .ok ()
  width : g.width = f.width
  height : g.height = f.height
  format : g.format = f.format
  rowPitch : g.rowPitch = 0
  pixels : ∀ row < f.height.toNat, ∀ k < f.description.minimumRowPitch,
    rowByte g row k = rowByte f row k

end WSE.Spec.Oui
