import WapitiStew.Impl.Oui.RendererTypes
import WapitiStew.Impl.Wse.ImageInterleaved

/-!
# Renderer frames and images

`core/oui/renderer/RendererFrameOps.cpp`, with the bytes of an `sRendererFrame`. `images` says
whether an image of an extent can be allocated, and `allocates` whether the data of a frame can; a
result that is `none` stands for an access outside of it.
-/

namespace WSE.Impl.Oui

open WSE.Framework

/-- The types of image that have a renderer format. -/
inductive ImageType
  | img1c08 | img4c08 | img4c08Bgra | img4c16
  deriving DecidableEq

namespace ImageType

/-- The pixel format of the core. -/
def core : ImageType → Wse.PixFormat
  | img1c08 => .ch1d8
  | img4c08 => .ch4d8
  | img4c08Bgra => .bgra4d8
  | img4c16 => .ch4d16

/-- The format that `toRendererFrame` gives the frame. -/
def rendererFormat : ImageType → RendererPixelFormat
  | img1c08 => .r8Unorm
  | img4c08 => .rgba8Unorm
  | img4c08Bgra => .bgra8Unorm
  | img4c16 => .rgba16Unorm

end ImageType

def coreFormatOf : RendererPixelFormat → Option Wse.PixFormat
  | .r8Unorm => some .ch1d8
  | .rgba8Unorm => some .ch4d8
  | .bgra8Unorm => some .bgra4d8
  | .rgba16Unorm => some .ch4d16
  | .rgba16Float | .unknown => none

/-- `sRendererFrame`, with its bytes. -/
structure RendererFrameData where
  width : UInt32 := 0
  height : UInt32 := 0
  format : RendererPixelFormat := .unknown
  rowPitch : UInt64 := 0
  data : Bytes := []
  deriving DecidableEq

namespace RendererFrameData

def description (f : RendererFrameData) : RendererFrameDescription where
  extent := ⟨f.width.toNat, f.height.toNat⟩
  format := f.format
  rowPitch := f.rowPitch.toNat

def validate (f : RendererFrameData) : RendererStatus :=
  validateRendererFrame ⟨f.description, f.data.length⟩

end RendererFrameData

section

variable (littleEndian : Bool) (images : Nat → Nat → Bool) (allocates : Nat → Bool)

def buildInterleavedView (p : Wse.PixFormat) (f : RendererFrameData) :
    Option (RendererResult Wse.InterleavedView) :=
  if coreFormatOf f.format ≠ some p then
    some (.error (makeError .unsupported .unsupportedFormat
      "This renderer pixel format does not map onto the requested image format." 0))
  else
    match f.validate with
    | .error e => some (.error e)
    | .ok _ =>
      let view : Wse.InterleavedView :=
        { width := UInt64.ofNat f.width.toNat
          height := UInt64.ofNat f.height.toNat
          rowStride := UInt64.ofNat f.description.effectiveRowPitch
          accessibleBytes := UInt64.ofNat f.data.length
          data := if f.data.isEmpty then none else some fun k => f.data.getD k 0 }
      (Wse.isInterleavedViewValid p view).map fun
        | true => .ok view
        | false => .error (makeError .validation .invalidDescription
            "The renderer frame layout does not fit inside its own data." 0)

/-- The status, and the image then. -/
def convertFrameToImage {p : Wse.PixFormat} (image : Wse.Image p) (f : RendererFrameData) :
    Option (RendererStatus × Wse.Image p) := do
  match ← buildInterleavedView p f with
  | .error e => some (.error e, image)
  | .ok view =>
    -- The constructor of the image and the check of the view may throw.
    let exhausted := makeError .resource .resourceExhausted
      "Allocating the image for this renderer frame failed." 0
    if !images view.width.toNat view.height.toNat then some (.error exhausted, image)
    else match ← Wse.makeImageFromInterleaved littleEndian p view with
      | .error _ => some (.error exhausted, image)
      | .ok made => some (.ok (), made)

def convertImageToFrame {p : Wse.PixFormat} (image : Wse.Image p) (format : RendererPixelFormat) :
    Option (RendererResult RendererFrameData) :=
  if image.width = 0 || image.height = 0 then
    some (.error (makeError .validation .invalidArgument
      "An empty image has no renderer frame." 0))
  else
    let rowBytes := Wse.packedRowBytes p image.width
    if rowBytes = 0 then
      some (.error (makeError .validation .invalidArgument
        "The image extent overflows a packed renderer frame." 0))
    else
      -- The product is of `std::size_t`; new bytes are 0.
      let size := rowBytes * image.height % 2 ^ 64
      if !allocates size then
        some (.error (makeError .resource .resourceExhausted
          "Allocating the renderer frame for this image failed." 0))
      else
        let target : Wse.InterleavedView :=
          { width := UInt64.ofNat image.width
            height := UInt64.ofNat image.height
            rowStride := UInt64.ofNat rowBytes
            accessibleBytes := UInt64.ofNat size
            data := if size = 0 then none else some fun _ => 0 }
        (Wse.writeImageToInterleaved littleEndian target image).map fun
          | (true, some written) => .ok
              { width := UInt32.ofNat image.width
                height := UInt32.ofNat image.height
                format := format
                rowPitch := 0
                data := (List.range size).map written }
          | _ => .error (makeError .validation .invalidDescription
              "Writing the image into a renderer frame failed." 0)

/-- `toImage`, by the type of the image. -/
def toImage (q : ImageType) (image : Wse.Image q.core) (f : RendererFrameData) :
    Option (RendererStatus × Wse.Image q.core) := convertFrameToImage littleEndian images image f

/-- `toRendererFrame`, by the type of the image. -/
def toRendererFrame (q : ImageType) (image : Wse.Image q.core) :
    Option (RendererResult RendererFrameData) :=
  convertImageToFrame littleEndian allocates image q.rendererFormat

end

end WSE.Impl.Oui
