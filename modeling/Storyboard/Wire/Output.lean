import Storyboard.Wire.Basic

/-!
# The wire form of the output parameters
-/

namespace Storyboard.Wire

open Json (Record)

/-- The size of a frame. -/
instance : Wire Size where
  toJson s := .object (member "width" s.width ++ member "height" s.height)
  reader := ((Record.of Size.mk).field (required "width")).field (required "height")
    |>.reader "struct Size"

/-- The parameters of a file. -/
instance : Wire OutputSpec where
  toJson o := .object (member "format" o.format ++ member "resolution" o.resolution ++
    member "aspectRatio" o.aspectRatio ++ member "size" o.size ++ member "fps" o.fps ++
    member "quality" o.quality)
  reader := Record.of OutputSpec.mk
    |>.field (required "format")
    |>.field (required "resolution")
    |>.field (required "aspectRatio")
    |>.field (required "size")
    |>.field (required "fps")
    |>.field (required "quality")
    |>.reader "struct OutputSpec"

end Storyboard.Wire
