import Storyboard.AspectRatio
import Storyboard.Vocabulary

/-!
# Output

The parameters of the finished file. Callers give them as loose words, and resolving these never
fails: a word that is not known, or not given, falls back to the usual choice. Blanks around a word
and its letter case do not count.
-/

namespace Storyboard

/-- The container format of the finished file. -/
inductive Format
  /-- The usual choice. -/
  | mp4
  /-- A moving picture without sound. -/
  | gif
  /-- For web pages. -/
  | webm
deriving DecidableEq, Repr

instance : Vocabulary Format where
  all :=
    [.mp4, .gif, .webm]
  word
    | .mp4 => "mp4"
    | .gif => "gif"
    | .webm => "webm"

/-- How fine the picture is. -/
inductive ResolutionTier
  /-- Standard definition. -/
  | sd
  /-- High definition; the usual choice. -/
  | hd
  /-- Ultra-high definition. -/
  | uhd
deriving DecidableEq, Repr

instance : Vocabulary ResolutionTier where
  all :=
    [.sd, .hd, .uhd]
  word
    | .sd => "sd"
    | .hd => "hd"
    | .uhd => "4k"

/-- How much the encoder may lose. -/
inductive Quality
  /-- Much. -/
  | low
  /-- Some. -/
  | medium
  /-- Little; the usual choice. -/
  | high
deriving DecidableEq, Repr

instance : Vocabulary Quality where
  all :=
    [.low, .medium, .high]
  word
    | .low => "low"
    | .medium => "medium"
    | .high => "high"

/-- The parameters of the finished file. -/
structure OutputSpec where
  /-- The container format. -/
  format : Format
  /-- How fine the picture is. -/
  resolution : ResolutionTier
  /-- The ratio of the frame. -/
  aspectRatio : AspectRatio
  /-- The size of the frame. -/
  size : Size
  /-- Frames per second. -/
  fps : UInt32
  /-- How much the encoder may lose. -/
  quality : Quality
deriving DecidableEq, Repr

/-- The words for the output as the caller gave them. -/
structure OutputTokens where
  /-- The ratio of the frame. -/
  aspectRatio : Option String := none
  /-- How fine the picture is. -/
  resolution : Option String := none
  /-- The container format. -/
  format : Option String := none
  /-- How much the encoder may lose. -/
  quality : Option String := none
deriving DecidableEq, Repr

/-- The frames per second of every video. -/
def frameRate : UInt32 := 30

namespace ResolutionTier

/-- The tier that a word stands for. -/
def resolve (token : String) : ResolutionTier :=
  let word := Text.keyword token
  if word ∈ ["sd", "480", "480p", "720", "720p"] then .sd
  else if word ∈ ["4k", "2160", "2160p", "uhd"] then .uhd
  else .hd

end ResolutionTier

namespace Format

/-- The format that a word stands for. -/
def resolve (token : String) : Format :=
  let word := Text.keyword token
  if word = "gif" then .gif else if word = "webm" then .webm else .mp4

end Format

namespace Quality

/-- The quality that a word stands for. -/
def resolve (token : String) : Quality :=
  let word := Text.keyword token
  if word = "low" then .low else if word = "medium" then .medium else .high

end Quality

namespace AspectRatio

/-- The supported ratio that a text writes, or the ratio of wide screens. -/
def resolve (token : String) : AspectRatio :=
  match parse token with
  | .ok ratio => if ratio.pixelSize?.isSome then ratio else landscape
  | .error _ => landscape

/-- The size in pixels; a ratio without one gets the size of wide screens. -/
def pixelSize (r : AspectRatio) : Size := r.pixelSize?.getD ⟨1920, 1080⟩

end AspectRatio

namespace OutputTokens

/-- The parameters that the words stand for. -/
def resolve (t : OutputTokens) : OutputSpec :=
  let ratio := (t.aspectRatio.map AspectRatio.resolve).getD .landscape
  { format := (t.format.map Format.resolve).getD .mp4
    resolution := (t.resolution.map ResolutionTier.resolve).getD .hd
    aspectRatio := ratio
    size := ratio.pixelSize
    fps := frameRate
    quality := (t.quality.map Quality.resolve).getD .high }

end OutputTokens

namespace OutputSpec

/-- The main parameters in a message. -/
def text (o : OutputSpec) : String :=
  let format := Vocabulary.word o.format
  let resolution := Vocabulary.word o.resolution
  s!"{format} {resolution} {o.aspectRatio.text} {o.size.text}"

end OutputSpec

end Storyboard
