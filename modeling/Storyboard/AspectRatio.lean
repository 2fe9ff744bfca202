import Storyboard.Number.Double
import Storyboard.Text.Blank

/-!
# Aspect ratios

An aspect ratio is written as two positive numbers of 32 bits with a colon between them. Blanks
around the ratio and around each number do not count. Four ratios have a size in pixels; the others
are understood and not supported.
-/

namespace Storyboard

/-- The size of a frame in pixels. -/
structure Size where
  /-- The width in pixels. -/
  width : UInt32
  /-- The height in pixels. -/
  height : UInt32
deriving DecidableEq, Repr

namespace Size

/-- The size in a message. -/
def text (s : Size) : String := s!"{s.width.toNat}x{s.height.toNat}"

end Size

/-- The ratio of the width of a frame to its height. -/
structure AspectRatio where
  /-- The width in parts. -/
  width : Nat
  /-- The height in parts. -/
  height : Nat
  /-- The width is not zero. -/
  width_pos : 0 < width
  /-- The height is not zero. -/
  height_pos : 0 < height
  /-- The width has 32 bits. -/
  width_lt : width < 4294967296
  /-- The height has 32 bits. -/
  height_lt : height < 4294967296
deriving DecidableEq, Repr

/-- Why a text is no aspect ratio. -/
inductive AspectRatioError
  /-- The text does not have exactly one colon. -/
  | invalidFormat (text : String)
  /-- What stands on one side of the colon is no number of 32 bits. -/
  | invalidNumber (side : String)
  /-- One of the numbers is zero. -/
  | zeroValue
deriving DecidableEq, Repr

namespace AspectRatioError

/-- The wording of the error. -/
def message : AspectRatioError → String
  | .invalidFormat text => s!"Invalid aspect ratio format: {text}, expected 'W:H'"
  | .invalidNumber side => s!"Invalid number in aspect ratio: {side}"
  | .zeroValue => "Aspect ratio cannot have zero values"

end AspectRatioError

namespace AspectRatio

/-- Wide screens. -/
def landscape : AspectRatio := ⟨16, 9, by decide, by decide, by decide, by decide⟩

/-- Upright screens. -/
def portrait : AspectRatio := ⟨9, 16, by decide, by decide, by decide, by decide⟩

/-- Square frames. -/
def square : AspectRatio := ⟨1, 1, by decide, by decide, by decide, by decide⟩

/-- Upright frames of a feed. -/
def feed : AspectRatio := ⟨4, 5, by decide, by decide, by decide, by decide⟩

instance : Inhabited AspectRatio := ⟨landscape⟩

/-- The ratios that have a size in pixels. -/
def supported : List AspectRatio := [landscape, portrait, square, feed]

/-- The size in pixels of a supported ratio. -/
def pixelSize? (r : AspectRatio) : Option Size :=
  match r.width, r.height with
  | 16, 9 => some ⟨1920, 1080⟩
  | 9, 16 => some ⟨1080, 1920⟩
  | 1, 1 => some ⟨1080, 1080⟩
  | 4, 5 => some ⟨1080, 1350⟩
  | _, _ => none

/-- The ratio as a single number. -/
def decimal (r : AspectRatio) : Double := Double.ofNat r.width / Double.ofNat r.height

/-- The written form of a ratio. -/
def text (r : AspectRatio) : String := s!"{r.width}:{r.height}"

/-- The number on one side of the colon. -/
def side (cs : List Char) : Except AspectRatioError Nat :=
  match Text.unsigned 4294967296 (Text.trimChars cs) with
  | some n => .ok n
  | none => .error (.invalidNumber (String.ofList cs))

/-- The ratio of two numbers. -/
def ofSides (w h : Nat) : Except AspectRatioError AspectRatio :=
  if hw : 0 < w ∧ 0 < h ∧ w < 4294967296 ∧ h < 4294967296 then
    .ok ⟨w, h, hw.1, hw.2.1, hw.2.2.1, hw.2.2.2⟩
  else .error .zeroValue

/-- Reads a ratio. -/
def parse (s : String) : Except AspectRatioError AspectRatio :=
  match Text.splitOn ':' (Text.trimChars s.toList) with
  | [w, h] => do ofSides (← side w) (← side h)
  | _ => .error (.invalidFormat s)

end AspectRatio

end Storyboard
