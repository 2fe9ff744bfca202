import Storyboard.Time.Millis
import Storyboard.Url.Error

/-!
# Rejections

Why a request is not made into a video. Each cause has a constructor and its wording stands in
`Rejection.message` only. A rejection always means that the caller can mend the request.
-/

namespace Storyboard

/-- A field of a request: of the request itself, or of the scene with the given position. -/
structure FieldRef where
  /-- The position of the scene. -/
  scene : Option Nat
  /-- The name of the field. -/
  name : String
deriving DecidableEq, Repr

namespace FieldRef

/-- The field in a message. -/
def text (f : FieldRef) : String :=
  match f.scene with
  | none => f.name
  | some i => s!"scenes[{i}].{f.name}"

end FieldRef

/-- Why a request is not made into a video. -/
inductive Rejection
  /-- A title card has no title. -/
  | noTitle
  /-- A card has neither a title nor the name of a channel. -/
  | noCardTitle
  /-- A sequence has no scenes. -/
  | noScenes
  /-- A length is not a positive number of seconds. -/
  | notPositive (field : FieldRef)
  /-- A length is not a number of seconds. -/
  | notDuration (field : FieldRef)
  /-- A length is beyond the longest one. -/
  | tooLong (field : FieldRef) (limit : Millis)
  /-- The fades of a card are longer than the card. -/
  | fadesTooLong (duration : Millis)
  /-- A volume is not between zero and one. -/
  | badVolume (field : FieldRef)
  /-- An address has too many bytes. -/
  | urlTooLong (field : FieldRef) (limit : Nat)
  /-- An address cannot be read. -/
  | badUrl (field : FieldRef) (reason : Url.Error)
  /-- An address is none of the web. -/
  | notWeb (field : FieldRef)
  /-- A colour is not written in hexadecimal digits. -/
  | badColor (field : FieldRef)
  /-- There are no scenes to lay out. -/
  | nothingToLayOut
  /-- The scene with the given number has no duration. -/
  | emptyScene (number : Nat)
  /-- All scenes together last too long to be counted. -/
  | totalTooLong
  /-- Audio is to be put below a timeline that does not last. -/
  | emptyTimeline
deriving DecidableEq, Repr

namespace Rejection

/-- The wording of a rejection. -/
def message : Rejection → String
  | .noTitle => "title is required"
  | .noCardTitle => "title or channelName is required"
  | .noScenes => "scenes must contain at least one scene"
  | .notPositive field => s!"{field.text} must be a positive number of seconds"
  | .notDuration field => s!"{field.text} must be zero or a positive number of seconds"
  | .tooLong field limit => s!"{field.text} must be at most {limit.count / 1000} seconds"
  | .fadesTooLong duration => s!"fadeIn + fadeOut must not exceed duration ({duration.text})"
  | .badVolume field => s!"{field.text} must be between 0 and 1"
  | .urlTooLong field limit => s!"{field.text} exceeds maximum length of {limit} characters"
  | .badUrl field reason => s!"{field.text} is not a valid URL: {reason.message}"
  | .notWeb field => s!"{field.text} must be an http or https URL"
  | .badColor field => s!"{field.text} must be a hex colour like #1a2b3c"
  | .nothingToLayOut => "at least one scene is required"
  | .emptyScene number => s!"scene {number} duration must be greater than zero"
  | .totalTooLong => "total duration is too long"
  | .emptyTimeline => "cannot add audio to an empty timeline"

end Rejection

end Storyboard
