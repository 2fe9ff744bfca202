import Storyboard.Request.Rejection
import Storyboard.Scene
import Storyboard.Text.Blank
import Storyboard.Url.Basic

/-!
# Cleaning of fields

How the single fields of a request are made good, or why they cannot be. Text is cleaned and never
refused; lengths, volumes, addresses and colours are checked. Blank text counts as absent.
-/

namespace Storyboard.Cleaning

/-! ## Text -/

/-- The most characters that are kept of a text. -/
def maxTextLength : Nat := 500

/-- Whether a character of a text is kept: line ends are, other control characters are not. -/
def isKept (c : Char) : Bool := !Text.isControl c || c = '\n'

/-- A text without the blanks around it and without control characters, cut to the longest length.
A text of which nothing can be seen is absent. -/
def text (input : Option String) : Option String :=
  input.bind fun s =>
    let cleaned := ((Text.trimChars s.toList).filter isKept).take maxTextLength
    if cleaned.all Text.isBlank then none else some (String.ofList cleaned)

/-- A text without the blanks around it; a blank one is absent. -/
def trimmed (input : Option String) : Option String :=
  (input.map Text.trim).filter (· ≠ "")

/-! ## Lengths -/

/-- The longest scene, card or fade: one hour. -/
def maxDuration : Millis := .ofCountCapped 3600000

/-- The length of a scene or card, which is not zero. -/
def duration (field : FieldRef) (seconds : Option Double) (usual : Millis) :
    Except Rejection Millis :=
  match seconds with
  | none => .ok usual
  | some seconds =>
    match Millis.ofSeconds? seconds with
    | none => .error (.notPositive field)
    | some t =>
      if maxDuration.count < t.count then .error (.tooLong field maxDuration)
      else if t.isZero then .error (.notPositive field)
      else .ok t

/-- The length of a fade, which may be zero. -/
def fade (field : FieldRef) (seconds : Option Double) (usual : Millis) :
    Except Rejection Millis :=
  match seconds with
  | none => .ok usual
  | some seconds =>
    match Millis.ofSeconds? seconds with
    | none => .error (.notDuration field)
    | some t =>
      if maxDuration.count < t.count then .error (.tooLong field maxDuration) else .ok t

/-! ## Volumes -/

/-- A volume, between zero and one. -/
def volume (field : FieldRef) (value : Option Double) (usual : Double) :
    Except Rejection Double :=
  let v := value.getD usual
  if v.isUnitInterval then .ok v else .error (.badVolume field)

/-! ## Addresses -/

/-- The most bytes of an address. -/
def maxUrlLength : Nat := 2048

/-- The address of something on the web, as it was written. -/
def assetUrl (field : FieldRef) (input : Option String) : Except Rejection (Option String) :=
  match trimmed input with
  | none => .ok none
  | some raw =>
    if maxUrlLength < raw.utf8ByteSize then .error (.urlTooLong field maxUrlLength)
    else
      match Url.parse raw with
      | .error reason => .error (.badUrl field reason)
      | .ok url => if url.isWeb then .ok (some raw) else .error (.notWeb field)

/-! ## Colours -/

/-- Whether a text is a number sign and three or six hexadecimal digits. -/
def isColor : List Char → Bool
  | '#' :: digits => (digits.length = 3 || digits.length = 6) && digits.all Text.isHexDigit
  | _ => false

/-- A colour in small letters; the usual colour if there is none. -/
def color (field : FieldRef) (input : Option String) : Except Rejection String :=
  match trimmed input with
  | none => .ok Scene.defaultColor
  | some raw =>
    if isColor raw.toList then .ok (String.ofList (raw.toList.map Char.toLower))
    else .error (.badColor field)

end Storyboard.Cleaning
