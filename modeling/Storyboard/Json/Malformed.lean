/-!
# Faults of a JSON text

Everything that can be wrong with a text that should be JSON, apart from what its values mean. The
wording is in `Malformed.message` only. `Malformed.isEnd` tells the faults that more text could
mend from those that it could not.
-/

namespace Storyboard.Json

/-- What is wrong with a text that should be JSON. -/
inductive Malformed
  /-- The text ends inside a list. -/
  | endInList
  /-- The text ends inside an object. -/
  | endInObject
  /-- The text ends inside a string. -/
  | endInString
  /-- The text ends where a value should stand. -/
  | endInValue
  /-- A key is not followed by a colon. -/
  | colonExpected
  /-- An item of a list is followed by neither a comma nor the end of the list. -/
  | listPauseExpected
  /-- A member of an object is followed by neither a comma nor the end of the object. -/
  | objectPauseExpected
  /-- A word starts like `null`, `true` or `false` and goes on differently. -/
  | wordExpected
  /-- No value starts here. -/
  | valueExpected
  /-- A backslash is followed by no known escape. -/
  | badEscape
  /-- Digits, point and exponent do not make a number. -/
  | badNumber
  /-- The number is too large for a double. -/
  | numberOutOfRange
  /-- A character below the space stands in a string. -/
  | controlCharacter
  /-- A key is not a string. -/
  | keyExpected
  /-- One half of a surrogate pair stands alone or comes first in the wrong order. -/
  | loneSurrogate
  /-- The first half of a surrogate pair is not followed by a second escape. -/
  | endInSurrogates
  /-- A string has bytes that are no text. -/
  | notUnicode
  /-- A comma stands right before the end of a list or object. -/
  | trailingComma
  /-- Something follows the value. -/
  | trailingCharacters
  /-- Lists and objects are nested too deeply. -/
  | tooDeep
deriving DecidableEq, Repr, Inhabited

namespace Malformed

/-- Whether the text merely ends too early. -/
def isEnd : Malformed → Bool
  | .endInList | .endInObject | .endInString | .endInValue => true
  | _ => false

/-- The wording of a fault. -/
def message : Malformed → String
  | .endInList => "EOF while parsing a list"
  | .endInObject => "EOF while parsing an object"
  | .endInString => "EOF while parsing a string"
  | .endInValue => "EOF while parsing a value"
  | .colonExpected => "expected `:`"
  | .listPauseExpected => "expected `,` or `]`"
  | .objectPauseExpected => "expected `,` or `\x7d`"
  | .wordExpected => "expected ident"
  | .valueExpected => "expected value"
  | .badEscape => "invalid escape"
  | .badNumber => "invalid number"
  | .numberOutOfRange => "number out of range"
  | .controlCharacter => "control character (\\u0000-\\u001F) found while parsing a string"
  | .keyExpected => "key must be a string"
  | .loneSurrogate => "lone leading surrogate in hex escape"
  | .endInSurrogates => "unexpected end of hex escape"
  | .notUnicode => "invalid unicode code point"
  | .trailingComma => "trailing comma"
  | .trailingCharacters => "trailing characters"
  | .tooDeep => "recursion limit exceeded"

end Malformed

end Storyboard.Json
