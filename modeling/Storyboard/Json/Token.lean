import Storyboard.Json.Numeral
import Storyboard.Text.Utf8

/-!
# Tokens of a JSON text

A text is cut into tokens by an automaton that takes one character at a time. A `Scan` is the state
of the automaton between two characters; `Scan.step` gives the tokens that a character completes,
of which there are at most two because a number ends only where something else begins, and the next
state.

A text that stops being JSON yields a last token, a `Gap`, that says why. Two readers may disagree
on the reason: one that reads a value and one that skips it, since skipping does not look at what a
number or an escape means. A gap therefore carries both reasons, and what kind of value seemed to
start there. A string whose only fault is in its surrogates, or a number that is only too large,
still is one token, because a reader that skips it can go on.

A text that comes as bytes is scanned without being decoded first, so bytes that are no text matter
only where they stand: outside of strings nothing can begin with them, and a string that holds some
cannot be read and can be skipped.
-/

namespace Storyboard.Json

/-- What a place without a value begins with. -/
inductive Lead
  /-- Nothing: the text ends here. -/
  | nothing
  /-- The first letter of `null`. -/
  | nullWord
  /-- The quote of a string. -/
  | quote
  /-- Anything else. -/
  | other
deriving DecidableEq, Repr, Inhabited

/-- A place where the text stops being JSON. -/
structure Gap where
  /-- What the place begins with. -/
  lead : Lead
  /-- The fault for a reader that reads the value. -/
  read : Malformed
  /-- The fault for a reader that skips the value. -/
  skip : Malformed
deriving DecidableEq, Repr, Inhabited

/-- A gap that looks the same to all readers. -/
def Gap.plain (fault : Malformed) : Gap := ⟨.other, fault, fault⟩

/-- The gap at the end of a text. -/
def Gap.atEnd : Gap := ⟨.nothing, .endInValue, .endInValue⟩

/-- A token of a JSON text. -/
inductive Token
  /-- The opening bracket of a list. -/
  | openList
  /-- The closing bracket of a list. -/
  | closeList
  /-- The opening brace of an object. -/
  | openObject
  /-- The closing brace of an object. -/
  | closeObject
  /-- A comma. -/
  | comma
  /-- A colon. -/
  | colon
  /-- The word `null`. -/
  | null
  /-- The word `true` or `false`. -/
  | boolean (value : Bool)
  /-- A number, or why it has no value. -/
  | number (value : Except Malformed Number)
  /-- A string, or why it makes no characters. -/
  | text (value : Except Malformed String)
  /-- The text stops being JSON. -/
  | gap (reason : Gap)

/-- The token where some of the bytes are no text. That is noticed only at the end of a string, so a
fault of its surrogates comes before. -/
def Token.spoiled : Token → Token
  | .text (.ok _) => .text (.error .notUnicode)
  | t => t

/-- The state of the automaton. Collected characters are kept newest first. -/
inductive Scan
  /-- Between two tokens. -/
  | idle
  /-- Inside a word: what is still to come, and the token that it will be. -/
  | word (lead : Lead) (rest : List Char) (token : Token)
  /-- Behind a minus sign. -/
  | minus
  /-- Behind a leading zero. -/
  | zero (negative : Bool)
  /-- Among the digits before the point. -/
  | whole (negative : Bool) (digits : List Char)
  /-- Behind the point or among the digits after it. -/
  | fraction (negative : Bool) (whole digits : List Char)
  /-- Behind the letter of the exponent. -/
  | powerMark (negative : Bool) (whole : List Char) (fraction : Option (List Char))
  /-- Behind the sign of the exponent. -/
  | powerSign (negative : Bool) (whole : List Char) (fraction : Option (List Char)) (down : Bool)
  /-- Among the digits of the exponent. -/
  | power (negative : Bool) (whole : List Char) (fraction : Option (List Char)) (down : Bool)
      (digits : List Char)
  /-- Inside a string: what is wrong with its surrogates so far, its characters, and the first half
  of a pair if one has just been read. -/
  | string (bad : Option Malformed) (chars : List Char) (half : Option Nat)
  /-- Behind a backslash in a string. -/
  | escape (bad : Option Malformed) (chars : List Char) (half : Option Nat)
  /-- Among the digits of a character escape. -/
  | hex (bad : Option Malformed) (chars : List Char) (half : Option Nat) (digits : List Char)
  /-- Behind a gap, where nothing is read any more. -/
  | halted

namespace Scan

/-- Whether a character is a blank of JSON. -/
def isSpace (c : Char) : Bool := c = ' ' || c = '\n' || c = '\t' || c = '\r'

/-- The number whose collected parts are given, newest digit first. -/
def numeral (negative : Bool) (whole : List Char) (fraction : Option (List Char))
    (power : Option (Bool × List Char)) : Token :=
  .number (Numeral.value
    ⟨negative, whole.reverse, fraction.map List.reverse, power.map fun p => (p.1, p.2.reverse)⟩)

/-- Halts with a gap. -/
def fail (reason : Gap) : List Token × Scan := ([.gap reason], .halted)

/-- Halts where a string cannot go on; the first fault of its surrogates comes before. -/
def failString (bad : Option Malformed) (fault : Malformed) : List Token × Scan :=
  fail ⟨.quote, bad.getD fault, fault⟩

/-- The fault of a first half that is followed by something else than a second escape. -/
def strayHalf (bad : Option Malformed) : Option Nat → Option Malformed
  | none => bad
  | some _ => some (bad.getD .endInSurrogates)

/-- The first character of a token. -/
def start (c : Char) : List Token × Scan :=
  if isSpace c then ([], .idle)
  else if c = '[' then ([.openList], .idle)
  else if c = ']' then ([.closeList], .idle)
  else if c = '\x7b' then ([.openObject], .idle)
  else if c = '\x7d' then ([.closeObject], .idle)
  else if c = ',' then ([.comma], .idle)
  else if c = ':' then ([.colon], .idle)
  else if c = 'n' then ([], .word .nullWord ['u', 'l', 'l'] .null)
  else if c = 't' then ([], .word .other ['r', 'u', 'e'] (.boolean true))
  else if c = 'f' then ([], .word .other ['a', 'l', 's', 'e'] (.boolean false))
  else if c = '-' then ([], .minus)
  else if c = '0' then ([], .zero false)
  else if Text.isDigit c then ([], .whole false [c])
  else if c = '\x22' then ([], .string none [] none)
  else fail (.plain .valueExpected)

/-- A completed token followed by the character that ended it. -/
def andThen (t : Token) (c : Char) : List Token × Scan :=
  let (tokens, next) := start c
  (t :: tokens, next)

/-- The character behind the digits before the point. -/
def afterWhole (negative : Bool) (digits : List Char) (c : Char) : List Token × Scan :=
  if c = '.' then ([], .fraction negative digits [])
  else if c = 'e' || c = 'E' then ([], .powerMark negative digits none)
  else andThen (numeral negative digits none none) c

/-- The characters of a string after the four digits of a character escape. The two halves of a
surrogate pair make one character. -/
def afterHex (bad : Option Malformed) (chars : List Char) (half : Option Nat) (n : Nat) : Scan :=
  match half with
  | some high =>
    if 0xDC00 ≤ n ∧ n ≤ 0xDFFF then
      .string bad (Char.ofNat (0x10000 + (high - 0xD800) * 0x400 + (n - 0xDC00)) :: chars) none
    else .string (some (bad.getD .loneSurrogate)) chars none
  | none =>
    if 0xDC00 ≤ n ∧ n ≤ 0xDFFF then .string (some (bad.getD .loneSurrogate)) chars none
    else if 0xD800 ≤ n ∧ n ≤ 0xDBFF then .string bad chars (some n)
    else .string bad (Char.ofNat n :: chars) none

/-- The number of bytes that a character takes. -/
def width (cs : List Char) : Nat := cs.foldl (fun n c => n + c.utf8Size) 0

/-- The tokens that a character completes, and the next state. -/
def step : Scan → Char → List Token × Scan
  | .idle, c => start c
  | .word _ [] token, c => andThen token c
  | .word lead (w :: rest) token, c =>
    if c ≠ w then fail ⟨lead, .wordExpected, .wordExpected⟩
    else if rest = [] then ([token], .idle)
    else ([], .word lead rest token)
  | .minus, c =>
    if c = '0' then ([], .zero true)
    else if Text.isDigit c then ([], .whole true [c])
    else fail (.plain .badNumber)
  | .zero negative, c =>
    if Text.isDigit c then fail (.plain .badNumber) else afterWhole negative ['0'] c
  | .whole negative digits, c =>
    if Text.isDigit c then ([], .whole negative (c :: digits)) else afterWhole negative digits c
  | .fraction negative front digits, c =>
    if Text.isDigit c then ([], .fraction negative front (c :: digits))
    else if digits = [] then fail (.plain .badNumber)
    else if c = 'e' || c = 'E' then ([], .powerMark negative front (some digits))
    else andThen (numeral negative front (some digits) none) c
  | .powerMark negative front back, c =>
    if c = '+' then ([], .powerSign negative front back false)
    else if c = '-' then ([], .powerSign negative front back true)
    else if Text.isDigit c then ([], .power negative front back false [c])
    else fail (.plain .badNumber)
  | .powerSign negative front back down, c =>
    if Text.isDigit c then ([], .power negative front back down [c])
    else fail (.plain .badNumber)
  | .power negative front back down digits, c =>
    if Text.isDigit c then ([], .power negative front back down (c :: digits))
    else andThen (numeral negative front back (some (down, digits))) c
  | .string bad chars half, c =>
    if c = '\\' then ([], .escape bad chars half)
    else
      let bad := strayHalf bad half
      if c = '\x22' then
        ([.text (match bad with
          | none => .ok (String.ofList chars.reverse)
          | some fault => .error fault)], .idle)
      else if c.toNat < 0x20 then failString bad .controlCharacter
      else ([], .string bad (c :: chars) none)
  | .escape bad chars half, c =>
    if c = 'u' then ([], .hex bad chars half [])
    else
      let bad := strayHalf bad half
      let plain (d : Char) : List Token × Scan := ([], .string bad (d :: chars) none)
      if c = '\x22' || c = '\\' || c = '/' then plain c
      else if c = 'b' then plain (Char.ofNat 8)
      else if c = 'f' then plain (Char.ofNat 12)
      else if c = 'n' then plain '\n'
      else if c = 'r' then plain '\r'
      else if c = 't' then plain '\t'
      else failString bad .badEscape
  | .hex bad chars half digits, c =>
    let digits := c :: digits
    if width digits < 4 then ([], .hex bad chars half digits)
    else
      match digits.mapM Text.hexValue with
      | some [d, c, b, a] => ([], afterHex bad chars half (((a * 16 + b) * 16 + c) * 16 + d))
      | _ => failString bad .badEscape
  | .halted, _ => ([], .halted)

/-- The tokens that the end of the text completes. -/
def finish : Scan → List Token
  | .idle | .halted => []
  | .word _ [] token => [token]
  | .word lead (_ :: _) _ => [.gap ⟨lead, .endInValue, .endInValue⟩]
  | .minus | .powerMark .. | .powerSign .. => [.gap ⟨.other, .endInValue, .badNumber⟩]
  | .zero negative => [numeral negative ['0'] none none]
  | .whole negative digits => [numeral negative digits none none]
  | .fraction negative front digits =>
    if digits = [] then [.gap ⟨.other, .endInValue, .badNumber⟩]
    else [numeral negative front (some digits) none]
  | .power negative front back down digits =>
    [numeral negative front back (some (down, digits))]
  | .string bad _ _ | .escape bad _ _ | .hex bad _ _ _ =>
    [.gap ⟨.quote, bad.getD .endInString, .endInString⟩]

/-- The tokens of the characters still to come. -/
def tokens : Scan → List Char → List Token
  | s, [] => finish s
  | s, c :: cs => (step s c).1 ++ tokens (step s c).2 cs

/-- Whether the state is inside a string. -/
def isInString : Scan → Bool
  | .string .. | .escape .. | .hex .. => true
  | _ => false

/-- What is scanned in place of a byte that belongs to no character: a character that takes one byte
too and has no place outside of strings. -/
def strayChar : Char := Char.ofNat 0x7F

/-- The tokens of what is still to come, with `none` for each byte that belongs to no character;
`spoiled` tells whether there was one in the string that is being read. -/
def tokensEach : Scan → Bool → List (Option Char) → List Token
  | s, _, [] => finish s
  | s, spoiled, c :: cs =>
    let (tokens, next) := step s (c.getD strayChar)
    let spoiled := spoiled || c.isNone
    (if spoiled then tokens.map Token.spoiled else tokens) ++
      tokensEach next (spoiled && next.isInString) cs

end Scan

/-- The tokens of a text. -/
def Token.ofChars (cs : List Char) : List Token := Scan.idle.tokens cs

/-- The tokens of a text that comes as bytes. -/
def Token.ofBytes (bs : List Nat) : List Token := Scan.idle.tokensEach false (Text.decoded bs)

end Storyboard.Json
