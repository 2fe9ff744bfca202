import Storyboard.Text.Blank
import Storyboard.Time.Calendar

/-!
# Time stamps

A stamp is a point in time to the nanosecond, in universal time. A leap second counts as the second
before it with a whole second more of nanoseconds.

Stamps are read in a relaxed form of RFC 3339: the numbers need not be padded, blanks may stand
before them and before separators, a blank may take the place of the letter `T`, and the offset may
be written without a colon. They are written in the strict form, with as many decimal places as
needed out of zero, three, six and nine.
-/

namespace Storyboard

/-- A point in time. -/
structure Stamp where
  /-- The seconds since the start of 1970. -/
  seconds : Int
  /-- The nanoseconds after that; in a leap second they go on beyond a full second. -/
  nanos : Nat
deriving DecidableEq, Repr, Inhabited

/-- Why a text is no time stamp. -/
inductive StampError
  /-- A number is beyond what a date or a time may have. -/
  | outOfRange
  /-- The offset leads out of the years that are told apart. -/
  | impossible
  /-- A character does not fit. -/
  | invalid
  /-- The text ends too early. -/
  | tooShort
  /-- Something follows the stamp. -/
  | tooLong
deriving DecidableEq, Repr

namespace StampError

/-- The wording of the error. -/
def message : StampError → String
  | .outOfRange => "input is out of range"
  | .impossible => "no possible date and time matching input"
  | .invalid => "input contains invalid characters"
  | .tooShort => "premature end of input"
  | .tooLong => "trailing input"

end StampError

namespace Stamp

/-- Whether a stamp is not after another. -/
def le (a b : Stamp) : Bool :=
  a.seconds < b.seconds || (a.seconds == b.seconds && a.nanos ≤ b.nanos)

/-! ## Reading -/

/-- Reads up to `most` digits and at least one. -/
def digits (most : Option Nat) (cs : List Char) : Except StampError (Nat × List Char) :=
  let run := cs.takeWhile Text.isDigit
  let run := match most with
    | some n => run.take n
    | none => run
  if cs = [] then .error .tooShort
  else if run = [] then .error .invalid
  else if 9223372036854775808 ≤ Text.decimalValue run then .error .outOfRange
  else .ok (Text.decimalValue run, cs.drop run.length)

/-- Reads a number between two bounds, after blanks. -/
def number (low high : Nat) (cs : List Char) : Except StampError (Nat × List Char) := do
  let (n, rest) ← digits (some 2) (Text.trimFront cs)
  if n < low ∨ high < n then .error .outOfRange else .ok (n, rest)

/-- Reads a year: four digits, or any number of them behind a sign. -/
def year (cs : List Char) : Except StampError (Int × List Char) := do
  let (n, rest) ← match Text.trimFront cs with
    | '-' :: rest => (digits none rest).map fun (n, rest) => (-(n : Int), rest)
    | '+' :: rest => (digits none rest).map fun (n, rest) => ((n : Int), rest)
    | cs => (digits (some 4) cs).map fun (n, rest) => ((n : Int), rest)
  if n < -2147483648 ∨ 2147483648 ≤ n then .error .outOfRange else .ok (n, rest)

/-- Reads a separator, after blanks. -/
def separator (sep : Char) (cs : List Char) : Except StampError (List Char) :=
  match Text.trimFront cs with
  | [] => .error .tooShort
  | c :: rest => if c = sep then .ok rest else .error .invalid

/-- Reads the decimal places of the seconds as nanoseconds. Places beyond the ninth are dropped. -/
def fraction (cs : List Char) : Except StampError (Nat × List Char) :=
  match cs with
  | '.' :: rest => do
    let (n, after) ← digits (some 9) rest
    .ok (n * Nat.pow 10 (9 - (rest.length - after.length)), after.dropWhile Text.isDigit)
  | cs => .ok (0, cs)

/-- Reads two digits. -/
def twoDigits (cs : List Char) : Except StampError (Nat × List Char) :=
  match cs with
  | a :: b :: rest =>
    if Text.isDigit a && Text.isDigit b then
      .ok (10 * Text.digitValue a + Text.digitValue b, rest)
    else .error .invalid
  | [a] => .error (if a.utf8Size < 2 then .tooShort else .invalid)
  | [] => .error .tooShort

/-- Reads the hours and minutes of an offset as seconds. -/
def clockOffset (cs : List Char) : Except StampError (Nat × List Char) := do
  let (hours, rest) ← twoDigits cs
  let (minutes, rest) ← twoDigits (rest.dropWhile fun c => c = ':' || Text.isBlank c)
  if 60 ≤ minutes then .error .outOfRange else .ok (hours * 3600 + minutes * 60, rest)

/-- Reads the offset from universal time in seconds. -/
def offset (cs : List Char) : Except StampError (Int × List Char) :=
  if (cs.take 3).map Char.toUpper = ['U', 'T', 'C'] then .ok (0, cs.drop 3)
  else
    match cs with
    | [] => .error .tooShort
    | c :: rest =>
      if c = 'Z' || c = 'z' then .ok (0, rest)
      else if c = '+' then (clockOffset rest).map fun (n, rest) => ((n : Int), rest)
      else if c = '-' || c.toNat = 0x2212 then
        (clockOffset rest).map fun (n, rest) => (-(n : Int), rest)
      else .error .invalid

/-- The letter between the date and the time. -/
def dateEnd (cs : List Char) : Except StampError (List Char) :=
  match cs with
  | [] => .error .tooShort
  | c :: rest => if c = 't' || c = 'T' || c = ' ' then .ok rest else .error .invalid

/-- The point in time of a local date, a local second of the day, and an offset. -/
def ofLocal (date : Date) (second nanos : Nat) (offset : Int) : Except StampError Stamp :=
  if !date.isValid || 86400 ≤ offset.natAbs then .error .outOfRange
  else
    let seconds := date.toDays * 86400 + second - offset
    let year := (Date.ofDays (Int.fdiv seconds 86400)).year
    if year < Date.minYear ∨ Date.maxYear < year then .error .impossible
    else .ok ⟨seconds, nanos⟩

/-- Reads a stamp. -/
def ofChars (cs : List Char) : Except StampError Stamp := do
  let (year, cs) ← year cs
  let (month, cs) ← number 1 12 (← separator '-' cs)
  let (day, cs) ← number 1 31 (← separator '-' cs)
  let (hour, cs) ← number 0 23 (← dateEnd cs)
  let (minute, cs) ← number 0 59 (← separator ':' cs)
  let (second, cs) ← number 0 60 (← separator ':' cs)
  let (nanos, cs) ← fraction cs
  let (offset, cs) ← offset (Text.trimFront cs)
  if !cs.all Text.isBlank then .error .tooLong
  let clock := hour * 3600 + minute * 60
  if second = 60 then ofLocal ⟨year, month, day⟩ (clock + 59) (1000000000 + nanos) offset
  else ofLocal ⟨year, month, day⟩ (clock + second) nanos offset

/-! ## Writing -/

/-- A number with zeros in front up to the given number of digits. -/
def padded (places n : Nat) : String :=
  let digits := Nat.toDigits 10 n
  String.ofList (List.replicate (places - digits.length) '0' ++ digits)

/-- A year; beyond four digits, and before the year zero, it has a sign. -/
def yearText (y : Int) : String :=
  if 0 ≤ y ∧ y ≤ 9999 then padded 4 y.toNat
  else (if y < 0 then "-" else "+") ++ padded 4 y.natAbs

/-- The decimal places of the seconds: none, three, six or nine. -/
def fractionText (nanos : Nat) : String :=
  if nanos = 0 then ""
  else if nanos % 1000000 = 0 then "." ++ padded 3 (nanos / 1000000)
  else if nanos % 1000 = 0 then "." ++ padded 6 (nanos / 1000)
  else "." ++ padded 9 nanos

/-- The written form of a stamp, in universal time. The suffix names the zone. -/
def textWith (zone : String) (t : Stamp) : String :=
  let days := Int.fdiv t.seconds 86400
  let date := Date.ofDays days
  let clock := (t.seconds - days * 86400).toNat
  let second := clock % 60 + t.nanos / 1000000000
  yearText date.year ++ "-" ++ padded 2 date.month ++ "-" ++ padded 2 date.day ++ "T" ++
    padded 2 (clock / 3600) ++ ":" ++ padded 2 (clock / 60 % 60) ++ ":" ++ padded 2 second ++
    fractionText (t.nanos % 1000000000) ++ zone

/-- The written form of a stamp. -/
def text (t : Stamp) : String := t.textWith "Z"

end Stamp

end Storyboard
