import Storyboard.Number.Shortest

/-!
# Milliseconds

All times of a timeline are whole milliseconds, so that adding up many scenes never drifts. A count
of milliseconds has 64 bits; the bound is part of the type, and an operation that would pass it says
so in its result. Outside the timeline a time is written as seconds.
-/

namespace Storyboard

/-- A point or a span on the timeline, in whole milliseconds of 64 bits. -/
structure Millis where
  /-- How many milliseconds. -/
  count : Nat
  /-- The count has 64 bits. -/
  count_lt : count < 18446744073709551616
deriving DecidableEq, Repr

namespace Millis

/-- The largest count. -/
def maxCount : Nat := 18446744073709551615

/-- No time at all. -/
def zero : Millis := ⟨0, by decide⟩

instance : Inhabited Millis := ⟨zero⟩

/-- The time of the given count, if it has 64 bits. -/
def ofCount? (n : Nat) : Option Millis :=
  if h : n < 18446744073709551616 then some ⟨n, h⟩ else none

/-- The time of the given count, or the longest one. -/
def ofCountCapped (n : Nat) : Millis := ⟨min n maxCount, by simp only [maxCount]; omega⟩

/-- Whether a time is zero. -/
def isZero (t : Millis) : Bool := t.count == 0

/-- The time of the given number of seconds, a half of a millisecond going up. There is none for a
number that is negative, not finite, or too large. -/
def ofSeconds? (seconds : Double) : Option Millis :=
  if seconds.isFinite && !seconds.isNegative then
    (seconds * Double.ofNat 1000).roundMagnitude.bind ofCount?
  else none

/-- The time in seconds, as the nearest double. -/
def seconds (t : Millis) : Double := Double.ofNat t.count / Double.ofNat 1000

/-- The time in a message. -/
def text (t : Millis) : String := String.ofList (Layout.plain.double t.seconds) ++ "s"

/-! ## Arithmetic -/

/-- The sum, if it has 64 bits. -/
def add? (a b : Millis) : Option Millis := ofCount? (a.count + b.count)

/-- The difference, unless it is below zero. -/
def sub? (a b : Millis) : Option Millis :=
  if b.count ≤ a.count then some ⟨a.count - b.count, by have := a.count_lt; omega⟩ else none

/-- The sum, or the longest time. -/
def addCapped (a b : Millis) : Millis := ofCountCapped (a.count + b.count)

/-- The difference, or zero. -/
def subCapped (a b : Millis) : Millis := ⟨a.count - b.count, by have := a.count_lt; omega⟩

/-- The sum of a list, if every sum on the way has 64 bits. -/
def sum? (ts : List Millis) : Option Millis := ts.foldlM add? zero

end Millis

end Storyboard
