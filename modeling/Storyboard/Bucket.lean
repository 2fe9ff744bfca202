/-!
# Buckets of permits

A bucket holds a number of permits and regains them one by one, evenly over each second. It is kept
as a single time: when it would be full again. A permit may be taken as long as that time is not
more than a full bucket ahead. Times are in nanoseconds.
-/

namespace Storyboard

/-- A bucket that holds `size` permits and regains one in each interval. -/
structure Bucket where
  /-- The number of permits. -/
  size : Nat
  /-- The time in which one permit is regained. -/
  interval : Nat
  /-- When the bucket would be full again, and one interval more. -/
  due : Nat
deriving DecidableEq, Repr

namespace Bucket

/-- The number of nanoseconds in a second. -/
def second : Nat := 1000000000

/-- A full bucket of as many permits as are regained in a second. -/
def fresh (perSecond now : Nat) : Bucket where
  size := perSecond
  interval := second / perSecond
  due := now + second / perSecond

/-- Takes a permit, if there is one. -/
def take (b : Bucket) (now : Nat) : Bool × Bucket :=
  if b.due ≤ now + b.size * b.interval then (true, { b with due := max b.due now + b.interval })
  else (false, b)

/-- When a permit can be taken at the earliest. -/
def readyAt (b : Bucket) : Nat := b.due - b.size * b.interval

end Bucket

end Storyboard
