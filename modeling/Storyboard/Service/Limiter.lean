import Storyboard.Bucket
import Storyboard.Event
import Storyboard.Net.Address

/-!
# The limiter

Every address from which requests come has a bucket of its own. A bucket is made when an address is
first seen and is forgotten an hour later, or sooner if there are too many: before one more address
is taken in, a full collection is tidied up, and the oldest buckets beyond its capacity go. The
collection may therefore hold one bucket more than its capacity after an address has been taken in.

The two halves of a look-up, and the tidying up between them, are steps of their own, because
several requests may be at work on the collection at once.
-/

namespace Storyboard.Service

open Net (Address)

/-- The bucket of an address. -/
structure LimiterEntry where
  /-- The address. -/
  address : Address
  /-- Its bucket. -/
  bucket : Bucket
  /-- When the bucket was made. -/
  created : Nat
deriving DecidableEq, Repr

/-- The buckets of all addresses, the newest first. -/
structure Limiter where
  /-- The permits that an address gets in a second. -/
  perSecond : Nat
  /-- The buckets. -/
  entries : List LimiterEntry := []
deriving DecidableEq, Repr

namespace Limiter

/-- The number of buckets from which on a collection is tidied up. -/
def capacity : Nat := 10000

/-- How long a bucket is kept: one hour. -/
def lifetime : Nat := 3600 * Bucket.second

/-- An empty collection. A rate of zero stands for ten. -/
def ofRate (rate : Nat) : Limiter := { perSecond := if rate = 0 then 10 else rate }

/-- The bucket of an address. -/
def find? (l : Limiter) (a : Address) : Option LimiterEntry := l.entries.find? (·.address = a)

/-- Whether a bucket is still kept. -/
def isLive (now : Nat) (e : LimiterEntry) : Bool := now - e.created < lifetime

/-- The warning about buckets that had to go. -/
def overflowWarning (removed : Nat) : LogEntry :=
  .warning "Rate limiter cache exceeded capacity" [("removed", .number removed)]

/-- Forgets the buckets that are too old, then the oldest ones beyond the capacity. -/
def tidy (now : Nat) (l : Limiter) : Limiter × List LogEntry :=
  let live := l.entries.filter (isLive now)
  if capacity < live.length then
    ({ l with entries := live.take capacity }, [overflowWarning (live.length - capacity)])
  else ({ l with entries := live }, [])

/-- Gives an address a fresh bucket in place of any that it has. -/
def insert (now : Nat) (a : Address) (l : Limiter) : Limiter :=
  { l with entries := ⟨a, .fresh l.perSecond now, now⟩ :: l.entries.eraseP (·.address = a) }

/-- Sees to it that an address has a bucket. -/
def enroll (now : Nat) (a : Address) (l : Limiter) : Limiter × List LogEntry :=
  match l.find? a with
  | some _ => (l, [])
  | none =>
    let (l, logs) := if capacity ≤ l.entries.length then tidy now l else (l, [])
    (insert now a l, logs)

/-- Replaces the bucket of an address. -/
def setBucket (a : Address) (bucket : Bucket) : List LimiterEntry → List LimiterEntry
  | [] => []
  | e :: rest =>
    if e.address = a then { e with bucket } :: rest else e :: setBucket a bucket rest

/-- Takes a permit out of the bucket of an address. -/
def take (now : Nat) (a : Address) (l : Limiter) : Bool × Limiter :=
  match l.find? a with
  | none => (false, l)
  | some e =>
    let (granted, bucket) := e.bucket.take now
    (granted, { l with entries := setBucket a bucket l.entries })

/-- Whether a request from an address is granted. -/
def check (now : Nat) (a : Address) (l : Limiter) : Bool × Limiter × List LogEntry :=
  let (l, logs) := enroll now a l
  let (granted, l) := take now a l
  (granted, l, logs)

end Limiter

end Storyboard.Service
