import Storyboard.Service.Limiter

/-!
# Look-ups that overlap

Several requests may be at work on the limiter at once. A look-up goes through sections in which it
has the buckets to itself: it looks for the bucket of its address; if there is none it looks again,
now ready to make one; and if the collection is full, it tidies it up and makes the bucket in two
more sections. Between its sections other look-ups may do anything.

Buckets of an address are told apart by the order in which they were made: the one that is found is
always the last one.
-/

namespace Storyboard.Service

open Net (Address)

/-- How far a look-up has come. -/
inductive Stage
  /-- It has not looked for a bucket yet. -/
  | waiting
  /-- It has found none. -/
  | missed
  /-- It has found none again, and the collection full. -/
  | crowded
  /-- It has tidied up the collection. -/
  | tidied
  /-- It has got a bucket. -/
  | done
deriving DecidableEq, Repr

/-- A look-up of the bucket of an address. -/
structure LookUp where
  /-- The address. -/
  address : Address
  /-- How far it has come. -/
  stage : Stage := .waiting
deriving DecidableEq, Repr

/-- A bucket that a look-up has got. -/
structure Handout where
  /-- The address of the bucket. -/
  address : Address
  /-- How many buckets had been made for the address by then. -/
  number : Nat
deriving DecidableEq, Repr

/-- The limiter with the look-ups that are at work on it. -/
structure Traffic where
  /-- The buckets. -/
  limiter : Limiter
  /-- The look-ups, in the order in which they came. -/
  lookUps : List LookUp := []
  /-- The addresses for which buckets were made, the last one first. -/
  made : List Address := []
  /-- The buckets that look-ups have got, oldest first. -/
  handed : List Handout := []
  /-- What was noted down. -/
  logs : List LogEntry := []
deriving DecidableEq, Repr

/-- What happens next. -/
inductive Turn
  /-- A look-up comes. -/
  | arrive (address : Address)
  /-- A look-up goes through its next section. -/
  | advance (index now : Nat)
deriving DecidableEq, Repr

namespace Traffic

/-- Gives the bucket of an address to a look-up. -/
def hand (a : Address) (t : Traffic) : Traffic :=
  { t with handed := t.handed ++ [⟨a, t.made.count a⟩] }

/-- Makes a bucket for an address and gives it to a look-up. -/
def make (now : Nat) (a : Address) (t : Traffic) : Traffic :=
  hand a { t with limiter := t.limiter.insert now a, made := a :: t.made }

/-- The next section of a look-up. Gives how far the look-up has come then. -/
def proceed (now : Nat) (u : LookUp) (t : Traffic) : Stage × Traffic :=
  match u.stage with
  | .waiting =>
    match t.limiter.find? u.address with
    | some _ => (.done, t.hand u.address)
    | none => (.missed, t)
  | .missed =>
    match t.limiter.find? u.address with
    | some _ => (.done, t.hand u.address)
    | none =>
      if Limiter.capacity ≤ t.limiter.entries.length then (.crowded, t)
      else (.done, t.make now u.address)
  | .crowded =>
    let (limiter, logs) := t.limiter.tidy now
    (.tidied, { t with limiter, logs := t.logs ++ logs })
  | .tidied => (.done, t.make now u.address)
  | .done => (.done, t)

/-- What comes of one turn. -/
def step (t : Traffic) : Turn → Traffic
  | .arrive address => { t with lookUps := t.lookUps ++ [{ address }] }
  | .advance index now =>
    match t.lookUps[index]? with
    | none => t
    | some u =>
      { (t.proceed now u).2 with
        lookUps := t.lookUps.set index { u with stage := (t.proceed now u).1 } }

/-- What comes of turns one after another. -/
def run (t : Traffic) (turns : List Turn) : Traffic := turns.foldl step t

end Traffic

end Storyboard.Service
