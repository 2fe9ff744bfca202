import Storyboard.Text.Blank

/-!
# Bytes of a text

A text is sent as bytes in the encoding UTF-8. `bytes` writes it; `ofBytes?` reads it back and
refuses anything that no text is sent as; `ofBytesLossy` puts the replacement character in place of
each longest piece that could have begun a character and does not go on as one, and `decoded` keeps
count of the bytes of such pieces.
-/

namespace Storyboard.Text

/-- The bytes of a character. -/
def charBytes (c : Char) : List Nat :=
  let n := c.toNat
  if n < 0x80 then [n]
  else if n < 0x800 then [0xC0 + n / 64, 0x80 + n % 64]
  else if n < 0x10000 then [0xE0 + n / 4096, 0x80 + n / 64 % 64, 0x80 + n % 64]
  else [0xF0 + n / 262144, 0x80 + n / 4096 % 64, 0x80 + n / 64 % 64, 0x80 + n % 64]

/-- The bytes of a text. -/
def bytes (cs : List Char) : List Nat := cs.flatMap charBytes

/-- What a first byte announces: how many bytes follow, the smallest and the largest value of the
next byte, and the bits of the first byte. -/
def announced (b : Nat) : Option (Nat × Nat × Nat × Nat) :=
  if 0xC2 ≤ b ∧ b ≤ 0xDF then some (1, 0x80, 0xBF, b - 0xC0)
  else if b = 0xE0 then some (2, 0xA0, 0xBF, 0)
  else if b = 0xED then some (2, 0x80, 0x9F, 13)
  else if 0xE1 ≤ b ∧ b ≤ 0xEF then some (2, 0x80, 0xBF, b - 0xE0)
  else if b = 0xF0 then some (3, 0x90, 0xBF, 0)
  else if b = 0xF4 then some (3, 0x80, 0x8F, 4)
  else if 0xF1 ≤ b ∧ b ≤ 0xF3 then some (3, 0x80, 0xBF, b - 0xF0)
  else none

/-- The state of a reader of bytes. -/
inductive Decoding
  /-- Between two characters. -/
  | idle
  /-- Inside a character: how many bytes are missing, the bounds of the next one, and the bits so
  far. -/
  | inside (missing low high bits : Nat)
deriving DecidableEq, Repr

namespace Decoding

/-- What a byte completes: a character, or `none` for a piece that is no character. -/
def start (b : Nat) : List (Option Char) × Decoding :=
  if b < 0x80 then ([some (Char.ofNat b)], .idle)
  else
    match announced b with
    | some (missing, low, high, bits) => ([], .inside missing low high bits)
    | none => ([none], .idle)

/-- Reads one byte. -/
def step : Decoding → Nat → List (Option Char) × Decoding
  | .idle, b => start b
  | .inside missing low high bits, b =>
    if low ≤ b ∧ b ≤ high then
      let bits := 64 * bits + (b - 0x80)
      if missing ≤ 1 then ([some (Char.ofNat bits)], .idle)
      else ([], .inside (missing - 1) 0x80 0xBF bits)
    else (none :: (start b).1, (start b).2)

/-- Reads the bytes to come. -/
def run : Decoding → List Nat → List (Option Char)
  | .idle, [] => []
  | .inside .., [] => [none]
  | d, b :: bs => (d.step b).1 ++ run (d.step b).2 bs

/-- Whether a byte goes on the character that has been begun. -/
def goesOn : Decoding → Nat → Bool
  | .idle, _ => false
  | .inside _ low high _, b => low ≤ b && b ≤ high

/-- What comes of a character that does not go on, of which `begun` bytes have been read. -/
def broken (begun : Nat) : Decoding → List (Option Char)
  | .idle => []
  | .inside .. => List.replicate begun none

/-- Reads the bytes to come, with `none` for each byte that belongs to no character; `begun` bytes
have been read of the one that has been begun. -/
def runEach : Decoding → Nat → List Nat → List (Option Char)
  | d, begun, [] => d.broken begun
  | d, begun, b :: bs =>
    if d.goesOn b then (d.step b).1 ++ runEach (d.step b).2 (begun + 1) bs
    else d.broken begun ++ (start b).1 ++ runEach (start b).2 1 bs

end Decoding

/-- The text that the bytes were sent for. -/
def ofBytes? (bs : List Nat) : Option (List Char) := (Decoding.idle.run bs).mapM id

/-- The characters of the bytes, with `none` for each byte that belongs to no character. -/
def decoded (bs : List Nat) : List (Option Char) := Decoding.idle.runEach 0 bs

/-- The text of the bytes, with the replacement character for what is no text. -/
def ofBytesLossy (bs : List Nat) : List Char :=
  (Decoding.idle.run bs).map fun c => c.getD (Char.ofNat 0xFFFD)

end Storyboard.Text
