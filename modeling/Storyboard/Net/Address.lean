import Storyboard.Text.Blank
import Storyboard.Url.Ipv6

/-!
# Network addresses

An address of a host on the network, of version 4 or 6, in its strict written form: no blanks, no
brackets, no port, no leading zeros in version 4. In version 6 one run of zeros may be left out, and
the last two pieces may be written like an address of version 4.
-/

namespace Storyboard.Net

/-- An address of a host. -/
inductive Address
  /-- Four bytes as one number. -/
  | v4 (value : Nat)
  /-- Eight pieces of sixteen bits. -/
  | v6 (pieces : List Nat)
deriving DecidableEq, Repr

namespace Address

/-- Reads one byte: up to three digits without a leading zero. -/
def byte? (cs : List Char) : Option Nat :=
  if cs ≠ [] ∧ cs.length ≤ 3 ∧ cs.all Text.isDigit = true ∧ (cs.head? = some '0' → cs.length = 1) ∧
      Text.decimalValue cs < 256
  then some (Text.decimalValue cs) else none

/-- Reads an address of version 4. -/
def v4? (cs : List Char) : Option Nat := do
  match ← (Text.splitOn '.' cs).mapM byte? with
  | [a, b, c, d] => some (((a * 256 + b) * 256 + c) * 256 + d)
  | _ => none

/-- Reads one piece: up to four hexadecimal digits. -/
def piece? (cs : List Char) : Option Nat :=
  if cs ≠ [] ∧ cs.length ≤ 4 ∧ cs.all Text.isHexDigit = true then
    some (cs.foldl (fun n d => 16 * n + (Text.hexValue d).getD 0) 0)
  else none

/-- Reads pieces with colons between them. Only where `tail` allows it, the last of them may be
written like an address of version 4. -/
def pieces? (tail : Bool) : List (List Char) → Option (List Nat)
  | [] => some []
  | [last] =>
    match piece? last with
    | some n => some [n]
    | none => if tail then (v4? last).map fun n => [n / 65536, n % 65536] else none
  | cs :: rest => do some ((← piece? cs) :: (← pieces? tail rest))

/-- Splits at the first two colons in a row. -/
def splitGap : List Char → Option (List Char × List Char)
  | ':' :: ':' :: rest => some ([], rest)
  | c :: rest => (splitGap rest).map fun (front, back) => (c :: front, back)
  | [] => none

/-- Pieces of a side, which may be empty. -/
def side? (tail : Bool) (cs : List Char) : Option (List Nat) :=
  if cs = [] then some [] else pieces? tail (Text.splitOn ':' cs)

/-- Reads an address of version 6. The run that is left out has at least one piece. -/
def v6? (cs : List Char) : Option (List Nat) := do
  match splitGap cs with
  | none =>
    let ps ← pieces? true (Text.splitOn ':' cs)
    if ps.length = 8 then some ps else none
  | some (front, back) =>
    let before ← side? false front
    let after ← side? true back
    if before.length + after.length < 8 then
      some (before ++ List.replicate (8 - before.length - after.length) 0 ++ after)
    else none

/-- Reads an address. -/
def ofChars? (cs : List Char) : Option Address :=
  match v4? cs with
  | some n => some (.v4 n)
  | none => (v6? cs).map .v6

/-- The written form of an address of version 4. -/
def v4Text (n : Nat) : String :=
  s!"{n / 16777216 % 256}.{n / 65536 % 256}.{n / 256 % 256}.{n % 256}"

/-- The written form of an address. An address of version 4 within version 6 is written as such. -/
def text : Address → String
  | .v4 n => v4Text n
  | .v6 [0, 0, 0, 0, 0, 0xFFFF, a, b] => "::ffff:" ++ v4Text (a * 65536 + b)
  | .v6 ps =>
    let (start, length) := Url.zeroRun ps
    if length < 2 then Url.piecesText ps
    else Url.piecesText (ps.take start) ++ "::" ++ Url.piecesText (ps.drop (start + length))

end Address

end Storyboard.Net
