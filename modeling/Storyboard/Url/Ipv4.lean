import Storyboard.Text.Blank

/-!
# Version 4 addresses in a host

A host whose last label is a number is an address of version 4. It has up to four numbers, in
decimal, octal after a zero, or hexadecimal after `0x`; the last number fills all bytes that the
others leave.
-/

namespace Storyboard.Url

/-- The value of digits in a base. -/
def valueInBase (base : Nat) (digits : List Char) : Nat :=
  digits.foldl (fun n c => base * n + (Text.hexValue c).getD 0) 0

/-- Reads one number of an address. -/
def ipv4Number? (cs : List Char) : Option Nat :=
  match cs with
  | [] => none
  | '0' :: 'x' :: rest | '0' :: 'X' :: rest =>
    if rest.all Text.isHexDigit then some (valueInBase 16 rest) else none
  | '0' :: rest =>
    if rest.all fun c => 48 ≤ c.toNat && c.toNat ≤ 55 then some (valueInBase 8 rest) else none
  | cs => if cs.all Text.isDigit then some (valueInBase 10 cs) else none

/-- The labels of a host without the empty one behind a final point. -/
def hostLabels (host : List Char) : List (List Char) :=
  let labels := Text.splitOn '.' host
  if labels.getLast? = some [] then labels.dropLast else labels

/-- Whether the last label of a host is a number. -/
def endsInNumber (host : List Char) : Bool :=
  match (hostLabels host).getLast? with
  | some label => (label ≠ [] && label.all Text.isDigit) || (ipv4Number? label).isSome
  | none => false

/-- Reads an address of version 4. -/
def ipv4? (host : List Char) : Option Nat := do
  let labels := hostLabels host
  if 4 < labels.length then none
  let numbers ← labels.mapM ipv4Number?
  let last ← numbers.getLast?
  let front := numbers.dropLast
  if front.any (255 < ·) then none
  else if Nat.pow 256 (4 - front.length) ≤ last then none
  else some (front.foldl (fun n b => 256 * n + b) 0 * Nat.pow 256 (4 - front.length) + last)

/-- The written form of an address of version 4. -/
def ipv4Text (n : Nat) : String :=
  s!"{n / 16777216 % 256}.{n / 65536 % 256}.{n / 256 % 256}.{n % 256}"

end Storyboard.Url
