import Storyboard.Text.Blank

/-!
# Version 6 addresses in a host

Between brackets stands an address of version 6: eight pieces of up to four hexadecimal digits, of
which one run of zeros may be left out, and the last two of which may be written like an address of
version 4.
-/

namespace Storyboard.Url

/-- One byte of the part that is written like an address of version 4. -/
def ipv6Byte? (cs : List Char) : Option Nat :=
  if cs ≠ [] ∧ cs.length ≤ 3 ∧ cs.all Text.isDigit = true ∧ (cs.head? = some '0' → cs.length = 1) ∧
      Text.decimalValue cs < 256
  then some (Text.decimalValue cs) else none

/-- The two pieces that are written like an address of version 4. -/
def ipv6Tail? (cs : List Char) : Option (List Nat) := do
  let bytes ← (Text.splitOn '.' cs).mapM ipv6Byte?
  match bytes with
  | [a, b, c, d] => some [256 * a + b, 256 * c + d]
  | _ => none

/-- Reads pieces as long as there is room for `left` more. Gives them and the position of the first
piece behind those that are left out; the run that is left out counts as one piece. -/
def ipv6Pieces : (left : Nat) → List Char → (done : List Nat) → (gap : Option Nat) →
    Option (List Nat × Option Nat)
  | _, [], done, gap => some (done, gap)
  | 0, _ :: _, _, _ => none
  | left + 1, c :: cs, done, gap =>
    if c = ':' then
      if gap.isSome then none
      else ipv6Pieces left cs (done ++ [0]) (some (done.length + 1))
    else
      let digits := ((c :: cs).take 4).takeWhile Text.isHexDigit
      let piece := digits.foldl (fun n d => 16 * n + (Text.hexValue d).getD 0) 0
      match (c :: cs).drop digits.length with
      | [] => some (done ++ [piece], gap)
      | ':' :: rest =>
        if rest = [] then none else ipv6Pieces left rest (done ++ [piece]) gap
      | '.' :: _ =>
        if digits = [] ∨ left = 0 then none
        else (ipv6Tail? (c :: cs)).map fun tail => (done ++ tail, gap)
      | _ => none

/-- Reads an address of version 6 as its eight pieces. -/
def ipv6? (cs : List Char) : Option (List Nat) := do
  let (done, gap) ← match cs with
    | ':' :: ':' :: rest => ipv6Pieces 7 rest [0] (some 1)
    | ':' :: _ | [_] | [] => none
    | cs => ipv6Pieces 8 cs [] none
  match gap with
  | some at_ => some (done.take at_ ++ List.replicate (8 - done.length) 0 ++ done.drop at_)
  | none => if done.length = 8 then some done else none

/-- The position and length of the first longest run of zeros. -/
def zeroRun (pieces : List Nat) : Nat × Nat :=
  let runFrom (i : Nat) : Nat := ((pieces.drop i).takeWhile (· = 0)).length
  (List.range pieces.length).foldl
    (fun best i => if best.2 < runFrom i then (i, runFrom i) else best) (0, 0)

/-- Pieces with colons between them. -/
def piecesText (pieces : List Nat) : String :=
  String.intercalate ":" (pieces.map fun p => String.ofList (Nat.toDigits 16 p))

/-- The written form of an address of version 6, between brackets. -/
def ipv6Text (pieces : List Nat) : String :=
  let (start, length) := zeroRun pieces
  if length < 2 then "[" ++ piecesText pieces ++ "]"
  else
    "[" ++ piecesText (pieces.take start) ++ "::" ++
      piecesText (pieces.drop (start + length)) ++ "]"

end Storyboard.Url
