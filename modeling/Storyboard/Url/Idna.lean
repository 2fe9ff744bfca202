import Storyboard.Text.Composition
import Storyboard.Text.Direction
import Storyboard.Text.Joining
import Storyboard.Url.Idna.Mapping
import Storyboard.Url.Punycode

/-!
# Domain names in any script

The name of a host may be written in any script. It is brought into the ASCII form under which it is
looked up (UTS #46): the characters are mapped and composed, the labels between the dots are
checked, and those that are not of ASCII are written in Punycode. A label may be written so from the
start; then it has to stand for a label that could have been written otherwise.
-/

namespace Storyboard.Url

/-- The characters of ASCII that no name of a host may have. -/
def isForbiddenHostChar (c : Char) : Bool :=
  c.toNat ≤ 0x20 || c.toNat = 0x7F ||
    ['%', '#', '/', ':', '<', '>', '?', '@', '[', '\\', ']', '^', '|'].contains c

namespace Idna

open Text (Direction direction)

/-- Whether a character is of ASCII. -/
def isAscii (c : Char) : Bool := c.toNat < 0x80

/-! ## Joiners -/

/-- The class of the marks that leave out a vowel. -/
def silencing : Nat := 9

/-- Whether the last letter before a joiner is one that is joined with what follows; the characters
are given from the joiner on backwards. -/
def isJoinedBefore (cs : List Char) : Bool :=
  match cs.dropWhile Text.joinedThrough.has with
  | c :: _ => Text.joinedBehind.has c || Text.joinedOnBothSides.has c
  | [] => false

/-- Whether the first letter behind a joiner is one that is joined with what comes before. -/
def isJoinedAfter (cs : List Char) : Bool :=
  match cs.dropWhile Text.joinedThrough.has with
  | c :: _ => Text.joinedBefore.has c || Text.joinedOnBothSides.has c
  | [] => false

/-- Whether the joiners of a label stand only where they make a difference: behind a mark that
leaves out a vowel, or, in the case of the one that keeps letters apart, between letters that would
be joined. The characters before are given backwards. -/
def joinersFit (before : List Char) : List Char → Bool
  | [] => true
  | c :: rest =>
    let afterSilence := match before with
      | b :: _ => Text.markClass b.toNat = silencing
      | [] => false
    let fits :=
      if c.toNat = 0x200C then afterSilence || (isJoinedBefore before && isJoinedAfter rest)
      else if c.toNat = 0x200D then afterSilence
      else true
    fits && joinersFit (c :: before) rest

/-! ## Directions -/

/-- Whether a character makes a name one that is written from right to left in parts. -/
def turns (c : Char) : Bool :=
  match direction c with
  | .right | .arabic | .arabicNumber => true
  | _ => false

/-- Whether a part may stand in a label from right to left. -/
def fitsRight : Direction → Bool
  | .left => false
  | _ => true

/-- Whether a part may stand in a label from left to right. -/
def fitsLeft : Direction → Bool
  | .right | .arabic | .arabicNumber => false
  | _ => true

/-- Whether a label keeps to one direction (RFC 5893). -/
def keepsDirection (label : List Char) : Bool :=
  let ds := label.map direction
  let last := (ds.reverse.dropWhile (· = .mark)).head?
  match ds with
  | [] => true
  | .left :: _ => ds.all fitsLeft && (last = some .left || last = some .number)
  | .right :: _ | .arabic :: _ =>
    ds.all fitsRight && !(ds.contains .number && ds.contains .arabicNumber) &&
      [some .right, some .arabic, some .number, some .arabicNumber].contains last
  | _ => false

/-! ## Labels -/

/-- A label in both of its forms. -/
structure Label where
  /-- As it is read by people. -/
  shown : List Char
  /-- As it is looked up. -/
  ascii : List Char
deriving DecidableEq, Repr

/-- What the labels in Punycode begin with. -/
def mark : List Char := ['x', 'n', '-', '-']

/-- The longest label that is written in Punycode. -/
def longestShown : Nat := 1000

/-- The longest label that is read as Punycode. -/
def longestEncoded : Nat := 2000

/-- Whether a label does not begin with a mark, and its joiners fit. -/
def isSound (label : List Char) : Bool :=
  (match label with
    | c :: _ => !Text.marks.has c
    | [] => true) && joinersFit [] label

/-- Checks a label that has been mapped and composed. -/
def label? (cs : List Char) : Option Label :=
  if cs.all isAscii then
    if mark.isPrefixOf cs then
      let encoded := cs.drop mark.length
      if encoded.length ≤ longestEncoded then
        match Punycode.decode? encoded with
        | some shown =>
          if !shown.all isAscii && shown.all isStable && Text.compose shown = shown &&
              !mark.isPrefixOf shown && isSound shown
          then some ⟨shown, cs⟩ else none
        | none => none
      else none
    else some ⟨cs, cs⟩
  else if mark.isPrefixOf cs || !isSound cs || longestShown < cs.length then none
  else some ⟨cs, mark ++ Punycode.encode cs⟩

/-- The labels of a name, if it is one. -/
def labels? (cs : List Char) : Option (List Label) := do
  let mapped ← cs.mapM mapChar?
  let labels ← (Text.splitOn '.' (Text.compose mapped.flatten)).mapM label?
  if labels.any (·.shown.any turns) && !labels.all (keepsDirection ·.shown) then none
  else some labels

end Idna

/-- The ASCII form of the name of a host. -/
def domainToAscii? (cs : List Char) : Option (List Char) := do
  let labels ← Idna.labels? cs
  let name := Text.joinWith '.' (labels.map (·.ascii))
  if name.any isForbiddenHostChar then none else some name

end Storyboard.Url
