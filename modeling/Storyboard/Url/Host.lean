import Storyboard.Url.Error
import Storyboard.Url.Idna
import Storyboard.Url.Ipv4
import Storyboard.Url.Ipv6
import Storyboard.Url.Percent

/-!
# Hosts

The host of an address of the web is a name or a numeric address. A name may be written in any
script and with percent signs; it is kept in its ASCII form. The host of any other address is kept
as it is written.
-/

namespace Storyboard.Url

/-- A host. -/
inductive Host
  /-- A name. -/
  | domain (name : String)
  /-- An address of version 4. -/
  | ipv4 (address : Nat)
  /-- An address of version 6 in eight pieces. -/
  | ipv6 (pieces : List Nat)
deriving DecidableEq, Repr

namespace Host

/-- The written form of a host. -/
def text : Host → String
  | .domain name => name
  | .ipv4 address => ipv4Text address
  | .ipv6 pieces => ipv6Text pieces

/-- Reads what stands between brackets; the opening one has been read. -/
def parseBracketed (cs : List Char) : Except Error Host :=
  if cs.getLast? = some ']' then
    match ipv6? cs.dropLast with
    | some pieces => .ok (.ipv6 pieces)
    | none => .error .badIpv6
  else .error .badIpv6

/-- Reads the host of an address of the web or of a file. -/
def parse (cs : List Char) : Except Error Host :=
  match cs with
  | '[' :: rest => parseBracketed rest
  | cs =>
    match (Text.ofBytes? (percentDecode (Text.bytes cs))).bind domainToAscii? with
    | none => .error .badInternationalName
    | some [] => .error .emptyHost
    | some name =>
      if endsInNumber name then
        match ipv4? name with
        | some address => .ok (.ipv4 address)
        | none => .error .badIpv4
      else .ok (.domain (String.ofList name))

/-- The characters that no host of any address may have. -/
def isForbidden (c : Char) : Bool :=
  c.toNat = 0 ||
    ['\t', '\n', '\r', ' ', '#', '/', ':', '<', '>', '?', '@', '[', '\\', ']', '^', '|'].contains c

/-- Reads the host of an address that is neither of the web nor of a file. -/
def parseOther (cs : List Char) : Except Error Host :=
  match cs with
  | '[' :: rest => parseBracketed rest
  | cs =>
    if cs.any isForbidden then .error .badHostCharacter
    else .ok (.domain (String.ofList (percentEncode [] cs)))

end Host

end Storyboard.Url
