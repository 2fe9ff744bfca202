import Storyboard.Url.Host

/-!
# Addresses

An address is read the way browsers read it. Blanks and controls around it, and line ends and
tabulators anywhere, do not count. Addresses of the web (`http`, `https`, `ws`, `wss` and `ftp`)
must have a host, and may be written with backslashes or with too few or too many slashes before it.

`Url.parse` reads an address, `Url.text` writes it in its canonical form.
-/

namespace Storyboard

/-- An address. -/
structure Url where
  /-- The scheme in small letters, without the colon. -/
  scheme : String
  /-- The name of the user. -/
  username : String := ""
  /-- The password, if there is a name and a password. -/
  password : Option String := none
  /-- The host. -/
  host : Option Url.Host := none
  /-- The port, if it is not the usual one. -/
  port : Option Nat := none
  /-- The path with its slashes. -/
  path : String := ""
  /-- What follows the question mark. -/
  query : Option String := none
  /-- What follows the number sign. -/
  fragment : Option String := none
deriving DecidableEq, Repr

namespace Url

/-! ## Schemes -/

/-- How an address is read, which depends on its scheme. -/
inductive SchemeKind
  /-- An address of the web. -/
  | web
  /-- An address of a file. -/
  | file
  /-- Any other address. -/
  | other
deriving DecidableEq, Repr

/-- How addresses of a scheme are read. -/
def schemeKind (scheme : String) : SchemeKind :=
  if scheme ∈ ["http", "https", "ws", "wss", "ftp"] then .web
  else if scheme = "file" then .file
  else .other

/-- The port that is used if none is given. -/
def defaultPort? (scheme : String) : Option Nat :=
  if scheme ∈ ["http", "ws"] then some 80
  else if scheme ∈ ["https", "wss"] then some 443
  else if scheme = "ftp" then some 21
  else none

/-- Whether a character may stand in a scheme. -/
def isSchemeChar (c : Char) : Bool := c.isAlphanum || c = '+' || c = '-' || c = '.'

/-- Whether a character does not count around an address. -/
def isEdge (c : Char) : Bool := c.toNat ≤ 0x20

/-- The characters of an address that count. -/
def significant (cs : List Char) : List Char :=
  (((cs.dropWhile isEdge).reverse.dropWhile isEdge).reverse).filter
    fun c => !(c = '\t' || c = '\n' || c = '\r')

/-- The scheme of an address and what follows the colon. -/
def scheme? (cs : List Char) : Option (String × List Char) :=
  match cs.dropWhile isSchemeChar with
  | ':' :: rest =>
    match cs.head? with
    | some c =>
      if c.isAlpha then
        some (String.ofList ((cs.takeWhile isSchemeChar).map Char.toLower), rest)
      else none
    | none => none
  | _ => none

/-! ## Users, hosts and ports -/

/-- Whether a character ends the part with user, host and port. -/
def endsAuthority (kind : SchemeKind) (c : Char) : Bool :=
  c = '/' || c = '?' || c = '#' || (kind != .other && c = '\\')

/-- Splits at the last sign `@`, if there is one. -/
def splitUser (authority : List Char) : Option (List Char × List Char) :=
  let back := authority.reverse
  match back.dropWhile (· ≠ '@') with
  | _ :: front => some (front.reverse, (back.takeWhile (· ≠ '@')).reverse)
  | [] => none

/-- The name and the password of a user. -/
def user (cs : List Char) : String × Option String :=
  let name := cs.takeWhile (· ≠ ':')
  let password := (cs.dropWhile (· ≠ ':')).drop 1
  (String.ofList (percentEncode userSet name),
    if password = [] then none else some (String.ofList (percentEncode userSet password)))

/-- Splits a host from the colon and the port behind it; a colon between brackets belongs to the
host. -/
def splitPort : List Char → (bracket : Bool) → List Char × List Char
  | [], _ => ([], [])
  | c :: cs, bracket =>
    if c = ':' && !bracket then ([], c :: cs)
    else
      let inside := if c = '[' then true else if c = ']' then false else bracket
      let (host, port) := splitPort cs inside
      (c :: host, port)

/-- Reads the port behind a host, which a backslash ends. No port and the usual one are the same. -/
def parsePort (scheme : String) (cs : List Char) : Except Error (Option Nat) :=
  match cs with
  | ':' :: rest =>
    let digits := rest.takeWhile (· ≠ '\\')
    if !digits.all Text.isDigit then .error .badPort
    else if digits = [] then .ok none
    else
      let port := Text.decimalValue digits
      if 65535 < port then .error .badPort
      else .ok (if some port = defaultPort? scheme then none else some port)
  | _ => .ok none

/-- What stands between the slashes and the path. -/
structure Authority where
  /-- The name of the user. -/
  username : String
  /-- The password. -/
  password : Option String
  /-- The host. -/
  host : Option Host
  /-- The port. -/
  port : Option Nat
  /-- What a backslash behind the port has cut off. -/
  left : List Char

/-- Reads the host of an address with slashes. -/
def parseHost (kind : SchemeKind) (cs : List Char) : Except Error (Option Host) :=
  match kind with
  | .other => (Host.parseOther cs).map fun h => if h = .domain "" then none else some h
  | _ => if cs = [] then .error .emptyHost else (Host.parse cs).map some

/-- Reads user, host and port; `rest` is what follows them. -/
def parseAuthority (scheme : String) (cs rest : List Char) : Except Error Authority := do
  let kind := schemeKind scheme
  let (name, host) := (splitUser cs).getD ([], cs)
  if (splitUser cs).isSome ∧ name = [] ∧ host = [] ∧ rest ≠ [] then .error .emptyHost
  let (username, password) := user name
  let (hostChars, portChars) := splitPort host false
  let host ← parseHost kind hostChars
  if host.isNone ∧ portChars ≠ [] then .error .emptyHost
  let port ← parsePort scheme portChars
  if host.isNone ∧ (username ≠ "" ∨ password.isSome) then .error .emptyHost
  .ok { username, password, host, port, left := portChars.dropWhile (· ≠ '\\') }

/-! ## Paths -/

/-- Whether a segment stands for the segment it is in. -/
def isDot (segment : List Char) : Bool :=
  let s := String.ofList (segment.map Char.toLower)
  s = "." || s = "%2e"

/-- Whether a segment stands for the one above. -/
def isDoubleDot (segment : List Char) : Bool :=
  let s := String.ofList (segment.map Char.toLower)
  s ∈ ["..", ".%2e", "%2e.", "%2e%2e"]

/-- The segments of a path with the dots carried out; finished segments are kept newest first. -/
def resolveDots : List (List Char) → List (List Char) → List (List Char)
  | [], done => done.reverse
  | [segment], done =>
    if isDoubleDot segment then ([] :: done.drop 1).reverse
    else if isDot segment then ([] :: done).reverse
    else (segment :: done).reverse
  | segment :: rest, done =>
    if isDoubleDot segment then resolveDots rest (done.drop 1)
    else if isDot segment then resolveDots rest done
    else resolveDots rest (segment :: done)

/-- The path behind a slash, with the dots carried out. -/
def absolutePath (cs : List Char) : String :=
  let segments := (Text.splitOn '/' cs).map (percentEncode pathSet)
  String.ofList ('/' :: Text.joinWith '/' (resolveDots segments []))

/-- The path of an address of the web or of a file: always absolute, with slashes in place of
backslashes. -/
def webPath (cs : List Char) : String :=
  match cs.map fun c => if c = '\\' then '/' else c with
  | '/' :: rest => absolutePath rest
  | cs => absolutePath cs

/-- The path of any other address with a host: absolute unless it is empty. -/
def otherPath (cs : List Char) : String :=
  match cs with
  | [] => ""
  | '/' :: rest => absolutePath rest
  | cs => absolutePath cs

/-- The path of any other address without a host: absolute if it starts with a slash. -/
def hostlessPath (cs : List Char) : String :=
  match cs with
  | '/' :: rest => absolutePath rest
  | cs => String.ofList (percentEncode [] cs)

/-! ## Reading -/

/-- Splits off what follows the first of a character. -/
def splitAfter (sep : Char) (cs : List Char) : List Char × Option (List Char) :=
  match cs.dropWhile (· ≠ sep) with
  | _ :: rest => (cs.takeWhile (· ≠ sep), some rest)
  | [] => (cs, none)

/-- Splits what follows the host into path, query and fragment. -/
def splitTail (cs : List Char) : List Char × Option (List Char) × Option (List Char) :=
  let (front, fragment) := splitAfter '#' cs
  let (path, query) := splitAfter '?' front
  (path, query, fragment)

/-- The query in its written form. -/
def encodeQuery (scheme : String) (cs : List Char) : String :=
  String.ofList
    (percentEncode (if schemeKind scheme = .other then querySet else webQuerySet) cs)

/-- The fragment in its written form. -/
def encodeFragment (cs : List Char) : String := String.ofList (percentEncode fragmentSet cs)

/-- Reads an address with user, host and port; the slashes before them have been read. -/
def parseWithHost (scheme : String) (cs : List Char) : Except Error Url := do
  let kind := schemeKind scheme
  let authority := cs.takeWhile fun c => !endsAuthority kind c
  let rest := cs.dropWhile fun c => !endsAuthority kind c
  let a ← parseAuthority scheme authority rest
  let (path, query, fragment) := splitTail (a.left ++ rest)
  .ok
    { scheme, username := a.username, password := a.password, host := a.host, port := a.port
      path := if kind = .other then otherPath path else webPath path
      query := query.map (encodeQuery scheme)
      fragment := fragment.map encodeFragment }

/-- Whether a text is a letter of a drive. -/
def isDriveLetter (cs : List Char) : Bool :=
  match cs with
  | [c, ':'] | [c, '|'] => c.isAlpha
  | _ => false

/-- Reads the address of a file. Two slashes announce a host, which may be empty. -/
def parseFile (cs : List Char) : Except Error Url := do
  let isSlash (c : Char) : Bool := c = '/' || c = '\\'
  let (host, rest) ← match cs with
    | a :: b :: rest =>
      if isSlash a && isSlash b then
        let host := rest.takeWhile fun c => !endsAuthority .file c
        if isDriveLetter host then .ok (none, rest)
        else
          let tail := rest.drop host.length
          if host = [] then .ok (none, tail)
          else (Host.parse host).map fun h =>
            (if h = .domain "localhost" then none else some h, tail)
      else .ok (none, cs)
    | _ => .ok (none, cs)
  let (path, query, fragment) := splitTail rest
  .ok
    { scheme := "file", host, path := webPath path
      query := query.map (encodeQuery "file")
      fragment := fragment.map encodeFragment }

/-- Reads an address. -/
def parse (s : String) : Except Error Url :=
  match scheme? (significant s.toList) with
  | none => .error .relativeWithoutBase
  | some (scheme, rest) =>
    match schemeKind scheme with
    | .web => parseWithHost scheme (rest.dropWhile fun c => c = '/' || c = '\\')
    | .file => parseFile rest
    | .other =>
      match rest with
      | '/' :: '/' :: rest => parseWithHost scheme rest
      | rest =>
        let (path, query, fragment) := splitTail rest
        .ok
          { scheme, path := hostlessPath path
            query := query.map (encodeQuery scheme)
            fragment := fragment.map encodeFragment }

/-! ## Writing -/

/-- An optional part behind its mark. -/
def part (mark : String) : Option String → String
  | none => ""
  | some s => mark ++ s

/-- The name and the password before the host. -/
def userText (u : Url) : String :=
  if u.username = "" ∧ u.password.isNone then "" else u.username ++ part ":" u.password ++ "@"

/-- The written form of an address. -/
def text (u : Url) : String :=
  let authority :=
    if u.host.isSome ∨ u.scheme = "file" then
      "//" ++ u.userText ++ part "" (u.host.map Host.text) ++
        part ":" (u.port.map fun p => s!"{p}")
    else ""
  u.scheme ++ ":" ++ authority ++ u.path ++ part "?" u.query ++ part "#" u.fragment

/-- Whether an address is one of the web with a host. -/
def isWeb (u : Url) : Bool := (u.scheme = "http" || u.scheme = "https") && u.host.isSome

end Url

end Storyboard
