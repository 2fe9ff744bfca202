import Storyboard.Net.Header

/-!
# Media types

The kind of a body is named by a type, a subtype and parameters, as in `application/json;
charset=utf-8`. Here only one question is asked: whether a body is JSON.
-/

namespace Storyboard.Net

/-- Whether a character may stand in a name of a media type. -/
def isTokenChar (c : Char) : Bool :=
  c.isAlphanum || ['!', '#', '$', '%', '&', '\x27', '*', '+', '-', '.', '^', '_', '\x60', '|',
    '~'].contains c

/-- Reads parameters. -/
inductive ParameterState
  /-- At the start of a name, where blanks are passed over. -/
  | start
  /-- Inside a name. -/
  | name
  /-- Right behind the equals sign. -/
  | value
  /-- Inside a value. -/
  | inValue
  /-- Inside quotes; whether anything stands in them yet. -/
  | quoted (filled : Bool)
  /-- Behind the closing quote. -/
  | closed
  /-- The parameters make no sense. -/
  | bad
deriving DecidableEq, Repr

namespace ParameterState

/-- Reads one character. -/
def step : ParameterState → Char → ParameterState
  | .start, c => if c = ' ' then .start else if isTokenChar c then .name else .bad
  | .name, c => if isTokenChar c then .name else if c = '=' then .value else .bad
  | .value, c =>
    if c.toNat = 0x22 then .quoted false else if isTokenChar c then .inValue else .bad
  | .inValue, c => if isTokenChar c then .inValue else if c = ';' then .start else .bad
  | .quoted filled, c =>
    if c.toNat = 0x22 && filled then .closed
    else if 31 < c.toNat && c.toNat ≠ 127 then .quoted true
    else .bad
  | .closed, c => if c = ';' then .start else if c = ' ' then .closed else .bad
  | .bad, _ => .bad

/-- Whether the parameters may end here. -/
def mayEnd : ParameterState → Bool
  | .start | .value | .inValue | .closed => true
  | .name | .quoted _ | .bad => false

end ParameterState

/-- The subtype without its last suffix, and that suffix. -/
def subtypeParts (cs : List Char) : List Char × Option (List Char) :=
  let back := cs.reverse.takeWhile (· ≠ '+')
  let front := (cs.take (cs.length - back.length - 1))
  if back.length < cs.length ∧ front ≠ [] then (front, some back.reverse) else (cs, none)

/-- Whether a media type names JSON, or something that is written as JSON. -/
def isJsonType (s : String) : Bool :=
  let cs := s.toList.map Char.toLower
  let type := cs.takeWhile isTokenChar
  match cs.drop type.length with
  | '/' :: rest =>
    let subtype := rest.takeWhile isTokenChar
    let wellFormed := match rest.drop subtype.length with
      | [] => true
      | ';' :: more => subtype ≠ [] && (more.foldl ParameterState.step .start).mayEnd
      | _ => false
    let (name, suffix) := subtypeParts subtype
    wellFormed && String.ofList type = "application" &&
      (String.ofList name = "json" || suffix.map String.ofList = some "json")
  | _ => false

end Storyboard.Net
