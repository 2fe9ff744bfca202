import Storyboard.Json.Reader

/-!
# Records

A record is an object with known members. It is built up field by field from the function that makes
the result out of the fields:

`Record.of Size.mk |>.field (.required "width" .word) |>.field (.required "height" .word)`

While the members are read, a record keeps one optional value for each field. A member that belongs
to no field is skipped; a member that comes twice is a fault. When all members are read, the fields
that are still empty are made up for or reported, in the order in which they were declared.

A record may also be written as a list of its fields in that order.
-/

namespace Storyboard.Json

/-- A member of a record. -/
structure Field (α : Type) where
  /-- The name of the member. -/
  name : String
  /-- How its value is read. -/
  reader : Reader α
  /-- The value of the field if an object lacks the member. -/
  absent : Option α
  /-- The value of the field if a list ends before it. -/
  beyond : Option α

namespace Field

variable {α : Type}

/-- A member that must be there. -/
def required (name : String) (r : Reader α) : Field α := ⟨name, r, none, none⟩

/-- A member that may be `null` or be left out. -/
def optional (name : String) (r : Reader α) : Field (Option α) :=
  ⟨name, r.optional, some none, none⟩

/-- A member with a value of its own if it is left out. -/
def defaulted (name : String) (r : Reader α) (value : α) : Field α :=
  ⟨name, r, some value, some value⟩

end Field

/-- A way of reading an object with known members; `σ` holds the fields read so far. -/
structure Record (σ α : Type) where
  /-- The names of the fields in order. -/
  names : List String
  /-- No fields read yet. -/
  blank : σ
  /-- Reads the value of a member, if a field has its name. -/
  put : Form → String → Doc → σ → Option (Except ReadError σ)
  /-- Reads the fields from a list. Gives them with the items left over, or how many there were if
  they are too few. -/
  row : Form → List Doc → Except (ReadError ⊕ Nat) (σ × List Doc)
  /-- Makes the result, or reports the first field that is missing. -/
  finish : σ → Except Fault α

namespace Record

variable {σ α β : Type}

/-- A record without fields. -/
def of (a : α) : Record Unit α where
  names := []
  blank := ()
  put _ _ _ _ := none
  row _ ds := .ok ((), ds)
  finish _ := .ok a

/-- Adds a field to a record. -/
def field (r : Record σ (β → α)) (f : Field β) : Record (σ × Option β) α where
  names := r.names ++ [f.name]
  blank := (r.blank, none)
  put form name d s :=
    if name = f.name then
      some (if s.2.isSome then .error (.here (.duplicateField name))
        else (f.reader.member form name d).map fun b => (s.1, some b))
    else (r.put form name d s.1).map fun out => out.map fun t => (t, s.2)
  row form ds := do
    let (s, rest) ← r.row form ds
    match rest with
    | d :: rest =>
      match within (.item r.names.length) (f.reader.read form d) with
      | .ok b => .ok ((s, some b), rest)
      | .error e => .error (.inl e)
    | [] =>
      match f.beyond with
      | some b => .ok ((s, some b), [])
      | none => .error (.inr r.names.length)
  finish s := do
    let make ← r.finish s.1
    match s.2.or f.absent with
    | some b => .ok (make b)
    | none => .error (.missingField f.name)

/-- Reads the members of an object. -/
def members (r : Record σ α) (form : Form) : List (Key × Doc) → σ → Except ReadError σ
  | [], s => .ok s
  | (.error m, _) :: _, _ => .error ⟨.malformed m, [.unknown]⟩
  | (.ok name, d) :: rest, s =>
    match r.put form name d s with
    | some out => do members r form rest (← out)
    | none => do
      if form.isText then
        match d with
        | .noColon m => .error (.here (.malformed m))
        | d => within (.member name) (demand d.skipFault?)
      members r form rest s

/-- A number of items for a message. -/
def elements (n : Nat) : String := if n = 1 then "1 element" else s!"{n} elements"

/-- Reads a record that an object holds. -/
def ofMembers (r : Record σ α) (form : Form) (ms : List (Key × Doc)) (stop : ObjectStop) :
    Except ReadError α := do
  let s ← r.members form ms r.blank
  demandNo stop.readError?
  match r.finish s with
  | .ok a => .ok a
  | .error fault => .error (.here fault)

/-- Reads a record that a list holds; `label` names it in messages. -/
def ofItems (r : Record σ α) (label : String) (form : Form) (ds : List Doc) (stop : ListStop) :
    Except ReadError α := do
  match r.row form ds with
  | .error (.inl e) => .error e
  | .error (.inr n) =>
    demand stop.fault?
    .error (.here (.wrongLength n s!"{label} with {elements r.names.length}"))
  | .ok (s, rest) =>
    match form, rest with
    | .text _, [] => demand stop.endFault?
    | .text _, _ :: _ => demand (some .trailingCharacters)
    | _, [] => .ok ()
    | .value, _ :: _ => .error (.here (.wrongLength ds.length "fewer elements in array"))
    | .setAside, _ :: _ =>
      .error (.here (.wrongLength ds.length s!"{elements (ds.length - rest.length)} in sequence"))
    match r.finish s with
    | .ok a => .ok a
    | .error fault => .error (.here fault)

/-- Reads a record; `label` names it in messages. -/
def reader (r : Record σ α) (label : String) : Reader α where
  read form
    | .object ms stop => do r.ofMembers (← form.enter) ms stop
    | .list ds stop => do r.ofItems label (← form.enter) ds stop
    | d => wrongKind label d

end Record

end Storyboard.Json
