import Storyboard.Json.Record
import Storyboard.Vocabulary

/-!
# Words and tagged alternatives

Some types have a few values, each with a fixed word. Such a value is written as its word; it may
also be written as an object whose only member is named by the word and holds `null`.

Other types have a few alternatives, each with members of its own, and an object says by one member,
the tag, which of them it is. The tag may stand anywhere among the members, so the rest of the
object is set aside until the tag is found. In a list the tag comes first.
-/

namespace Storyboard.Json

namespace Reader

variable {α : Type}

/-- Looks up a word. -/
def lookUp [Vocabulary α] (w : String) : Except ReadError α :=
  match Vocabulary.ofWord? w with
  | some a => .ok a
  | none => .error (.here (.unknownWord w (Vocabulary.words α)))

/-- Reads the empty value that an object holds beside a word. -/
def emptyValue (form : Form) : Doc → Except ReadError Unit
  | .null => .ok ()
  | .object [] stop => if form = .setAside then .ok () else wrongKind "unit" (.object [] stop)
  | .noColon m => .error (.here (.malformed m))
  | d => wrongKind "unit" d

/-- Reads the member of an object that stands for a word in a text. The closing brace must follow
it, so anything else is out of place. -/
def wordMember [Vocabulary α] (form : Form) :
    List (Key × Doc) → ObjectStop → Except ReadError α
  | [], .atEnd => .error (.here (.malformed .endInValue))
  | [], .noKey (.error m) => .error (.here (.malformed m))
  | [], .noKey (.ok found) => .error (.here (.wrongKind found "variant identifier"))
  | [], .badKey reason => .error (.here (.malformed reason.read))
  | [], _ => .error (.here (.malformed .valueExpected))
  | (.error m, _) :: _, _ => .error (.here (.malformed m))
  | (.ok w, d) :: rest, stop => do
    let a ← lookUp w
    match d with
    | .noColon m => .error (.here (.malformed m))
    | d => within (.member w) (emptyValue form d)
    match rest, stop with
    | [], .closed => .ok a
    | [], .atEnd => .error (.here (.malformed .endInObject))
    | _, _ => .error (.here (.malformed .valueExpected))

/-- Reads a word. -/
def vocabulary [Vocabulary α] : Reader α where
  read
    | .text room, d =>
      match d with
      | .text (.ok w) => lookUp w
      | .text (.error m) => .error (.here (.malformed m))
      | .object ms stop => do wordMember (← (Form.text room).enter) ms stop
      | .missing reason =>
        .error (.here (.malformed (match reason.lead with
          | .nothing => .endInValue
          | .quote => reason.read
          | _ => .valueExpected)))
      | .noColon m => .error (.here (.malformed m))
      | _ => .error (.here (.malformed .valueExpected))
    | form, d =>
      match d with
      | .text (.ok w) => lookUp w
      | .object [(.ok w, d)] _ => do
        let a ← lookUp w
        within (.member w) (emptyValue form d)
        .ok a
      | .object .. => .error (.here (.wrongValue .object "map with a single key"))
      | d => wrongKind "string or map" d

/-- Reads a tag. -/
def tag [Vocabulary α] : Reader α where
  read _
    | .text (.ok w) => lookUp w
    | d => wrongKind "variant identifier" d

end Reader

/-- A type whose values say by a tag which alternative they are. -/
structure Tagged (τ α : Type) where
  /-- What the type is called in messages. -/
  label : String
  /-- The name of the member that holds the tag. -/
  tagName : String
  /-- How the members beside the tag are read. -/
  body : τ → Reader α

namespace Tagged

variable {τ α : Type} [Vocabulary τ]

/-- Finds the tag among the members and sets the others aside. In a text their faults come up
here. -/
def sift (t : Tagged τ α) (form : Form) :
    List (Key × Doc) → Option τ → List (Key × Doc) →
      Except ReadError (Option τ × List (Key × Doc))
  | [], found, aside => .ok (found, aside.reverse)
  | (.error m, _) :: _, _, _ => .error ⟨.malformed m, [.unknown]⟩
  | (.ok name, d) :: rest, found, aside =>
    if name = t.tagName then
      match found with
      | some _ => .error (.here (.duplicateField name))
      | none => do sift t form rest (some (← Reader.tag.member form name d)) aside
    else do
      match form with
      | .text room => demandNo (Doc.memberError? room [(.ok name, d)])
      | _ => .ok ()
      sift t form rest found ((.ok name, d) :: aside)

/-- Reads a tagged value. The path of a fault behind the tag is not known. -/
def reader (t : Tagged τ α) : Reader α where
  read form
    | .object ms stop => do
      let (found, aside) ← t.sift (← form.enter) ms none []
      demandNo stop.readError?
      match found with
      | none => .error (.here (.missingField t.tagName))
      | some tag => forget ((t.body tag).read .setAside (.object aside .closed))
    | .list [] stop => do
      let _ ← form.enter
      demand stop.fault?
      .error (.here (.missingField t.tagName))
    | .list (d :: ds) stop => do
      let inner ← form.enter
      let tag ← within (.item 0) (Reader.tag.read inner d)
      match inner with
      | .text room => demandNo (Doc.itemError? room 1 ds)
      | _ => .ok ()
      demand stop.fault?
      forget ((t.body tag).read .setAside (.list ds .closed))
    | d => wrongKind t.label d
where
  /-- Drops the path of a fault. -/
  forget {β : Type} : Except ReadError β → Except ReadError β
    | .ok b => .ok b
    | .error e => .error (.here e.fault)

end Tagged

end Storyboard.Json
