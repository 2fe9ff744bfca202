import Storyboard.Job
import Storyboard.Json.Choice
import Storyboard.Output
import Storyboard.Style
import Storyboard.Timeline

/-!
# The wire form of values

Every type that is sent or received has a wire form: how a value is written as JSON, and how it is
read back. Words are written as strings, times as seconds, ratios and stamps as text.
-/

namespace Storyboard

open Json (Reader)

/-- A type whose values are sent or received. -/
class Wire (α : Type) where
  /-- Writes a value. -/
  toJson : α → Json
  /-- Reads a value. -/
  reader : Reader α

namespace Wire

/-! ## Simple values -/

instance : Wire String := ⟨.text, Reader.string⟩

instance : Wire Double := ⟨.double, Reader.double⟩

instance : Wire Bool := ⟨.boolean, Reader.boolean⟩

instance : Wire UInt32 := ⟨fun n => .nat n.toNat, Reader.word⟩

instance {α : Type} [Wire α] : Wire (Option α) := ⟨.ofOption toJson, reader.optional⟩

instance {α : Type} [Wire α] : Wire (List α) := ⟨fun as => .list (as.map toJson), reader.list⟩

instance (priority := low) {α : Type} [Vocabulary α] : Wire α :=
  ⟨fun a => .text (Vocabulary.word a), Reader.vocabulary⟩

/-- A time in seconds. -/
instance : Wire Millis where
  toJson t := .double t.seconds
  reader := Reader.double.mapExcept fun d =>
    match Millis.ofSeconds? d with
    | some t => .ok t
    | none => .error s!"invalid time value: {String.ofList (Layout.plain.double d)}"

/-- A ratio in its written form. -/
instance : Wire AspectRatio where
  toJson r := .text r.text
  reader := Reader.string.mapExcept fun s => (AspectRatio.parse s).mapError (·.message)

/-- A stamp in its written form. -/
instance : Wire Stamp where
  toJson t := .text t.text
  reader := Reader.stringAs "an RFC 3339 formatted date and time string" fun s =>
    (Stamp.ofChars s.toList).mapError (·.message)

/-- The name of a job. -/
instance : Wire JobId := ⟨fun id => .text id.text, Reader.string.map .mk⟩

/-! ## Members -/

/-- A member that is always written. -/
def member {α : Type} [Wire α] (name : String) (a : α) : List (String × Json) :=
  [(name, toJson a)]

/-- A member that is left out if there is no value. -/
def memberIfAny {α : Type} [Wire α] (name : String) : Option α → List (String × Json)
  | some a => member name a
  | none => []

/-- A member that must be there when it is read. -/
def required {α : Type} [Wire α] (name : String) : Json.Field α := .required name reader

/-- A member that may be left out when it is read. -/
def optional {α : Type} [Wire α] (name : String) : Json.Field (Option α) := .optional name reader

end Wire

end Storyboard
