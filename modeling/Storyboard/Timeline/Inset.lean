import Storyboard.Time.Millis

/-!
# Insets

Text comes a little after its background and goes a little before it. An inset says by how much; a
window that is too short for its inset is left as it is.
-/

namespace Storyboard

/-- The margins at the start and the end of a window. -/
structure Inset where
  /-- The margin at the start. -/
  lead : Millis
  /-- The margin at the end. -/
  tail : Millis
deriving DecidableEq, Repr

namespace Inset

/-- No margins. -/
def none : Inset := ⟨.zero, .zero⟩

/-- The part of a window of positive length that the margins leave, if any is left. -/
def inner? (i : Inset) (length : Millis) : Option Millis := do
  let margins ← i.lead.add? i.tail
  let inner ← length.sub? margins
  if inner.isZero then Option.none else some inner

/-- The start and the length of a window without its margins. A window that is not longer than the
margins, or that starts too late for the first of them, is given back as it is. -/
def apply (i : Inset) (start length : Millis) : Millis × Millis :=
  match i.inner? length, start.add? i.lead with
  | some inner, some insetStart => (insetStart, inner)
  | _, _ => (start, length)

end Inset

/-- The margins of the two lines of text. -/
structure InsetProfile where
  /-- The margins of titles. -/
  title : Inset
  /-- The margins of the lines below them. -/
  subtitle : Inset
deriving DecidableEq, Repr

namespace InsetProfile

/-- No margins. -/
def none : InsetProfile := ⟨.none, .none⟩

/-- The margins of a single title card. -/
def singleTitle : InsetProfile where
  title := ⟨.ofCountCapped 500, .ofCountCapped 500⟩
  subtitle := ⟨.ofCountCapped 1000, .ofCountCapped 500⟩

/-- The margins of a sequence of scenes. -/
def scenes : InsetProfile where
  title := ⟨.ofCountCapped 300, .ofCountCapped 300⟩
  subtitle := ⟨.ofCountCapped 600, .ofCountCapped 300⟩

/-- By how much the second line of a card comes after the first. -/
def subtitleDelay : Millis := .ofCountCapped 300

/-- The margins of a card: its text comes and goes with the fades. -/
def card (fadeIn fadeOut : Millis) : InsetProfile where
  title := ⟨fadeIn, fadeOut⟩
  subtitle := ⟨fadeIn.addCapped subtitleDelay, fadeOut⟩

end InsetProfile

end Storyboard
