/-!
# Vocabularies

Most settings of a video are one of a few values, each known by a fixed word: the name of a
transition, of a text style, of a file format. The words are the same wherever the value is written,
so they belong to the type.
-/

namespace Storyboard

/-- A type whose values have fixed words. -/
class Vocabulary (α : Type) where
  /-- The values in order. -/
  all : List α
  /-- The word of a value. -/
  word : α → String

namespace Vocabulary

variable {α : Type} [Vocabulary α]

/-- The value with the given word. -/
def ofWord? (w : String) : Option α := (all (α := α)).find? (word · = w)

/-- All words of a vocabulary. -/
def words (α : Type) [Vocabulary α] : List String := (all (α := α)).map word

end Vocabulary

end Storyboard
