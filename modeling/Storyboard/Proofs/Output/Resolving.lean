import Storyboard.Output
import Storyboard.Proofs.Output.Ratio
import Storyboard.Proofs.Text.LetterCase

/-!
# What words for the output stand for

Whatever words the caller gives, the parameters that they stand for fit together: the ratio is one
of those that have a size, and the size is the one of this ratio
(`OutputTokens.resolve_consistent`). Each parameter is settled by its own word, and written as a
word it stands for itself again.
-/

namespace Storyboard

/-! ## Ratios -/

namespace AspectRatio

variable {ratio : AspectRatio} {token : String}

/-- The ratios that have a size are the supported ones, and the sizes are theirs. -/
theorem mem_supported_iff : ratio ∈ supported ↔ ratio.pixelSize?.isSome = true := by
  constructor
  · have hall : ∀ ratio ∈ supported, ratio.pixelSize?.isSome = true := by decide
    exact hall ratio
  · intro h
    obtain ⟨width, height⟩ := ratio
    unfold pixelSize? at h
    split at h
    all_goals simp_all [supported, landscape, portrait, square, feed]

theorem pixelSize_of_supported : ∀ ratio ∈ supported,
    ratio.pixelSize? = some ratio.pixelSize ∧
      ratio.pixelSize.width.toNat * ratio.height = ratio.pixelSize.height.toNat * ratio.width := by
  decide

/-- A supported ratio stands in a text. -/
def Gives (token : String) (ratio : AspectRatio) : Prop :=
  parse token = .ok ratio ∧ ratio ∈ supported

theorem resolve_of_gives (h : Gives token ratio) : resolve token = ratio := by
  unfold resolve
  rw [h.1]
  exact if_pos (mem_supported_iff.mp h.2)

theorem resolve_of_not_gives (h : ∀ ratio, ¬Gives token ratio) : resolve token = landscape := by
  unfold resolve
  cases hparse : parse token with
  | error e => rfl
  | ok ratio => exact if_neg fun hsize => h ratio ⟨hparse, mem_supported_iff.mpr hsize⟩

theorem resolve_mem_supported (token : String) : resolve token ∈ supported := by
  by_cases h : ∃ ratio, Gives token ratio
  · obtain ⟨ratio, hgives⟩ := h
    rw [resolve_of_gives hgives]
    exact hgives.2
  · rw [resolve_of_not_gives (not_exists.mp h)]
    exact List.mem_cons_self

theorem resolve_text (h : ratio ∈ supported) : resolve ratio.text = ratio :=
  resolve_of_gives ⟨(reads_text ratio).parse_eq, h⟩

end AspectRatio

/-! ## Words -/

theorem ResolutionTier.resolve_word (tier : ResolutionTier) :
    resolve (Vocabulary.word tier) = tier := by
  cases tier <;> decide

theorem Format.resolve_word (format : Format) : resolve (Vocabulary.word format) = format := by
  cases format <;> decide

theorem Quality.resolve_word (quality : Quality) : resolve (Vocabulary.word quality) = quality := by
  cases quality <;> decide

/-! ## Parameters -/

/-- The words that parameters are written as. -/
def OutputSpec.words (o : OutputSpec) : OutputTokens where
  aspectRatio := some o.aspectRatio.text
  resolution := some (Vocabulary.word o.resolution)
  format := some (Vocabulary.word o.format)
  quality := some (Vocabulary.word o.quality)

namespace OutputTokens

/-- A word that is the same, or missing as well, stands for the same. -/
theorem getD_of_alike {α : Type} {f : String → α}
    (hf : ∀ word s, Text.keyword s = Text.keyword word → f s = f word)
    {word s : Option String} (h : Option.Rel Text.Alike word s) (usual : α) :
    (s.map f).getD usual = (word.map f).getD usual := by
  cases h with
  | none => rfl
  | some halike => exact hf _ _ (Text.keyword_of_alike halike)

theorem aspectRatio_mem_supported (t : OutputTokens) :
    t.resolve.aspectRatio ∈ AspectRatio.supported := by
  unfold resolve
  cases t.aspectRatio with
  | none => exact List.mem_cons_self
  | some token => exact AspectRatio.resolve_mem_supported token

/-- Parameters that some words stand for are written in words that stand for them. -/
theorem resolve_words (t : OutputTokens) : t.resolve.words.resolve = t.resolve := by
  have hratio := AspectRatio.resolve_text (aspectRatio_mem_supported t)
  have hwords (o : OutputSpec) : o.words.resolve =
      { format := o.format, resolution := o.resolution
        aspectRatio := AspectRatio.resolve o.aspectRatio.text
        size := (AspectRatio.resolve o.aspectRatio.text).pixelSize
        fps := frameRate, quality := o.quality } := by
    simp [resolve, OutputSpec.words, Format.resolve_word, ResolutionTier.resolve_word,
      Quality.resolve_word]
  rw [hwords, hratio]
  rfl

/-- The ratio is the supported one that the caller has written, and that of wide screens if the
caller has written none. -/
theorem aspectRatio_eq_iff (t : OutputTokens) (ratio : AspectRatio) :
    t.resolve.aspectRatio = ratio ↔
      (∃ token, t.aspectRatio = some token ∧ AspectRatio.Gives token ratio) ∨
        ratio = .landscape ∧
          ∀ token other, t.aspectRatio = some token → ¬AspectRatio.Gives token other := by
  have hresolve : t.resolve.aspectRatio = (t.aspectRatio.map AspectRatio.resolve).getD .landscape :=
    rfl
  rw [hresolve]
  cases t.aspectRatio with
  | none => simp [eq_comm]
  | some token =>
    simp only [Option.map_some, Option.getD_some, Option.some.injEq]
    by_cases hgives : ∃ given, AspectRatio.Gives token given
    · obtain ⟨given, hgiven⟩ := hgives
      rw [AspectRatio.resolve_of_gives hgiven]
      constructor
      · rintro rfl
        exact .inl ⟨token, rfl, hgiven⟩
      · rintro (⟨_, rfl, hratio⟩ | ⟨-, hnone⟩)
        · exact Except.ok.inj (hgiven.1.symm.trans hratio.1)
        · exact absurd hgiven (hnone token given rfl)
    · have hnone := not_exists.mp hgives
      rw [AspectRatio.resolve_of_not_gives hnone]
      constructor
      · rintro rfl
        exact .inr ⟨rfl, fun _ other htoken => htoken ▸ hnone other⟩
      · rintro (⟨_, rfl, hratio⟩ | ⟨rfl, -⟩)
        · exact absurd hratio (hnone ratio)
        · rfl

/-- The parameters that words stand for have a supported ratio, which is the one that the caller has
written if there is such a one, and the size of this ratio. Written in words they stand for
themselves. Each of them is the same for any words in which its own word is the same. -/
theorem resolve_consistent (t : OutputTokens) :
    t.resolve.aspectRatio ∈ AspectRatio.supported ∧
      t.resolve.aspectRatio.pixelSize? = some t.resolve.size ∧
      t.resolve.size.width.toNat * t.resolve.aspectRatio.height =
        t.resolve.size.height.toNat * t.resolve.aspectRatio.width ∧
      t.resolve.words.resolve = t.resolve ∧
      (∀ ratio, t.resolve.aspectRatio = ratio ↔
        (∃ token, t.aspectRatio = some token ∧ AspectRatio.Gives token ratio) ∨
          ratio = .landscape ∧
            ∀ token other, t.aspectRatio = some token → ¬AspectRatio.Gives token other) ∧
      ∀ other : OutputTokens,
        (t.aspectRatio = other.aspectRatio → other.resolve.aspectRatio = t.resolve.aspectRatio ∧
          other.resolve.size = t.resolve.size) ∧
        (Option.Rel Text.Alike t.resolution other.resolution →
          other.resolve.resolution = t.resolve.resolution) ∧
        (Option.Rel Text.Alike t.format other.format →
          other.resolve.format = t.resolve.format) ∧
        (Option.Rel Text.Alike t.quality other.quality →
          other.resolve.quality = t.resolve.quality) := by
  have hsupported := aspectRatio_mem_supported t
  obtain ⟨hsize, hshape⟩ := AspectRatio.pixelSize_of_supported _ hsupported
  refine ⟨hsupported, hsize, hshape, resolve_words t, aspectRatio_eq_iff t, fun other => ?_⟩
  refine ⟨fun h => ?_, fun h => ?_, fun h => ?_, fun h => ?_⟩
  · unfold resolve
    rw [h]
    exact ⟨rfl, rfl⟩
  · exact getD_of_alike (fun _ _ hword => by simp only [ResolutionTier.resolve, hword]) h _
  · exact getD_of_alike (fun _ _ hword => by simp only [Format.resolve, hword]) h _
  · exact getD_of_alike (fun _ _ hword => by simp only [Quality.resolve, hword]) h _

/-- A caller who writes words in capitals and with blanks around them, and a ratio that has no
size. -/
theorem resolve_consistent_shouted :
    let t : OutputTokens := ⟨some "21:9", some "uhd", some "gif", some "low"⟩
    let other : OutputTokens := ⟨some "21:9", some " UHD\t", some "Gif\n", some "\u3000LOW"⟩
    other.resolve.resolution = t.resolve.resolution ∧ other.resolve.format = t.resolve.format ∧
      other.resolve.quality = t.resolve.quality ∧ other.resolve.aspectRatio = .landscape ∧
      other.resolve.size = ⟨1920, 1080⟩ := by
  intro t other
  obtain ⟨-, -, -, -, -, hsame⟩ := resolve_consistent t
  obtain ⟨hratio, hresolution, hformat, hquality⟩ := hsame other
  have hresolution' : Text.Alike "uhd" " UHD\t" :=
    ⟨[' '], "UHD".toList, ['\t'], by decide, by simp [Text.isBlank], by simp [Text.isBlank],
      by decide⟩
  have hformat' : Text.Alike "gif" "Gif\n" :=
    ⟨[], "Gif".toList, ['\n'], by decide, by simp, by simp [Text.isBlank], by decide⟩
  have hquality' : Text.Alike "low" "\u3000LOW" :=
    ⟨['\u3000'], "LOW".toList, [], by decide, by simp [Text.isBlank], by simp, by decide⟩
  refine ⟨hresolution (.some hresolution'), hformat (.some hformat'),
    hquality (.some hquality'), ?_⟩
  obtain ⟨hlandscape, hsize⟩ := hratio rfl
  rw [hlandscape, hsize]
  decide

end OutputTokens

end Storyboard
