import Mathlib.Data.List.Forall2
import Storyboard.Proofs.Outcome
import Storyboard.Request.Resolved

/-!
# Resolving, form by form

A request is resolved in steps, each of which may reject it. Here each form is opened once: it is
resolved exactly if every step has a result, and then to what is made of these results.
-/

namespace Storyboard

theorem AudioRequest.resolve_eq_ok_iff {a : AudioRequest} {fade : SoundtrackEffect}
    {plan : AudioPlan} :
    a.resolve fade = .ok plan ↔ ∃ music voice,
      layer (Cleaning.assetUrl (.ofRequest "musicRef") a.musicRef)
        (Cleaning.volume (.ofRequest "musicVolume") a.musicVolume usualMusicVolume) = .ok music ∧
      layer (Cleaning.assetUrl (.ofRequest "voiceRef") a.voiceRef)
        (Cleaning.volume (.ofRequest "voiceVolume") a.voiceVolume usualVoiceVolume) = .ok voice ∧
      plan = ⟨music, voice, fade⟩ := by
  unfold resolve
  simp only [bind_eq_ok_iff]
  constructor
  · rintro ⟨music, hmusic, voice, hvoice, hplan⟩
    exact ⟨music, voice, hmusic, hvoice, (Except.ok.inj hplan).symm⟩
  · rintro ⟨music, voice, hmusic, hvoice, rfl⟩
    exact ⟨music, hmusic, voice, hvoice, rfl⟩

namespace TitleRequest

/-- The scene of a title card with its fields cleaned. -/
def cleanScene (r : TitleRequest) (title : String) (src : Option String) (color : String)
    (duration : Millis) : Scene :=
  { Scene.plain duration with
    title := some title
    subtitle := Cleaning.text r.subtitle
    backgroundImage := src
    backgroundColor := color
    textStyle := r.textStyle.getD .minimal
    titlePosition := r.titlePosition.getD .center
    effect := r.effect }

theorem resolve_eq_ok_iff {r : TitleRequest} {v : ResolvedVideo} :
    r.resolve = .ok v ↔ ∃ title src color duration audio,
      Cleaning.text r.title = some title ∧
      Cleaning.assetUrl (.ofRequest "backgroundImage") r.backgroundImage = .ok src ∧
      Cleaning.color (.ofRequest "backgroundColor") r.backgroundColor = .ok color ∧
      Cleaning.duration (.ofRequest "duration") r.duration usualDuration = .ok duration ∧
      r.audio.resolve .fadeInFadeOut = .ok audio ∧
      v = ⟨.singleTitle, [r.cleanScene title src color duration], audio, r.output,
        .singleTitle⟩ := by
  unfold resolve
  cases ht : Cleaning.text r.title with
  | none => simp
  | some title =>
    simp only [ok_bind, bind_eq_ok_iff]
    constructor
    · rintro ⟨src, hsrc, color, hcolor, duration, hduration, audio, haudio, hv⟩
      exact ⟨title, src, color, duration, audio, rfl, hsrc, hcolor, hduration, haudio,
        (Except.ok.inj hv).symm⟩
    · rintro ⟨title, src, color, duration, audio, htitle, hsrc, hcolor, hduration, haudio, rfl⟩
      obtain rfl := Option.some.inj htitle
      exact ⟨src, hsrc, color, hcolor, duration, hduration, audio, haudio, rfl⟩

end TitleRequest

namespace SceneRequest

/-- A scene of a sequence with its fields cleaned. -/
def cleanScene (r : SceneRequest) (src : Option String) (color : String) (duration : Millis)
    (transition : Transition) : Scene :=
  { Scene.plain duration with
    title := Cleaning.text r.title
    subtitle := Cleaning.text r.subtitle
    backgroundImage := src
    backgroundColor := color
    textStyle := r.textStyle.getD .minimal
    titlePosition := r.titlePosition.getD .center
    effect := r.effect
    transitionIn := r.transitionIn.getD transition
    transitionOut := r.transitionOut.getD transition }

theorem resolve_eq_ok_iff {r : SceneRequest} {index : Nat} {transition : Transition} {s : Scene} :
    r.resolve index transition = .ok s ↔ ∃ src color duration,
      Cleaning.assetUrl (.ofScene index "backgroundImage") r.backgroundImage = .ok src ∧
      Cleaning.color (.ofScene index "backgroundColor") r.backgroundColor = .ok color ∧
      Cleaning.duration (.ofScene index "duration") r.duration usualDuration = .ok duration ∧
      s = r.cleanScene src color duration transition := by
  unfold resolve
  simp only [bind_eq_ok_iff]
  constructor
  · rintro ⟨src, hsrc, color, hcolor, duration, hduration, hs⟩
    exact ⟨src, color, duration, hsrc, hcolor, hduration, (Except.ok.inj hs).symm⟩
  · rintro ⟨src, color, duration, hsrc, hcolor, hduration, rfl⟩
    exact ⟨src, hsrc, color, hcolor, duration, hduration, rfl⟩

/-- Scenes are resolved one for one. -/
theorem resolveAll_forall₂ {transition : Transition} {rs : List SceneRequest} {index : Nat}
    {scenes : List Scene} (h : resolveAll transition rs index = .ok scenes) :
    List.Forall₂ (fun r s => ∃ index, r.resolve index transition = .ok s) rs scenes := by
  induction rs generalizing index scenes with
  | nil =>
    obtain rfl := Except.ok.inj h
    exact List.Forall₂.nil
  | cons r rest ih =>
    unfold resolveAll at h
    simp only [bind_eq_ok_iff] at h
    obtain ⟨scene, hscene, others, hothers, hcons⟩ := h
    obtain rfl := Except.ok.inj hcons
    exact List.Forall₂.cons ⟨index, hscene⟩ (ih hothers)

end SceneRequest

namespace ScenesRequest

theorem resolve_eq_ok_iff {r : ScenesRequest} {v : ResolvedVideo} :
    r.resolve = .ok v ↔ r.scenes ≠ [] ∧ ∃ scenes audio,
      SceneRequest.resolveAll (r.transitionType.getD .fade) r.scenes 0 = .ok scenes ∧
      r.audio.resolve .fadeInFadeOut = .ok audio ∧
      v = ⟨.scenes, scenes, audio, r.output, .scenes⟩ := by
  unfold resolve
  by_cases he : r.scenes = []
  · simp [he]
  · have hempty : r.scenes.isEmpty = false := by simpa using he
    simp only [hempty, Bool.false_eq_true, if_false, bind_eq_ok_iff]
    constructor
    · rintro ⟨scenes, hscenes, audio, haudio, hv⟩
      exact ⟨he, scenes, audio, hscenes, haudio, (Except.ok.inj hv).symm⟩
    · rintro ⟨-, scenes, audio, hscenes, haudio, rfl⟩
      exact ⟨scenes, hscenes, audio, haudio, rfl⟩

end ScenesRequest

namespace CardRequest

/-- The scene of a card with its fields cleaned. -/
def cleanScene (r : CardRequest) (title : String) (duration : Millis) (src : Option String)
    (color : String) (logo : Option String) : Scene :=
  { Scene.plain duration with
    title := some title
    subtitle := (Cleaning.text r.subtitle).or (Cleaning.text r.tagline)
    backgroundImage := src
    backgroundColor := color
    textStyle := r.textStyle.getD .minimal
    effect := some (r.effect.getD .zoomIn)
    textTransition := some (r.transition.getD .fade)
    logo }

theorem resolve_eq_ok_iff {r : CardRequest} {v : ResolvedVideo} :
    r.resolve = .ok v ↔ ∃ title duration fadeIn fadeOut src color logo audio,
      (Cleaning.text r.title).or (Cleaning.text r.channelName) = some title ∧
      Cleaning.duration (.ofRequest "duration") r.duration usualDuration = .ok duration ∧
      Cleaning.fade (.ofRequest "fadeIn") r.fadeIn usualFadeIn = .ok fadeIn ∧
      Cleaning.fade (.ofRequest "fadeOut") r.fadeOut usualFadeOut = .ok fadeOut ∧
      fadeIn.count + fadeOut.count ≤ duration.count ∧
      Cleaning.assetUrl (.ofRequest "backgroundImage") r.backgroundImage = .ok src ∧
      Cleaning.color (.ofRequest "backgroundColor") r.backgroundColor = .ok color ∧
      Cleaning.assetUrl (.ofRequest "logoRef") r.logoRef = .ok logo ∧
      r.audio.resolve (fade r.kind) = .ok audio ∧
      v = ⟨r.kind.videoKind, [r.cleanScene title duration src color logo], audio, r.output,
        .card fadeIn fadeOut⟩ := by
  unfold resolve
  cases ht : (Cleaning.text r.title).or (Cleaning.text r.channelName) with
  | none => simp
  | some title =>
    simp only [ok_bind, bind_eq_ok_iff]
    constructor
    · rintro ⟨duration, hduration, fadeIn, hfadeIn, fadeOut, hfadeOut, hrest⟩
      by_cases hfades : duration.count < fadeIn.count + fadeOut.count
      · rw [if_pos hfades] at hrest
        exact absurd hrest (by simp)
      · rw [if_neg hfades] at hrest
        simp only [bind_eq_ok_iff] at hrest
        obtain ⟨src, hsrc, color, hcolor, logo, hlogo, audio, haudio, hv⟩ := hrest
        exact ⟨title, duration, fadeIn, fadeOut, src, color, logo, audio, rfl, hduration, hfadeIn,
          hfadeOut, Nat.le_of_not_lt hfades, hsrc, hcolor, hlogo, haudio,
          (Except.ok.inj hv).symm⟩
    · rintro ⟨title, duration, fadeIn, fadeOut, src, color, logo, audio, htitle, hduration, hfadeIn,
        hfadeOut, hfades, hsrc, hcolor, hlogo, haudio, rfl⟩
      obtain rfl := Option.some.inj htitle
      refine ⟨duration, hduration, fadeIn, hfadeIn, fadeOut, hfadeOut, ?_⟩
      rw [if_neg (Nat.not_lt_of_le hfades)]
      simp only [bind_eq_ok_iff]
      exact ⟨src, hsrc, color, hcolor, logo, hlogo, audio, haudio, rfl⟩

end CardRequest

end Storyboard
