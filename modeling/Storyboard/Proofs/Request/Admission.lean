import Storyboard.Proofs.Request.Cleaning
import Storyboard.Proofs.Request.Resolving
import Storyboard.Request.Resolved

/-!
# Admission

Which requests are resolved. `VideoRequest.Admissible` lists what a request must have and what its
fields may hold, form by form and without any order; `resolve_isOk_iff` says that the requests that
are resolved are these and no others. Nothing else that a request says can cause a rejection.
-/

namespace Storyboard

open Cleaning (Supplied IsWebAddress IsColor Lasts IsVolume)

/-- How many milliseconds a number of seconds makes, or the usual number if there is none. -/
def countOr (seconds : Option Double) (usual : Nat) : Nat :=
  ((seconds.bind Millis.ofSeconds?).map (·.count)).getD usual

/-- What may be said about audio. A volume matters only beside an address. -/
structure AudioRequest.Admissible (a : AudioRequest) : Prop where
  /-- Music comes from the web. -/
  musicRef : ∀ raw, Supplied a.musicRef raw → IsWebAddress raw
  /-- Its volume is one. -/
  musicVolume : ∀ raw, Supplied a.musicRef raw → ∀ v, a.musicVolume = some v → IsVolume v
  /-- A voice comes from the web. -/
  voiceRef : ∀ raw, Supplied a.voiceRef raw → IsWebAddress raw
  /-- Its volume is one. -/
  voiceVolume : ∀ raw, Supplied a.voiceRef raw → ∀ v, a.voiceVolume = some v → IsVolume v

/-- What may be said about a scene. -/
structure SceneRequest.Admissible (r : SceneRequest) : Prop where
  /-- Its picture comes from the web. -/
  backgroundImage : ∀ raw, Supplied r.backgroundImage raw → IsWebAddress raw
  /-- Its colour is one. -/
  backgroundColor : ∀ raw, Supplied r.backgroundColor raw → IsColor raw
  /-- It lasts, and no longer than an hour. -/
  duration : ∀ d, r.duration = some d → Lasts 1 d

/-- What may be asked for as a title card. -/
structure TitleRequest.Admissible (r : TitleRequest) : Prop where
  /-- There is a title to be seen. -/
  title : (Cleaning.text r.title).isSome
  /-- Its picture comes from the web. -/
  backgroundImage : ∀ raw, Supplied r.backgroundImage raw → IsWebAddress raw
  /-- Its colour is one. -/
  backgroundColor : ∀ raw, Supplied r.backgroundColor raw → IsColor raw
  /-- It lasts, and no longer than an hour. -/
  duration : ∀ d, r.duration = some d → Lasts 1 d
  /-- Its audio may be asked for. -/
  audio : r.audio.Admissible

/-- What may be asked for as a sequence of scenes. -/
structure ScenesRequest.Admissible (r : ScenesRequest) : Prop where
  /-- There is a scene. -/
  nonempty : r.scenes ≠ []
  /-- Every scene may be asked for. -/
  scenes : ∀ s ∈ r.scenes, s.Admissible
  /-- The audio may be asked for. -/
  audio : r.audio.Admissible

/-- What may be asked for as an opening or closing card. -/
structure CardRequest.Admissible (r : CardRequest) : Prop where
  /-- There is a title to be seen, or the name of a channel. -/
  title : (Cleaning.text r.title).isSome ∨ (Cleaning.text r.channelName).isSome
  /-- It lasts, and no longer than an hour. -/
  duration : ∀ d, r.duration = some d → Lasts 1 d
  /-- No fade is longer than an hour. -/
  fadeIn : ∀ d, r.fadeIn = some d → Lasts 0 d
  /-- No fade is longer than an hour. -/
  fadeOut : ∀ d, r.fadeOut = some d → Lasts 0 d
  /-- Both fades have room in the card. -/
  fades : countOr r.fadeIn 500 + countOr r.fadeOut 1000 ≤ countOr r.duration 5000
  /-- Its picture comes from the web. -/
  backgroundImage : ∀ raw, Supplied r.backgroundImage raw → IsWebAddress raw
  /-- Its colour is one. -/
  backgroundColor : ∀ raw, Supplied r.backgroundColor raw → IsColor raw
  /-- Its logo comes from the web. -/
  logoRef : ∀ raw, Supplied r.logoRef raw → IsWebAddress raw
  /-- Its audio may be asked for. -/
  audio : r.audio.Admissible

/-- What may be asked for. -/
def VideoRequest.Admissible : VideoRequest → Prop
  | .singleTitle r => r.Admissible
  | .scenes r => r.Admissible
  | .card r => r.Admissible

/-! ## Field by field -/

theorem assetUrl_isOk_iff {field : FieldRef} {input : Option String} :
    (∃ src, Cleaning.assetUrl field input = .ok src) ↔
      ∀ raw, Supplied input raw → IsWebAddress raw := by
  simp only [Cleaning.assetUrl_eq_ok_iff, exists_eq_left]

theorem duration_isOk_iff {field : FieldRef} {seconds : Option Double} {usual : Millis} :
    (∃ t, Cleaning.duration field seconds usual = .ok t) ↔ ∀ d, seconds = some d → Lasts 1 d := by
  simp only [Cleaning.duration_eq_ok_iff]
  cases seconds with
  | none => simp
  | some d => simp [Lasts]

/-- The length that is used is the one that was given, or the usual one. -/
theorem count_of_duration {field : FieldRef} {seconds : Option Double} {usual t : Millis}
    (h : Cleaning.duration field seconds usual = .ok t) : t.count = countOr seconds usual.count := by
  rcases Cleaning.duration_eq_ok_iff.mp h with ⟨rfl, rfl⟩ | ⟨d, rfl, hd, -⟩
  · rfl
  · simp [countOr, hd]

theorem fade_isOk_iff {field : FieldRef} {seconds : Option Double} {usual : Millis} :
    (∃ t, Cleaning.fade field seconds usual = .ok t) ↔ ∀ d, seconds = some d → Lasts 0 d := by
  simp only [Cleaning.fade_eq_ok_iff]
  cases seconds with
  | none => simp
  | some d => simp [Lasts]

theorem count_of_fade {field : FieldRef} {seconds : Option Double} {usual t : Millis}
    (h : Cleaning.fade field seconds usual = .ok t) : t.count = countOr seconds usual.count := by
  rcases Cleaning.fade_eq_ok_iff.mp h with ⟨rfl, rfl⟩ | ⟨d, rfl, hd, -⟩
  · rfl
  · simp [countOr, hd]

/-- A layer of audio has the address as it was supplied and the volume, its own or the usual one; it
passes if both may be written. -/
theorem layer_eq_ok_iff {field volumeField : FieldRef} {input : Option String}
    {value : Option Double} {usual : Double} {l : Option AudioLayer} :
    AudioRequest.layer (Cleaning.assetUrl field input)
        (Cleaning.volume volumeField value usual) = .ok l ↔
      l = (Cleaning.trimmed input).map (⟨·, value.getD usual⟩) ∧
        ∀ raw, Supplied input raw → IsWebAddress raw ∧ IsVolume (value.getD usual) := by
  unfold AudioRequest.layer
  simp only [bind_eq_ok_iff, Cleaning.assetUrl_eq_ok_iff, ← Cleaning.trimmed_eq_some_iff]
  cases ht : Cleaning.trimmed input with
  | none => simp [eq_comm]
  | some raw =>
    simp only [Option.some.injEq, forall_eq', Option.map_some]
    constructor
    · rintro ⟨_, ⟨rfl, hweb⟩, hl⟩
      obtain ⟨v, hv, hl⟩ := bind_eq_ok_iff.mp hl
      obtain ⟨rfl, hvolume⟩ := Cleaning.volume_eq_ok_iff.mp hv
      exact ⟨(Except.ok.inj hl).symm, hweb, hvolume⟩
    · rintro ⟨rfl, hweb, hvolume⟩
      have hv : Cleaning.volume volumeField value usual = .ok (value.getD usual) :=
        Cleaning.volume_eq_ok_iff.mpr ⟨rfl, hvolume⟩
      exact ⟨_, ⟨rfl, hweb⟩, bind_eq_ok_iff.mpr ⟨_, hv, rfl⟩⟩

/-- Where the usual volume is one, only a volume that is given beside an address can be at fault. -/
theorem layer_isOk_iff {field volumeField : FieldRef} {input : Option String}
    {value : Option Double} {usual : Double} (husual : IsVolume usual) :
    (∃ l, AudioRequest.layer (Cleaning.assetUrl field input)
        (Cleaning.volume volumeField value usual) = .ok l) ↔
      (∀ raw, Supplied input raw → IsWebAddress raw) ∧
        ∀ raw, Supplied input raw → ∀ v, value = some v → IsVolume v := by
  have hvolume : IsVolume (value.getD usual) ↔ ∀ v, value = some v → IsVolume v := by
    cases value with
    | none => simp [husual]
    | some v => simp
  simp only [layer_eq_ok_iff, exists_eq_left, hvolume]
  constructor
  · intro h
    exact ⟨fun raw hraw => (h raw hraw).1, fun raw hraw => (h raw hraw).2⟩
  · rintro ⟨hweb, hloud⟩ raw hraw
    exact ⟨hweb raw hraw, hloud raw hraw⟩

theorem isVolume_usualMusicVolume : IsVolume AudioRequest.usualMusicVolume :=
  Cleaning.isUnitInterval_iff.mp (by decide +kernel)

theorem isVolume_usualVoiceVolume : IsVolume AudioRequest.usualVoiceVolume :=
  Cleaning.isUnitInterval_iff.mp (by decide +kernel)

theorem audio_isOk_iff {a : AudioRequest} {fade : SoundtrackEffect} :
    (∃ plan, a.resolve fade = .ok plan) ↔ a.Admissible := by
  simp only [AudioRequest.resolve_eq_ok_iff]
  constructor
  · rintro ⟨plan, music, voice, hmusic, hvoice, -⟩
    obtain ⟨hm, hmv⟩ := (layer_isOk_iff isVolume_usualMusicVolume).mp ⟨music, hmusic⟩
    obtain ⟨hv, hvv⟩ := (layer_isOk_iff isVolume_usualVoiceVolume).mp ⟨voice, hvoice⟩
    exact ⟨hm, hmv, hv, hvv⟩
  · rintro ⟨hm, hmv, hv, hvv⟩
    obtain ⟨music, hmusic⟩ := (layer_isOk_iff isVolume_usualMusicVolume).mpr ⟨hm, hmv⟩
    obtain ⟨voice, hvoice⟩ := (layer_isOk_iff isVolume_usualVoiceVolume).mpr ⟨hv, hvv⟩
    exact ⟨⟨music, voice, fade⟩, music, voice, hmusic, hvoice, rfl⟩

/-! ## Form by form -/

theorem titleRequest_isOk_iff {r : TitleRequest} : (∃ v, r.resolve = .ok v) ↔ r.Admissible := by
  simp only [TitleRequest.resolve_eq_ok_iff]
  constructor
  · rintro ⟨v, title, src, color, duration, audio, htitle, hsrc, hcolor, hduration, haudio, -⟩
    exact
      { title := Option.isSome_of_eq_some htitle
        backgroundImage := assetUrl_isOk_iff.mp ⟨src, hsrc⟩
        backgroundColor := Cleaning.color_isOk_iff.mp ⟨color, hcolor⟩
        duration := duration_isOk_iff.mp ⟨duration, hduration⟩
        audio := audio_isOk_iff.mp ⟨audio, haudio⟩ }
  · intro h
    obtain ⟨title, htitle⟩ := Option.isSome_iff_exists.mp h.title
    obtain ⟨src, hsrc⟩ := assetUrl_isOk_iff.mpr h.backgroundImage
    obtain ⟨color, hcolor⟩ := Cleaning.color_isOk_iff.mpr h.backgroundColor
    obtain ⟨duration, hduration⟩ := duration_isOk_iff.mpr h.duration
    obtain ⟨audio, haudio⟩ := audio_isOk_iff.mpr h.audio
    exact ⟨_, title, src, color, duration, audio, htitle, hsrc, hcolor, hduration, haudio, rfl⟩

theorem sceneRequest_isOk_iff {r : SceneRequest} {index : Nat} {transition : Transition} :
    (∃ s, r.resolve index transition = .ok s) ↔ r.Admissible := by
  simp only [SceneRequest.resolve_eq_ok_iff]
  constructor
  · rintro ⟨s, src, color, duration, hsrc, hcolor, hduration, -⟩
    exact
      { backgroundImage := assetUrl_isOk_iff.mp ⟨src, hsrc⟩
        backgroundColor := Cleaning.color_isOk_iff.mp ⟨color, hcolor⟩
        duration := duration_isOk_iff.mp ⟨duration, hduration⟩ }
  · intro h
    obtain ⟨src, hsrc⟩ := assetUrl_isOk_iff.mpr h.backgroundImage
    obtain ⟨color, hcolor⟩ := Cleaning.color_isOk_iff.mpr h.backgroundColor
    obtain ⟨duration, hduration⟩ := duration_isOk_iff.mpr h.duration
    exact ⟨_, src, color, duration, hsrc, hcolor, hduration, rfl⟩

/-- A list of scenes is resolved if every one of them is, wherever it stands. -/
theorem resolveAll_isOk_iff {transition : Transition} {rs : List SceneRequest} {index : Nat} :
    (∃ scenes, SceneRequest.resolveAll transition rs index = .ok scenes) ↔
      ∀ r ∈ rs, r.Admissible := by
  induction rs generalizing index with
  | nil => simp [SceneRequest.resolveAll]
  | cons r rest ih =>
    unfold SceneRequest.resolveAll
    simp only [bind_eq_ok_iff, List.forall_mem_cons]
    constructor
    · rintro ⟨_, scene, hscene, scenes, hscenes, -⟩
      exact ⟨sceneRequest_isOk_iff.mp ⟨scene, hscene⟩, ih.mp ⟨scenes, hscenes⟩⟩
    · rintro ⟨hr, hrest⟩
      obtain ⟨scene, hscene⟩ := sceneRequest_isOk_iff.mpr hr
      obtain ⟨scenes, hscenes⟩ := ih.mpr hrest
      exact ⟨_, scene, hscene, scenes, hscenes, rfl⟩

theorem scenesRequest_isOk_iff {r : ScenesRequest} : (∃ v, r.resolve = .ok v) ↔ r.Admissible := by
  simp only [ScenesRequest.resolve_eq_ok_iff]
  constructor
  · rintro ⟨v, hne, scenes, audio, hscenes, haudio, -⟩
    exact ⟨hne, resolveAll_isOk_iff.mp ⟨scenes, hscenes⟩, audio_isOk_iff.mp ⟨audio, haudio⟩⟩
  · intro h
    obtain ⟨scenes, hscenes⟩ := resolveAll_isOk_iff.mpr h.scenes
    obtain ⟨audio, haudio⟩ := audio_isOk_iff.mpr h.audio
    exact ⟨_, h.nonempty, scenes, audio, hscenes, haudio, rfl⟩

/-- One of two texts is there exactly if the one or the other is. -/
theorem exists_or_eq_some_iff {a b : Option String} :
    (∃ text, a.or b = some text) ↔ a.isSome = true ∨ b.isSome = true := by
  rw [← Option.isSome_iff_exists, Option.isSome_or, Bool.or_eq_true]

theorem cardRequest_isOk_iff {r : CardRequest} : (∃ v, r.resolve = .ok v) ↔ r.Admissible := by
  simp only [CardRequest.resolve_eq_ok_iff]
  constructor
  · rintro ⟨v, title, duration, fadeIn, fadeOut, src, color, logo, audio, htitle, hduration,
      hfadeIn, hfadeOut, hfades, hsrc, hcolor, hlogo, haudio, -⟩
    refine
      { title := exists_or_eq_some_iff.mp ⟨title, htitle⟩
        duration := duration_isOk_iff.mp ⟨duration, hduration⟩
        fadeIn := fade_isOk_iff.mp ⟨fadeIn, hfadeIn⟩
        fadeOut := fade_isOk_iff.mp ⟨fadeOut, hfadeOut⟩
        fades := ?_
        backgroundImage := assetUrl_isOk_iff.mp ⟨src, hsrc⟩
        backgroundColor := Cleaning.color_isOk_iff.mp ⟨color, hcolor⟩
        logoRef := assetUrl_isOk_iff.mp ⟨logo, hlogo⟩
        audio := audio_isOk_iff.mp ⟨audio, haudio⟩ }
    rw [count_of_duration hduration, count_of_fade hfadeIn, count_of_fade hfadeOut] at hfades
    exact hfades
  · intro h
    obtain ⟨title, htitle⟩ := exists_or_eq_some_iff.mpr h.title
    obtain ⟨duration, hduration⟩ :
        ∃ t, Cleaning.duration _ r.duration CardRequest.usualDuration = .ok t :=
      duration_isOk_iff.mpr h.duration
    obtain ⟨fadeIn, hfadeIn⟩ : ∃ t, Cleaning.fade _ r.fadeIn CardRequest.usualFadeIn = .ok t :=
      fade_isOk_iff.mpr h.fadeIn
    obtain ⟨fadeOut, hfadeOut⟩ : ∃ t, Cleaning.fade _ r.fadeOut CardRequest.usualFadeOut = .ok t :=
      fade_isOk_iff.mpr h.fadeOut
    have hfades : fadeIn.count + fadeOut.count ≤ duration.count := by
      rw [count_of_duration hduration, count_of_fade hfadeIn, count_of_fade hfadeOut]
      exact h.fades
    obtain ⟨src, hsrc⟩ := assetUrl_isOk_iff.mpr h.backgroundImage
    obtain ⟨color, hcolor⟩ := Cleaning.color_isOk_iff.mpr h.backgroundColor
    obtain ⟨logo, hlogo⟩ := assetUrl_isOk_iff.mpr h.logoRef
    obtain ⟨audio, haudio⟩ := audio_isOk_iff.mpr h.audio
    exact ⟨_, title, duration, fadeIn, fadeOut, src, color, logo, audio, htitle, hduration, hfadeIn,
      hfadeOut, hfades, hsrc, hcolor, hlogo, haudio, rfl⟩

/-- A request is resolved exactly if it may be asked for. -/
theorem resolve_isOk_iff (r : VideoRequest) : (∃ v, r.resolve = .ok v) ↔ r.Admissible := by
  cases r with
  | singleTitle r => exact titleRequest_isOk_iff
  | scenes r => exact scenesRequest_isOk_iff
  | card r => exact cardRequest_isOk_iff

end Storyboard
