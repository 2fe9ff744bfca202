import Storyboard.Proofs.Request.Planning
import Storyboard.Proofs.Text.Trimming

/-!
# What is let through

What resolving lets through is trusted from then on and not checked again. `ResolvedVideo.Canonical`
says what that is, beside the fields of the request that it comes from; `resolve_canonical` says that
it holds of all that is resolved.

The margins of a card's title are its fades, which have room in the card. The line below comes three
tenths of a second later, and for its margins there may be no room.
-/

namespace Storyboard

open Cleaning (Supplied IsWebAddress IsVolume)

/-! ## Single fields -/

namespace Cleaning

/-- A line of text is what is kept of another text. -/
structure IsLineOf (source line : String) : Prop where
  /-- Something of it can be seen. -/
  visible : ∃ c ∈ line.toList, Text.isBlank c = false
  /-- It is not long. -/
  length_le : line.length ≤ 500
  /-- Line ends are its only control characters. -/
  plain : ∀ c ∈ line.toList, Text.isControl c = true → c = '\n'
  /-- Characters are left out, and none is changed or added. -/
  sublist : line.toList.Sublist source.toList

/-- A character is a hexadecimal digit in small letters. -/
def IsSmallHexDigit (c : Char) : Prop :=
  ('0' ≤ c ∧ c ≤ '9') ∨ ('a' ≤ c ∧ c ≤ 'f')

/-- A text is a colour in small letters. -/
def IsSmallColor (color : String) : Prop :=
  ∃ digits, color.toList = '#' :: digits ∧ (digits.length = 3 ∨ digits.length = 6) ∧
    ∀ d ∈ digits, IsSmallHexDigit d

theorem isLineOf_of_text {input : Option String} {line : String} (h : text input = some line) :
    ∃ source, input = some source ∧ IsLineOf source line := by
  obtain ⟨source, hsource, hline⟩ := Option.bind_eq_some_iff.mp h
  set kept := ((Text.trimChars source.toList).filter isKept).take maxTextLength with hkept
  have hfiltered : kept.Sublist ((Text.trimChars source.toList).filter isKept) :=
    List.take_sublist _ _
  by_cases hblank : kept.all Text.isBlank = true
  · simp only [if_pos hblank] at hline
    cases hline
  · simp only [if_neg hblank] at hline
    obtain rfl := Option.some.inj hline
    refine ⟨source, hsource, ?_, ?_, ?_, ?_⟩
    · -- visible
      rw [String.toList_ofList]
      simpa using hblank
    · -- length_le
      rw [String.length_ofList, hkept, List.length_take]
      exact Nat.min_le_left _ _
    · -- plain
      intro c hc hcontrol
      rw [String.toList_ofList] at hc
      have hpasses : isKept c = true := (List.mem_filter.mp (hfiltered.subset hc)).2
      simpa [isKept, hcontrol] using hpasses
    · -- sublist
      rw [String.toList_ofList]
      exact hfiltered.trans (List.filter_sublist.trans (Text.trimChars_sublist _))

theorem supplied_of_assetUrl {field : FieldRef} {input src : Option String}
    (h : assetUrl field input = .ok src) {raw : String} (hraw : src = some raw) :
    Supplied input raw ∧ IsWebAddress raw := by
  obtain ⟨rfl, hweb⟩ := assetUrl_eq_ok_iff.mp h
  have hsupplied := trimmed_eq_some_iff.mp hraw
  exact ⟨hsupplied, hweb raw hsupplied⟩

/-- There are few hexadecimal digits, and each is looked at. -/
theorem isSmallHexDigit_toLower {c : Char} (h : IsHexDigit c) : IsSmallHexDigit c.toLower := by
  have hall : ∀ n < 103, Text.isHexDigit (Char.ofNat n) = true →
      ('0' ≤ (Char.ofNat n).toLower ∧ (Char.ofNat n).toLower ≤ '9') ∨
        ('a' ≤ (Char.ofNat n).toLower ∧ (Char.ofNat n).toLower ≤ 'f') := by decide
  have hbound : c.toNat < 103 := by
    simp only [IsHexDigit, Char.le_def, UInt32.le_iff_toNat_le] at h
    have hnat : c.toNat = c.val.toNat := rfl
    have hnine : '9'.val.toNat = 57 := rfl
    have hbig : 'F'.val.toNat = 70 := rfl
    have hsmall : 'f'.val.toNat = 102 := rfl
    omega
  have hdigit := hall c.toNat hbound
  rw [Char.ofNat_toNat] at hdigit
  exact hdigit (isHexDigit_iff.mpr h)

theorem isSmallColor_of_color {field : FieldRef} {input : Option String} {c : String}
    (h : color field input = .ok c) : IsSmallColor c := by
  unfold color at h
  cases ht : trimmed input with
  | none =>
    rw [ht] at h
    obtain rfl := Except.ok.inj h
    refine ⟨['0', '0', '0', '0', '0', '0'], rfl, .inr rfl, ?_⟩
    simp [IsSmallHexDigit]
  | some raw =>
    rw [ht] at h
    by_cases hcolor : isColor raw.toList = true
    · simp only [if_pos hcolor] at h
      obtain rfl := Except.ok.inj h
      obtain ⟨digits, hraw, hlength, hdigits⟩ := isColor_iff.mp hcolor
      refine ⟨digits.map Char.toLower, ?_, ?_, ?_⟩
      · rw [String.toList_ofList, hraw]
        rfl
      · rw [List.length_map]
        exact hlength
      · intro d hd
        obtain ⟨c, hc, rfl⟩ := List.mem_map.mp hd
        exact isSmallHexDigit_toLower (hdigits c hc)
    · simp only [if_neg hcolor] at h
      cases h

end Cleaning

/-! ## Scenes, audio and margins -/

/-- What a caller may have written for a scene. -/
structure SceneFields where
  /-- The fields that the title is taken from. -/
  titles : List (Option String)
  /-- The fields that the line below is taken from. -/
  subtitles : List (Option String)
  /-- The address of a picture. -/
  image : Option String
  /-- The address of a logo. -/
  logo : Option String

namespace VideoRequest

/-- The fields of a request, scene by scene. -/
def sceneFields : VideoRequest → List SceneFields
  | .singleTitle r => [⟨[r.title], [r.subtitle], r.backgroundImage, none⟩]
  | .scenes r => r.scenes.map fun s => ⟨[s.title], [s.subtitle], s.backgroundImage, none⟩
  | .card r => [⟨[r.title, r.channelName], [r.subtitle, r.tagline], r.backgroundImage, r.logoRef⟩]

/-- The audio that is asked for. -/
def audio : VideoRequest → AudioRequest
  | .singleTitle r => r.audio
  | .scenes r => r.audio
  | .card r => r.audio

end VideoRequest

/-- A line is taken from one of some fields. -/
def IsTaken (fields : List (Option String)) (line : String) : Prop :=
  ∃ source, some source ∈ fields ∧ Cleaning.IsLineOf source line

/-- A scene holds nothing but what may be let through. -/
structure Scene.Canonical (fields : SceneFields) (s : Scene) : Prop where
  /-- It lasts, and no longer than an hour. -/
  lasts : 1 ≤ s.duration.count ∧ s.duration.count ≤ 3600000
  /-- Its title is taken from the fields for it. -/
  title : ∀ line, s.title = some line → IsTaken fields.titles line
  /-- So is the line below. -/
  subtitle : ∀ line, s.subtitle = some line → IsTaken fields.subtitles line
  /-- Its colour is one, in small letters. -/
  color : Cleaning.IsSmallColor s.backgroundColor
  /-- Its picture is what the caller supplied, and comes from the web. -/
  image : ∀ src, s.backgroundImage = some src → Supplied fields.image src ∧ IsWebAddress src
  /-- So does its logo. -/
  logo : ∀ src, s.logo = some src → Supplied fields.logo src ∧ IsWebAddress src

/-- A layer of audio holds nothing but what may be let through. -/
def AudioLayer.Canonical (ref : Option String) (l : AudioLayer) : Prop :=
  Supplied ref l.src ∧ IsWebAddress l.src ∧ IsVolume l.volume

/-- A resolved request holds nothing but what may be let through. -/
structure ResolvedVideo.Canonical (v : ResolvedVideo) (r : VideoRequest) : Prop where
  /-- There is a scene. -/
  nonempty : v.scenes ≠ []
  /-- There are as many as the request asks for. -/
  length_eq : v.scenes.length = r.sceneCount
  /-- Each comes from its own fields. -/
  scenes : List.Forall₂ Scene.Canonical r.sceneFields v.scenes
  /-- The music is what the caller supplied. -/
  music : ∀ l, v.audio.music = some l → l.Canonical r.audio.musicRef
  /-- So is the voice. -/
  voice : ∀ l, v.audio.voice = some l → l.Canonical r.audio.voiceRef
  /-- A card has a title. -/
  titled : (∀ q, r ≠ .scenes q) → ∀ s ∈ v.scenes, s.title.isSome = true
  /-- A logo is shown, and text comes and goes on its own, only where a card opens or closes a
  video. -/
  plain : (∀ q, r ≠ .card q) → ∀ s ∈ v.scenes, s.logo = none ∧ s.textTransition = none
  /-- The margins of the title of such a card are its fades. -/
  fades : ∀ q, r = .card q →
    v.insets.title.lead.count = countOr q.fadeIn 500 ∧
      v.insets.title.tail.count = countOr q.fadeOut 1000
  /-- They have room in it. -/
  room : ∀ q, r = .card q → ∀ s ∈ v.scenes,
    v.insets.title.lead.count + v.insets.title.tail.count ≤ s.duration.count
  /-- The line below comes later and goes with the title. -/
  delayed : ∀ q, r = .card q →
    v.insets.subtitle.lead.count = v.insets.title.lead.count + 300 ∧
      v.insets.subtitle.tail = v.insets.title.tail

section Fields

variable {line : String} {a b : Option String}

theorem isTaken_of_text (h : Cleaning.text a = some line) : IsTaken [a] line := by
  obtain ⟨source, rfl, hline⟩ := Cleaning.isLineOf_of_text h
  exact ⟨source, List.mem_singleton_self _, hline⟩

theorem isTaken_of_or (h : (Cleaning.text a).or (Cleaning.text b) = some line) :
    IsTaken [a, b] line := by
  rcases Option.or_eq_some_iff.mp h with ha | ⟨-, hb⟩
  · obtain ⟨source, rfl, hline⟩ := Cleaning.isLineOf_of_text ha
    exact ⟨source, by simp, hline⟩
  · obtain ⟨source, rfl, hline⟩ := Cleaning.isLineOf_of_text hb
    exact ⟨source, by simp, hline⟩

theorem layer_canonical {field volumeField : FieldRef} {input : Option String}
    {value : Option Double} {usual : Double} {l : AudioLayer}
    (h : AudioRequest.layer (Cleaning.assetUrl field input)
      (Cleaning.volume volumeField value usual) = .ok (some l)) : l.Canonical input := by
  obtain ⟨hl, hmay⟩ := layer_eq_ok_iff.mp h
  obtain ⟨raw, hraw, rfl⟩ := Option.map_eq_some_iff.mp hl.symm
  have hsupplied := Cleaning.trimmed_eq_some_iff.mp hraw
  exact ⟨hsupplied, hmay raw hsupplied⟩

theorem audio_canonical {a : AudioRequest} {fade : SoundtrackEffect} {plan : AudioPlan}
    (h : a.resolve fade = .ok plan) :
    (∀ l, plan.music = some l → l.Canonical a.musicRef) ∧
      ∀ l, plan.voice = some l → l.Canonical a.voiceRef := by
  obtain ⟨music, voice, hmusic, hvoice, rfl⟩ := AudioRequest.resolve_eq_ok_iff.mp h
  constructor
  · rintro l rfl
    exact layer_canonical hmusic
  · rintro l rfl
    exact layer_canonical hvoice

end Fields

/-- The margin at the start of the second line of a card is not cut off. -/
theorem card_subtitle_lead {fadeIn fadeOut : Millis} (h : fadeIn.count ≤ 3600000) :
    (InsetProfile.card fadeIn fadeOut).subtitle.lead.count = fadeIn.count + 300 := by
  have hdelay : InsetProfile.subtitleDelay.count = 300 := by decide
  simp only [InsetProfile.card, Millis.addCapped, Millis.ofCountCapped, hdelay, Millis.maxCount]
  omega

/-! ## Form by form -/

theorem titleRequest_canonical {r : TitleRequest} {v : ResolvedVideo} (h : r.resolve = .ok v) :
    v.Canonical (.singleTitle r) := by
  obtain ⟨title, src, color, duration, audio, htitle, hsrc, hcolor, hduration, haudio, rfl⟩ :=
    TitleRequest.resolve_eq_ok_iff.mp h
  obtain ⟨hmusic, hvoice⟩ := audio_canonical haudio
  have hscene : Scene.Canonical ⟨[r.title], [r.subtitle], r.backgroundImage, none⟩
      (r.cleanScene title src color duration) :=
    { lasts := duration_bounds hduration (by decide)
      title := fun line hline => isTaken_of_text (htitle.trans hline)
      subtitle := fun line hline => isTaken_of_text hline
      color := Cleaning.isSmallColor_of_color hcolor
      image := fun _ => Cleaning.supplied_of_assetUrl hsrc
      logo := fun _ hlogo => absurd hlogo (by simp [TitleRequest.cleanScene, Scene.plain]) }
  refine
    { nonempty := by simp
      length_eq := rfl
      scenes := List.Forall₂.cons hscene List.Forall₂.nil
      music := hmusic
      voice := hvoice
      titled := ?_
      plain := ?_
      fades := fun q hq => absurd hq (by simp)
      room := fun q hq => absurd hq (by simp)
      delayed := fun q hq => absurd hq (by simp) }
  · rintro - s hs
    obtain rfl := List.mem_singleton.mp hs
    rfl
  · rintro - s hs
    obtain rfl := List.mem_singleton.mp hs
    exact ⟨rfl, rfl⟩

theorem sceneRequest_canonical {r : SceneRequest} {index : Nat} {transition : Transition}
    {s : Scene} (h : r.resolve index transition = .ok s) :
    Scene.Canonical ⟨[r.title], [r.subtitle], r.backgroundImage, none⟩ s ∧ s.logo = none ∧
      s.textTransition = none := by
  obtain ⟨src, color, duration, hsrc, hcolor, hduration, rfl⟩ :=
    SceneRequest.resolve_eq_ok_iff.mp h
  refine ⟨?_, rfl, rfl⟩
  exact
    { lasts := duration_bounds hduration (by decide)
      title := fun line hline => isTaken_of_text hline
      subtitle := fun line hline => isTaken_of_text hline
      color := Cleaning.isSmallColor_of_color hcolor
      image := fun _ => Cleaning.supplied_of_assetUrl hsrc
      logo := fun _ hlogo => absurd hlogo (by simp [SceneRequest.cleanScene, Scene.plain]) }

theorem scenesRequest_canonical {r : ScenesRequest} {v : ResolvedVideo} (h : r.resolve = .ok v) :
    v.Canonical (.scenes r) := by
  have hanswers := scenesRequest_answers h
  obtain ⟨-, scenes, audio, hscenes, haudio, rfl⟩ := ScenesRequest.resolve_eq_ok_iff.mp h
  obtain ⟨hmusic, hvoice⟩ := audio_canonical haudio
  have hrelated := SceneRequest.resolveAll_forall₂ hscenes
  refine
    { nonempty := hanswers.nonempty
      length_eq := hanswers.length_eq
      scenes := ?_
      music := hmusic
      voice := hvoice
      titled := fun hform => absurd rfl (hform r)
      plain := ?_
      fades := fun q hq => absurd hq (by simp)
      room := fun q hq => absurd hq (by simp)
      delayed := fun q hq => absurd hq (by simp) }
  · -- scenes
    refine List.forall₂_map_left_iff.mpr (hrelated.imp ?_)
    rintro q s ⟨index, hq⟩
    exact (sceneRequest_canonical hq).1
  · -- plain
    intro _ s hs
    obtain ⟨q, -, index, hq⟩ := exists_left_of_forall₂ hrelated hs
    exact (sceneRequest_canonical hq).2

theorem cardRequest_canonical {r : CardRequest} {v : ResolvedVideo} (h : r.resolve = .ok v) :
    v.Canonical (.card r) := by
  obtain ⟨title, duration, fadeIn, fadeOut, src, color, logo, audio, htitle, hduration, hfadeIn,
    hfadeOut, hfades, hsrc, hcolor, hlogo, haudio, rfl⟩ := CardRequest.resolve_eq_ok_iff.mp h
  obtain ⟨hmusic, hvoice⟩ := audio_canonical haudio
  have hlasts := duration_bounds hduration (by decide)
  have hscene : Scene.Canonical
      ⟨[r.title, r.channelName], [r.subtitle, r.tagline], r.backgroundImage, r.logoRef⟩
      (r.cleanScene title duration src color logo) :=
    { lasts := hlasts
      title := fun line hline => isTaken_of_or (htitle.trans hline)
      subtitle := fun line hline => isTaken_of_or hline
      color := Cleaning.isSmallColor_of_color hcolor
      image := fun _ => Cleaning.supplied_of_assetUrl hsrc
      logo := fun _ => Cleaning.supplied_of_assetUrl hlogo }
  refine
    { nonempty := by simp
      length_eq := rfl
      scenes := List.Forall₂.cons hscene List.Forall₂.nil
      music := hmusic
      voice := hvoice
      titled := ?_
      plain := fun hform => absurd rfl (hform r)
      fades := ?_
      room := ?_
      delayed := ?_ }
  · -- titled
    rintro - s hs
    obtain rfl := List.mem_singleton.mp hs
    rfl
  · -- fades
    rintro q ⟨rfl⟩
    exact ⟨count_of_fade hfadeIn, count_of_fade hfadeOut⟩
  · -- room
    rintro q - s hs
    obtain rfl := List.mem_singleton.mp hs
    exact hfades
  · -- delayed
    rintro q -
    exact ⟨card_subtitle_lead (by omega), rfl⟩

/-- Whatever is resolved holds nothing but what may be let through. -/
theorem resolve_canonical {r : VideoRequest} {v : ResolvedVideo} (h : r.resolve = .ok v) :
    v.Canonical r := by
  cases r with
  | singleTitle r => exact titleRequest_canonical h
  | scenes r => exact scenesRequest_canonical h
  | card r => exact cardRequest_canonical h

/-- A card that closes a video, named for its channel, with a logo and music and without a fade at
its start. -/
theorem resolve_canonical_closing_card :
    let r : VideoRequest :=
      .card
        { kind := .outro, title := some " \t", channelName := some " My\x07 channel ",
          logoRef := some " https://[::1]/logo.png ", backgroundColor := some "#1A2b3C",
          fadeIn := some (.ofNat 0)
          audio := { musicRef := some "http://[::1]/song.mp3", musicVolume := some (.ofNat 1) } }
    ∃ v, r.resolve = .ok v ∧ v.Canonical r := by
  intro r
  have hok : r.resolve.isOk = true := by decide +kernel
  obtain ⟨v, hv⟩ := exists_ok_of_isOk hok
  exact ⟨v, hv, resolve_canonical hv⟩

/-- The line below the title of a card that lasts as long as its fades comes later than the fade
says, and its margins have no room in the card. -/
theorem resolve_subtitle_margins_no_fades :
    let q : CardRequest := { kind := .intro, title := some "Hi", duration := some (.ofQuotient 3 2) }
    ∃ v, (VideoRequest.card q).resolve = .ok v ∧
      v.insets.subtitle.lead.count ≠ countOr q.fadeIn 500 ∧
      ∀ s ∈ v.scenes,
        s.duration.count < v.insets.subtitle.lead.count + v.insets.subtitle.tail.count := by
  intro q
  have hq : ((VideoRequest.card q).resolve.toOption.map fun v =>
      decide (v.insets.subtitle.lead.count ≠ countOr q.fadeIn 500 ∧ ∀ s ∈ v.scenes,
        s.duration.count < v.insets.subtitle.lead.count + v.insets.subtitle.tail.count)) =
      some true := by decide +kernel
  obtain ⟨v, hv, hmargins⟩ := Option.map_eq_some_iff.mp hq
  exact ⟨v, toOption_eq_some_iff.mp hv, of_decide_eq_true hmargins⟩

end Storyboard
