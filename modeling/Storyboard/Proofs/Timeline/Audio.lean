import Storyboard.Proofs.Timeline.Tiling
import Storyboard.Timeline.Audio

/-!
# Putting audio below

Audio leaves everything that is seen: music fills a place of its own in the timeline, and a voice
gets a track behind all others. `Timeline.Underlaid` says what comes of the two, and
`Timeline.withAudio_eq_ok_iff` that nothing else does.
-/

namespace Storyboard

namespace Timeline

/-- A timeline is another one with audio below. -/
structure Underlaid (t visual : Timeline) (inset : Inset) (audio : AudioPlan) : Prop where
  /-- It has the same colour. -/
  background_eq : t.background = visual.background
  /-- It has the same tracks, and one for the voice. -/
  tracks_eq : t.tracks = visual.tracks ++
    (audio.voice.map fun layer => voiceTrack inset layer visual.duration).toList
  /-- It has the music. -/
  soundtrack_eq : t.soundtrack =
    (audio.music.map fun layer => ⟨layer.src, layer.volume, audio.fade⟩).or visual.soundtrack
  /-- It lasts as long. -/
  duration_eq : t.duration = visual.duration

variable {t visual : Timeline} {inset : Inset} {audio : AudioPlan}

theorem underlaid_withMusic_withVoice :
    ((visual.withMusic audio.music audio.fade).withVoice inset audio.voice).Underlaid visual inset
      audio := by
  unfold withMusic withVoice
  cases hmusic : audio.music <;> cases hvoice : audio.voice <;>
    exact ⟨rfl, by simp [hvoice], by simp [hmusic], rfl⟩

/-- There is one timeline at most that is another one with given audio below. -/
theorem Underlaid.eq {t' : Timeline} (h : t.Underlaid visual inset audio)
    (h' : t'.Underlaid visual inset audio) : t = t' := by
  obtain ⟨background, tracks, soundtrack, duration⟩ := t
  obtain ⟨background', tracks', soundtrack', duration'⟩ := t'
  obtain ⟨rfl, rfl, rfl, rfl⟩ := h
  obtain ⟨rfl, rfl, rfl, rfl⟩ := h'
  rfl

/-- Audio can be put below a timeline exactly if that lasts. -/
theorem withAudio_eq_ok_iff :
    visual.withAudio inset audio = .ok t ↔
      0 < visual.duration.count ∧ t.Underlaid visual inset audio := by
  unfold withAudio
  by_cases hzero : visual.duration.isZero = true
  · rw [if_pos hzero]
    have := Millis.isZero_iff.mp hzero
    constructor
    · intro h
      exact absurd h (by simp)
    · rintro ⟨hlasts, -⟩
      omega
  · rw [if_neg hzero]
    have hlasts := Millis.isZero_eq_false_iff.mp (Bool.not_eq_true _ ▸ hzero)
    constructor
    · intro h
      obtain rfl := Except.ok.inj h
      exact ⟨hlasts, underlaid_withMusic_withVoice⟩
    · rintro ⟨-, h⟩
      exact congrArg Except.ok (underlaid_withMusic_withVoice.eq h)

/-- Below the layers that are seen nothing changes. -/
theorem Underlaid.clipsOf_eq (h : t.Underlaid visual inset audio) {kind : TrackKind}
    (hkind : kind ∈ TrackKind.visual) : t.clipsOf kind = visual.clipsOf kind := by
  have hnone : (audio.voice.map fun layer => voiceTrack inset layer visual.duration).toList.find?
      (·.kind = kind) = none := by
    cases audio.voice with
    | none => rfl
    | some layer =>
      cases kind with
      | voice => exact absurd hkind (by decide)
      | title | subtitle | overlay | background => rfl
  unfold clipsOf track?
  rw [h.tracks_eq, List.find?_append, hnone, Option.or_none]

/-- The voice is the only one on its layer, if there was none before. -/
theorem Underlaid.clipsOf_voice (h : t.Underlaid visual inset audio)
    (hvisual : ∀ track ∈ visual.tracks, track.kind ≠ .voice) :
    t.clipsOf .voice =
      (audio.voice.map fun layer => (voiceTrack inset layer visual.duration).clips).getD [] := by
  have hnone : visual.tracks.find? (·.kind = .voice) = none := by
    simpa using hvisual
  unfold clipsOf track?
  rw [h.tracks_eq, List.find?_append, hnone, Option.none_or]
  cases audio.voice <;> rfl

end Timeline

end Storyboard
