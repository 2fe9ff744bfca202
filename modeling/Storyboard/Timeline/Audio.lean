import Storyboard.Request.Rejection
import Storyboard.Timeline
import Storyboard.Timeline.Inset

/-!
# Audio

Music is played below the whole timeline and comes and goes as the form of the video says. A voice
gets a track of its own, within the margins of the titles, so that it neither starts with the video
nor ends with it. The two are mixed as they are, and what is seen stays as it was.
-/

namespace Storyboard

/-- A sound at an address. -/
structure AudioLayer where
  /-- Its address. -/
  src : String
  /-- How loud it is. -/
  volume : Double
deriving DecidableEq, Repr

/-- The audio of a video. -/
structure AudioPlan where
  /-- The music. -/
  music : Option AudioLayer
  /-- The spoken text. -/
  voice : Option AudioLayer
  /-- How the music starts and ends. -/
  fade : SoundtrackEffect
deriving DecidableEq, Repr

namespace Timeline

/-- The timeline with music below it, if there is any. -/
def withMusic (t : Timeline) (music : Option AudioLayer) (fade : SoundtrackEffect) : Timeline :=
  match music with
  | some layer => { t with soundtrack := some ⟨layer.src, layer.volume, fade⟩ }
  | none => t

/-- The track of a voice below a timeline of the given duration. -/
def voiceTrack (inset : Inset) (layer : AudioLayer) (duration : Millis) : Track :=
  let (start, length) := inset.apply .zero duration
  { kind := .voice, clips := [{ asset := .audio layer.src layer.volume, start, length }] }

/-- The timeline with a voice on a track of its own, if there is any. -/
def withVoice (t : Timeline) (inset : Inset) (voice : Option AudioLayer) : Timeline :=
  match voice with
  | some layer => { t with tracks := t.tracks ++ [voiceTrack inset layer t.duration] }
  | none => t

/-- The timeline with its audio; `inset` holds the margins of the voice. -/
def withAudio (t : Timeline) (inset : Inset) (audio : AudioPlan) : Except Rejection Timeline :=
  if t.duration.isZero then .error .emptyTimeline
  else .ok ((t.withMusic audio.music audio.fade).withVoice inset audio.voice)

end Timeline

end Storyboard
