import Storyboard.Request
import Storyboard.Request.Cleaning
import Storyboard.Timeline.Audio

/-!
# Resolved requests

A resolved request has every setting decided. Resolving either rejects a request, naming the first
field that is at fault, or gives the scenes with their audio, output and margins.
-/

namespace Storyboard

/-- A request with every setting decided. -/
structure ResolvedVideo where
  /-- The form of the video. -/
  kind : VideoKind
  /-- The scenes. -/
  scenes : List Scene
  /-- The audio. -/
  audio : AudioPlan
  /-- The words for the output. -/
  output : OutputTokens
  /-- The margins of the text. -/
  insets : InsetProfile
deriving DecidableEq, Repr

/-- A field of the request itself. -/
def FieldRef.ofRequest (name : String) : FieldRef := ⟨none, name⟩

/-- A field of the scene at the given position. -/
def FieldRef.ofScene (index : Nat) (name : String) : FieldRef := ⟨some index, name⟩

namespace AudioRequest

/-- How loud music is if nothing is said. -/
def usualMusicVolume : Double := .ofQuotient 3 10

/-- How loud a voice is if nothing is said. -/
def usualVoiceVolume : Double := .ofNat 1

/-- A layer of audio; its volume matters only if there is an address. -/
def layer (source : Except Rejection (Option String)) (loudness : Except Rejection Double) :
    Except Rejection (Option AudioLayer) := do
  match ← source with
  | none => .ok none
  | some src => .ok (some ⟨src, ← loudness⟩)

/-- The audio of a video whose music starts and ends as given. -/
def resolve (a : AudioRequest) (fade : SoundtrackEffect) : Except Rejection AudioPlan := do
  let music ← layer (Cleaning.assetUrl (.ofRequest "musicRef") a.musicRef)
    (Cleaning.volume (.ofRequest "musicVolume") a.musicVolume usualMusicVolume)
  let voice ← layer (Cleaning.assetUrl (.ofRequest "voiceRef") a.voiceRef)
    (Cleaning.volume (.ofRequest "voiceVolume") a.voiceVolume usualVoiceVolume)
  .ok { music, voice, fade }

end AudioRequest

namespace TitleRequest

/-- How long a title card lasts if nothing is said. -/
def usualDuration : Millis := .ofCountCapped 15000

/-- Resolves a request for a single title card. -/
def resolve (r : TitleRequest) : Except Rejection ResolvedVideo := do
  let title ← match Cleaning.text r.title with
    | some title => .ok title
    | none => .error .noTitle
  let backgroundImage ← Cleaning.assetUrl (.ofRequest "backgroundImage") r.backgroundImage
  let backgroundColor ← Cleaning.color (.ofRequest "backgroundColor") r.backgroundColor
  let duration ← Cleaning.duration (.ofRequest "duration") r.duration usualDuration
  let audio ← r.audio.resolve .fadeInFadeOut
  let scene : Scene :=
    { Scene.plain duration with
      title := some title
      subtitle := Cleaning.text r.subtitle
      backgroundImage
      backgroundColor
      textStyle := r.textStyle.getD .minimal
      titlePosition := r.titlePosition.getD .center
      effect := r.effect }
  .ok { kind := .singleTitle, scenes := [scene], audio, output := r.output,
        insets := .singleTitle }

end TitleRequest

namespace SceneRequest

/-- How long a scene lasts if nothing is said. -/
def usualDuration : Millis := .ofCountCapped 5000

/-- Resolves the scene at the given position; `transition` is how scenes come and go that do not say
it themselves. -/
def resolve (r : SceneRequest) (index : Nat) (transition : Transition) :
    Except Rejection Scene := do
  let backgroundImage ← Cleaning.assetUrl (.ofScene index "backgroundImage") r.backgroundImage
  let backgroundColor ← Cleaning.color (.ofScene index "backgroundColor") r.backgroundColor
  let duration ← Cleaning.duration (.ofScene index "duration") r.duration usualDuration
  .ok
    { Scene.plain duration with
      title := Cleaning.text r.title
      subtitle := Cleaning.text r.subtitle
      backgroundImage
      backgroundColor
      textStyle := r.textStyle.getD .minimal
      titlePosition := r.titlePosition.getD .center
      effect := r.effect
      transitionIn := r.transitionIn.getD transition
      transitionOut := r.transitionOut.getD transition }

/-- Resolves scenes that stand at the given position and after it. -/
def resolveAll (transition : Transition) :
    List SceneRequest → (index : Nat) → Except Rejection (List Scene)
  | [], _ => .ok []
  | r :: rest, index => do
    let scene ← r.resolve index transition
    let scenes ← resolveAll transition rest (index + 1)
    .ok (scene :: scenes)

end SceneRequest

namespace ScenesRequest

/-- Resolves a request for a sequence of scenes. -/
def resolve (r : ScenesRequest) : Except Rejection ResolvedVideo := do
  if r.scenes.isEmpty then .error .noScenes
  let scenes ← SceneRequest.resolveAll (r.transitionType.getD .fade) r.scenes 0
  let audio ← r.audio.resolve .fadeInFadeOut
  .ok { kind := .scenes, scenes, audio, output := r.output, insets := .scenes }

end ScenesRequest

namespace CardRequest

/-- How long a card lasts if nothing is said. -/
def usualDuration : Millis := .ofCountCapped 5000

/-- When the text of a card is there if nothing is said. -/
def usualFadeIn : Millis := .ofCountCapped 500

/-- How long before the end the text of a card goes if nothing is said. -/
def usualFadeOut : Millis := .ofCountCapped 1000

/-- How the music of a card starts and ends. -/
def fade : CardKind → SoundtrackEffect
  | .intro => .fadeIn
  | .outro => .fadeOut

/-- Resolves a request for a card that opens or closes a video. -/
def resolve (r : CardRequest) : Except Rejection ResolvedVideo := do
  let title ← match (Cleaning.text r.title).or (Cleaning.text r.channelName) with
    | some title => .ok title
    | none => .error .noCardTitle
  let duration ← Cleaning.duration (.ofRequest "duration") r.duration usualDuration
  let fadeIn ← Cleaning.fade (.ofRequest "fadeIn") r.fadeIn usualFadeIn
  let fadeOut ← Cleaning.fade (.ofRequest "fadeOut") r.fadeOut usualFadeOut
  if duration.count < fadeIn.count + fadeOut.count then .error (.fadesTooLong duration)
  let backgroundImage ← Cleaning.assetUrl (.ofRequest "backgroundImage") r.backgroundImage
  let backgroundColor ← Cleaning.color (.ofRequest "backgroundColor") r.backgroundColor
  let logo ← Cleaning.assetUrl (.ofRequest "logoRef") r.logoRef
  let audio ← r.audio.resolve (fade r.kind)
  let scene : Scene :=
    { Scene.plain duration with
      title := some title
      subtitle := (Cleaning.text r.subtitle).or (Cleaning.text r.tagline)
      backgroundImage
      backgroundColor
      textStyle := r.textStyle.getD .minimal
      effect := some (r.effect.getD .zoomIn)
      textTransition := some (r.transition.getD .fade)
      logo }
  .ok { kind := r.kind.videoKind, scenes := [scene], audio, output := r.output,
        insets := .card fadeIn fadeOut }

end CardRequest

namespace VideoRequest

/-- Resolves any request. -/
def resolve : VideoRequest → Except Rejection ResolvedVideo
  | .singleTitle r => r.resolve
  | .scenes r => r.resolve
  | .card r => r.resolve

end VideoRequest

end Storyboard
