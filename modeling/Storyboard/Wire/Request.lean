import Storyboard.Request
import Storyboard.Wire.Output

/-!
# The wire form of requests

The fields for audio and output stand directly among the others. A request that may be of any form
says by its type which one it is; sent to a place for one form only, it needs no type.
-/

namespace Storyboard.Wire

open Json (Reader Record Tagged)

/-- One scene of a sequence. -/
instance : Wire SceneRequest where
  toJson s := .object (member "title" s.title ++ member "subtitle" s.subtitle ++
    member "backgroundImage" s.backgroundImage ++ member "backgroundColor" s.backgroundColor ++
    member "duration" s.duration ++ member "textStyle" s.textStyle ++
    member "titlePosition" s.titlePosition ++ member "effect" s.effect ++
    member "transitionIn" s.transitionIn ++ member "transitionOut" s.transitionOut)
  reader := Record.of SceneRequest.mk
    |>.field (optional "title")
    |>.field (optional "subtitle")
    |>.field (optional "backgroundImage")
    |>.field (optional "backgroundColor")
    |>.field (optional "duration")
    |>.field (optional "textStyle")
    |>.field (optional "titlePosition")
    |>.field (optional "effect")
    |>.field (optional "transitionIn")
    |>.field (optional "transitionOut")
    |>.reader "struct SceneInput"

/-- The members of a request for a single title card. -/
def titleMembers (r : TitleRequest) : List (String × Json) :=
  member "title" r.title ++ member "subtitle" r.subtitle ++
    member "backgroundColor" r.backgroundColor ++ member "backgroundImage" r.backgroundImage ++
    member "voiceRef" r.audio.voiceRef ++ member "musicRef" r.audio.musicRef ++
    member "musicVolume" r.audio.musicVolume ++ member "voiceVolume" r.audio.voiceVolume ++
    member "duration" r.duration ++ member "aspectRatio" r.output.aspectRatio ++
    member "format" r.output.format ++ member "resolution" r.output.resolution ++
    member "quality" r.output.quality ++ member "textStyle" r.textStyle ++
    member "titlePosition" r.titlePosition ++ member "effect" r.effect

/-- A request for a single title card. -/
instance : Wire TitleRequest where
  toJson r := .object (titleMembers r)
  reader := Record.of (fun title subtitle backgroundColor backgroundImage voiceRef musicRef
        musicVolume voiceVolume duration aspectRatio format resolution quality textStyle
        titlePosition effect =>
      { title, subtitle, backgroundColor, backgroundImage
        audio := { musicRef, voiceRef, musicVolume, voiceVolume }
        duration
        output := { aspectRatio, resolution, format, quality }
        textStyle, titlePosition, effect : TitleRequest })
    |>.field (optional "title")
    |>.field (optional "subtitle")
    |>.field (optional "backgroundColor")
    |>.field (optional "backgroundImage")
    |>.field (optional "voiceRef")
    |>.field (optional "musicRef")
    |>.field (optional "musicVolume")
    |>.field (optional "voiceVolume")
    |>.field (optional "duration")
    |>.field (optional "aspectRatio")
    |>.field (optional "format")
    |>.field (optional "resolution")
    |>.field (optional "quality")
    |>.field (optional "textStyle")
    |>.field (optional "titlePosition")
    |>.field (optional "effect")
    |>.reader "struct SingleTitleRequest"

/-- The members of a request for a sequence of scenes. -/
def scenesMembers (r : ScenesRequest) : List (String × Json) :=
  member "scenes" r.scenes ++ member "musicRef" r.audio.musicRef ++
    member "voiceRef" r.audio.voiceRef ++ member "musicVolume" r.audio.musicVolume ++
    member "voiceVolume" r.audio.voiceVolume ++ member "aspectRatio" r.output.aspectRatio ++
    member "format" r.output.format ++ member "resolution" r.output.resolution ++
    member "quality" r.output.quality ++ member "transitionType" r.transitionType

/-- A request for a sequence of scenes. -/
instance : Wire ScenesRequest where
  toJson r := .object (scenesMembers r)
  reader := Record.of (fun scenes musicRef voiceRef musicVolume voiceVolume aspectRatio format
        resolution quality transitionType =>
      { scenes
        audio := { musicRef, voiceRef, musicVolume, voiceVolume }
        output := { aspectRatio, resolution, format, quality }
        transitionType : ScenesRequest })
    |>.field (.defaulted "scenes" reader [])
    |>.field (optional "musicRef")
    |>.field (optional "voiceRef")
    |>.field (optional "musicVolume")
    |>.field (optional "voiceVolume")
    |>.field (optional "aspectRatio")
    |>.field (optional "format")
    |>.field (optional "resolution")
    |>.field (optional "quality")
    |>.field (optional "transitionType")
    |>.reader "struct ScenesRequest"

/-- The members of a request for a card. -/
def cardMembers (r : CardRequest) : List (String × Json) :=
  member "kind" r.kind ++ member "title" r.title ++ member "subtitle" r.subtitle ++
    member "channelName" r.channelName ++ member "tagline" r.tagline ++
    member "logoRef" r.logoRef ++ member "backgroundImage" r.backgroundImage ++
    member "backgroundColor" r.backgroundColor ++ member "musicRef" r.audio.musicRef ++
    member "voiceRef" r.audio.voiceRef ++ member "musicVolume" r.audio.musicVolume ++
    member "voiceVolume" r.audio.voiceVolume ++ member "duration" r.duration ++
    member "fadeIn" r.fadeIn ++ member "fadeOut" r.fadeOut ++
    member "aspectRatio" r.output.aspectRatio ++ member "format" r.output.format ++
    member "resolution" r.output.resolution ++ member "quality" r.output.quality ++
    member "textStyle" r.textStyle ++ member "effect" r.effect ++
    member "transition" r.transition

/-- A request for a card. -/
instance : Wire CardRequest where
  toJson r := .object (cardMembers r)
  reader := Record.of (fun kind title subtitle channelName tagline logoRef backgroundImage
        backgroundColor musicRef voiceRef musicVolume voiceVolume duration fadeIn fadeOut
        aspectRatio format resolution quality textStyle effect transition =>
      { kind, title, subtitle, channelName, tagline, logoRef, backgroundImage, backgroundColor
        audio := { musicRef, voiceRef, musicVolume, voiceVolume }
        duration, fadeIn, fadeOut
        output := { aspectRatio, resolution, format, quality }
        textStyle, effect, transition : CardRequest })
    |>.field (required "kind")
    |>.field (optional "title")
    |>.field (optional "subtitle")
    |>.field (optional "channelName")
    |>.field (optional "tagline")
    |>.field (optional "logoRef")
    |>.field (optional "backgroundImage")
    |>.field (optional "backgroundColor")
    |>.field (optional "musicRef")
    |>.field (optional "voiceRef")
    |>.field (optional "musicVolume")
    |>.field (optional "voiceVolume")
    |>.field (optional "duration")
    |>.field (optional "fadeIn")
    |>.field (optional "fadeOut")
    |>.field (optional "aspectRatio")
    |>.field (optional "format")
    |>.field (optional "resolution")
    |>.field (optional "quality")
    |>.field (optional "textStyle")
    |>.field (optional "effect")
    |>.field (optional "transition")
    |>.reader "struct IntroOutroRequest"

/-- The forms of requests. -/
inductive RequestTag
  /-- A single title card. -/
  | singleTitle
  /-- A sequence of scenes. -/
  | scenes
  /-- A card that opens or closes a video. -/
  | card
deriving DecidableEq, Repr

instance : Vocabulary RequestTag where
  all := [.singleTitle, .scenes, .card]
  word
    | .singleTitle => "singleTitle"
    | .scenes => "scenes"
    | .card => "introOutro"

/-- How a request of a form is read. -/
def requestBody : RequestTag → Reader VideoRequest
  | .singleTitle => reader.map .singleTitle
  | .scenes => reader.map .scenes
  | .card => reader.map .card

/-- A request of any form, which says by its type which one it is. -/
instance : Wire VideoRequest where
  toJson
    | .singleTitle r => .object (member "type" RequestTag.singleTitle ++ titleMembers r)
    | .scenes r => .object (member "type" RequestTag.scenes ++ scenesMembers r)
    | .card r => .object (member "type" RequestTag.card ++ cardMembers r)
  reader := Tagged.reader
    { label := "internally tagged enum VideoRequest", tagName := "type", body := requestBody }

end Storyboard.Wire
