import Storyboard.Wire.Basic

/-!
# The wire form of timelines

A timeline is written without the kinds of its tracks and without its duration, which only matter
here. Read back, every track is a background and the duration is zero.
-/

namespace Storyboard.Wire

open Json (Reader Record Tagged)

/-- A resolved scene. -/
instance : Wire Scene where
  toJson s := .object (member "title" s.title ++ member "subtitle" s.subtitle ++
    member "backgroundImage" s.backgroundImage ++ member "backgroundColor" s.backgroundColor ++
    member "duration" s.duration ++ member "textStyle" s.textStyle ++
    member "titlePosition" s.titlePosition ++ member "effect" s.effect ++
    member "transitionIn" s.transitionIn ++ member "transitionOut" s.transitionOut ++
    member "textTransition" s.textTransition ++ member "logo" s.logo)
  reader := Record.of Scene.mk
    |>.field (optional "title")
    |>.field (optional "subtitle")
    |>.field (optional "backgroundImage")
    |>.field (required "backgroundColor")
    |>.field (required "duration")
    |>.field (required "textStyle")
    |>.field (required "titlePosition")
    |>.field (optional "effect")
    |>.field (required "transitionIn")
    |>.field (required "transitionOut")
    |>.field (optional "textTransition")
    |>.field (optional "logo")
    |>.reader "struct Scene"

/-- The kinds of assets. -/
inductive AssetTag
  /-- A picture. -/
  | image
  /-- A colour. -/
  | color
  /-- A text. -/
  | title
  /-- A sound. -/
  | audio
deriving DecidableEq, Repr

instance : Vocabulary AssetTag where
  all := [.image, .color, .title, .audio]
  word
    | .image => "image"
    | .color => "color"
    | .title => "title"
    | .audio => "audio"

/-- How an asset of a kind is read. -/
def assetBody : AssetTag → Reader Asset
  | .image => Record.of Asset.image |>.field (required "src")
    |>.reader "struct variant Asset::Image"
  | .color => Record.of Asset.color |>.field (required "color")
    |>.reader "struct variant Asset::Color"
  | .title => Record.of Asset.title
    |>.field (required "text")
    |>.field (required "style")
    |>.field (optional "color")
    |>.field (required "position")
    |>.reader "struct variant Asset::Title"
  | .audio => Record.of Asset.audio |>.field (required "src") |>.field (required "volume")
    |>.reader "struct variant Asset::Audio"

/-- An asset, which says by its type what it is. -/
instance : Wire Asset where
  toJson
    | .image src => .object (member "type" AssetTag.image ++ member "src" src)
    | .color color => .object (member "type" AssetTag.color ++ member "color" color)
    | .title text style color position =>
      .object (member "type" AssetTag.title ++ member "text" text ++ member "style" style ++
        memberIfAny "color" color ++ member "position" position)
    | .audio src volume =>
      .object (member "type" AssetTag.audio ++ member "src" src ++ member "volume" volume)
  reader := Tagged.reader
    { label := "internally tagged enum Asset", tagName := "type", body := assetBody }

/-- How a clip comes and goes. -/
instance : Wire ClipTransition where
  toJson t := .object (memberIfAny "in" t.incoming ++ memberIfAny "out" t.outgoing)
  reader := Record.of ClipTransition.mk |>.field (optional "in") |>.field (optional "out")
    |>.reader "struct ClipTransition"

/-- A clip. -/
instance : Wire Clip where
  toJson c := .object (member "asset" c.asset ++ member "start" c.start ++
    member "length" c.length ++ memberIfAny "fit" c.fit ++ memberIfAny "effect" c.effect ++
    memberIfAny "transition" c.transition ++ memberIfAny "position" c.position ++
    memberIfAny "scale" c.scale)
  reader := Record.of Clip.mk
    |>.field (required "asset")
    |>.field (required "start")
    |>.field (required "length")
    |>.field (optional "fit")
    |>.field (optional "effect")
    |>.field (optional "transition")
    |>.field (optional "position")
    |>.field (optional "scale")
    |>.reader "struct Clip"

/-- A track, whose kind is not sent. -/
instance : Wire Track where
  toJson t := .object (member "clips" t.clips)
  reader := Record.of (Track.mk .background) |>.field (required "clips")
    |>.reader "struct Track"

/-- Music. -/
instance : Wire Soundtrack where
  toJson s := .object (member "src" s.src ++ member "volume" s.volume ++ member "effect" s.effect)
  reader := Record.of Soundtrack.mk
    |>.field (required "src")
    |>.field (required "volume")
    |>.field (required "effect")
    |>.reader "struct Soundtrack"

/-- A timeline, whose duration is not sent. -/
instance : Wire Timeline where
  toJson t := .object (member "background" t.background ++ member "tracks" t.tracks ++
    memberIfAny "soundtrack" t.soundtrack)
  reader := Record.of (fun background tracks soundtrack => ⟨background, tracks, soundtrack, .zero⟩)
    |>.field (required "background")
    |>.field (required "tracks")
    |>.field (optional "soundtrack")
    |>.reader "struct Timeline"

end Storyboard.Wire
