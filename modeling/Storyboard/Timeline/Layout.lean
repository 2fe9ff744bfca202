import Storyboard.Request.Rejection
import Storyboard.Timeline
import Storyboard.Timeline.Inset

/-!
# Laying out scenes

Scenes are laid out back to back. The background of a scene fills its window; title and subtitle
stand inside the window, without the margins of the profile; a logo fills the window too. The first
scene comes in through a fade and the last goes out through one; everywhere else the scene says how.

`Scene.placed` lays out one scene at a time, `Scene.placeAll` a list of them, and
`Timeline.ofScenes` gathers the clips of each layer in a track.
-/

namespace Storyboard

/-- The clips of one scene. -/
structure PlacedScene where
  /-- The title. -/
  title : Option Clip
  /-- The line below the title. -/
  subtitle : Option Clip
  /-- The logo. -/
  logo : Option Clip
  /-- The background. -/
  background : Clip
deriving DecidableEq, Repr

namespace Scene

/-- How large a logo is, as a part of the frame. -/
def logoScale : Double := .finite false 4503599627370496 1020

/-- The background of a scene. -/
def backgroundClip (s : Scene) (start : Millis) (transition : ClipTransition) : Clip :=
  match s.backgroundImage with
  | some src =>
    { asset := .image src, start, length := s.duration, fit := some .cover, effect := s.effect,
      transition := some transition }
  | none =>
    { asset := .color s.backgroundColor, start, length := s.duration,
      transition := some transition }

/-- A line of text within the window of a scene. -/
def textClip (s : Scene) (asset : Asset) (inset : Inset) (start : Millis)
    (transition : ClipTransition) : Clip :=
  let (start, length) := inset.apply start s.duration
  { asset, start, length, transition := some transition }

/-- A logo over the window of a scene. -/
def logoClip (s : Scene) (src : String) (start : Millis) : Clip :=
  { asset := .image src, start, length := s.duration, fit := some .contain, position := some .top,
    scale := some logoScale, transition := some (.between .fade .fade) }

/-- How a scene comes and goes: the first comes and the last goes through a fade. -/
def transition (s : Scene) (isFirst isLast : Bool) : ClipTransition :=
  .between (if isFirst then .fade else s.transitionIn) (if isLast then .fade else s.transitionOut)

/-- How the text of a scene comes and goes. -/
def lineTransition (s : Scene) (isFirst isLast : Bool) : ClipTransition :=
  match s.textTransition with
  | some t => .between t t
  | none => s.transition isFirst isLast

/-- The clips of a scene that starts at the given time. -/
def placed (s : Scene) (insets : InsetProfile) (start : Millis) (isFirst isLast : Bool) :
    PlacedScene where
  title := s.title.map fun text =>
    s.textClip (.title text s.textStyle none s.titlePosition) insets.title start
      (s.lineTransition isFirst isLast)
  subtitle := s.subtitle.map fun text =>
    s.textClip (.title text .subtitle none .bottom) insets.subtitle start
      (s.lineTransition isFirst isLast)
  logo := s.logo.map fun src => s.logoClip src start
  background := s.backgroundClip start (s.transition isFirst isLast)

/-- The clips of scenes laid out back to back from the given time on, and when the last of them has
ended. The scenes are numbered on from `number`; the first of all scenes has number one. -/
def placeAll (insets : InsetProfile) :
    List Scene → (number : Nat) → (start : Millis) → Except Rejection (List PlacedScene × Millis)
  | [], _, start => .ok ([], start)
  | s :: rest, number, start =>
    if s.duration.isZero then .error (.emptyScene number)
    else
      match start.add? s.duration with
      | none => .error .totalTooLong
      | some next => do
        let (placedRest, final) ← placeAll insets rest (number + 1) next
        .ok (s.placed insets start (number == 1) rest.isEmpty :: placedRest, final)

end Scene

namespace Timeline

/-- The tracks of scenes that are laid out, topmost first, without the empty ones. -/
def visualTracks (scenes : List PlacedScene) : List Track :=
  [{ kind := .title, clips := scenes.filterMap (·.title) },
   { kind := .subtitle, clips := scenes.filterMap (·.subtitle) },
   { kind := .overlay, clips := scenes.filterMap (·.logo) },
   { kind := .background, clips := scenes.map (·.background) }].filter (!·.isEmpty)

/-- The timeline of scenes laid out back to back. Its background is the colour of the first. -/
def ofScenes (insets : InsetProfile) (scenes : List Scene) : Except Rejection Timeline :=
  match scenes with
  | [] => .error .nothingToLayOut
  | first :: _ => do
    let (placed, duration) ← Scene.placeAll insets scenes 1 .zero
    .ok { background := first.backgroundColor, tracks := visualTracks placed, soundtrack := none,
          duration }

end Timeline

end Storyboard
