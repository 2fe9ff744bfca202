import Storyboard.Scene

/-!
# Timelines

A timeline is what the render engine is given: tracks of clips, topmost first, over a background
colour, and perhaps music below it all. The window of a clip is counted from the start of the
timeline.

The kind of a track and the duration of the timeline are known only here; the engine finds out its
own.
-/

namespace Storyboard

/-- What a clip shows or plays. -/
inductive Asset
  /-- A picture at an address. -/
  | image (src : String)
  /-- One colour. -/
  | color (color : String)
  /-- A text. -/
  | title (text : String) (style : TextStyle) (color : Option String) (position : Position)
  /-- A sound at an address. -/
  | audio (src : String) (volume : Double)
deriving DecidableEq, Repr

namespace Asset

/-- Whether an asset is heard and not seen. -/
def isAudio : Asset → Bool
  | .audio .. => true
  | _ => false

end Asset

/-- How a clip comes and goes. -/
structure ClipTransition where
  /-- How it comes in. -/
  incoming : Option Transition := none
  /-- How it goes out. -/
  outgoing : Option Transition := none
deriving DecidableEq, Repr

namespace ClipTransition

/-- A clip that comes and goes as given. -/
def between (incoming outgoing : Transition) : ClipTransition := ⟨some incoming, some outgoing⟩

end ClipTransition

/-- Something that is shown or played for a while. -/
structure Clip where
  /-- What is shown or played. -/
  asset : Asset
  /-- When it starts. -/
  start : Millis
  /-- How long it lasts. -/
  length : Millis
  /-- How a picture is made to fit. -/
  fit : Option Fit := none
  /-- The motion of a picture. -/
  effect : Option Effect := none
  /-- How the clip comes and goes. -/
  transition : Option ClipTransition := none
  /-- Where it stands. -/
  position : Option Position := none
  /-- How large it is, as a part of the frame. -/
  scale : Option Double := none
deriving DecidableEq, Repr

namespace Clip

/-- The count of milliseconds at which a clip has ended. -/
def endCount (c : Clip) : Nat := c.start.count + c.length.count

/-- When a clip has ended, if that time has 64 bits. -/
def end? (c : Clip) : Option Millis := c.start.add? c.length

end Clip

/-- The layer that a track belongs to. It is known only here and not sent along. -/
inductive TrackKind
  /-- Titles. -/
  | title
  /-- Lines below titles. -/
  | subtitle
  /-- Logos. -/
  | overlay
  /-- Pictures and colours behind everything else. -/
  | background
  /-- Spoken text. -/
  | voice
deriving DecidableEq, Repr

instance : Vocabulary TrackKind where
  all :=
    [.title, .subtitle, .overlay, .background, .voice]
  word
    | .title => "title"
    | .subtitle => "subtitle"
    | .overlay => "overlay"
    | .background => "background"
    | .voice => "voice"

/-- How the music starts and ends. -/
inductive SoundtrackEffect
  /-- It starts softly. -/
  | fadeIn
  /-- It ends softly. -/
  | fadeOut
  /-- It starts and ends softly. -/
  | fadeInFadeOut
deriving DecidableEq, Repr

instance : Vocabulary SoundtrackEffect where
  all :=
    [.fadeIn, .fadeOut, .fadeInFadeOut]
  word
    | .fadeIn => "fadeIn"
    | .fadeOut => "fadeOut"
    | .fadeInFadeOut => "fadeInFadeOut"

/-- Clips of one layer. -/
structure Track where
  /-- The layer. -/
  kind : TrackKind
  /-- The clips in order. -/
  clips : List Clip
deriving DecidableEq, Repr

namespace Track

/-- Whether a track has no clips. -/
def isEmpty (t : Track) : Bool := t.clips.isEmpty

/-- When the last clip has ended: zero for a track without clips, and none if some clip ends beyond
64 bits. -/
def end? (t : Track) : Option Millis :=
  (t.clips.mapM Clip.end?).map fun ends =>
    ends.foldl (fun a b => if a.count ≤ b.count then b else a) .zero

/-- Whether each of the clips starts when the one before it has ended, or later. -/
def inOrder : List Clip → Bool
  | a :: b :: rest => decide (a.endCount ≤ b.start.count) && inOrder (b :: rest)
  | _ => true

/-- Whether no two neighbours on a track overlap. -/
def isNonOverlapping (t : Track) : Bool := inOrder t.clips

end Track

/-- Music below the whole timeline. -/
structure Soundtrack where
  /-- Its address. -/
  src : String
  /-- How loud it is. -/
  volume : Double
  /-- How it starts and ends. -/
  effect : SoundtrackEffect
deriving DecidableEq, Repr

/-- All that the render engine is to show and play. -/
structure Timeline where
  /-- The colour behind every track. -/
  background : String
  /-- The tracks, topmost first. -/
  tracks : List Track
  /-- The music. -/
  soundtrack : Option Soundtrack
  /-- How long it lasts. -/
  duration : Millis
deriving DecidableEq, Repr

namespace Timeline

/-- The first track of a kind. -/
def track? (t : Timeline) (kind : TrackKind) : Option Track := t.tracks.find? (·.kind = kind)

/-- All clips, track after track. -/
def clips (t : Timeline) : List Clip := t.tracks.flatMap (·.clips)

/-- The clips of a layer; none if there is no such track. -/
def clipsOf (t : Timeline) (kind : TrackKind) : List Clip :=
  match t.track? kind with
  | some track => track.clips
  | none => []

end Timeline

end Storyboard
