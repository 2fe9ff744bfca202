import Storyboard.Output
import Storyboard.Style

/-!
# Requests

What callers ask for: a single title card, a sequence of scenes, or a card that opens or closes a
video. Almost every field may be left out; what is made of that is decided when the request is
resolved, so that a request with something missing is understood first and rejected for the right
reason later.

The fields for audio and for output are the same in all three.
-/

namespace Storyboard

/-- One scene of a sequence. -/
structure SceneRequest where
  /-- The title. -/
  title : Option String := none
  /-- The line below the title. -/
  subtitle : Option String := none
  /-- The address of a picture. -/
  backgroundImage : Option String := none
  /-- The colour behind the text. -/
  backgroundColor : Option String := none
  /-- How many seconds the scene lasts. -/
  duration : Option Double := none
  /-- How the title is set. -/
  textStyle : Option TextStyle := none
  /-- Where the title stands. -/
  titlePosition : Option Position := none
  /-- The motion of the picture. -/
  effect : Option Effect := none
  /-- How the scene comes in, if not like the others. -/
  transitionIn : Option Transition := none
  /-- How the scene goes out, if not like the others. -/
  transitionOut : Option Transition := none
deriving DecidableEq, Repr

/-- The audio that is asked for. -/
structure AudioRequest where
  /-- The address of the music. -/
  musicRef : Option String := none
  /-- The address of the spoken text. -/
  voiceRef : Option String := none
  /-- How loud the music is. -/
  musicVolume : Option Double := none
  /-- How loud the voice is. -/
  voiceVolume : Option Double := none
deriving DecidableEq, Repr

/-- A single title card. -/
structure TitleRequest where
  /-- The title, which must be there. -/
  title : Option String := none
  /-- The line below the title. -/
  subtitle : Option String := none
  /-- The colour behind the text. -/
  backgroundColor : Option String := none
  /-- The address of a picture. -/
  backgroundImage : Option String := none
  /-- The audio. -/
  audio : AudioRequest := {}
  /-- How many seconds the card lasts. -/
  duration : Option Double := none
  /-- The words for the output. -/
  output : OutputTokens := {}
  /-- How the title is set. -/
  textStyle : Option TextStyle := none
  /-- Where the title stands. -/
  titlePosition : Option Position := none
  /-- The motion of the picture. -/
  effect : Option Effect := none
deriving DecidableEq, Repr

/-- A sequence of scenes. -/
structure ScenesRequest where
  /-- The scenes, of which there must be one. -/
  scenes : List SceneRequest := []
  /-- The audio. -/
  audio : AudioRequest := {}
  /-- The words for the output. -/
  output : OutputTokens := {}
  /-- How scenes come and go that do not say it themselves. -/
  transitionType : Option Transition := none
deriving DecidableEq, Repr

/-- Whether a card opens or closes a video. -/
inductive CardKind
  /-- It opens the video; the usual choice. -/
  | intro
  /-- It closes the video. -/
  | outro
deriving DecidableEq, Repr

instance : Vocabulary CardKind where
  all :=
    [.intro, .outro]
  word
    | .intro => "intro"
    | .outro => "outro"

/-- A card that opens or closes a video. -/
structure CardRequest where
  /-- Whether it opens or closes the video. -/
  kind : CardKind
  /-- The title. -/
  title : Option String := none
  /-- The line below the title. -/
  subtitle : Option String := none
  /-- The name of the channel, which takes the place of a missing title. -/
  channelName : Option String := none
  /-- A saying, which takes the place of a missing line below the title. -/
  tagline : Option String := none
  /-- The address of a logo. -/
  logoRef : Option String := none
  /-- The address of a picture. -/
  backgroundImage : Option String := none
  /-- The colour behind the text. -/
  backgroundColor : Option String := none
  /-- The audio. -/
  audio : AudioRequest := {}
  /-- How many seconds the card lasts. -/
  duration : Option Double := none
  /-- After how many seconds the text is there. -/
  fadeIn : Option Double := none
  /-- How many seconds before the end the text goes. -/
  fadeOut : Option Double := none
  /-- The words for the output. -/
  output : OutputTokens := {}
  /-- How the title is set. -/
  textStyle : Option TextStyle := none
  /-- The motion of the picture. -/
  effect : Option Effect := none
  /-- How the text comes and goes. -/
  transition : Option Transition := none
deriving DecidableEq, Repr

/-- Any request. -/
inductive VideoRequest
  /-- For a single title card. -/
  | singleTitle (request : TitleRequest)
  /-- For a sequence of scenes. -/
  | scenes (request : ScenesRequest)
  /-- For a card that opens or closes a video. -/
  | card (request : CardRequest)
deriving DecidableEq, Repr

/-- The forms of a video. -/
inductive VideoKind
  /-- A single title card. -/
  | singleTitle
  /-- A sequence of scenes. -/
  | scenes
  /-- A card that opens a video. -/
  | intro
  /-- A card that closes a video. -/
  | outro
deriving DecidableEq, Repr

instance : Vocabulary VideoKind where
  all := [.singleTitle, .scenes, .intro, .outro]
  word
    | .singleTitle => "single_title"
    | .scenes => "scenes"
    | .intro => "intro"
    | .outro => "outro"

namespace CardKind

/-- The form of a video with a card of the kind. -/
def videoKind : CardKind → VideoKind
  | .intro => .intro
  | .outro => .outro

end CardKind

namespace VideoRequest

/-- The form of the video that is asked for. -/
def kind : VideoRequest → VideoKind
  | .singleTitle _ => .singleTitle
  | .scenes _ => .scenes
  | .card r => r.kind.videoKind

end VideoRequest

end Storyboard
