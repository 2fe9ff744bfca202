import Storyboard.Style
import Storyboard.Time.Millis

/-!
# Scenes

A scene is one beat of a video: a background, and over it a title, a line below the title and a
logo, each of which may be missing. A scene has every setting decided; what a caller may leave open
is decided before a scene is made.
-/

namespace Storyboard

/-- One beat of a video. -/
structure Scene where
  /-- The title. -/
  title : Option String
  /-- The line below the title. -/
  subtitle : Option String
  /-- The address of the picture behind the text. -/
  backgroundImage : Option String
  /-- The colour behind the text where there is no picture. -/
  backgroundColor : String
  /-- How long the scene lasts. -/
  duration : Millis
  /-- How the title is set. -/
  textStyle : TextStyle
  /-- Where the title stands. -/
  titlePosition : Position
  /-- The motion of the picture. -/
  effect : Option Effect
  /-- How the scene comes in. -/
  transitionIn : Transition
  /-- How the scene goes out. -/
  transitionOut : Transition
  /-- How title and subtitle come and go, if not like the scene. -/
  textTransition : Option Transition
  /-- The address of a logo that is shown all the time. -/
  logo : Option String
deriving DecidableEq, Repr

namespace Scene

/-- The colour of a background that nobody chose. -/
def defaultColor : String := "#000000"

/-- A scene of the given length with nothing in it. -/
def plain (duration : Millis) : Scene where
  title := none
  subtitle := none
  backgroundImage := none
  backgroundColor := defaultColor
  duration := duration
  textStyle := .minimal
  titlePosition := .center
  effect := none
  transitionIn := .fade
  transitionOut := .fade
  textTransition := none
  logo := none

end Scene

end Storyboard
