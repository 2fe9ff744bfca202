import Storyboard.Vocabulary

/-!
# Style

The settings for the look of a video: transitions between clips, motion effects, text styles,
positions within the frame and ways to fit a picture into it.
-/

namespace Storyboard

/-- A transition at the start or the end of a clip. -/
inductive Transition
  /-- Through transparency. -/
  | fade
  /-- Through transparency, slowly. -/
  | fadeSlow
  /-- Through transparency, fast. -/
  | fadeFast
  /-- By uncovering. -/
  | reveal
  /-- By an edge that moves left. -/
  | wipeLeft
  /-- By an edge that moves right. -/
  | wipeRight
  /-- By moving left. -/
  | slideLeft
  /-- By moving right. -/
  | slideRight
  /-- By moving up. -/
  | slideUp
  /-- By moving down. -/
  | slideDown
  /-- By growing or shrinking. -/
  | zoom
deriving DecidableEq, Repr

instance : Vocabulary Transition where
  all :=
    [.fade, .fadeSlow, .fadeFast, .reveal, .wipeLeft, .wipeRight, .slideLeft, .slideRight,
     .slideUp, .slideDown, .zoom]
  word
    | .fade => "fade"
    | .fadeSlow => "fadeSlow"
    | .fadeFast => "fadeFast"
    | .reveal => "reveal"
    | .wipeLeft => "wipeLeft"
    | .wipeRight => "wipeRight"
    | .slideLeft => "slideLeft"
    | .slideRight => "slideRight"
    | .slideUp => "slideUp"
    | .slideDown => "slideDown"
    | .zoom => "zoom"

/-- A motion that a clip keeps for its whole length. -/
inductive Effect
  /-- Towards the picture. -/
  | zoomIn
  /-- Away from the picture. -/
  | zoomOut
  /-- Moving left. -/
  | slideLeft
  /-- Moving right. -/
  | slideRight
  /-- Moving up. -/
  | slideUp
  /-- Moving down. -/
  | slideDown
deriving DecidableEq, Repr

instance : Vocabulary Effect where
  all :=
    [.zoomIn, .zoomOut, .slideLeft, .slideRight, .slideUp, .slideDown]
  word
    | .zoomIn => "zoomIn"
    | .zoomOut => "zoomOut"
    | .slideLeft => "slideLeft"
    | .slideRight => "slideRight"
    | .slideUp => "slideUp"
    | .slideDown => "slideDown"

/-- A way of setting text. -/
inductive TextStyle
  /-- Plain; the usual choice. -/
  | minimal
  /-- As on film posters. -/
  | blockbuster
  /-- As in magazines. -/
  | vogue
  /-- As drawn. -/
  | sketchy
  /-- Thin. -/
  | skinny
  /-- Heavy. -/
  | chunk
  /-- Wide. -/
  | chunkLight
  /-- As with a marker. -/
  | marker
  /-- Technical. -/
  | future
  /-- Small, for the line below a title. -/
  | subtitle
deriving DecidableEq, Repr

instance : Vocabulary TextStyle where
  all :=
    [.minimal, .blockbuster, .vogue, .sketchy, .skinny, .chunk, .chunkLight, .marker, .future,
     .subtitle]
  word
    | .minimal => "minimal"
    | .blockbuster => "blockbuster"
    | .vogue => "vogue"
    | .sketchy => "sketchy"
    | .skinny => "skinny"
    | .chunk => "chunk"
    | .chunkLight => "chunkLight"
    | .marker => "marker"
    | .future => "future"
    | .subtitle => "subtitle"

/-- A place within the frame. -/
inductive Position
  /-- The middle of the upper edge. -/
  | top
  /-- The upper right corner. -/
  | topRight
  /-- The middle of the right edge. -/
  | right
  /-- The lower right corner. -/
  | bottomRight
  /-- The middle of the lower edge. -/
  | bottom
  /-- The lower left corner. -/
  | bottomLeft
  /-- The middle of the left edge. -/
  | left
  /-- The upper left corner. -/
  | topLeft
  /-- The middle of the frame; the usual choice. -/
  | center
deriving DecidableEq, Repr

instance : Vocabulary Position where
  all :=
    [.top, .topRight, .right, .bottomRight, .bottom, .bottomLeft, .left, .topLeft, .center]
  word
    | .top => "top"
    | .topRight => "topRight"
    | .right => "right"
    | .bottomRight => "bottomRight"
    | .bottom => "bottom"
    | .bottomLeft => "bottomLeft"
    | .left => "left"
    | .topLeft => "topLeft"
    | .center => "center"

/-- How a picture is made to fit the frame. -/
inductive Fit
  /-- Fills the frame and may lose its edges; the usual choice. -/
  | cover
  /-- Is seen whole and may leave room. -/
  | contain
  /-- Is cut to the frame without a change of scale. -/
  | crop
  /-- Stays as it is. -/
  | none
deriving DecidableEq, Repr

instance : Vocabulary Fit where
  all :=
    [.cover, .contain, .crop, .none]
  word
    | .cover => "cover"
    | .contain => "contain"
    | .crop => "crop"
    | .none => "none"

end Storyboard
