import Hexscope.Config.Palette
import Hexscope.Screen
import Hexscope.Text.Lowercase

/-!
# The canvas

The canvas paints the screen as large as whole pixels allow and centres it. A painting is a list of
boxes: the background first, and then a square for each lit pixel, row by row from the left. Before
the first frame there is nothing but the background.
-/

namespace Hexscope

/-- A filled rectangle. -/
structure Box where
  x : Int
  y : Int
  width : Int
  height : Int
  colour : Text
deriving DecidableEq, Repr

/-- The frame that is shown, its colours, and how often the canvas asked to be painted anew. -/
structure Canvas where
  frame : Option Screen
  on : Text
  off : Text
  updates : Nat
deriving DecidableEq, Repr

namespace Canvas

/-- The text of a colour on the canvas, which is in lower case. -/
def colour (s : Text) : Text := s.lowercase

/-- A canvas in black and white that shows no frame yet. -/
def blank : Canvas := ⟨none, colour "#FFFFFF", colour "#000000", 0⟩

instance : Inhabited Canvas := ⟨blank⟩

/-- Asks to be painted anew. -/
def update (c : Canvas) : Canvas := { c with updates := c.updates + 1 }

/-- Takes the colours of a palette. -/
def setPalette (c : Canvas) (p : Palette) : Canvas :=
  { c with on := colour p.on, off := colour p.off }.update

/-- Shows a frame, or none. -/
def showFrame (c : Canvas) (frame : Option Screen) : Canvas := { c with frame }.update

/-- A canvas in the colours of a palette, if one is given. -/
def ofPalette (p : Option Palette) : Canvas := p.elim blank blank.setPalette

/-- The size that suits the canvas. -/
def preferredSize : Nat × Nat := (10 * Screen.width, 10 * Screen.height)

/-- The size below which the canvas does not shrink. -/
def minimumSize : Nat × Nat := (4 * Screen.width, 4 * Screen.height)

/-! ## Painting -/

/-- The side of a square on a canvas of a size: the largest one with which the screen fits, and at
least one. -/
def scale (width height : Int) : Int := max 1 (min (width / Screen.width) (height / Screen.height))

/-- Where the screen begins when `count` squares of a side are centred in an extent. -/
def origin (extent side : Int) (count : Nat) : Int := (extent - count * side) / 2

/-- The square of a pixel on a canvas of a size. -/
def square (c : Canvas) (width height : Int) (pixel : Nat × Nat) : Box :=
  let side := scale width height
  ⟨origin width side Screen.width + pixel.1 * side,
    origin height side Screen.height + pixel.2 * side, side, side, c.on⟩

/-- The squares of the lit pixels on a canvas of a size. -/
def squares (c : Canvas) (width height : Int) : List Box :=
  (c.frame.elim [] Screen.litPixels).map (c.square width height)

/-- The painting on a canvas of a size. -/
def paint (c : Canvas) (width height : Int) : List Box :=
  ⟨0, 0, width, height, c.off⟩ :: c.squares width height

end Canvas

end Hexscope
