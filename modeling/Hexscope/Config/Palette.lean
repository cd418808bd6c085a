import Hexscope.Text

/-!
# Palettes

A palette names a colour for lit pixels and one for dark pixels. Four palettes are built in.
-/

namespace Hexscope

/-- The colours of the screen. -/
structure Palette where
  id : Text
  name : Text
  /-- The colour of a lit pixel. -/
  on : Text
  /-- The colour of a dark pixel. -/
  off : Text
deriving DecidableEq, Repr

namespace Palette

/-- The dark colour of the tinted palettes. -/
def nearBlack : Text := "#282828"

/-- The palettes that every machine knows. -/
def builtin : List Palette :=
  [⟨"1_bw", "Black & White", "#FFFFFF", "#000000"⟩,
   ⟨"2_amber", "Amber", "#FFB000", nearBlack⟩,
   ⟨"3_amber_2", "Light Amber", "#FFCC00", nearBlack⟩,
   ⟨"4_green", "Apple ][", "#33FF33", nearBlack⟩]

/-- The palette of a machine that names none. -/
def standardId : Text := "1_bw"

/-- The palette with an identifier, or the first one if there is none. -/
def choose? (palettes : List Palette) (id : Text) : Option Palette :=
  (palettes.find? (·.id = id)).or palettes.head?

end Palette

end Hexscope
