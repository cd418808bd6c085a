/-!
# The screen

The screen is a grid of 64 by 32 pixels, kept as one 64-bit word per row with the leftmost pixel in
the top bit. A sprite row is combined with the screen by exclusive or, and pixels that would lie
beyond the right edge are dropped by the shift that moves the row into place.
-/

namespace Hexscope

/-- The number of pixels in a row. -/
def Screen.width : Nat := 64

/-- The number of rows. -/
def Screen.height : Nat := 32

/-- The pixels, row by row from the top. -/
structure Screen where
  rows : Vector (BitVec 64) 32
deriving DecidableEq, Repr

namespace Screen

/-- No pixel is lit. -/
def blank : Screen := ⟨Vector.replicate 32 0⟩

instance : Inhabited Screen := ⟨blank⟩

/-- A row; rows below the bottom are dark. -/
def row (s : Screen) (y : Nat) : BitVec 64 := if h : y < 32 then s.rows[y] else 0

/-- Whether a pixel is lit. -/
def pixel (s : Screen) (x y : Nat) : Bool := (s.row y).getMsbD x

/-- Replaces a row, if there is one. -/
def setRow (s : Screen) (y : Nat) (r : BitVec 64) : Screen :=
  if h : y < 32 then ⟨s.rows.set y r⟩ else s

/-- A sprite row moved right by `x` pixels. -/
def place (x : Nat) (sprite : UInt8) : BitVec 64 :=
  (BitVec.ofNat 64 (sprite.toNat <<< 56)) >>> x

/-- Draws a sprite row. The answer tells whether it met a lit pixel. Rows below the bottom are
dropped. -/
def drawRow (s : Screen) (x y : Nat) (sprite : UInt8) : Screen × Bool :=
  if y < height then
    let old := s.row y
    let new := place x sprite
    (s.setRow y (old ^^^ new), old &&& new ≠ 0)
  else (s, false)

@[simp] theorem row_blank (y : Nat) : blank.row y = 0 := by
  unfold row blank
  split <;> simp

theorem row_setRow (s : Screen) {y : Nat} (h : y < 32) (r : BitVec 64) (z : Nat) :
    (s.setRow y r).row z = if z = y then r else s.row z := by
  unfold row setRow
  by_cases hz : z < 32
  · by_cases e : z = y
    · subst e; simp [h]
    · have : ¬ y = z := fun h => e h.symm
      simp [h, hz, e, this]
  · have : z ≠ y := by omega
    simp [hz, this]

/-- Only pixels of the grid are lit. -/
theorem lt_of_pixel {s : Screen} {x y : Nat} (h : s.pixel x y = true) : x < 64 ∧ y < 32 := by
  unfold pixel row at h
  constructor
  · apply Decidable.byContradiction
    intro far
    rw [BitVec.getMsbD_of_ge _ _ (by omega)] at h
    cases h
  · apply Decidable.byContradiction
    intro low
    rw [dif_neg low] at h
    simp at h

/-- The rows with a lit pixel, with their numbers, from the top. -/
def litRows (s : Screen) : List (Nat × BitVec 64) :=
  (List.range 32).filterMap fun y => if s.row y = 0 then none else some (y, s.row y)

/-- The lit pixels as pairs of column and row, row by row from the left. -/
def litPixels (s : Screen) : List (Nat × Nat) :=
  (List.range 32).flatMap fun y =>
    (List.range 64).filterMap fun x => if s.pixel x y then some (x, y) else none

end Screen

end Hexscope
