import Mathlib.Data.List.Nodup
import Mathlib.Order.Bounds.Basic
import Hexscope.Window.Canvas

/-!
# The painting of a screen

On a canvas that has room for a point per pixel, the screen is painted as a grid of squares of one side, as large
as whole points allow, in the middle of the canvas (`Canvas.ScaledCopy`).

* `Screen.mem_litPixels`, `Screen.nodup_litPixels`: the lit pixels, each once;
* `Canvas.isGreatest_scale`: the side of the squares is the largest with which the screen fits;
* `Box.eq_of_covers_tile`, `Box.Covers.mem_canvas`: the squares of a grid do not overlap, and lie in the canvas if
  the grid does;
* `Canvas.exists_scaledCopy`: a painting is a scaled copy of the screen.
-/

namespace Hexscope

namespace Screen

variable {s : Screen}

theorem mem_litPixels {x y : Nat} : (x, y) ∈ s.litPixels ↔ s.pixel x y = true := by
  simp only [litPixels, List.mem_flatMap, List.mem_filterMap, List.mem_range]
  constructor
  · rintro ⟨y', -, x', -, found⟩
    split at found <;> cases found
    assumption
  · intro lit
    obtain ⟨wide, high⟩ := lt_of_pixel lit
    exact ⟨y, high, x, wide, if_pos lit⟩

/-- Each lit pixel is there once: rows differ in the second number, and the pixels of a row in the first. -/
theorem nodup_litPixels (s : Screen) : s.litPixels.Nodup := by
  rw [litPixels, List.nodup_flatMap]
  constructor
  · intro y _
    refine List.nodup_range.filterMap fun x x' p here there => ?_
    rw [Option.mem_def] at here there
    split at here <;> cases here
    split at there <;> cases there
    rfl
  · refine List.nodup_range.imp fun {y y'} ne => ?_
    show List.Disjoint _ _
    rw [List.disjoint_left]
    intro p here there
    obtain ⟨x, -, here⟩ := List.mem_filterMap.mp here
    obtain ⟨x', -, there⟩ := List.mem_filterMap.mp there
    split at here <;> cases here
    split at there <;> cases there
    exact ne rfl

end Screen

namespace Box

/-- Whether a box covers a point. -/
def Covers (b : Box) (x y : Int) : Prop := (b.x ≤ x ∧ x < b.x + b.width) ∧ b.y ≤ y ∧ y < b.y + b.height

/-- The square of a pixel in a grid of squares of a side that begins at a point. -/
def tile (side left top : Int) (colour : Text) (pixel : Nat × Nat) : Box :=
  ⟨left + pixel.1 * side, top + pixel.2 * side, side, side, colour⟩

variable {side left top a x y : Int} {colour : Text} {p q : Nat × Nat}

/-- A point lies in one column of a grid only, and so in one row. -/
theorem le_of_mem_strips {i j : Nat} (before : left + i * side ≤ a) (behind : a < left + j * side + side)
    (pos : 0 < side) : i ≤ j := by
  have next : (i : Int) * side < ((j : Int) + 1) * side := by
    rw [Int.add_mul, Int.one_mul]
    omega
  have := Int.lt_of_mul_lt_mul_right next (Int.le_of_lt pos)
  omega

/-- The squares of different pixels have no point in common. -/
theorem eq_of_covers_tile (here : (tile side left top colour p).Covers x y)
    (there : (tile side left top colour q).Covers x y) : p = q := by
  obtain ⟨⟨x₀, x₁⟩, y₀, y₁⟩ := here
  obtain ⟨⟨x₂, x₃⟩, y₂, y₃⟩ := there
  dsimp only [tile] at x₀ x₁ x₂ x₃ y₀ y₁ y₂ y₃
  have pos : 0 < side := by omega
  have columns : p.1 = q.1 :=
    Nat.le_antisymm (le_of_mem_strips x₀ x₃ pos) (le_of_mem_strips x₂ x₁ pos)
  have rows : p.2 = q.2 :=
    Nat.le_antisymm (le_of_mem_strips y₀ y₃ pos) (le_of_mem_strips y₂ y₁ pos)
  exact Prod.ext columns rows

/-- A strip of a grid lies inside of every range that the grid lies in. -/
theorem mem_range_of_mem_strip {i n : Nat} {extent : Int} (lt : i < n) (low : 0 ≤ left)
    (high : left + n * side ≤ extent) (before : left + i * side ≤ a) (behind : a < left + i * side + side) :
    0 ≤ a ∧ a < extent := by
  have nonneg : 0 ≤ side := by omega
  have first : 0 ≤ (i : Int) * side := Int.mul_nonneg (Int.natCast_nonneg i) nonneg
  have last : ((i : Int) + 1) * side ≤ n * side := Int.mul_le_mul_of_nonneg_right (by omega) nonneg
  rw [Int.add_mul, Int.one_mul] at last
  omega

/-- The squares of a grid lie in the canvas if the grid does. -/
theorem Covers.mem_canvas {columns rows : Nat} {w h : Int} (inside : (tile side left top colour p).Covers x y)
    (column : p.1 < columns) (row : p.2 < rows) (horizontal : 0 ≤ left ∧ left + columns * side ≤ w)
    (vertical : 0 ≤ top ∧ top + rows * side ≤ h) : (0 ≤ x ∧ x < w) ∧ 0 ≤ y ∧ y < h := by
  obtain ⟨⟨x₀, x₁⟩, y₀, y₁⟩ := inside
  exact ⟨mem_range_of_mem_strip column horizontal.1 horizontal.2 x₀ x₁,
    mem_range_of_mem_strip row vertical.1 vertical.2 y₀ y₁⟩

end Box

namespace Canvas

variable {c : Canvas} {f : Screen} {w h : Int}

/-- The side of the squares is the largest one with which the screen fits. -/
theorem isGreatest_scale (wide : 64 ≤ w) (high : 32 ≤ h) :
    IsGreatest {k : Int | 64 * k ≤ w ∧ 32 * k ≤ h} (scale w h) := by
  have largest : scale w h = max 1 (min (w / 64) (h / 32)) := rfl
  rw [largest]
  constructor
  · rw [Set.mem_ofPred_eq]
    omega
  · rintro k ⟨fits, fits'⟩
    omega

/-- What is left of an extent is shared by the two margins, the first of which is at most one point smaller. -/
theorem margins {extent side : Int} (count : Nat) (fits : count * side ≤ extent) :
    let first := origin extent side count
    let second := extent - (first + count * side)
    0 ≤ first ∧ first ≤ second ∧ second ≤ first + 1 := by
  simp only [origin]
  omega

/-- Boxes on a canvas that show a screen in a grid of squares of a side that begins at a point. -/
structure ScaledCopy (f : Screen) (w h : Int) (colour : Text) (side left top : Int) (boxes : List Box) : Prop where
  /-- No larger squares fit. -/
  greatest : IsGreatest {k : Int | 64 * k ≤ w ∧ 32 * k ≤ h} side
  /-- There is one square for each lit pixel, and nothing else. -/
  squares : ∃ pixels : List (Nat × Nat), pixels.Nodup ∧ (∀ x y, (x, y) ∈ pixels ↔ f.pixel x y = true) ∧
    boxes = pixels.map (Box.tile side left top colour)
  /-- The squares of different pixels have no point in common. -/
  apart : ∀ (p q : Nat × Nat) (x y : Int), (Box.tile side left top colour p).Covers x y →
    (Box.tile side left top colour q).Covers x y → p = q
  /-- All squares lie inside of the canvas. -/
  inside : ∀ b ∈ boxes, ∀ x y, b.Covers x y → (0 ≤ x ∧ x < w) ∧ 0 ≤ y ∧ y < h
  /-- The margins at the left and at the right are equal, or the right one is larger by a point. -/
  horizontal : left ≤ w - (left + 64 * side) ∧ w - (left + 64 * side) ≤ left + 1
  /-- The margins at the top and at the bottom are equal, or the lower one is larger by a point. -/
  vertical : top ≤ h - (top + 32 * side) ∧ h - (top + 32 * side) ≤ top + 1

/-- A canvas that has room for a point per pixel is painted with its background and then with a scaled copy of
its screen. -/
theorem exists_scaledCopy (shown : c.frame = some f) (wide : 64 ≤ w) (high : 32 ≤ h) :
    ∃ side left top boxes, c.paint w h = ⟨0, 0, w, h, c.off⟩ :: boxes ∧
      ScaledCopy f w h c.on side left top boxes := by
  have greatest := isGreatest_scale wide high
  obtain ⟨left₀, left₁, left₂⟩ := margins 64 greatest.1.1
  obtain ⟨top₀, top₁, top₂⟩ := margins 32 greatest.1.2
  have squares : c.squares w h = f.litPixels.map (Box.tile (scale w h) (origin w (scale w h) 64)
      (origin h (scale w h) 32) c.on) := by
    rw [Canvas.squares, shown]
    rfl
  refine ⟨scale w h, origin w (scale w h) 64, origin h (scale w h) 32, c.squares w h, rfl,
    greatest, ⟨f.litPixels, f.nodup_litPixels, fun _ _ => Screen.mem_litPixels, squares⟩,
    fun _ _ _ _ => Box.eq_of_covers_tile, fun b hb x y covers => ?_, ⟨left₁, left₂⟩, ⟨top₁, top₂⟩⟩
  rw [squares, List.mem_map] at hb
  obtain ⟨⟨i, j⟩, lit, rfl⟩ := hb
  obtain ⟨column, row⟩ := Screen.lt_of_pixel (Screen.mem_litPixels.mp lit)
  exact covers.mem_canvas column row ⟨left₀, by omega⟩ ⟨top₀, by omega⟩

/-- A canvas on which the first and the last pixel are lit. -/
def corners : Canvas :=
  blank.showFrame (some ((Screen.blank.setRow 0 0x8000000000000000#64).setRow 31 1#64))

/-- With 201 by 71 points there is room for squares of two points. -/
theorem scaledCopy_corners : ∃ f side left top boxes, corners.frame = some f ∧ 64 ≤ (201 : Int) ∧ 32 ≤ (71 : Int) ∧
    corners.paint 201 71 = ⟨0, 0, 201, 71, corners.off⟩ :: boxes ∧
    ScaledCopy f 201 71 corners.on side left top boxes ∧
    side = 2 ∧ boxes = [⟨36, 3, 2, 2, corners.on⟩, ⟨162, 65, 2, 2, corners.on⟩] := by
  obtain ⟨side, left, top, boxes, painted, copy⟩ :=
    exists_scaledCopy (c := corners) (w := 201) (h := 71) rfl (by decide) (by decide)
  refine ⟨_, side, left, top, boxes, rfl, by decide, by decide, painted, copy, ?_, ?_⟩
  · exact copy.greatest.unique (isGreatest_scale (by decide) (by decide))
  · have painting : corners.paint 201 71 = [⟨0, 0, 201, 71, corners.off⟩, ⟨36, 3, 2, 2, corners.on⟩,
        ⟨162, 65, 2, 2, corners.on⟩] := by decide +kernel
    rw [painting] at painted
    injection painted with _ squares
    exact squares.symm

end Canvas

end Hexscope
