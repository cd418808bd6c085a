import Hexscope.Proofs.Instruction.Form
import Hexscope.Proofs.Bus.Log
import Hexscope.Proofs.Machine.Range

/-!
# Drawing

A drawing combines the rows of a sprite with rows of the screen, one after the other. No two rows of a sprite
lie in the same row of the screen, so every pixel is met at most once, and the whole is a single exclusive or.

* `Screen.drawRow_eq`: the word that is put over a row of the screen does what its bits do one by one, each
  toggling a pixel if it is set and lies within the screen;
* `Screen.pixel_drawRows`, `Screen.met_drawRows`: what a list of rows does to each pixel, and when one of
  them meets a lit pixel;
* `Board.sprite_iff`: the pixels of the sprite at the index, and the rows they come from;
* `Opcode.draws_twice`: a drawing inverts the pixels of its sprite, and made again it takes itself back.
-/

namespace Hexscope

namespace Screen

variable {s t : Screen}

/-- Screens with the same pixels are equal. -/
theorem ext_pixel (h : ∀ (r : Fin 32) (c : Fin 64), s.pixel c r = t.pixel c r) : s = t := by
  obtain ⟨rows⟩ := s
  obtain ⟨others⟩ := t
  congr 1
  refine Vector.ext fun r hr => BitVec.eq_of_getMsbD_eq fun c hc => ?_
  simpa only [pixel, row, hr, dite_true] using h ⟨r, hr⟩ ⟨c, hc⟩

/-- The bits of a sprite row that was moved into place. -/
theorem getMsbD_place (x : Nat) (sprite : UInt8) {c : Nat} (hc : c < 64) :
    (place x sprite).getMsbD c =
      (decide (x ≤ c ∧ c < x + 8) && sprite.toNat.testBit (7 - (c - x))) := by
  have leftmost {j : Nat} (hj : j < 64) : (BitVec.ofNat 64 (sprite.toNat <<< 56)).getMsbD j =
      (decide (j < 8) && sprite.toNat.testBit (7 - j)) := by
    rw [BitVec.getMsbD_eq_getLsbD, BitVec.getLsbD_ofNat, Nat.testBit_shiftLeft]
    have low : decide (64 - 1 - j ≥ 56) = decide (j < 8) := by
      rw [decide_eq_decide]
      omega
    have index : 64 - 1 - j - 56 = 7 - j := by omega
    have inside : 64 - 1 - j < 64 := by omega
    rw [low, index, decide_eq_true hj, decide_eq_true inside, Bool.true_and, Bool.true_and]
  have columns : (!decide (c < x) && decide (c - x < 8)) = decide (x ≤ c ∧ c < x + 8) := by
    rw [Bool.eq_iff_iff]
    simp only [Bool.and_eq_true, Bool.not_eq_true', decide_eq_false_iff_not, decide_eq_true_eq]
    omega
  rw [place, BitVec.getMsbD_ushiftRight, decide_eq_true hc, Bool.true_and,
    leftmost (by omega), ← Bool.and_assoc, columns]

theorem pixel_drawRow (s : Screen) (x y : Nat) (sprite : UInt8) {r : Nat} (hr : r < 32) (c : Nat) :
    (s.drawRow x y sprite).1.pixel c r =
      (s.pixel c r ^^ (decide (r = y) && (place x sprite).getMsbD c)) := by
  unfold drawRow
  split
  · rename_i hy
    simp only [pixel, row_setRow s hy]
    by_cases e : r = y
    · subst e
      simp
    · simp [e]
  · rename_i hy
    have : r ≠ y := by
      rintro rfl
      exact hy hr
    simp [this]

/-- A sprite row meets a lit pixel. -/
theorem met_drawRow (s : Screen) (x y : Nat) (sprite : UInt8) :
    (s.drawRow x y sprite).2 = true ↔
      y < 32 ∧ ∃ c : Fin 64, s.pixel c y = true ∧ (place x sprite).getMsbD c = true := by
  unfold drawRow
  split
  · rename_i hy
    have lit (v : BitVec 64) : v ≠ 0 ↔ ∃ c : Fin 64, v.getMsbD c = true := by
      have zero (c : Nat) : (0 : BitVec 64).getMsbD c = false := BitVec.getMsbD_zero
      constructor
      · intro nonzero
        by_contra none
        refine nonzero (BitVec.eq_of_getMsbD_eq fun c hc => ?_)
        rw [zero, ← Bool.not_eq_true]
        exact fun h => none ⟨⟨c, hc⟩, h⟩
      · rintro ⟨c, h⟩ rfl
        rw [zero] at h
        cases h
    simp only [decide_eq_true_eq, lit, BitVec.getMsbD_and, Bool.and_eq_true, pixel]
    exact ⟨fun h => ⟨hy, h⟩, fun h => h.2⟩
  · rename_i hy
    exact iff_of_false Bool.false_ne_true fun h => hy h.1

/-- Lights a pixel or makes it dark. -/
def setPixel (s : Screen) (c y : Nat) (lit : Bool) : Screen :=
  let only := BitVec.twoPow 64 (63 - c)
  s.setRow y (if lit then s.row y ||| only else s.row y &&& ~~~only)

theorem pixel_setPixel (s : Screen) {c y : Nat} (hc : c < 64) (hy : y < 32) (lit : Bool) {d : Nat}
    (hd : d < 64) (r : Nat) :
    (s.setPixel c y lit).pixel d r = if d = c ∧ r = y then lit else s.pixel d r := by
  have only : (BitVec.twoPow 64 (63 - c)).getMsbD d = decide (d = c) := by
    rw [BitVec.getMsbD_eq_getLsbD, BitVec.getLsbD_twoPow, decide_eq_true hd, Bool.true_and,
      Bool.eq_iff_iff]
    simp only [Bool.and_eq_true, decide_eq_true_eq]
    omega
  unfold pixel setPixel
  rw [row_setRow s hy]
  by_cases row : r = y
  · subst row
    by_cases column : d = c
    · subst column
      cases lit <;> simp [only]
    · cases lit <;> simp [only, column, hd]
  · simp [row]

/-- Draws the bits of a row of a sprite one after the other, from a column on. What lies beyond the right
edge and what is not set is passed over; a lit pixel goes dark, which is a hit, and a dark one is lit. -/
def drawBits (s : Screen) (y : Nat) (hit : Bool) (c : Nat) : List Bool → Screen × Bool
  | [] => (s, hit)
  | bit :: bits =>
    if c ≥ width ∨ bit = false then s.drawBits y hit (c + 1) bits
    else if s.pixel c y then (s.setPixel c y false).drawBits y true (c + 1) bits
    else (s.setPixel c y true).drawBits y hit (c + 1) bits

/-- The bit that comes to lie in the column `d` when the first one lies in the column `c`. -/
def bitAt (d c : Nat) : List Bool → Bool
  | [] => false
  | bit :: bits => if d = c then bit else bitAt d (c + 1) bits

theorem bitAt_cons_self (c : Nat) (bit : Bool) (bits : List Bool) : bitAt c c (bit :: bits) = bit :=
  if_pos rfl

theorem bitAt_cons_of_ne {d c : Nat} (h : d ≠ c) (bit : Bool) (bits : List Bool) :
    bitAt d c (bit :: bits) = bitAt d (c + 1) bits := if_neg h

theorem bitAt_eq (d c : Nat) (bits : List Bool) :
    bitAt d c bits = (decide (c ≤ d) && bits.getD (d - c) false) := by
  induction bits generalizing c with
  | nil => simp [bitAt]
  | cons bit bits ih =>
    by_cases same : d = c
    · subst same
      simp [bitAt_cons_self]
    · rw [bitAt_cons_of_ne same, ih]
      by_cases right : c + 1 ≤ d
      · have index : d - c = d - (c + 1) + 1 := by omega
        have : c ≤ d := by omega
        rw [index, List.getD_cons_succ, decide_eq_true right, decide_eq_true this]
      · have : ¬ c ≤ d := by omega
        rw [decide_eq_false right, decide_eq_false this, Bool.false_and, Bool.false_and]

theorem bitAt_self_succ (c : Nat) (bits : List Bool) : bitAt c (c + 1) bits = false := by
  rw [bitAt_eq, decide_eq_false (by omega), Bool.false_and]

/-- The bits of a byte come to lie where its word has them. -/
theorem bitAt_bits (x : Nat) (sprite : UInt8) {d : Nat} (hd : d < 64) :
    bitAt d x (Byte.bits sprite) = (place x sprite).getMsbD d := by
  rw [bitAt_eq, getMsbD_place x sprite hd, Byte.bits, List.getD_eq_getElem?_getD, List.getElem?_map]
  by_cases right : x ≤ d
  · by_cases inside : d < x + 8
    · have : d - x < 8 := by omega
      simp [right, inside, this]
    · have : 8 ≤ d - x := by omega
      simp [right, inside, this]
  · simp [right]

/-- A bit that is passed over lies in no column of the screen where it is set. -/
theorem bitAt_cons_of_skip {c d : Nat} {bit : Bool} (skip : c ≥ width ∨ bit = false) (hd : d < 64)
    (bits : List Bool) : bitAt d c (bit :: bits) = bitAt d (c + 1) bits := by
  unfold width at skip
  by_cases same : d = c
  · subst same
    rw [bitAt_cons_self, bitAt_self_succ]
    exact skip.resolve_left (by omega)
  · exact bitAt_cons_of_ne same bit bits

theorem lt_and_set_of_not_skip {c : Nat} {bit : Bool} (drawn : ¬ (c ≥ width ∨ bit = false)) :
    c < 64 ∧ bit = true := by
  obtain ⟨inside, set⟩ := not_or.mp drawn
  exact ⟨Nat.not_le.mp inside, Bool.eq_true_of_not_eq_false set⟩

theorem pixel_drawBits {y : Nat} (hy : y < 32) (hit : Bool) (c : Nat) (bits : List Bool) {d : Nat}
    (hd : d < 64) (r : Nat) : (s.drawBits y hit c bits).1.pixel d r =
      (s.pixel d r ^^ (decide (r = y) && bitAt d c bits)) := by
  have toggled (s : Screen) {c : Nat} (hc : c < 64) (bits : List Bool) :
      ((s.setPixel c y (!s.pixel c y)).pixel d r ^^ (decide (r = y) && bitAt d (c + 1) bits)) =
        (s.pixel d r ^^ (decide (r = y) && bitAt d c (true :: bits))) := by
    rw [pixel_setPixel s hc hy _ hd]
    by_cases same : d = c
    · subst same
      rw [bitAt_cons_self, bitAt_self_succ]
      by_cases row : r = y
      · subst row
        simp
      · simp [row]
    · rw [bitAt_cons_of_ne same, if_neg fun h => same h.1]
  fun_induction drawBits s y hit c bits with
  | case1 => simp [bitAt]
  | case2 s hit c bit bits skip ih => rw [ih, bitAt_cons_of_skip skip hd]
  | case3 s hit c bit bits drawn lit ih =>
    obtain ⟨hc, rfl⟩ := lt_and_set_of_not_skip drawn
    rw [ih, ← toggled s hc, lit, Bool.not_true]
  | case4 s hit c bit bits drawn dark ih =>
    obtain ⟨hc, rfl⟩ := lt_and_set_of_not_skip drawn
    rw [ih, ← toggled s hc, Bool.eq_false_of_not_eq_true dark, Bool.not_false]

theorem hit_drawBits {y : Nat} (hy : y < 32) (hit : Bool) (c : Nat) (bits : List Bool) :
    (s.drawBits y hit c bits).2 = true ↔
      hit = true ∨ ∃ d : Fin 64, s.pixel d y = true ∧ bitAt d c bits = true := by
  fun_induction drawBits s y hit c bits with
  | case1 => simp [bitAt]
  | case2 s hit c bit bits skip ih =>
    rw [ih]
    simp only [bitAt_cons_of_skip skip (Fin.isLt _)]
  | case3 s hit c bit bits drawn lit ih =>
    obtain ⟨hc, rfl⟩ := lt_and_set_of_not_skip drawn
    rw [ih]
    exact iff_of_true (.inl rfl) (.inr ⟨⟨c, hc⟩, lit, bitAt_cons_self ..⟩)
  | case4 s hit c bit bits drawn dark ih =>
    obtain ⟨hc, rfl⟩ := lt_and_set_of_not_skip drawn
    rw [ih]
    refine or_congr Iff.rfl (exists_congr fun d => ?_)
    rw [pixel_setPixel s hc hy _ d.isLt]
    by_cases same : d.val = c
    · rw [same, bitAt_self_succ]
      simp [dark]
    · rw [if_neg fun h => same h.1, bitAt_cons_of_ne same]

/-- A row of a sprite is drawn bit by bit, and not at all below the bottom. -/
theorem drawRow_eq (s : Screen) (x y : Nat) (sprite : UInt8) :
    s.drawRow x y sprite = if y ≥ height then (s, false) else s.drawBits y false x (Byte.bits sprite) := by
  by_cases hy : y < 32
  · have above : ¬ y ≥ height := Nat.not_le.mpr hy
    rw [if_neg above]
    refine Prod.ext (ext_pixel fun r d => ?_) (Bool.eq_iff_iff.mpr ?_)
    · rw [pixel_drawRow s x y sprite r.isLt, pixel_drawBits hy _ _ _ d.isLt, bitAt_bits x sprite d.isLt]
    · rw [met_drawRow, hit_drawBits hy]
      simp only [bitAt_bits x sprite (Fin.isLt _), hy, true_and, Bool.false_eq_true, false_or]
  · have below : y ≥ height := Nat.not_lt.mp hy
    rw [if_pos below]
    exact if_neg hy

/-- Draws rows of a sprite, given their numbers and their bytes. -/
def drawRows (s : Screen) (x y : Nat) (bytes : Nat → UInt8) : List Nat → Screen × Bool
  | [] => (s, false)
  | k :: ks =>
    let (s, met) := s.drawRow x (y + k) (bytes k)
    let (s, more) := s.drawRows x y bytes ks
    (s, met || more)

variable (x y : Nat) (bytes : Nat → UInt8) {rows : List Nat}

/-- Rows with different numbers meet each pixel at most once. -/
theorem pixel_drawRows (distinct : rows.Nodup) (s : Screen) {r : Nat} (hr : r < 32) (c : Nat) :
    (s.drawRows x y bytes rows).1.pixel c r = (s.pixel c r ^^
      rows.any fun k => decide (r = y + k) && (place x (bytes k)).getMsbD c) := by
  induction rows generalizing s with
  | nil => simp [drawRows]
  | cons k ks ih =>
    obtain ⟨first, rest⟩ := List.nodup_cons.mp distinct
    simp only [drawRows, ih rest, pixel_drawRow _ _ _ _ hr, List.any_cons]
    by_cases e : r = y + k
    · -- None of the other rows has this number.
      have others : ks.any (fun l => decide (r = y + l) && (place x (bytes l)).getMsbD c) = false := by
        rw [List.any_eq_false]
        intro l hl
        have : r ≠ y + l := by
          rintro same
          have : k = l := by omega
          exact first (this ▸ hl)
        simp [this]
      rw [others, Bool.xor_false, Bool.or_false]
    · simp [e]

theorem met_drawRows (distinct : rows.Nodup) (s : Screen) :
    (s.drawRows x y bytes rows).2 = true ↔ ∃ k ∈ rows, y + k < 32 ∧
      ∃ c : Fin 64, s.pixel c (y + k) = true ∧ (place x (bytes k)).getMsbD c = true := by
  induction rows generalizing s with
  | nil => simp [drawRows]
  | cons k ks ih =>
    obtain ⟨first, rest⟩ := List.nodup_cons.mp distinct
    have untouched (l : Nat) (hl : l ∈ ks) (below : y + l < 32) (c : Nat) :
        (s.drawRow x (y + k) (bytes k)).1.pixel c (y + l) = s.pixel c (y + l) := by
      have : y + l ≠ y + k := by
        intro same
        have : k = l := by omega
        exact first (this ▸ hl)
      rw [pixel_drawRow _ _ _ _ below, decide_eq_false this, Bool.false_and, Bool.xor_false]
    simp only [drawRows, Bool.or_eq_true, ih rest, met_drawRow, List.mem_cons,
      or_and_right, exists_or, exists_eq_left]
    refine or_congr Iff.rfl (exists_congr fun l => and_congr_right fun hl => and_congr_right fun below => ?_)
    simp only [untouched l hl below]

end Screen

/-- The bus after some addresses were read. -/
def Bus.afterReads (b : Bus) (as : List Int) : Bus := { b with log := b.log ++ Bus.reads b.peek as }

namespace Board

variable {b : Board}

/-- The rows of a sprite that can all be read are drawn with what is read. -/
theorem drawRows_eq {bytes : Nat → UInt8} {rows : List Nat}
    (found : ∀ k ∈ rows, b.bus.peek (b.state.i + k) = .ok (bytes k)) (x y : Nat) (hit : Bool) :
    b.drawRows x y hit rows =
      ({ b with
          bus := b.bus.afterReads (rows.map fun k : Nat => b.state.i + (k : Int))
          state := { b.state with screen := (b.state.screen.drawRows x y bytes rows).1 } },
        .ok (hit || (b.state.screen.drawRows x y bytes rows).2)) := by
  induction rows generalizing b hit with
  | nil => simp [drawRows, Bus.afterReads, Bus.reads, Screen.drawRows]
  | cons k ks ih =>
    have byte := found k (List.mem_cons_self ..)
    have read : b.bus.read (b.state.i + k) =
        .ok (bytes k, b.bus.record ⟨b.state.i + k, (bytes k).toNat, .read⟩) := by
      rw [Bus.read_eq, byte]
      rfl
    let first : Board := { b with
      bus := b.bus.record ⟨b.state.i + k, (bytes k).toNat, .read⟩
      state := { b.state with screen := (b.state.screen.drawRow x (y + k) (bytes k)).1 } }
    have rest := ih (b := first) (fun l hl => found l (List.mem_cons_of_mem _ hl))
      (hit || (b.state.screen.drawRow x (y + k) (bytes k)).2)
    simp only [drawRows, read]
    refine rest.trans ?_
    simp only [first, Bus.afterReads, Bus.record, Bus.reads, List.map_cons, Bus.byteAt, byte,
      Screen.drawRows, Bool.or_assoc, List.append_assoc]
    rfl

/-- Whether a sprite of `n` rows at the index, with its corner in the column Vx and the row Vy, has a pixel
in a row and a column of the screen. -/
def sprite (b : Board) (x y : Register) (n : Nat) (r : Fin 32) (c : Fin 64) : Bool :=
  let ox := (b.state.v.get x).toNat % 64
  let oy := (b.state.v.get y).toNat % 32
  decide (oy ≤ r ∧ r < oy + n ∧ ox ≤ c ∧ c < ox + 8) &&
    (Bus.byteAt b.bus.peek (b.state.i + r - oy)).toNat.testBit (7 - (c - ox))

/-- The byte of a row of the sprite at the index. -/
def spriteByte (b : Board) (k : Nat) : UInt8 := Byte.ofInt (Bus.byteAt b.bus.peek (b.state.i + k))

variable {x y : Register} {n : Nat} {r : Fin 32} {c : Fin 64}

/-- A sprite has a pixel where one of its rows has one. -/
theorem sprite_iff : b.sprite x y n r c = true ↔
    ∃ k ∈ List.range n, r.val = (b.state.v.get y).toNat % 32 + k ∧
      (Screen.place ((b.state.v.get x).toNat % 64) (b.spriteByte k)).getMsbD c = true := by
  have byte (k : Nat) : (b.spriteByte k).toNat = (Bus.byteAt b.bus.peek (b.state.i + k)).toNat := by
    rw [spriteByte, Bus.byteAt]
    split
    · rw [Byte.ofInt_toNat]
      rfl
    · rfl
  simp only [sprite, Screen.getMsbD_place _ _ c.isLt, byte, Bool.and_eq_true, decide_eq_true_eq, List.mem_range]
  constructor
  · rintro ⟨⟨top, bottom, columns⟩, lit⟩
    refine ⟨r - (b.state.v.get y).toNat % 32, by omega, by omega, columns, ?_⟩
    have address : b.state.i + ((r.val - (b.state.v.get y).toNat % 32 : Nat) : Int) =
        b.state.i + r - ((b.state.v.get y).toNat % 32 : Nat) := by omega
    rwa [address]
  · rintro ⟨k, inside, same, columns, lit⟩
    have address : b.state.i + (r : Int) - ((b.state.v.get y).toNat % 32 : Nat) =
        b.state.i + k := by omega
    refine ⟨⟨by omega, by omega, columns⟩, ?_⟩
    rwa [address]

/-- A drawing whose rows lie in the memory of the standard machine. -/
theorem draw_eq (standard : b.bus.layout = Bus.standard.layout) (nonneg : 0 ≤ b.state.i)
    (fits : b.state.i + n - 1 ≤ 0xFFF) (x y : UInt8) :
    let drawn := b.state.screen.drawRows (x.toNat % 64) (y.toNat % 32) b.spriteByte (List.range n)
    b.draw x y n = (⟨{ b.state.setFlag drawn.2 with screen := drawn.1, renderNeeded := true },
      b.bus.afterReads (Bus.addresses b.state.i n), b.random⟩, none) := by
  have sound := Bus.built_standard.sound.of_layout standard
  have found : ∀ k ∈ List.range n, b.bus.peek (b.state.i + k) = .ok (b.spriteByte k) := by
    intro k hk
    rw [List.mem_range] at hk
    have mapped : b.bus.IsMapped (b.state.i + k) :=
      (Bus.isMapped_of_layout standard _).mpr (Bus.isMapped_standard.mpr (by omega))
    obtain ⟨d, byte⟩ := sound.exists_peek mapped
    rw [spriteByte, Bus.byteAt, byte]
    exact congrArg Except.ok (Byte.ofInt_toNat d).symm
  intro drawn
  have rows := drawRows_eq found (x.toNat % 64) (y.toNat % 32) false
  unfold draw
  rw [show Screen.width = 64 from rfl, show Screen.height = 32 from rfl, rows]
  simp only [Bool.false_or]
  rfl

/-- The screen after a drawing. -/
theorem pixel_drawn (r : Fin 32) (c : Fin 64) :
    (b.state.screen.drawRows ((b.state.v.get x).toNat % 64) ((b.state.v.get y).toNat % 32)
      b.spriteByte (List.range n)).1.pixel c r =
      (b.state.screen.pixel c r ^^ b.sprite x y n r c) := by
  rw [Screen.pixel_drawRows _ _ _ List.nodup_range _ r.isLt]
  congr 1
  rw [Bool.eq_iff_iff, sprite_iff, List.any_eq_true]
  simp only [Bool.and_eq_true, decide_eq_true_eq]

/-- A drawing meets a lit pixel where the sprite has one. -/
theorem met_drawn :
    (b.state.screen.drawRows ((b.state.v.get x).toNat % 64) ((b.state.v.get y).toNat % 32)
      b.spriteByte (List.range n)).2 = true ↔
      ∃ (r : Fin 32) (c : Fin 64), b.state.screen.pixel c r = true ∧ b.sprite x y n r c = true := by
  rw [Screen.met_drawRows _ _ _ List.nodup_range]
  constructor
  · rintro ⟨k, hk, below, c, lit, bit⟩
    exact ⟨⟨_, below⟩, c, lit, sprite_iff.mpr ⟨k, hk, rfl, bit⟩⟩
  · rintro ⟨r, c, lit, has⟩
    obtain ⟨k, hk, row, bit⟩ := sprite_iff.mp has
    rw [row] at lit
    exact ⟨k, hk, row ▸ r.isLt, c, lit, bit⟩

end Board

/-- Whether the sprite has a pixel in a place that is lit already. -/
def Board.Meets (b : Board) (x y : Register) (n : Nat) : Prop :=
  ∃ (r : Fin 32) (c : Fin 64), b.state.screen.pixel c r = true ∧ b.sprite x y n r c = true

instance (b : Board) (x y : Register) (n : Nat) : Decidable (b.Meets x y n) :=
  inferInstanceAs (Decidable (∃ (r : Fin 32) (c : Fin 64),
    b.state.screen.pixel c r = true ∧ b.sprite x y n r c = true))

/-- What a drawing makes of a board: every pixel of the sprite is inverted, the flag tells whether one of
them was lit, the screen must be shown, and the reads of the rows are recorded. -/
structure Board.Draws (b : Board) (x y : Register) (n : Nat) (after : Board) : Prop where
  pixel : ∀ (r : Fin 32) (c : Fin 64),
    after.state.screen.pixel c r = (b.state.screen.pixel c r ^^ b.sprite x y n r c)
  rest : after = ⟨{ b.state with
      screen := after.state.screen
      v := b.state.v.set State.flag (if b.Meets x y n then 1 else 0)
      renderNeeded := true },
    b.bus.afterReads (Bus.addresses b.state.i n), b.random⟩

/-- A drawing finds on one board what it finds on another. -/
structure Board.DrawsAs (d b : Board) : Prop where
  layout : d.bus.layout = b.bus.layout
  memory : d.bus.peek = b.bus.peek
  index : d.state.i = b.state.i
  registers : d.state.v = b.state.v
  screen : d.state.screen = b.state.screen

namespace Opcode

theorem decode?_draw (x y n : Fin 16) :
    Instruction.decode? (ofDigits 0xD x y n) = some (.draw x y n) := by
  rw [Instruction.decode?, family_ofDigits, x_ofDigits, y_ofDigits, n_ofDigits]
  rfl

variable {b : Board}

/-- A sprite that lies in the memory is drawn. -/
theorem exists_draws (standard : b.bus.layout = Bus.standard.layout) (nonneg : 0 ≤ b.state.i)
    {n : Fin 16} (fits : b.state.i + n - 1 ≤ 0xFFF) (x y : Register) (pc : Int) (keys : Keypad) :
    ∃ after, (ofDigits 0xD x y n).effect pc keys b = (after, none) ∧ b.Draws x y n after := by
  have drawn := Board.draw_eq standard nonneg fits (b.state.v.get x) (b.state.v.get y)
  refine ⟨_, effect_of_done (decode?_draw x y n) drawn pc, fun r c => Board.pixel_drawn r c, ?_⟩
  simp only [State.setFlag, State.setV, Board.met_drawn]
  rfl

/-- A drawing inverts the pixels of its sprite, and no others. The flag tells whether one of them was lit
before, and nothing else changes but that the screen must be shown. The sprite begins at the column and the
row that the registers hold, modulo the size of the screen, and what lies beyond the edges is left out. If
neither register is the flag, the same drawing restores the screen when it is made again, and the flag then
tells whether a pixel of the sprite was dark at first. -/
theorem draws_twice (standard : b.bus.layout = Bus.standard.layout) (nonneg : 0 ≤ b.state.i)
    (x y n : Fin 16) (fits : b.state.i + n - 1 ≤ 0xFFF) (pc : Int) (keys : Keypad) :
    ∃ after, (ofDigits 0xD x y n).effect pc keys b = (after, none) ∧ b.Draws x y n after ∧
      (x ≠ State.flag → y ≠ State.flag → ∀ (again : Board) (pc' : Int) (keys' : Keypad),
        again.DrawsAs after → ∃ last, (ofDigits 0xD x y n).effect pc' keys' again = (last, none) ∧
          last.state.screen = b.state.screen ∧
          last.state.v.get State.flag = if ∃ (r : Fin 32) (c : Fin 64),
            b.sprite x y n r c = true ∧ b.state.screen.pixel c r = false then 1 else 0) := by
  obtain ⟨after, effect, draws⟩ := exists_draws standard nonneg fits x y pc keys
  refine ⟨after, effect, draws, fun hx hy again pc' keys' same => ?_⟩
  have rest := draws.rest
  have layout : again.bus.layout = Bus.standard.layout := by
    rw [same.layout, rest]
    exact standard
  have index : again.state.i = b.state.i := by rw [same.index, rest]
  -- The second sprite is the first one.
  have sprite : again.sprite x y n = b.sprite x y n := by
    have register {z : Register} (hz : z ≠ State.flag) : again.state.v.get z = b.state.v.get z := by
      rw [same.registers, rest, RegisterFile.get_set, if_neg hz.symm]
    have memory : again.bus.peek = b.bus.peek := by
      rw [same.memory, rest]
      rfl
    funext r c
    rw [Board.sprite, register hx, register hy, memory, index, Board.sprite]
  have pixel (r : Fin 32) (c : Fin 64) : again.state.screen.pixel c r =
      (b.state.screen.pixel c r ^^ b.sprite x y n r c) := by
    rw [same.screen, draws.pixel]
  obtain ⟨last, effect', draws'⟩ :=
    exists_draws layout (index ▸ nonneg) (index.symm ▸ fits) x y pc' keys'
  refine ⟨last, effect', Screen.ext_pixel fun r c => ?_, ?_⟩
  · rw [draws'.pixel, pixel, sprite, Bool.xor_assoc, Bool.xor_self, Bool.xor_false]
  · rw [draws'.rest]
    have meets : again.Meets x y n ↔ ∃ (r : Fin 32) (c : Fin 64),
        b.sprite x y n r c = true ∧ b.state.screen.pixel c r = false := by
      refine exists_congr fun r => exists_congr fun c => ?_
      rw [pixel, sprite]
      cases b.sprite x y n r c <;> simp
    exact (RegisterFile.get_set_self ..).trans (if_congr meets rfl rfl)

/-- A board with the font in its memory, the index at the glyph of zero, and a column and a row at which
that glyph goes beyond two edges of the screen. -/
def cornered : Board where
  state := (State.initial.setV 0 62).setV 1 30
  bus := (Bus.standard.load 0 Font.bytes).1
  random := default

/-- The glyph of zero, drawn over the lower right corner twice, leaves the screen blank. -/
theorem draws_cornered : cornered.bus.layout = Bus.standard.layout ∧ 0 ≤ cornered.state.i ∧
    cornered.state.i + (5 : Fin 16) - 1 ≤ 0xFFF ∧
    ∃ after last, (ofDigits 0xD 0 1 5).effect 0x200 default cornered = (after, none) ∧
      after.state.screen.pixel 62 30 = true ∧ after.state.screen.pixel 0 0 = false ∧
      (ofDigits 0xD 0 1 5).effect 0x202 default after = (last, none) ∧
      last.state.screen = .blank := by
  have layout : cornered.bus.layout = Bus.standard.layout := by
    rw [cornered, Bus.layout_load]
  have index : 0 ≤ cornered.state.i := by decide
  have fits : cornered.state.i + (5 : Fin 16) - 1 ≤ 0xFFF := by decide
  obtain ⟨after, effect, draws, again⟩ := draws_twice layout index 0 1 5 fits 0x200 default
  obtain ⟨last, effect', screen, -⟩ := again (by decide) (by decide) after 0x202 default
    ⟨rfl, rfl, rfl, rfl, rfl⟩
  have lit : (cornered.state.screen.pixel 62 30 ^^ cornered.sprite 0 1 5 30 62) = true := by
    decide +kernel
  have dark : (cornered.state.screen.pixel 0 0 ^^ cornered.sprite 0 1 5 0 0) = false := by
    decide +kernel
  exact ⟨layout, index, fits, after, last, effect, (draws.pixel 30 62).trans lit,
    (draws.pixel 0 0).trans dark, effect', screen⟩

end Opcode

end Hexscope
