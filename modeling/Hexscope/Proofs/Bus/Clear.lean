import Hexscope.Font
import Hexscope.Proofs.Bus.Log
import Hexscope.State

/-!
# Cleared memories

On a bus of memories only, nothing that is stored survives a clear: what a clear makes of the bus is the
same as it was before (`Bus.Plain.kept_clear`, `Bus.Plain.clear_load`).

* `Bus.peek_image`: a cleared standard memory in which the font and then a program are stored holds the
  font, the program, and zeros elsewhere.
-/

namespace Hexscope

theorem Ram.clear_of_size {r r' : Ram} (size : r'.size = r.size)
    (given : r'.sizedByTruth = r.sizedByTruth) : r'.clear = r.clear := by
  simp only [clear, size, given]

theorem Ram.clear_write {r r' : Ram} {a data : Int} (h : r.write a data = .ok r') :
    r'.clear = r.clear := by
  refine clear_of_size (size_write h) ?_
  rw [write_eq] at h
  obtain ⟨k, -, h⟩ := exists_of_bind_eq_ok h
  split at h
  · cases h
  · cases h
    rfl

theorem Ram.clear_load {r r' : Ram} {a : Int} {data : List UInt8} (h : r.load a data = .ok r') :
    r'.clear = r.clear := by
  refine clear_of_size (size_load h) ?_
  simp only [load] at h
  split at h
  · cases h
  · cases h
    rfl

@[simp] theorem Device.clear_clear (d : Device) : d.clear.clear = d.clear := by
  cases d with
  | latch x => rfl
  | ram r => exact congrArg Device.ram (Ram.clear_of_size (Ram.size_clear r) rfl)

namespace Bus

variable {b b₀ : Bus} {a : Int} {cells : Array UInt8} {data : List UInt8}

@[simp] theorem clear_clear (b : Bus) : b.clear.clear = b.clear := by
  simp only [clear, Array.map_map, mk.injEq, and_true]
  exact congrArg (Array.map · b.devices) (funext Device.clear_clear)

theorem clear_replace {k : Nat} {d : Device} (h : d.clear = (b.device k).clear) :
    (b.replace k d).clear = b.clear := by
  simp only [clear, replace, mk.injEq, and_true]
  apply Array.ext
  · simp
  intro i h₁ h₂
  simp only [Array.size_map] at h₂
  by_cases e : k = i
  · subst e
    simp [h, device, Array.getD, h₂]
  · simp only [Array.getElem_map]
    rw [Array.getElem_setIfInBounds_ne h₂ e]

/-- Where every mapped address leads to a cell of a memory, an access changes nothing that a clear
leaves. -/
theorem Plain.kept_clear (hb : b₀.Plain) :
    Kept fun b => b.layout = b₀.layout ∧ b.clear = b₀.clear where
  log _ h := h
  poke hp h := by
    have keep := layout_poke hp
    obtain ⟨c, d, hc, hd, rfl⟩ := exists_of_poke hp
    refine ⟨keep.trans h.1, (clear_replace ?_).trans h.2⟩
    obtain ⟨n, cells, -, -⟩ := (hb.of_layout h.1).isCell hc
    cases hk : Bus.device _ c.device with
    | latch x => rw [hk] at cells; cases cells
    | ram r =>
      rw [hk] at hd
      rw [Device.write_ram] at hd
      cases hw : r.write c.offset _ with
      | error e => rw [hw] at hd; cases hd
      | ok r' =>
        rw [hw] at hd
        cases hd
        exact congrArg Device.ram (Ram.clear_write hw)

/-- Nor does storing a block. -/
theorem Plain.clear_load (hb : b.Plain) (a : Int) (data : List UInt8) :
    (b.load a data).1.clear = b.clear := by
  rcases load_cases b a data with same | bytewise | ⟨k, o, r, r', hd, hr, whole⟩
  · rw [same]
  · rw [bytewise]
    exact (hb.kept_clear.pokeAll ⟨rfl, rfl⟩ a data).2
  · rw [whole]
    exact clear_replace (by rw [hd]; exact congrArg Device.ram (Ram.clear_load hr))

/-! ## The standard memory -/

theorem clear_standard : standard.clear = standard := by
  have zeros : (Ram.zeros standardSize).clear = Ram.zeros standardSize := by
    rw [Ram.clear, Ram.size_zeros]
  simp only [clear, standard, List.map_toArray, List.map_cons, List.map_nil, Device.clear, zeros]

/-- The standard memory with some cells. -/
def ofCells (cells : Array UInt8) : Bus := ⟨#[.ram { cells }], [⟨0, 4095, 0⟩], []⟩

/-- What the standard memory holds after a load: the font from address zero on, the program from the
program start on, and zeros elsewhere. -/
def image (data : List UInt8) : Memory := fun a =>
  if a < 0 ∨ 4096 ≤ a then .error (.unmapped a)
  else if a < Font.bytes.length then .ok (Font.bytes.getD a.toNat 0)
  else if programStart ≤ a ∧ a < programStart + data.length then
    .ok (data.getD (a.toNat - programStart) 0)
  else .ok 0

theorem resolve_ofCells (h₀ : 0 ≤ a) (h₁ : a < 4096) : (ofCells cells).resolve a = .ok ⟨0, a⟩ := by
  simp only [resolve, ofCells, Mapping.holds]
  rw [List.find?_cons_of_pos (by simp; omega)]
  simp

theorem peek_ofCells (size : cells.size = 4096) (h₀ : 0 ≤ a) (h₁ : a < 4096) :
    (ofCells cells).peek a = .ok (cells.getD a.toNat 0) := by
  have cell : Ram.cell? { cells } a = .ok a.toNat :=
    Ram.cell?_of_lt h₀ (by simp only [Ram.size]; omega)
  simp only [peek, resolve_ofCells h₀ h₁, bind, Except.bind]
  change Ram.read { cells } a = _
  rw [Ram.read, cell]
  rfl

theorem load_ofCells (size : cells.size = 4096) {k : Nat} (fit : k + data.length ≤ 4096) :
    (ofCells cells).load k data = (ofCells (Ram.store cells k data), none) := by
  rcases Nat.eq_zero_or_pos data.length with empty | some
  · rw [List.length_eq_zero_iff] at empty
    subst empty
    rfl
  have stored : Ram.load { cells } k data = .ok { cells := Ram.store cells k data } := by
    simp only [Ram.load]
    rw [if_neg (by simp only [Ram.size]; omega)]
    rfl
  have first : (ofCells cells).resolve k = .ok ⟨0, k⟩ := resolve_ofCells (by omega) (by omega)
  have last : (ofCells cells).resolve (k + data.length - 1) = .ok ⟨0, k + data.length - 1⟩ :=
    resolve_ofCells (by omega) (by omega)
  rw [load_of_endsMeet some first last rfl rfl, stored]
  rfl

/-- The cells with the font. -/
def fontCells : Array UInt8 := Ram.store (Ram.zeros standardSize).cells 0 Font.bytes

/-- The cells with the font and a program. -/
def imageCells (data : List UInt8) : Array UInt8 := Ram.store fontCells programStart data

theorem size_fontCells : fontCells.size = 4096 := by
  rw [fontCells, Ram.size_store]
  exact Ram.size_zeros standardSize

theorem size_imageCells (data : List UInt8) : (imageCells data).size = 4096 := by
  rw [imageCells, Ram.size_store, size_fontCells]

theorem load_font : standard.load 0 Font.bytes = (ofCells fontCells, none) :=
  load_ofCells (k := 0) (Ram.size_zeros standardSize) (by decide)

theorem load_image (fit : data.length ≤ 3584) :
    (ofCells fontCells).load programStart data = (ofCells (imageCells data), none) :=
  load_ofCells size_fontCells (by simp only [programStart]; omega)

/-- The cells hold what they should. -/
theorem peek_image (fit : data.length ≤ 3584) : (ofCells (imageCells data)).peek = image data := by
  have size : (Ram.zeros standardSize).cells.size = 4096 := Ram.size_zeros standardSize
  have font : Font.bytes.length = 80 := rfl
  funext a
  unfold image programStart
  split
  · rename_i outside
    refine peek_of_not_isMapped ?_
    simp only [IsMapped, ofCells, List.mem_singleton, exists_eq_left, Mapping.holds,
      Bool.and_eq_true, decide_eq_true_eq]
    omega
  rename_i inside
  rw [peek_ofCells (size_imageCells data) (by omega) (by omega), imageCells,
    Ram.getD_store _ _ _ (by rw [size_fontCells, programStart]; omega), fontCells,
    Ram.getD_store _ _ _ (by rw [size, font]; omega), font, programStart]
  simp only [Int.cast_ofNat_Int]
  by_cases low : a < 80
  · rw [if_neg (by omega), if_pos (by omega), if_pos low, Nat.sub_zero]
  by_cases program : 512 ≤ a ∧ a < 512 + data.length
  · rw [if_pos (by omega), if_neg low, if_pos program]
  · rw [if_neg (by omega), if_neg (by omega), if_neg low, if_neg program]
    simp [Ram.zeros, Array.getD]

end Bus

end Hexscope
