import Hexscope.Proofs.Bus.Block

/-!
# Room for a block

A block whose first and last address lead to the same memory is stored as a whole, from the cell of the first
address on, and there must be as many cells left. Any other block is stored byte by byte, and all its addresses
must be mapped.

* `Bus.load_error_iff`: a block is stored without a refusal exactly if there is room for it;
* `Bus.HasRoom.of_layout`: room depends on the layout only.
-/

namespace Hexscope

theorem Ram.exists_load_iff {r : Ram} {o : Int} (low : 0 ≤ o) (bs : List UInt8) :
    (∃ r', r.load o bs = .ok r') ↔ o + bs.length ≤ r.size := by
  unfold Ram.load
  dsimp only
  split
  · exact ⟨nofun, fun fit => by omega⟩
  · exact ⟨fun _ => by omega, fun _ => ⟨_, rfl⟩⟩

namespace Bus

variable {b b' : Bus} {a : Int} {n : Nat}

/-- There is room for `n` bytes from an address on. -/
inductive HasRoom (b : Bus) (a : Int) (n : Nat) : Prop where
  | nothing : n = 0 → HasRoom b a n
  /-- The first and the last address lead to the same memory, and there are as many cells left in it. -/
  | whole {c l : Cell} {size : Nat} : b.resolve a = .ok c → b.resolve (a + n - 1) = .ok l →
    l.device = c.device → (b.device c.device).cells? = some size → c.offset + n ≤ size → HasRoom b a n
  /-- The ends lie apart, and all addresses are mapped. -/
  | bytewise : ¬ b.EndsMeet a n → (∀ i < n, b.IsMapped (a + (i : Nat))) → HasRoom b a n

theorem endsMeet_iff : b.EndsMeet a n ↔ ∃ c l size, b.resolve a = .ok c ∧
    b.resolve (a + n - 1) = .ok l ∧ l.device = c.device ∧
    (b.device c.device).cells? = some size := by
  constructor
  · rintro ⟨c, l, r, hc, hl, same, hr⟩
    exact ⟨c, l, r.size, hc, hl, same, by rw [hr]; rfl⟩
  · rintro ⟨c, l, size, hc, hl, same, cells⟩
    cases hd : b.device c.device with
    | latch x => rw [hd] at cells; cases cells
    | ram r => exact ⟨c, l, r, hc, hl, same, hd⟩

theorem endsMeet_of_layout (h : b'.layout = b.layout) : b'.EndsMeet a n ↔ b.EndsMeet a n := by
  simp only [endsMeet_iff, resolve_of_layout h, cells?_of_layout h]

/-- Room depends on the layout only. -/
theorem HasRoom.of_layout (h : b'.layout = b.layout) (room : b.HasRoom a n) : b'.HasRoom a n := by
  cases room with
  | nothing empty => exact .nothing empty
  | whole hc hl same cells fit =>
    exact .whole (by rw [resolve_of_layout h]; exact hc) (by rw [resolve_of_layout h]; exact hl) same
      (by rw [cells?_of_layout h]; exact cells) fit
  | bytewise apart mapped =>
    exact .bytewise ((not_congr (endsMeet_of_layout h)).mpr apart)
      fun i hi => (isMapped_of_layout h _).mpr (mapped i hi)

/-- Bytes are written one by one without a refusal if all addresses are mapped, and else not. -/
theorem pokeAll_error_iff (hb : b.Sound) (bs : List UInt8) :
    (b.pokeAll a bs).2 = none ↔ ∀ i < bs.length, b.IsMapped (a + (i : Nat)) := by
  refine ⟨fun stored => ?_, pokeAll_error hb bs⟩
  induction bs generalizing b a with
  | nil => exact nofun
  | cons x xs ih =>
    intro i hi
    cases hp : b.poke a x.toNat with
    | error e =>
      rw [pokeAll, tryPoke_eq, hp] at stored
      cases stored
    | ok b' =>
      rw [pokeAll_cons hp] at stored
      have keep := layout_poke hp
      cases i with
      | zero =>
        obtain ⟨c, d, hc, -, -⟩ := exists_of_poke hp
        rw [Int.natCast_zero, Int.add_zero]
        exact isMapped_of_resolve hc
      | succ i =>
        rw [add_succ_offset, ← isMapped_of_layout keep]
        exact ih (hb.of_layout keep) stored i (by simpa using hi)

theorem hasRoom_iff_of_endsMeet {c l : Cell} {r : Ram} (hn : 0 < n) (hc : b.resolve a = .ok c)
    (hl : b.resolve (a + n - 1) = .ok l) (same : l.device = c.device)
    (hr : b.device c.device = .ram r) : b.HasRoom a n ↔ c.offset + n ≤ r.size := by
  have cells : (b.device c.device).cells? = some r.size := by rw [hr]; rfl
  refine ⟨fun room => ?_, .whole hc hl same cells⟩
  cases room with
  | nothing empty => omega
  | whole hc' _ _ cells' fit =>
    cases hc.symm.trans hc'
    cases cells.symm.trans cells'
    exact fit
  | bytewise apart _ => exact absurd ⟨c, l, r, hc, hl, same, hr⟩ apart

theorem hasRoom_iff_of_apart (hn : 0 < n) (apart : ¬ b.EndsMeet a n) :
    b.HasRoom a n ↔ ∀ i < n, b.IsMapped (a + (i : Nat)) := by
  refine ⟨fun room => ?_, .bytewise apart⟩
  cases room with
  | nothing empty => omega
  | whole hc hl same cells _ => exact absurd (endsMeet_iff.mpr ⟨_, _, _, hc, hl, same, cells⟩) apart
  | bytewise _ mapped => exact mapped

/-- A block whose ends lie apart is refused exactly if its bytes are. -/
theorem load_error_iff_of_apart {bs : List UInt8} (hb : b.Sound) (hn : 0 < bs.length)
    (apart : ¬ b.EndsMeet a bs.length) : (b.load a bs).2 = none ↔ (b.pokeAll a bs).2 = none := by
  have mapped (stored : (b.pokeAll a bs).2 = none) {i : Nat} (hi : i < bs.length) :
      ∃ c, b.resolve (a + (i : Nat)) = .ok c :=
    resolve_of_isMapped ((pokeAll_error_iff hb bs).mp stored i hi)
  have nonempty : bs.isEmpty = false := List.isEmpty_eq_false_iff.mpr (List.ne_nil_of_length_pos hn)
  have behind : a + bs.length - 1 = a + ((bs.length - 1 : Nat) : Int) := by omega
  simp only [load, nonempty, Bool.false_eq_true, if_false]
  cases hc : b.resolve a with
  | error e =>
    refine iff_of_false (Option.some_ne_none _) fun stored => ?_
    obtain ⟨c, hc'⟩ := mapped stored hn
    rw [Int.natCast_zero, Int.add_zero, hc] at hc'
    cases hc'
  | ok c =>
    cases hl : b.resolve (a + bs.length - 1) with
    | error e =>
      refine iff_of_false (Option.some_ne_none _) fun stored => ?_
      obtain ⟨l, hl'⟩ := mapped stored (i := bs.length - 1) (by omega)
      rw [← behind, hl] at hl'
      cases hl'
    | ok l =>
      dsimp only
      cases hd : b.device c.device with
      | latch x => exact Iff.rfl
      | ram r =>
        have differ : c.device ≠ l.device := fun same => apart ⟨c, l, r, hc, hl, same.symm, hd⟩
        dsimp only
        rw [if_neg differ]

/-- A block is stored exactly if there is room for it. -/
theorem load_error_iff (hb : b.Sound) (bs : List UInt8) :
    (b.load a bs).2 = none ↔ b.HasRoom a bs.length := by
  rcases Nat.eq_zero_or_pos bs.length with hn | hn
  · rw [List.length_eq_zero_iff.mp hn]
    exact iff_of_true rfl (.nothing rfl)
  by_cases meet : b.EndsMeet a bs.length
  · obtain ⟨c, l, r, hc, hl, same, hr⟩ := meet
    have low := (hb.resolve_offset hc hr).1
    rw [hasRoom_iff_of_endsMeet hn hc hl same hr, ← Ram.exists_load_iff low,
      load_of_endsMeet hn hc hl same hr]
    cases r.load c.offset bs <;> simp
  · rw [load_error_iff_of_apart hb hn meet, hasRoom_iff_of_apart hn meet, pokeAll_error_iff hb]

end Bus

end Hexscope
