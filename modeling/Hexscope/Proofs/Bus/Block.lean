import Hexscope.Proofs.Bus.Layout

/-!
# Storing a block

`Bus.load` hands a block to one memory as a whole when the block's ends lie in that memory, and
writes any other block byte by byte. The two ways agree exactly on the blocks that are `Straight`:
if the ends lie in one memory, then the addresses between them name the cells between, one after
the other. A range registered before, or a memory mapped twice, can break this.

* `load_of_straight`: a straight block ends up as if it was written byte by byte;
* `straight_of_load`: and only a straight one does so whatever its bytes are;
* `peek_pokeAll`: bytes written to cells of their own are read back.
-/

namespace Hexscope

theorem Byte.ofInt_toNat (x : UInt8) : Byte.ofInt x.toNat = x := by
  rw [← UInt8.toNat_inj, Byte.toNat_ofInt]
  have := x.toNat_lt
  omega

/-- The cells after a block was stored: those of the block hold its bytes, the others what they
held. -/
theorem Ram.getD_store (cells : Array UInt8) (k : Nat) (bs : List UInt8)
    (fit : k + bs.length ≤ cells.size) (j : Nat) :
    (store cells k bs).getD j 0 =
      if k ≤ j ∧ j < k + bs.length then bs.getD (j - k) 0 else cells.getD j 0 := by
  induction bs generalizing cells k with
  | nil =>
    simp only [store, List.length_nil]
    rw [if_neg (by omega)]
  | cons b bs ih =>
    simp only [List.length_cons] at fit
    have := ih (cells.setIfInBounds k b) (k + 1) (by simp only [Array.size_setIfInBounds]; omega)
    simp only [store, this, List.length_cons]
    by_cases e : j = k
    · subst e
      have lt : j < cells.size := by omega
      rw [if_neg (by omega), if_pos (by omega)]
      simp [Array.getD, lt]
    · have ne : (cells.setIfInBounds k b).getD j 0 = cells.getD j 0 := by
        simp only [Array.getD_eq_getD_getElem?]
        rw [Array.getElem?_setIfInBounds_ne (fun h => e h.symm)]
      by_cases hj : k + 1 ≤ j ∧ j < k + 1 + bs.length
      · rw [if_pos hj, if_pos (by omega), show j - k = (j - (k + 1)) + 1 by omega]
        rfl
      · rw [if_neg hj, if_neg (by omega), ne]

namespace Bus

variable {b b' : Bus} {a data : Int} {c : Cell} {n : Nat}

/-! ## Cells of memories -/

/-- The byte in a place. -/
def content (b : Bus) (c : Cell) : Except Error UInt8 := (b.device c.device).read c.offset

/-- Whether a place is a cell of a memory. -/
def IsCell (b : Bus) (c : Cell) : Prop :=
  ∃ n : Nat, (b.device c.device).cells? = some n ∧ 0 ≤ c.offset ∧ c.offset < n

theorem peek_eq_content (h : b.resolve a = .ok c) : b.peek a = b.content c := by
  simp only [peek, h]
  rfl

theorem isCell_of_layout (h : b'.layout = b.layout) : b'.IsCell c ↔ b.IsCell c := by
  unfold IsCell
  rw [cells?_of_layout h]

theorem IsCell.exists_ram (h : b.IsCell c) :
    ∃ r, b.device c.device = .ram r ∧ 0 ≤ c.offset ∧ c.offset < r.size ∧
      c.device < b.devices.size := by
  obtain ⟨n, hn, h₀, h₁⟩ := h
  cases hd : b.device c.device with
  | latch x => rw [hd] at hn; cases hn
  | ram r =>
    rw [hd] at hn
    cases hn
    refine ⟨r, rfl, h₀, h₁, ?_⟩
    apply Decidable.byContradiction
    intro hk
    simp [device, Array.getD, hk] at hd

theorem content_ram {r : Ram} (hr : b.device c.device = .ram r) (h₀ : 0 ≤ c.offset)
    (h₁ : c.offset < r.size) : b.content c = .ok (r.cells.getD c.offset.toNat 0) := by
  simp only [content, hr, Device.read, Ram.read, Ram.cell?_of_lt h₀ h₁]
  rfl

/-- A byte that is written to a cell is in it. -/
theorem content_poke_self (hc : b.IsCell c) (h : b.resolve a = .ok c) (h₀ : 0 ≤ data)
    (h₁ : data ≤ 255) (hb : b.poke a data = .ok b') : b'.content c = .ok (Byte.ofInt data) := by
  obtain ⟨r, hr, o₀, o₁, lt⟩ := hc.exists_ram
  obtain ⟨c', d, hc', hd, rfl⟩ := exists_of_poke hb
  rw [h] at hc'
  cases hc'
  simp only [hr, Device.write_ram, Ram.write_of_lt o₀ o₁ h₀ h₁] at hd
  cases hd
  have inside : c.offset.toNat < r.cells.size := by
    simp only [Ram.size] at o₁
    omega
  rw [content_ram (by rw [device_replace b lt, if_pos rfl]) o₀ (by simpa [Ram.size] using o₁)]
  simp [Array.getD, inside]

/-- A write elsewhere keeps what is in a cell. -/
theorem content_poke_of_ne (hc : b.IsCell c) (h : b.resolve a ≠ .ok c)
    (hb : b.poke a data = .ok b') : b'.content c = b.content c := by
  obtain ⟨r, hr, o₀, o₁, lt⟩ := hc.exists_ram
  obtain ⟨c', d, hc', hd, rfl⟩ := exists_of_poke hb
  by_cases e : c.device = c'.device
  · rw [← e, hr] at hd
    rw [Device.write_ram] at hd
    cases hw : r.write c'.offset data with
    | error e => rw [hw] at hd; cases hd
    | ok r' =>
      rw [hw] at hd
      cases hd
      have size := Ram.size_write hw
      rw [Ram.write_eq] at hw
      obtain ⟨k, hk, hw⟩ := exists_of_bind_eq_ok hw
      split at hw
      · cases hw
      cases hw
      have other : k ≠ c.offset.toNat := by
        intro same
        simp only [Ram.cell?] at hk
        split at hk
        · cases hk
        cases hk
        apply h
        rw [hc']
        have : c'.offset = c.offset := by omega
        cases c; cases c'; simp_all
      rw [content_ram (by rw [← e, device_replace b lt, if_pos rfl]) o₀ (by omega),
        content_ram hr o₀ o₁]
      simp only [Array.getD_eq_getD_getElem?]
      rw [Array.getElem?_setIfInBounds_ne other]
  · by_cases lt' : c'.device < b.devices.size
    · simp only [content, device_replace b lt', if_neg e]
    · simp [content, replace, device, Array.setIfInBounds, lt']

/-! ## Byte by byte -/

/-- The addresses behind the first one are those of the block without its first byte. -/
theorem add_succ_offset (a : Int) (i : Nat) : a + ((i + 1 : Nat) : Int) = a + 1 + i := by omega

/-- After the first byte was written, the addresses behind it are mapped as before. -/
theorem isMapped_behind {n : Nat} (hp : b.poke a data = .ok b')
    (mapped : ∀ i < n + 1, b.IsMapped (a + (i : Nat))) :
    ∀ i < n, b'.IsMapped (a + 1 + (i : Nat)) := by
  intro i hi
  rw [isMapped_of_layout (layout_poke hp), ← add_succ_offset]
  exact mapped (i + 1) (by omega)

/-- The first byte goes to the first address, the others behind it. -/
theorem pokeAll_cons {x : UInt8} {xs : List UInt8} (h : b.poke a x.toNat = .ok b') :
    b.pokeAll a (x :: xs) = b'.pokeAll (a + 1) xs := by
  rw [pokeAll, tryPoke_eq, h]

theorem exists_poke_byte (hb : b.Sound) (h : b.IsMapped a) (x : UInt8) :
    ∃ b', b.poke a x.toNat = .ok b' := by
  have := x.toNat_lt
  exact hb.exists_poke h (by omega) (by omega)

/-- Where all addresses are mapped, nothing is refused. -/
theorem pokeAll_error (hb : b.Sound) (bs : List UInt8)
    (mapped : ∀ i < bs.length, b.IsMapped (a + (i : Nat))) : (b.pokeAll a bs).2 = none := by
  induction bs generalizing b a with
  | nil => rfl
  | cons x xs ih =>
    obtain ⟨b', hp⟩ := exists_poke_byte hb (by simpa using mapped 0 (by simp)) x
    rw [pokeAll_cons hp]
    exact ih (hb.of_layout (layout_poke hp)) (isMapped_behind hp mapped)

/-- A cell that no address of the block names keeps its byte. -/
theorem content_pokeAll_of_ne (hb : b.Sound) (hc : b.IsCell c) (bs : List UInt8)
    (mapped : ∀ i < bs.length, b.IsMapped (a + (i : Nat)))
    (h : ∀ i < bs.length, b.resolve (a + (i : Nat)) ≠ .ok c) :
    (b.pokeAll a bs).1.content c = b.content c := by
  induction bs generalizing b a with
  | nil => rfl
  | cons x xs ih =>
    obtain ⟨b', hp⟩ := exists_poke_byte hb (by simpa using mapped 0 (by simp)) x
    have keep := layout_poke hp
    rw [pokeAll_cons hp, ih (hb.of_layout keep) ((isCell_of_layout keep).mpr hc)
      (isMapped_behind hp mapped)]
    · exact content_poke_of_ne hc (by simpa using h 0 (by simp)) hp
    · intro i hi
      rw [resolve_of_layout keep, ← add_succ_offset]
      exact h (i + 1) (by simpa using hi)

/-- A cell that an address of the block names holds a byte that was written to it. -/
theorem exists_content_pokeAll (hb : b.Sound) (hc : b.IsCell c) (bs : List UInt8)
    (mapped : ∀ i < bs.length, b.IsMapped (a + (i : Nat)))
    (h : ∃ i < bs.length, b.resolve (a + (i : Nat)) = .ok c) :
    ∃ j, ∃ hj : j < bs.length, b.resolve (a + (j : Nat)) = .ok c ∧
      (b.pokeAll a bs).1.content c = .ok bs[j] := by
  induction bs generalizing b a with
  | nil => obtain ⟨i, hi, -⟩ := h; exact absurd hi (Nat.not_lt_zero i)
  | cons x xs ih =>
    obtain ⟨b', hp⟩ := exists_poke_byte hb (by simpa using mapped 0 (by simp)) x
    have keep := layout_poke hp
    have hb' := hb.of_layout keep
    have hc' := (isCell_of_layout keep).mpr hc
    have mapped' := isMapped_behind hp mapped
    rw [pokeAll_cons hp]
    -- Either the cell is named again behind the first byte, or the first byte stays in it.
    by_cases later : ∃ i < xs.length, b'.resolve (a + 1 + (i : Nat)) = .ok c
    · obtain ⟨j, hj, hr, hv⟩ := ih hb' hc' mapped' later
      refine ⟨j + 1, by simpa using hj, ?_, by simpa using hv⟩
      rw [add_succ_offset, ← resolve_of_layout keep]
      exact hr
    · obtain ⟨i, hi, hr⟩ := h
      have first : b.resolve a = .ok c := by
        cases i with
        | zero => simpa using hr
        | succ i =>
          refine absurd ⟨i, by simpa using hi, ?_⟩ later
          rw [resolve_of_layout keep, ← add_succ_offset]
          exact hr
      refine ⟨0, by simp, by simpa using first, ?_⟩
      have lt := x.toNat_lt
      rw [content_pokeAll_of_ne hb' hc' xs mapped' fun i hi e => later ⟨i, hi, e⟩,
        content_poke_self hc first (by omega) (by omega) hp, Byte.ofInt_toNat]
      rfl

/-- Bytes written to cells of their own are read back. -/
theorem peek_pokeAll (hb : b.Sound) (bs : List UInt8)
    (cells : ∀ i < bs.length, ∃ c, b.resolve (a + (i : Nat)) = .ok c ∧ b.IsCell c)
    (distinct : ∀ i < bs.length, ∀ j < bs.length,
      b.resolve (a + (i : Nat)) = b.resolve (a + (j : Nat)) → i = j) (i : Nat)
    (hi : i < bs.length) : (b.pokeAll a bs).1.peek (a + (i : Nat)) = .ok bs[i] := by
  obtain ⟨c, hr, hc⟩ := cells i hi
  have mapped : ∀ i < bs.length, b.IsMapped (a + (i : Nat)) := by
    intro i hi
    obtain ⟨c, hr, -⟩ := cells i hi
    exact isMapped_of_resolve hr
  obtain ⟨j, hj, hrj, hv⟩ := exists_content_pokeAll hb hc bs mapped ⟨i, hi, hr⟩
  have same : j = i := distinct j hj i hi (hrj.trans hr.symm)
  subst same
  rw [peek_eq_content (by rw [resolve_of_layout (layout_pokeAll b a bs)]; exact hr), hv]

/-! ## As a whole -/

/-- The first and the last of `n` addresses lead to the same memory. -/
def EndsMeet (b : Bus) (a : Int) (n : Nat) : Prop :=
  ∃ c l r, b.resolve a = .ok c ∧ b.resolve (a + n - 1) = .ok l ∧ l.device = c.device ∧
    b.device c.device = .ram r

/-- The `n` addresses lead to places of one device, one after the other. -/
def InOrder (b : Bus) (a : Int) (n : Nat) : Prop :=
  ∃ c : Cell, ∀ i < n, b.resolve (a + (i : Nat)) = .ok ⟨c.device, c.offset + (i : Nat)⟩

/-- If the ends of the block lie in the same memory, the addresses between them lead to the cells
between, one after the other. -/
def Straight (b : Bus) (a : Int) (n : Nat) : Prop := b.EndsMeet a n → b.InOrder a n

/-- Writing byte by byte to consecutive cells of a memory stores the block in it. -/
theorem pokeAll_of_inOrder {k : Nat} {o : Int} {r : Ram} (hk : k < b.devices.size)
    (hr : b.device k = .ram r) (bs : List UInt8) (h₀ : 0 ≤ o) (fit : o + bs.length ≤ r.size)
    (h : ∀ i < bs.length, b.resolve (a + (i : Nat)) = .ok ⟨k, o + (i : Nat)⟩) :
    b.pokeAll a bs =
      (b.replace k (.ram { r with cells := Ram.store r.cells o.toNat bs }), none) := by
  induction bs generalizing b a o r with
  | nil =>
    simp only [pokeAll, Ram.store, Prod.mk.injEq, and_true]
    have : b.devices.setIfInBounds k (.ram r) = b.devices := by
      apply Array.ext
      · simp
      intro i h₁ h₂
      by_cases e : k = i
      · subst e
        simp only [device, Array.getD, h₂, dite_true] at hr
        simpa using hr.symm
      · rw [Array.getElem_setIfInBounds_ne h₂ e]
    simp only [replace, this]
  | cons x xs ih =>
    simp only [List.length_cons] at fit h
    have lt := x.toNat_lt
    have first : b.resolve a = .ok ⟨k, o⟩ := by simpa using h 0 (by omega)
    have write : r.write o x.toNat =
        .ok { r with cells := r.cells.setIfInBounds o.toNat (Byte.ofInt x.toNat) } :=
      Ram.write_of_lt h₀ (by omega) (by omega) (by omega)
    rw [Byte.ofInt_toNat] at write
    have hp : b.poke a x.toNat =
        .ok (b.replace k (.ram { r with cells := r.cells.setIfInBounds o.toNat x })) := by
      simp only [poke_eq, first, hr, Device.write_ram, write, bind, Except.bind, Except.map]
      rfl
    have keep := layout_poke hp
    rw [pokeAll_cons hp,
      ih (o := o + 1) (by simpa [replace] using hk) (by rw [device_replace b hk, if_pos rfl])
        (by omega) (by simp only [Ram.size, Array.size_setIfInBounds] at fit ⊢; omega)]
    · simp only [replace, Array.setIfInBounds_setIfInBounds, Ram.store]
      rw [show (o + 1).toNat = o.toNat + 1 by omega]
    · intro i hi
      rw [resolve_of_layout keep]
      have := h (i + 1) (by omega)
      rw [add_succ_offset, add_succ_offset] at this
      exact this

/-- What `load` does with a block whose ends lie in the same memory. -/
theorem load_of_endsMeet {bs : List UInt8} {l : Cell} {r : Ram} (hn : 0 < bs.length)
    (hc : b.resolve a = .ok c) (hl : b.resolve (a + bs.length - 1) = .ok l)
    (same : l.device = c.device) (hr : b.device c.device = .ram r) :
    b.load a bs = match r.load c.offset bs with
      | .ok r' => (b.replace c.device (.ram r'), none)
      | .error e => (b, some e) := by
  have nonempty : bs.isEmpty = false :=
    List.isEmpty_eq_false_iff.mpr (List.ne_nil_of_length_pos hn)
  cases stored : r.load c.offset bs with
  | error e =>
    simp only [load, nonempty, Bool.false_eq_true, if_false, hc, hl, hr, same, if_true, stored]
  | ok r' =>
    simp only [load, nonempty, Bool.false_eq_true, if_false, hc, hl, hr, same, if_true, stored]

/-- A straight block ends up as if it was written byte by byte. -/
theorem load_of_straight (hb : b.Sound) {bs : List UInt8}
    (mapped : ∀ i < bs.length, b.IsMapped (a + (i : Nat))) (h : b.Straight a bs.length) :
    b.load a bs = b.pokeAll a bs := by
  rcases Nat.eq_zero_or_pos bs.length with hn | hn
  · rw [List.length_eq_zero_iff] at hn
    subst hn
    rfl
  obtain ⟨c, hc⟩ := resolve_of_isMapped (by simpa using mapped 0 hn)
  obtain ⟨l, hl⟩ := resolve_of_isMapped (mapped (bs.length - 1) (by omega))
  rw [show a + ((bs.length - 1 : Nat) : Int) = a + bs.length - 1 by omega] at hl
  have nonempty : bs.isEmpty = false :=
    List.isEmpty_eq_false_iff.mpr (List.ne_nil_of_length_pos hn)
  cases hd : b.device c.device with
  | latch x => simp only [load, nonempty, Bool.false_eq_true, if_false, hc, hl, hd]
  | ram r =>
    by_cases same : l.device = c.device
    · obtain ⟨c', order⟩ := h ⟨c, l, r, hc, hl, same, hd⟩
      -- The cells are those from `c` on, and the last of them is inside the memory.
      have first := order 0 hn
      simp only [Int.natCast_zero, Int.add_zero, hc, Except.ok.injEq] at first
      have last := order (bs.length - 1) (by omega)
      rw [show a + ((bs.length - 1 : Nat) : Int) = a + bs.length - 1 by omega, hl] at last
      simp only [Except.ok.injEq] at last
      have bound := hb.resolve_offset hl (by rw [same]; exact hd)
      have low := hb.resolve_offset hc hd
      subst last
      have fit : c.offset + bs.length ≤ r.size := by
        rw [first] at low ⊢
        dsimp only at bound ⊢
        omega
      have cells : ∀ i < bs.length,
          b.resolve (a + (i : Nat)) = .ok ⟨c.device, c.offset + (i : Nat)⟩ := by
        intro i hi
        rw [order i hi, first]
      have stored : r.load c.offset bs =
          .ok { r with cells := Ram.store r.cells c.offset.toNat bs } := by
        simp only [Ram.load]
        rw [if_neg (by omega)]
      rw [load_of_endsMeet hn hc hl same hd, stored,
        pokeAll_of_inOrder (hb.resolve_device_lt hc) hd bs low.1 fit cells]
    · have other : ¬ c.device = l.device := fun e => same e.symm
      simp only [load, nonempty, Bool.false_eq_true, if_false, hc, hl, hd, other]

/-- A block that was stored as a whole fits into the memory, and its bytes are in the cells from the
first one on. -/
theorem content_load_of_endsMeet (hb : b.Sound) {bs : List UInt8} {l : Cell} {r : Ram}
    (hc : b.resolve a = .ok c) (hl : b.resolve (a + bs.length - 1) = .ok l)
    (same : l.device = c.device) (hr : b.device c.device = .ram r)
    (done : (b.load a bs).2 = none) (i : Nat) (hi : i < bs.length) :
    b.IsCell ⟨c.device, c.offset + (i : Nat)⟩ ∧
      (b.load a bs).1.content ⟨c.device, c.offset + (i : Nat)⟩ = .ok bs[i] := by
  have low := hb.resolve_offset hc hr
  have whole := load_of_endsMeet (by omega) hc hl same hr
  have fit : c.offset + bs.length ≤ r.size := by
    apply Classical.byContradiction
    intro exceeds
    have refused : r.load c.offset bs = .error
        (.blockOutsideRam c.offset (.whole (c.offset + bs.length - 1)) r.givenSize) := by
      simp only [Ram.load]
      rw [if_pos (by omega)]
    rw [whole, refused] at done
    cases done
  have stored : r.load c.offset bs =
      .ok { r with cells := Ram.store r.cells c.offset.toNat bs } := by
    simp only [Ram.load]
    rw [if_neg (by omega)]
  have inside : c.offset.toNat + bs.length ≤ r.cells.size := by
    simp only [Ram.size] at fit
    omega
  refine ⟨⟨r.size, by rw [hr]; rfl, by dsimp only; omega, by dsimp only; omega⟩, ?_⟩
  rw [whole, stored]
  dsimp only
  rw [content_ram (by rw [device_replace b (hb.resolve_device_lt hc), if_pos rfl])
    (by dsimp only; omega) (by rw [Ram.size_load stored]; dsimp only; omega)]
  dsimp only
  rw [show (c.offset + (i : Int)).toNat = c.offset.toNat + i by omega,
    Ram.getD_store _ _ _ inside, if_pos (by omega), Nat.add_sub_cancel_left,
    List.getD_eq_getElem?_getD, List.getElem?_eq_getElem hi]
  rfl

/-- A byte that is neither zero nor `v`. -/
def newByte (v : UInt8) : UInt8 := if v = 1 then 2 else 1

theorem newByte_ne (v : UInt8) : newByte v ≠ 0 ∧ newByte v ≠ v := by
  unfold newByte
  split
  · rename_i h; subst h; decide
  · rename_i h; exact ⟨by decide, fun e => h e.symm⟩

/-- Only a straight block ends up as if it was written byte by byte, whatever its bytes are. -/
theorem straight_of_load (hb : b.Sound) (mapped : ∀ i < n, b.IsMapped (a + (i : Nat)))
    (h : ∀ bs : List UInt8, bs.length = n →
      (b.load a bs).2 = none ∧ (b.load a bs).1.devices = (b.pokeAll a bs).1.devices) :
    b.Straight a n := by
  rintro ⟨c, l, r, hc, hl, same, hr⟩
  refine ⟨c, fun i hi => Classical.byContradiction fun off => ?_⟩
  let target : Cell := ⟨c.device, c.offset + (i : Nat)⟩
  -- A block of zeros, but for a new byte meant for the cell that the address `a + i` misses.
  let new := newByte (r.cells.getD target.offset.toNat 0)
  let bs : List UInt8 := (List.replicate n 0).set i new
  have hbs : bs.length = n := by simp [bs]
  obtain ⟨done, agree⟩ := h bs hbs
  rw [← hbs] at hl hi mapped
  obtain ⟨place, hv⟩ := content_load_of_endsMeet hb hc hl same hr done i hi
  have hnew : bs[i] = new := by simp [bs]
  have single : (b.pokeAll a bs).1.content target = .ok new := by
    rw [← hnew, ← hv]
    simp only [content, device, agree, target]
  -- Byte by byte, the cell holds a zero or what it held.
  by_cases named : ∃ j < bs.length, b.resolve (a + (j : Nat)) = .ok target
  · obtain ⟨j, hj, hrj, hv⟩ := exists_content_pokeAll hb place bs mapped named
    have ne : i ≠ j := fun e => off (e ▸ hrj)
    have zero : bs[j] = 0 := by simp [bs, ne]
    rw [single, zero, Except.ok.injEq] at hv
    exact (newByte_ne _).1 hv
  · have hv := content_pokeAll_of_ne hb place bs mapped fun j hj e => named ⟨j, hj, e⟩
    obtain ⟨r', hr', h₀, h₁, -⟩ := place.exists_ram
    have : r' = r := by
      rw [hr] at hr'
      cases hr'
      rfl
    subst this
    rw [single, content_ram hr' h₀ h₁, Except.ok.injEq] at hv
    exact (newByte_ne _).2 hv

/-! ## The log -/

theorem log_poke (h : b.poke a data = .ok b') : b'.log = b.log := by
  obtain ⟨c, d, -, -, rfl⟩ := exists_of_poke h
  rfl

theorem log_pokeAll (b : Bus) (a : Int) (bs : List UInt8) : (b.pokeAll a bs).1.log = b.log := by
  induction bs generalizing b a with
  | nil => rfl
  | cons x xs ih =>
    rw [pokeAll, tryPoke_eq]
    cases hp : b.poke a x.toNat with
    | error e => rfl
    | ok b' => exact (ih b' (a + 1)).trans (log_poke hp)

/-- Storing a block leaves no record. -/
theorem log_load (b : Bus) (a : Int) (bs : List UInt8) : (b.load a bs).1.log = b.log := by
  rcases load_cases b a bs with same | bytewise | ⟨k, o, r, r', -, -, whole⟩
  · rw [same]
  · rw [bytewise, log_pokeAll]
  · rw [whole]
    rfl

/-- Where all addresses of a block are mapped, storing it succeeds and leaves every device as
writing it byte by byte does, whatever its bytes are, exactly if the block is straight. Byte by byte
nothing is refused, neither way leaves a record, and the bytes of a straight block are read back if
its addresses lead to cells of their own. -/
theorem straight_iff_load_eq_pokeAll (h : b.Built)
    (mapped : ∀ i < n, b.IsMapped (a + (i : Nat))) :
    (b.Straight a n ↔ ∀ bs : List UInt8, bs.length = n →
      (b.load a bs).2 = none ∧ (b.load a bs).1.devices = (b.pokeAll a bs).1.devices) ∧
    ∀ bs : List UInt8, bs.length = n →
      (b.pokeAll a bs).2 = none ∧
      (b.load a bs).1.log = b.log ∧ (b.pokeAll a bs).1.log = b.log ∧
      (b.Straight a n →
        (∀ i < n, ∃ c, b.resolve (a + (i : Nat)) = .ok c ∧ b.IsCell c) →
        (∀ i < n, ∀ j < n, b.resolve (a + (i : Nat)) = b.resolve (a + (j : Nat)) → i = j) →
        ∀ (i : Nat) (hi : i < bs.length), (b.load a bs).1.peek (a + (i : Nat)) = .ok bs[i]) := by
  have hb := h.sound
  refine ⟨⟨fun straight bs hbs => ?_, straight_of_load hb mapped⟩, fun bs hbs => ?_⟩
  · subst hbs
    rw [load_of_straight hb mapped straight]
    exact ⟨pokeAll_error hb bs mapped, rfl⟩
  · subst hbs
    refine ⟨pokeAll_error hb bs mapped, log_load b a bs, log_pokeAll b a bs, ?_⟩
    intro straight cells distinct i hi
    rw [load_of_straight hb mapped straight]
    exact peek_pokeAll hb bs cells distinct i hi

/-- A memory of two cells that was registered before a memory of six, in the middle of it. -/
def shadowed : Bus :=
  ⟨#[.ram (Ram.zeros 2), .ram (Ram.zeros 6)], [⟨2, 3, 0⟩, ⟨0, 5, 1⟩], []⟩

theorem shadowed_built : shadowed.Built :=
  .register (.register .empty (register_zeros _ (by decide) (by decide) rfl))
    (register_zeros _ (by decide) (by decide) rfl)

/-- A memory of four cells that is mapped a second time behind its first range. -/
def mirrored : Bus := ⟨#[.ram (Ram.zeros 4)], [⟨0, 3, 0⟩, ⟨4, 7, 0⟩], []⟩

theorem mirrored_built : mirrored.Built := by
  have once : Built ⟨#[.ram (Ram.zeros 4)], [⟨0, 3, 0⟩], []⟩ :=
    .register .empty (register_zeros _ (by decide) (by decide) rfl)
  have twice : register ⟨#[.ram (Ram.zeros 4)], [⟨0, 3, 0⟩], []⟩ 4 7 (.again 0) = .ok mirrored :=
    rfl
  exact .register once twice

/-- A block that covers the shadowing memory only is straight, so it is read back. -/
theorem peek_load_shadowing :
    shadowed.Built ∧ (∀ i < 2, shadowed.IsMapped (2 + (i : Nat))) ∧ shadowed.Straight 2 2 ∧
      (shadowed.load 2 [7, 9]).1.peek (2 + (1 : Nat)) = .ok 9 := by
  have mapped : ∀ i < 2, shadowed.IsMapped (2 + (i : Nat)) := by decide
  have straight : shadowed.Straight 2 2 := fun _ => ⟨⟨0, 0⟩, fun | 0, _ => rfl | 1, _ => rfl⟩
  obtain ⟨-, bytes⟩ := straight_iff_load_eq_pokeAll shadowed_built mapped
  obtain ⟨-, -, -, back⟩ := bytes [7, 9] rfl
  refine ⟨shadowed_built, mapped, straight, back straight ?_ ?_ 1 (by decide)⟩
  · intro i hi
    refine ⟨⟨0, i⟩, ?_, 2, rfl, by dsimp only; omega, by dsimp only; omega⟩
    match i, hi with
    | 0, _ => rfl
    | 1, _ => rfl
  · intro i hi j hj e
    match i, hi, j, hj with
    | 0, _, 0, _ => rfl
    | 0, _, 1, _ => cases e
    | 1, _, 0, _ => cases e
    | 1, _, 1, _ => rfl

/-- A block over both memories goes into the one that is shadowed in its middle, and a block over
the seam between the two ranges of one memory is refused, though all addresses are mapped. -/
theorem load_ne_pokeAll :
    (shadowed.Built ∧ (∀ i < 6, shadowed.IsMapped (0 + (i : Nat))) ∧
      (shadowed.load 0 [1, 2, 3, 4, 5, 6]).1.devices ≠
        (shadowed.pokeAll 0 [1, 2, 3, 4, 5, 6]).1.devices) ∧
    mirrored.Built ∧ (∀ i < 4, mirrored.IsMapped (2 + (i : Nat))) ∧
      (mirrored.load 2 [10, 11, 12, 13]).2 ≠ none :=
  ⟨⟨shadowed_built, by decide, by decide⟩, mirrored_built, by decide, by decide⟩

end Bus

end Hexscope
