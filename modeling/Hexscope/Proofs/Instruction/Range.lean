import Hexscope.Proofs.Instruction.Access

/-!
# The range of the registers

`Registers.InRange` bounds every register by the size of the memory. Slots of the call stack hold
addresses behind an instruction, so they do not exceed the size. The program counter can be two
higher, where the last instruction skips, and an indexed jump takes it to 0x10FE at most.

* `Registers.InRange.effect`: every instruction keeps the registers in range, also one that is
  stopped in the middle.
-/

namespace Hexscope

namespace Registers

/-- The highest address that a slot of the call stack can hold over a memory of a size. -/
def slotLimit (size : Int) : Int := min size 0xFFFF

/-- The highest address that the program counter can have over a memory of a size. -/
def pcLimit (size : Int) : Int := max 0x10FE (min (size + 2) 0xFFFF)

/-- All registers lie in their ranges, over a memory of a size. -/
structure InRange (size : Int) (r : Registers) : Prop where
  pc_nonneg : 0 ≤ r.pc
  pc_le : r.pc ≤ pcLimit size
  sp_nonneg : 0 ≤ r.sp
  sp_le : r.sp ≤ stackDepth
  i_nonneg : 0 ≤ r.i
  i_le : r.i ≤ 0xFFFF
  length : r.stack.length = stackDepth
  slot : ∀ a ∈ r.stack, 0 ≤ a ∧ a ≤ slotLimit size
  delay_nonneg : 0 ≤ r.delay
  delay_le : r.delay ≤ 255
  sound_nonneg : 0 ≤ r.sound
  sound_le : r.sound ≤ 255

namespace InRange

variable {r : Registers} {size a : Int}

theorem stackSound (h : r.InRange size) : r.StackSound := ⟨h.length, h.sp_nonneg, h.sp_le⟩

theorem initial (h : 0 ≤ size) : Registers.initial.InRange size where
  pc_nonneg := by decide
  pc_le := by
    simp only [Registers.initial, programStart, pcLimit]
    omega
  sp_nonneg := by decide
  sp_le := by decide
  i_nonneg := by decide
  i_le := by decide
  length := by decide
  slot a ha := by
    rw [List.eq_of_mem_replicate ha, slotLimit]
    omega
  delay_nonneg := by decide
  delay_le := by decide
  sound_nonneg := by decide
  sound_le := by decide

/-- General purpose registers hold bytes, whatever these are. -/
theorem withV (h : r.InRange size) (v : RegisterFile) : InRange size { r with v } := { h with }

theorem withI (h : r.InRange size) (h₀ : 0 ≤ a) (h₁ : a ≤ 0xFFFF) :
    InRange size { r with i := a } :=
  { h with i_nonneg := h₀, i_le := h₁ }

theorem withPc (h : r.InRange size) (h₀ : 0 ≤ a) (h₁ : a ≤ pcLimit size) :
    InRange size { r with pc := a } :=
  { h with pc_nonneg := h₀, pc_le := h₁ }

theorem withDelay (h : r.InRange size) (h₀ : 0 ≤ a) (h₁ : a ≤ 255) :
    InRange size { r with delay := a } :=
  { h with delay_nonneg := h₀, delay_le := h₁ }

theorem withSound (h : r.InRange size) (h₀ : 0 ≤ a) (h₁ : a ≤ 255) :
    InRange size { r with sound := a } :=
  { h with sound_nonneg := h₀, sound_le := h₁ }

/-- Addresses in instructions have twelve bits. -/
theorem jump (h : r.InRange size) (a : Fin 4096) : InRange size { r with pc := a.val } :=
  h.withPc (by omega) (by simp only [pcLimit]; omega)

/-- Two bytes of an instruction inside the memory are counted without wrapping, unless they are the
last of 65536. -/
theorem advance {s : State} (h : s.InRange size) (inside : s.pc + 1 < size) :
    (s.advance 2).InRange size ∧ (s.advance 2).pc ≤ slotLimit size := by
  have := h.pc_nonneg
  have le : wrapWord (s.pc + (2 : Nat)) ≤ slotLimit size := by
    simp only [wrapWord, slotLimit]
    omega
  refine ⟨h.withPc (wrapWord_nonneg _) (Int.le_trans le ?_), le⟩
  simp only [slotLimit, pcLimit]
  omega

theorem skipIf {s : State} (h : s.InRange size) (hpc : s.pc ≤ slotLimit size) (c : Bool) :
    (s.skipIf c).InRange size := by
  have := h.pc_nonneg
  unfold State.skipIf
  split
  · refine h.withPc (wrapWord_nonneg _) ?_
    simp only [wrapWord, slotLimit, pcLimit] at hpc ⊢
    omega
  · exact h

/-! ## On a board -/

variable {b : Board}

theorem ret (h : b.state.InRange size) : b.ret.1.state.InRange size := by
  rw [Board.ret_of_stackSound h.stackSound]
  split
  · exact h
  have sp := h.sp_le
  have length := h.length
  -- The slot below the pointer is one of the stack.
  have inside : (b.state.sp - 1).toNat < b.state.stack.length := by omega
  obtain ⟨h₀, h₁⟩ := h.slot _ (List.getElem_mem inside)
  have found : b.state.stack.getD (b.state.sp - 1).toNat 0 =
      b.state.stack[(b.state.sp - 1).toNat] := by
    rw [List.getD_eq_getElem?_getD, List.getElem?_eq_getElem inside]
    rfl
  refine { h with pc_nonneg := ?_, pc_le := ?_, sp_nonneg := ?_, sp_le := ?_ }
  · exact found ▸ h₀
  · refine found ▸ Int.le_trans h₁ ?_
    simp only [slotLimit, pcLimit]
    omega
  · dsimp only [Board.withState]
    omega
  · dsimp only [Board.withState]
    omega

theorem call (h : b.state.InRange size) (hpc : b.state.pc ≤ slotLimit size) (a : Fin 4096) :
    (b.call a).1.state.InRange size := by
  rw [Board.call_of_stackSound h.stackSound]
  split
  · exact h
  have sp := h.sp_nonneg
  refine { h.jump a with sp_nonneg := ?_, sp_le := ?_, length := ?_, slot := ?_ }
  · dsimp only [Board.withState]
    omega
  · dsimp only [Board.withState]
    omega
  · simp only [Board.withState, List.length_set, h.length]
  · intro x hx
    rcases List.mem_or_eq_of_mem_set hx with hx | rfl
    · exact h.slot x hx
    · exact ⟨h.pc_nonneg, hpc⟩

theorem fillFrom (h : b.state.InRange size) (a : Int) (xs : List Register) :
    (b.fillFrom a xs).1.state.InRange size :=
  Board.keep_fillFrom (P := fun b => b.state.InRange size)
    (fun _ _ _ _ _ _ h => h.withV _) h a xs

theorem draw (h : b.state.InRange size) (x y : UInt8) (n : Nat) :
    (b.draw x y n).1.state.InRange size :=
  Board.keep_draw (P := fun b => b.state.InRange size)
    (fun _ _ _ _ _ _ h => h) (fun _ _ h => h.withV _) h x y n

/-- Every instruction keeps the registers in range. -/
theorem effect (h : b.state.InRange size) (hpc : b.state.pc ≤ slotLimit size) (i : Instruction)
    (keys : Keypad) : (i.effect keys b).1.state.InRange size := by
  have byte (x : Register) := (b.state.v.get x).toNat_lt
  cases i with
  | sys a | cls | awaitKey x | decimal x | store x => exact h
  | loadByte x n | addByte x n | copy x y | or x y | and x y | xor x y | add x y | sub x y
  | shiftRight x y | subFrom x y | shiftLeft x y | random x n | readDelay x => exact h.withV _
  | skipIfByte x n | skipUnlessByte x n | skipIfSame x y | skipUnlessSame x y | skipIfKey x
  | skipUnlessKey x => exact h.skipIf hpc _
  | ret => exact h.ret
  | call a => exact h.call hpc a
  | jump a => exact h.jump a
  | jumpPlus a =>
    have := byte 0
    refine h.withPc (wrapWord_nonneg _) ?_
    simp only [wrapWord, pcLimit]
    omega
  | draw x y n => exact h.draw _ _ _
  | setDelay x =>
    have := byte x
    exact h.withDelay (by omega) (by omega)
  | setSound x =>
    have := byte x
    exact h.withSound (by omega) (by omega)
  | loadIndex a => exact h.withI (by omega) (by omega)
  | addIndex x =>
    have := wrapWord_lt (b.state.i + (b.state.v.get x).toNat)
    exact h.withI (wrapWord_nonneg _) (by omega)
  | glyph x =>
    have := byte x
    refine h.withI ?_ ?_ <;> simp only [Font.glyphSize] <;> omega
  | fill x => exact h.fillFrom _ _

end InRange

end Registers

end Hexscope
