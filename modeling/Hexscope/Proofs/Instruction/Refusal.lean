import Mathlib.Logic.Basic
import Hexscope.Proofs.Cpu.Cycle
import Hexscope.Proofs.Instruction.Form

/-!
# Which opcodes are refused

With 4096 bytes of memory, an opcode is refused if it has no form, if it calls on a full stack or returns on
an empty one, or if it accesses an address beyond the memory (`Opcode.Refused`). The relation is told by the
digits of the opcode and the registers before it.

* `Instruction.refusal?_eq`: what stops an instruction, by its operands;
* `Opcode.refused_iff`: an opcode is refused exactly if it has no instruction or something stops that;
* `Instruction.pc_of_trap`: an instruction that is stopped leaves the program counter behind itself.
-/

namespace Hexscope

/-- Why an opcode is refused by a machine whose memory ends at 0xFFF. -/
inductive Opcode.Refused (w : Opcode) (r : Registers) : ErrorKind → Prop where
  /-- The opcode has the form of no instruction. -/
  | form : (∀ i : Instruction, ¬ i.form.Fits w) → Refused w r .invalidOpcode
  /-- A call on a full stack. -/
  | full : w.family = 0x2 → r.sp = 16 → Refused w r .stackOverflow
  /-- A return on an empty stack. -/
  | empty : w = 0x00EE → r.sp = 0 → Refused w r .stackUnderflow
  /-- A sprite with a row beyond the memory, even if that row is not on the screen. -/
  | sprite : w.family = 0xD → 0 < w.n.val → 0xFFF < r.i + w.n - 1 → Refused w r .memoryAccess
  /-- Three digits. -/
  | decimal : w.family = 0xF → w.low = 0x33 → 0xFFF < r.i + 2 → Refused w r .memoryAccess
  /-- The registers up to Vx. -/
  | block : w.family = 0xF → w.low = 0x55 ∨ w.low = 0x65 → 0xFFF < r.i + w.x →
    Refused w r .memoryAccess

namespace Instruction

/-- What stops an instruction, by its operands. -/
def refusal? (r : Registers) : Instruction → Option ErrorKind
  | .call _ => if r.sp = 16 then some .stackOverflow else none
  | .ret => if r.sp = 0 then some .stackUnderflow else none
  | .draw _ _ n => if 0 < n.val ∧ 0xFFF < r.i + n - 1 then some .memoryAccess else none
  | .decimal _ => if 0xFFF < r.i + 2 then some .memoryAccess else none
  | .store x | .fill x => if 0xFFF < r.i + x then some .memoryAccess else none
  | _ => none

end Instruction

/-- The kind of what stops an instruction at the first of some addresses that lies beyond the memory. -/
theorem Bus.kind_gapTrap? {b : Bus} (mapped : ∀ a, b.IsMapped a ↔ 0 ≤ a ∧ a < 4096) {a : Int}
    (nonneg : 0 ≤ a) (n : Nat) : (b.gapTrap? (addresses a n)).map (·.cause.kind) =
      if 0 < n ∧ 0xFFF < a + n - 1 then some .memoryAccess else none := by
  cases found : b.gap? (addresses a n) with
  | some x =>
    have inside := mem_addresses.mp (mem_of_gap? found)
    have unmapped := not_isMapped_of_gap? found
    rw [mapped] at unmapped
    have beyond : 0 < n ∧ 0xFFF < a + n - 1 := by omega
    simp only [gapTrap?, found, if_pos beyond, Option.map_some, Trap.cause, Fault.Cause.kind]
  | none =>
    have all : ∀ x ∈ addresses a n, b.IsMapped x := by simpa [gap?] using found
    have within : ¬ (0 < n ∧ 0xFFF < a + n - 1) := by
      rintro ⟨rows, beyond⟩
      have := (mapped _).mp (all (a + n - 1) (mem_addresses.mpr (by omega)))
      omega
    simp only [gapTrap?, found, if_neg within, Option.map_none]

namespace Instruction

variable {s : State} {b : Bus}

/-- What stops an instruction on a machine whose memory ends at 0xFFF. -/
theorem refusal?_eq (stack : s.StackSound) (mapped : ∀ a, b.IsMapped a ↔ 0 ≤ a ∧ a < 4096)
    (nonneg : 0 ≤ s.i) (i : Instruction) :
    ((i.stackTrap? s).or (b.gapTrap? (i.accesses s))).map (·.cause.kind) =
      i.refusal? s.toRegisters := by
  have low := stack.sp_nonneg
  have high : s.sp ≤ 16 := stack.sp_le
  cases i with
  | ret =>
    show Option.map _ (Option.or (if s.sp ≤ 0 then _ else _) none) =
      if s.sp = 0 then some ErrorKind.stackUnderflow else none
    by_cases empty : s.sp = 0
    · rw [if_pos empty, if_pos (Int.le_of_eq empty)]
      rfl
    · rw [if_neg empty, if_neg (by omega)]
      rfl
  | call a =>
    show Option.map _ (Option.or (if (16 : Int) ≤ s.sp then _ else _) none) =
      if s.sp = 16 then some ErrorKind.stackOverflow else none
    by_cases full : s.sp = 16
    · rw [if_pos full, if_pos (Int.le_of_eq full.symm)]
      rfl
    · rw [if_neg full, if_neg (by omega)]
      rfl
  | draw x y n => exact Bus.kind_gapTrap? mapped nonneg n
  | decimal x =>
    refine (Bus.kind_gapTrap? mapped nonneg 3).trans (if_congr ?_ rfl rfl)
    omega
  | store x | fill x =>
    refine (Bus.kind_gapTrap? mapped nonneg (x.val + 1)).trans (if_congr ?_ rfl rfl)
    omega
  | _ => rfl

end Instruction

namespace Opcode

variable {w : Opcode} {r : Registers} {kind : ErrorKind}

/-- What is refused has no instruction, or one that something stops. -/
theorem Refused.stops (h : w.Refused r kind) :
    match Instruction.decode? w with
    | none => kind = .invalidOpcode
    | some i => i.refusal? r = some kind := by
  cases h with
  | form unfit => rw [(Instruction.decode?_eq_none_iff w).mpr unfit]
  | full family full =>
    simp only [Instruction.decode?, family]
    exact if_pos full
  | empty same empty =>
    subst same
    exact if_pos empty
  | sprite family rows beyond =>
    simp only [Instruction.decode?, family]
    exact if_pos ⟨rows, beyond⟩
  | decimal family low beyond =>
    rw [Instruction.decode?_devices family, Instruction.decodeDevices?, low]
    exact if_pos beyond
  | block family low beyond =>
    rcases low with low | low
    all_goals
      rw [Instruction.decode?_devices family, Instruction.decodeDevices?, low]
      exact if_pos beyond

/-- An opcode whose instruction is stopped is refused. -/
theorem refused_of_stops {i : Instruction} (decoded : Instruction.decode? w = some i)
    (stops : i.refusal? r = some kind) : w.Refused r kind := by
  obtain ⟨family, -, third, last⟩ := Instruction.fits_of_decode? decoded
  have iff {p : Prop} [Decidable p] {k : ErrorKind}
      (h : (if p then some k else none) = some kind) : p ∧ k = kind := by
    split at h
    · exact ⟨‹p›, Option.some.inj h⟩
    · cases h
  cases i with
  | call a =>
    obtain ⟨full, rfl⟩ := iff stops
    exact .full family full
  | ret =>
    obtain ⟨empty, rfl⟩ := iff stops
    have zero : w.family = 0 := family
    simp only [Instruction.decode?, zero] at decoded
    split at decoded
    · cases decoded
    · split at decoded
      · exact .empty ‹_› empty
      · cases decoded
  | draw x y n =>
    have family : w.family = 0xD := family
    simp only [Instruction.decode?, family, Option.some.injEq, Instruction.draw.injEq] at decoded
    obtain ⟨-, -, rfl⟩ := decoded
    obtain ⟨⟨rows, beyond⟩, rfl⟩ := iff stops
    exact .sprite family rows beyond
  | decimal x =>
    obtain ⟨beyond, rfl⟩ := iff stops
    exact .decimal family ((w.low_eq_iff _).mpr ⟨third _ rfl, last _ rfl⟩) beyond
  | store x =>
    have low : w.low = 0x55 := (w.low_eq_iff _).mpr ⟨third _ rfl, last _ rfl⟩
    rw [Instruction.decode?_devices family, Instruction.decodeDevices?, low] at decoded
    cases decoded
    obtain ⟨beyond, rfl⟩ := iff stops
    exact .block family (.inl low) beyond
  | fill x =>
    have low : w.low = 0x65 := (w.low_eq_iff _).mpr ⟨third _ rfl, last _ rfl⟩
    rw [Instruction.decode?_devices family, Instruction.decodeDevices?, low] at decoded
    cases decoded
    obtain ⟨beyond, rfl⟩ := iff stops
    exact .block family (.inr low) beyond
  | _ => cases stops

/-- An opcode is refused if it has no instruction, or if something stops that. -/
theorem refused_iff : w.Refused r kind ↔
    match Instruction.decode? w with
    | none => kind = .invalidOpcode
    | some i => i.refusal? r = some kind := by
  refine ⟨Refused.stops, fun stops => ?_⟩
  cases decoded : Instruction.decode? w with
  | none =>
    rw [decoded] at stops
    exact stops ▸ .form ((Instruction.decode?_eq_none_iff w).mp decoded)
  | some i =>
    rw [decoded] at stops
    exact refused_of_stops decoded stops

/-- There is one reason at most. -/
theorem Refused.unique {kind' : ErrorKind} (h : w.Refused r kind) (h' : w.Refused r kind') :
    kind = kind' := by
  have first := h.stops
  have second := h'.stops
  cases decoded : Instruction.decode? w with
  | none =>
    rw [decoded] at first second
    exact first.trans second.symm
  | some i =>
    rw [decoded] at first second
    exact Option.some.inj (first.symm.trans second)

end Opcode

/-- An instruction that is stopped leaves the program counter behind itself. -/
theorem Instruction.pc_of_trap {b b' : Board} {t : Trap} {i : Instruction} {keys : Keypad}
    (stack : b.state.StackSound) (stops : i.effect keys b = (b', some t)) :
    b'.state.pc = b.state.pc := by
  have after : (i.effect keys b).1 = b' := congrArg Prod.fst stops
  cases i with
  | draw x y n =>
    rw [← after]
    exact Board.keep_draw (P := fun d => d.state.pc = b.state.pc) (fun _ _ _ _ _ _ h => h)
      (fun _ _ h => h) rfl _ _ _
  | fill x =>
    rw [← after]
    exact Board.keep_fillFrom (P := fun d => d.state.pc = b.state.pc) (fun _ _ _ _ _ _ h => h) rfl _ _
  | decimal x | store x =>
    rw [← after]
    rfl
  | ret =>
    have ret : b.ret = (b', some t) := stops
    rw [Board.ret_of_stackSound stack] at ret
    split at ret <;> cases ret
    rfl
  | call a =>
    have call : b.call a = (b', some t) := stops
    rw [Board.call_of_stackSound stack] at call
    split at call <;> cases call
    rfl
  | _ => cases stops

end Hexscope
