import Hexscope.Proofs.Machine.KeyWait

/-!
# The range of the registers along every run

`within_after` bounds the registers of a machine over any bus along every run. Over the standard
memory of 4096 bytes this gives fixed bounds (`Cpu.InStandardRange`). From them it follows that the
program counter never wraps, that no access of a fetch is refused, and that no instruction looks for
a slot that the call stack does not have (`Cpu.StaysInside`).

* `standard_after`: both hold along every run of a machine with the standard memory, and a register
  waits for a key only while a thread is inside an instruction.
-/

namespace Hexscope

namespace Cpu

/-- All of a processor lies in the ranges of the standard machine. -/
structure InStandardRange (c : Cpu) : Prop where
  v : ∀ x, 0 ≤ Byte.toInt (c.state.v.get x) ∧ Byte.toInt (c.state.v.get x) ≤ 255
  i : 0 ≤ c.state.i ∧ c.state.i ≤ 0xFFFF
  pc : 0 ≤ c.state.pc ∧ c.state.pc ≤ 0x10FE
  sp : 0 ≤ c.state.sp ∧ c.state.sp ≤ 16
  slots : c.state.stack.length = 16
  slot : ∀ a ∈ c.state.stack, 0 ≤ a ∧ a ≤ 0x1000
  delay : 0 ≤ c.state.delay ∧ c.state.delay ≤ 255
  sound : 0 ≤ c.state.sound ∧ c.state.sound ≤ 255
  keyWait : ∀ x, c.state.keyWait = some x → x.val ≤ 15
  rows : c.state.screen.rows.toList.length = 32
  pixel : ∀ x y, c.state.screen.pixel x y = true → x < 64 ∧ y < 32
  size : c.bus.size = 4096
  memory : ∃ r : Ram, r.cells.size = 4096 ∧
    ∀ a : Nat, a < 4096 → c.bus.peek a = .ok (r.cells.getD a 0)

/-- The next cycle neither wraps the program counter nor looks for a slot outside of the call stack,
and all its refused accesses become faults. -/
structure StaysInside (c : Cpu) : Prop where
  advance : c.state.pc + 1 < c.bus.size → (c.state.advance 2).pc = c.state.pc + 2
  skip : c.state.pc + 1 < c.bus.size →
    ((c.state.advance 2).skipIf true).pc = c.state.pc + 4
  noRaise : ∀ e, c.cycle.2 ≠ .raised e
  fault : c.cycle.2 = .fatal → ∃ f, c.cycle.1.fault = some f ∧
    (f.cause = .unknownOpcode ∨ f.cause = .stackOverflow ∨ f.cause = .stackUnderflow ∨
      ∃ a, 4096 ≤ a ∧ f.cause = .access (.bus (.unmapped a)))

variable {c : Cpu}

/-- One memory of 4096 cells answers at all addresses of the standard bus. -/
theorem Within.memory (h : Within .standard c) : ∃ r : Ram, r.cells.size = 4096 ∧
    ∀ a : Nat, a < 4096 → c.bus.peek a = .ok (r.cells.getD a 0) := by
  have cells : (c.bus.device 0).cells? = some 4096 :=
    (Bus.cells?_of_layout h.layout 0).trans (congrArg some (Ram.size_zeros Bus.standardSize))
  cases hd : c.bus.device 0 with
  | latch x => rw [hd] at cells; cases cells
  | ram r =>
    rw [hd] at cells
    have size : r.size = 4096 := Option.some.inj cells
    refine ⟨r, size, fun a ha => ?_⟩
    have leads : c.bus.resolve a = .ok ⟨0, a⟩ := by
      rw [Bus.resolve_of_layout h.layout]
      simp only [Bus.resolve, Bus.standard, Bus.Mapping.holds]
      rw [List.find?_cons_of_pos (by simp; omega)]
      simp
    simp only [Bus.peek, leads, bind, Except.bind, hd, Device.read, Ram.read]
    rw [Ram.cell?_of_lt (by omega) (by omega)]
    rfl

theorem Within.inStandardRange (h : Within .standard c) : c.InStandardRange := by
  have r := h.inRange
  rw [Bus.size_standard] at r
  refine ⟨fun x => ⟨Byte.toInt_nonneg _, ?_⟩, ⟨r.i_nonneg, r.i_le⟩, ⟨r.pc_nonneg, r.pc_le⟩,
    ⟨r.sp_nonneg, r.sp_le⟩, r.length, r.slot, ⟨r.delay_nonneg, r.delay_le⟩,
    ⟨r.sound_nonneg, r.sound_le⟩, fun x _ => by omega, ?_, fun x y => Screen.lt_of_pixel,
    Bus.size_of_layout h.layout, h.memory⟩
  · have := Byte.toInt_lt (c.state.v.get x)
    omega
  · simp

/-- The standard memory has no gaps. -/
theorem Within.isWhole (h : Within .standard c) : c.bus.IsWhole :=
  Bus.whole_standard.of_layout h.layout

theorem Within.staysInside (h : Within .standard c) : c.StaysInside := by
  have r := h.inRange
  have size : c.bus.size = 4096 := Bus.size_of_layout h.layout
  have sound := Bus.built_standard.sound.of_layout h.layout
  have mapped (a : Int) : c.bus.IsMapped a ↔ 0 ≤ a ∧ a < 4096 :=
    (Bus.isMapped_of_layout h.layout a).trans Bus.isMapped_standard
  have low := r.pc_nonneg
  refine ⟨fun inside => ?_, fun inside => ?_, fun e raised => ?_, fun fatal => ?_⟩
  · exact wrapWord_of_bounds (by omega) (by omega)
  · have first : (c.state.advance 2).pc = c.state.pc + 2 :=
      wrapWord_of_bounds (by omega) (by omega)
    simp only [State.skipIf, if_true]
    rw [State.advance, first]
    exact (wrapWord_of_bounds (by omega) (by omega)).trans (by omega)
  · obtain ⟨inside, a, gap, -⟩ := (raised_iff sound r.stackSound e).mp raised
    rw [Bus.gap?_fetchAddresses h.isWhole low inside] at gap
    cases gap
  · obtain ⟨f, hf, -, cause⟩ := fatal_cases sound r.stackSound fatal
    refine ⟨f, hf, cause.imp id (.imp id (.imp id ?_))⟩
    rintro ⟨i, a, access, unmapped, cause⟩
    have := Instruction.le_of_mem_accesses access
    have := r.i_nonneg
    rw [mapped] at unmapped
    exact ⟨a, by omega, cause⟩

/-- Both bytes of an opcode are in memory. -/
theorem lt_of_peekOpcode (within : c.Within .standard) {a : Int} {x : Opcode}
    (here : c.bus.peekOpcode a = .ok x) : a + 1 < 4096 := by
  have size : c.bus.size = 4096 := Bus.size_of_layout within.layout
  exact size ▸ Bus.lt_size_of_peekOpcode here

end Cpu

namespace Machine

variable {bus : Bus} {keypad : Keypad} {speaker : Option Speaker} {random : Random}
  {romLimit : Number} {cpuHz timerHz : Frequency} {historyLimit : Nat} {m : Machine}

theorem of_assemble {cpu : Cpu} (h : assemble cpu cpuHz timerHz historyLimit = .ok m) :
    m.cpu = cpu ∧ m.threads = [] := by
  unfold assemble at h
  split at h
  · cases h
  · cases h
    exact ⟨rfl, rfl⟩

/-- Along every run of a machine, the bus keeps its layout and the registers stay in range. -/
theorem within_after
    (assembled : assemble (.assemble bus keypad speaker random romLimit) cpuHz timerHz
      historyLimit = .ok m) (as : List Action) : (m.after as).cpu.Within bus := by
  refine law_after (Cpu.within_law bus) ?_ as
  rw [(of_assemble assembled).1]
  exact Cpu.within_assemble bus keypad speaker random romLimit

/-- Along every run of a machine with the standard memory, all registers lie in their ranges, the
next cycle stays inside of them, and a register waits for a key only while a thread is inside an
instruction. -/
theorem standard_after
    (assembled : assemble (.assemble .standard keypad speaker random romLimit) cpuHz timerHz
      historyLimit = .ok m) (as : List Action) :
    (m.after as).cpu.InStandardRange ∧ (m.after as).cpu.StaysInside ∧
      ((m.after as).cpu.state.keyWait ≠ none →
        ∃ t ∈ (m.after as).threads, t.place.inside? ≠ none) := by
  have within := within_after assembled as
  refine ⟨within.inStandardRange, within.staysInside, ?_⟩
  refine attended_after (.of_keyWait ?_) as
  rw [(of_assemble assembled).1]
  rfl

/-- The default machine has the standard memory, so its registers lie in their ranges while it waits
for a key. -/
theorem standard_keyThenFive :
    assemble (.assemble .standard default none default Rom.standardLimit) standardCpuHz
        standardTimerHz Debugger.standardLimit = .ok default ∧
      ((default : Machine).after
        [.load [0xF0, 0x0A, 0x61, 0x05], .start, .move 0]).cpu.InStandardRange := by
  have assembled : assemble (.assemble .standard default none default Rom.standardLimit)
      standardCpuHz standardTimerHz Debugger.standardLimit = .ok default := rfl
  exact ⟨assembled, (standard_after assembled _).1⟩

end Machine

end Hexscope
