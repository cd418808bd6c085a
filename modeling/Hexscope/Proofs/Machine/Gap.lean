import Hexscope.Proofs.Machine.Range

/-!
# Gaps in the address space

On a bus with gaps an instruction may be fetched from, or may work on, an address that is not
mapped. Only an access of the instruction itself becomes a fault. The reads of the fetch lie outside
the reach of faults, those that only look at the next opcode among them.

* `raised_iff_gap`: exactly when the next cycle is refused an access outside the reach of faults,
  along every run over every bus;
* `perform_of_raised`: the thread of the clock then ends, and nobody hears of it.
-/

namespace Hexscope.Machine

variable {bus : Bus} {keypad : Keypad} {speaker : Option Speaker} {random : Random}
  {romLimit : Number} {cpuHz timerHz : Frequency} {historyLimit : Nat} {m : Machine}

/-- The thread of the clock ends without a word when a fetch is refused: no result is noted, and the
timers go on. -/
theorem perform_of_raised {e : AccessError} (h : m.cpu.cycle.2 = .raised e) (live : Bool) :
    m.perform (.clock live) = ({ m with cpu := m.cpu.cycle.1 }, none) :=
  perform_of_refused h (.clock live)

/-- Along every run over a bus that was put together by registration, the next cycle is refused an
access outside the reach of faults exactly if the program counter is below the end and one of the
addresses of the fetch is not mapped. Where all of them are, an address of the instruction that is
not mapped ends in a fault. -/
theorem raised_iff_gap (built : bus.Built)
    (assembled : assemble (.assemble bus keypad speaker random romLimit) cpuHz timerHz
      historyLimit = .ok m) (as : List Action) {c : Cpu} (hc : c = (m.after as).cpu) :
    (∀ e, c.cycle.2 = .raised e ↔ c.state.pc + 1 < c.bus.size ∧
      ∃ a, c.bus.gap? (c.bus.fetchAddresses c.state.pc) = some a ∧ e = .bus (.unmapped a)) ∧
    ∀ w i a, c.state.pc + 1 < c.bus.size → c.fetched.2 = .ok w →
      Instruction.decode? w.opcode = some i → c.bus.gap? (i.accesses c.state) = some a →
      c.cycle.2 = .fatal ∧
        c.cycle.1.fault = some ⟨.access (.bus (.unmapped a)), c.state.pc, w.opcode.toNat⟩ := by
  subst hc
  have within := within_after assembled as
  have sound := built.sound.of_layout within.layout
  have stack := within.inRange.stackSound
  refine ⟨fun e => Cpu.raised_iff sound stack e, ?_⟩
  intro w i a inside hf hi hg
  exact Cpu.fault_of_gap sound stack inside hf hi hg

/-- Two memories of 256 bytes with a gap between them, in which programs would start. -/
def gapped : Bus :=
  ⟨#[.ram (Ram.zeros 256), .ram (Ram.zeros 256)], [⟨0, 255, 0⟩, ⟨768, 1023, 1⟩], []⟩

theorem gapped_built : gapped.Built :=
  .register (.register .empty (Bus.register_zeros _ (by decide) (by decide) rfl))
    (Bus.register_zeros _ (by decide) (by decide) rfl)

/-- A machine over a bus. -/
def machineOver (bus : Bus) : Machine := { (default : Machine) with
  cpu := .assemble bus default none default Rom.standardLimit }

/-- After a reset over the memories with a gap, the first fetch is refused. -/
theorem raised_gapped :
    gapped.Built ∧ ((machineOver gapped).after [.reset]).cpu.cycle.2 =
      .raised (.bus (.unmapped 0x200)) := by
  have assembled : assemble (.assemble gapped default none default Rom.standardLimit)
      standardCpuHz standardTimerHz Debugger.standardLimit = .ok (machineOver gapped) := rfl
  refine ⟨gapped_built, ((raised_iff_gap gapped_built assembled [.reset] rfl).1 _).mpr ?_⟩
  exact ⟨by decide +kernel, 0x200, by decide +kernel, rfl⟩

/-- Two memories with a gap behind the first instruction of a program. -/
def gappedBehind : Bus :=
  ⟨#[.ram (Ram.zeros 514), .ram (Ram.zeros 4)], [⟨0, 513, 0⟩, ⟨516, 519, 1⟩], []⟩

theorem gappedBehind_built : gappedBehind.Built :=
  .register (.register .empty (Bus.register_zeros _ (by decide) (by decide) rfl))
    (Bus.register_zeros _ (by decide) (by decide) rfl)

instance (o : Outcome Fetched) (e : AccessError) : Decidable (o = .raised e) :=
  match o with
  | .raised e' => decidable_of_iff (e' = e) (by simp)
  | .halted | .fatal | .done .. => isFalse nofun

/-- Resets and loads succeed over both buses, and then the first fetch is refused and no fault is
remembered. Over the second bus the first instruction itself is mapped, only the one behind it is
not. -/
theorem escaped_gapped :
    (gapped.Built ∧ (machineOver gapped).reset.2 = none ∧
      (machineOver gapped).reset.1.cpu.cycle.2 = .raised (.bus (.unmapped 0x200)) ∧
      (machineOver gapped).reset.1.cpu.cycle.1.fault = none) ∧
    gappedBehind.Built ∧ ((machineOver gappedBehind).loadProgram [0x60, 0x01]).2 = none ∧
      ((machineOver gappedBehind).loadProgram [0x60, 0x01]).1.cpu.cycle.2 =
        .raised (.bus (.unmapped 0x202)) ∧
      ((machineOver gappedBehind).loadProgram [0x60, 0x01]).1.cpu.cycle.1.fault = none :=
  ⟨⟨gapped_built, by decide +kernel⟩, gappedBehind_built, by decide +kernel⟩

end Hexscope.Machine
