import Hexscope.Proofs.Cpu.Account
import Hexscope.Proofs.Machine.Listing

/-!
# The instruction that comes next

A snapshot also describes the opcode that lies behind the one that was executed. If the program counter is left
there, and neither of its two bytes was written, then this is what the next step comes upon: it reports the
instruction that was described, or the program has ended, or there is no such instruction.

* `Cpu.ahead_of_done`: what a cycle knows of the opcode behind;
* `Cpu.Untouched.ahead`: what it knows stays true while the bytes are not written;
* `Machine.foretold_of_ahead`: what is known of the opcode at the program counter foretells a step;
* `Machine.lookahead_foretells`: so does each snapshot, along every run.
-/

namespace Hexscope

namespace Bus

variable {b b' : Bus} {a : Int} {next : Option Opcode}

theorem Ahead.of_bytes (h : b.Ahead a next) (layout : b'.layout = b.layout) (high : b'.peek a = b.peek a)
    (low : b'.peek (a + 1) = b.peek (a + 1)) : b'.Ahead a next := by
  rw [Ahead, size_of_layout layout, peekOpcode_congr high low]
  exact h

/-- Nothing is known exactly of an opcode that does not lie below the end. -/
theorem Ahead.eq_none_iff (h : b.Ahead a next) : next = none ↔ b.size ≤ a + 1 := by
  unfold Ahead at h
  split at h
  · obtain ⟨w, -, rfl⟩ := h
    exact iff_of_false (Option.some_ne_none w) (by omega)
  · exact iff_of_true h (by omega)

theorem Ahead.peekOpcode (h : b.Ahead a next) {w : Opcode} (found : next = some w) :
    b.peekOpcode a = .ok w := by
  unfold Ahead at h
  split at h
  · obtain ⟨v, here, known⟩ := h
    cases found.symm.trans known
    exact here
  · cases found.symm.trans h

theorem Ahead.eq_some (h : b.Ahead a next) {w : Opcode} (here : b.peekOpcode a = .ok w) :
    next = some w := by
  rw [Ahead, if_pos (lt_size_of_peekOpcode here)] at h
  obtain ⟨v, found, known⟩ := h
  cases found.symm.trans here
  exact known

end Bus

namespace Cpu

variable {c : Cpu} {w : Fetched} {o : Operation} {next : Option Opcode}

/-- A cycle that executes an opcode describes it, and knows the one behind it. -/
theorem ahead_of_done (done : c.cycle.2 = .done w o) : o = w.opcode.describe ∧
    c.bus.peekOpcode c.state.pc = .ok w.opcode ∧ c.bus.Ahead (c.state.pc + 2) w.next := by
  have ends := ends_cycle c
  rw [done] at ends
  generalize c.cycle.1 = d at ends
  cases ends with
  | @done bus _ i b _ fetched _ decoded _ =>
    refine ⟨(Opcode.describe_of_decode? decoded).symm, (opcode_of_fetched fetched).1, ?_⟩
    have ahead : c.bus.dropLog.Ahead _ _ := Bus.ahead_of_fetch fetched
    exact ahead.of_bytes (Bus.layout_dropLog c.bus).symm rfl rfl

/-- What is known of the opcode at the program counter tells whether the program has ended. -/
theorem atEnd_iff (within : c.Within .standard) (ahead : c.bus.Ahead c.state.pc next) :
    c.AtEnd ↔ next = none ∨ next = some 0 := by
  have size : c.bus.size = 4096 := Bus.size_of_layout within.layout
  have none := ahead.eq_none_iff
  rw [size] at none
  constructor
  · rintro (beyond | zero)
    · exact .inl (none.mpr (by omega))
    · cases next with
      | none => exact .inl rfl
      | some v =>
        have here := ahead.peekOpcode rfl
        cases here.symm.trans zero
        exact .inr rfl
  · rintro (nothing | zero)
    · have beyond := none.mp nothing
      exact .inl (by omega)
    · exact .inr (ahead.peekOpcode zero)

end Cpu

namespace Machine

variable {m n : Machine} {k : Nat} {t : Thread} {next : Option Opcode} {w : Fetched}

/-- A step ends with the fault of an unknown opcode exactly if it comes upon one that has no instruction. -/
theorem unknown_iff {x : Opcode} (meets : m.cpu.Meets x) (ht : m.threads[k]? = some t)
    (enters : t.enters m.cpu.gate = true) :
    (∃ y, m.Faults (m.act (.move k)) m.cpu.state.pc y .invalidOpcode) ↔ Instruction.decode? x = none := by
  obtain ⟨outcome, here⟩ := step_meets meets ht enters
  refine ⟨?_, fun none => ⟨x, here.mpr none⟩⟩
  rintro ⟨y, results, cause, unknown, fault⟩
  rcases outcome with ⟨goesOn, -⟩ | ⟨kind, -, cause', -, fault'⟩
  · exact absurd results (goesOn.results_ne (by decide))
  · have same : cause = cause' := congrArg Fault.cause (Option.some_inj.mp (fault.symm.trans fault'))
    subst same
    exact here.mp ⟨results, cause, unknown, fault'⟩

/-- What was said of the next instruction turns out to be true of a step. If the step executes an instruction,
and no other one begins before it has ended, its snapshot carries what was said. It is at the end of the program
exactly if nothing was said or the word was zero, and ends with the fault of an unknown opcode exactly if a data
word was described. -/
structure Foretold (said : Option Operation) (m : Machine) (k : Nat) : Prop where
  goesOn : ∀ {v : Fetched} {later : List Action}, m.executed? (.move k) = some v →
    (m.act (.move k)).calm later = true → (m.after (.move k :: later)).inside = [] →
    ∃ moment : Moment, moment.operation = said ∧ (m.after (.move k :: later)).moments =
      List.replicate m.snapshotListeners moment ++ m.moments
  halts : (m.act (.move k)).results = m.results ++ [.halted] ↔
    said = none ∨ said = some (Opcode.describe 0)
  fails : (∃ x, m.Faults (m.act (.move k)) m.cpu.state.pc x .invalidOpcode) ↔
    ∃ o, said = some o ∧ o.mnemonic = "DW"

theorem foretold_of_ahead (within : m.cpu.Within .standard) (idle : m.inside = [])
    (ahead : m.cpu.bus.Ahead m.cpu.state.pc next) (ht : m.threads[k]? = some t)
    (enters : t.enters m.cpu.gate = true) : Foretold (next.map Opcode.describe) m k where
  goesOn here calm ended := by
    obtain ⟨o, c, done, -, told, -⟩ := reported_of_step idle here calm ended
    obtain ⟨rfl, opcode, -⟩ := Cpu.ahead_of_done done
    refine ⟨_, ?_, told⟩
    rw [ahead.eq_some opcode]
    rfl
  halts := by
    rw [halted_iff within ht enters, Cpu.atEnd_iff within ahead]
    cases next with
    | none => simp
    | some x =>
      have same : x.describe = Opcode.describe 0 ↔ x = 0 := ⟨Opcode.describe_inj, congrArg _⟩
      simp [same]
  fails := by
    by_cases atEnd : m.cpu.AtEnd
    · have halted := (halted_iff within ht enters).mpr atEnd
      refine iff_of_false ?_ ?_
      · rintro ⟨x, faults⟩
        simpa using halted.symm.trans faults.results
      · rintro ⟨o, said, data⟩
        rcases (Cpu.atEnd_iff within ahead).mp atEnd with rfl | rfl
        · cases said
        · cases said
          cases (Opcode.describe_mnemonic_iff 0).mp data
    · obtain ⟨x, rfl⟩ : ∃ x, next = some x := by
        refine Option.ne_none_iff_exists'.mp fun none => atEnd ?_
        exact (Cpu.atEnd_iff within ahead).mpr (.inl none)
      have here := ahead.peekOpcode rfl
      have nonzero : x ≠ 0 := fun zero => atEnd (.inr (zero ▸ here))
      have sound := Bus.built_standard.sound.of_layout within.layout
      have meets := Cpu.meets sound within.isWhole within.inRange.pc_nonneg
        (Bus.lt_size_of_peekOpcode here) here nonzero
      rw [unknown_iff meets ht enters, ← Opcode.describe_mnemonic_iff]
      simp

variable {keypad : Keypad} {speaker : Option Speaker} {random : Random} {romLimit : Number}
  {cpuHz timerHz : Frequency} {historyLimit : Nat}

/-- A step of a machine with the standard memory, after any run that left no instruction open: an instruction is
executed, perhaps after a wait for a key, no other one begins and nothing is blanked in the meantime, and the
step ends. Each listener was told one snapshot. It describes the word behind the instruction, as it was before,
unless that lies beyond the end. If the program counter was left there and neither of its bytes was written,
then whoever steps next finds what the snapshot described. -/
theorem lookahead_foretells
    (assembled : assemble (.assemble .standard keypad speaker random romLimit) cpuHz timerHz
      historyLimit = .ok m) (before : List Action) (hn : n = m.after before)
    (idle : n.inside = []) (here : n.executed? (.move k) = some w)
    {during : List Action} (calm : (n.act (.move k)).calm during = true)
    (ended : (n.after (.move k :: during)).inside = []) :
    let address := n.cpu.state.pc
    let l := n.after (.move k :: during)
    ∃ moment : Moment, l.moments = List.replicate n.snapshotListeners moment ++ n.moments ∧
      (moment.next = none ↔ 0xFFF < address + 3) ∧
      (address + 3 ≤ 0xFFF → ∃ x, n.cpu.bus.peekOpcode (address + 2) = .ok x ∧
        moment.next = some x.describe) ∧
      (l.cpu.state.pc = address + 2 → address + 2 ∉ moment.accessed .write →
        address + 3 ∉ moment.accessed .write → ∀ (j : Nat) (t : Thread), l.threads[j]? = some t →
        t.enters l.cpu.gate = true → Foretold moment.next l j) := by
  intro address l
  subst hn
  have within := within_after assembled before
  have plain := Bus.plain_standard.of_layout within.layout
  have size : (m.after before).cpu.bus.size = 4096 := Bus.size_of_layout within.layout
  obtain ⟨o, c, done, same, told, bus⟩ := reported_of_step idle here calm ended
  obtain ⟨-, -, ahead⟩ := Cpu.ahead_of_done done
  have later : l = m.after (before ++ .move k :: during) := (after_append m before _).symm
  have kept {a : Int} (unwritten : a ∉ (c.closing w o).accessed .write) :
      l.cpu.bus.peek a = (m.after before).cpu.bus.peek a := by
    have log : a ∉ Bus.written c.bus.log := unwritten
    rw [same] at log
    rw [bus]
    exact Cpu.peek_cycle plain log
  refine ⟨c.closing w o, told, ?_, fun inside => ?_, fun pc high low j t ht enters => ?_⟩
  · have beyond : (c.closing w o).next = none ↔ w.next = none := Option.map_eq_none_iff
    rw [beyond, ahead.eq_none_iff, size]
    omega
  · rw [Bus.Ahead, if_pos (by omega)] at ahead
    obtain ⟨x, found, known⟩ := ahead
    exact ⟨x, found, congrArg (Option.map Opcode.describe) known⟩
  · have layout : l.cpu.bus.layout = (m.after before).cpu.bus.layout := by
      rw [bus, Bus.layout_dropLog, (Cpu.ends_cycle _).layout]
    have second : address + 2 + 1 = address + 3 := by omega
    have still := ahead.of_bytes layout (kept high) (by rw [second]; exact kept low)
    rw [← pc] at still
    have within : l.cpu.Within .standard := later ▸ within_after assembled _
    exact foretold_of_ahead within ended still ht enters

/-- A machine with two steps before an instruction and a word that is none. -/
def beforeData : Machine := (default : Machine).after [.load [0x60, 0x05, 0x50, 0x01], .step 2]

/-- The snapshot of the first step shows a data word, and the second step ends with a fault. -/
theorem lookahead_foretells_beforeData :
    ∃ moment : Moment, (beforeData.after [.move 0, .tick]).moments = moment :: beforeData.moments ∧
      moment.next = some (Opcode.describe 0x5001) ∧
      ∃ x, (beforeData.after [.move 0, .tick]).Faults (beforeData.after [.move 0, .tick, .move 0]) 0x202 x
        .invalidOpcode := by
  have assembled : assemble (.assemble .standard default none default Rom.standardLimit)
      standardCpuHz standardTimerHz Debugger.standardLimit = .ok default := rfl
  let l := beforeData.after [.move 0, .tick]
  obtain ⟨idle, executes, listeners, calm, address, behind⟩ : beforeData.inside = [] ∧
      (beforeData.executed? (.move 0)).isSome = true ∧ beforeData.snapshotListeners = 1 ∧
      (beforeData.act (.move 0)).calm [.tick] = true ∧ beforeData.cpu.state.pc = 0x200 ∧
      beforeData.cpu.bus.peekOpcode 0x202 = .ok 0x5001 := by
    decide +kernel
  obtain ⟨ended, pc, unwritten, thread, enters⟩ : l.inside = [] ∧ l.cpu.state.pc = 0x202 ∧
      l.moments.head?.map (·.accessed .write) = some [] ∧ l.threads[0]? = some ⟨.steps 1, .ready⟩ ∧
      Thread.enters ⟨.steps 1, .ready⟩ l.cpu.gate = true := by
    decide +kernel
  obtain ⟨w, here⟩ := Option.isSome_iff_exists.mp executes
  obtain ⟨moment, told, -, describes, foretells⟩ := lookahead_foretells assembled
    [.load [0x60, 0x05, 0x50, 0x01], .step 2] (n := beforeData) rfl idle here calm ended
  rw [address] at describes foretells
  rw [listeners] at told
  have quiet : moment.accessed .write = [] := by
    rw [show l.moments = moment :: beforeData.moments from told] at unwritten
    exact Option.some_inj.mp unwritten
  obtain ⟨x, found, next⟩ := describes (by decide)
  have same : x = 0x5001 := Except.ok.inj (found.symm.trans behind)
  subst same
  have foretold := foretells pc (by simp [quiet]) (by simp [quiet]) 0 _ thread enters
  obtain ⟨x, faults⟩ := foretold.fails.mpr ⟨_, next, by decide⟩
  rw [pc] at faults
  exact ⟨moment, told, next, x, faults⟩

end Machine

end Hexscope
