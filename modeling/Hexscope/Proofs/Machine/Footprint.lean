import Hexscope.Proofs.Instruction.Footprint
import Hexscope.Proofs.Machine.Conclude
import Hexscope.Proofs.Machine.Log

/-!
# What a step may change

A step changes what is within reach of its opcode, counts one cycle, and leaves everything else of the
processor alone (`Reach.Covers`), also if it waits for a key in between. The timers are up to the timer
clock as well, so they are treated apart.

* `Reach.Covers.follows`: what happens after the cycle of a step stays within its reach;
* `Cpu.covers_cycle`: the cycle of an instruction that is executed;
* `Cpu.cycle_of_unknown`: the cycle of an opcode that is no instruction;
* `Machine.footprint_of_step`: both, for the steps of a machine with the standard memory.
-/

namespace Hexscope

/-- From one moment of a processor to another, one instruction was executed, and besides the timers, the
access log, and whether the screen must be shown, only what is within reach has changed. -/
structure Reach.Covers (reach : Reach) (c d : Cpu) : Prop
    extends Reach.Spares reach c.state d.state where
  pc : d.state.pc = reach.next c.keypad c.state.toRegisters
  cycles : d.cycles = c.cycles + 1
  fault : d.fault = c.fault
  memory : ∀ a, a < c.state.i ∨ c.state.i + reach.bytes ≤ a → d.bus.peek a = c.bus.peek a
  layout : d.bus.layout = c.bus.layout
  random : d.random = if reach.random then c.random.next.2 else c.random

namespace Reach.Covers

variable {reach : Reach} {c d e : Cpu}

theorem rests (h : reach.Covers c d) (rests : d.Rests e) : reach.Covers c e where
  registers x hx free := (congrArg (·.get x) rests.v).trans (h.registers x hx free)
  index no := (congrArg (·.state.i) rests.core).trans (h.index no)
  screen no := (congrArg (·.state.screen) rests.core).trans (h.screen no)
  pointer no := (congrArg (·.state.sp) rests.core).trans (h.pointer no)
  stack := by
    rw [show e.state.stack = d.state.stack from congrArg (·.state.stack) rests.core]
    exact h.stack
  waits x hx := h.waits x (rests.keyWait ▸ hx)
  pc := rests.pc.trans h.pc
  cycles := (congrArg (·.cycles) rests.core).trans h.cycles
  fault := (congrArg (·.fault) rests.core).trans h.fault
  memory a outside := (congrArg (·.bus.peek a) rests.core).trans (h.memory a outside)
  layout := rests.layout.trans h.layout
  random := (congrArg (·.random) rests.core).trans h.random

theorem deliver (h : reach.Covers c d) (k : Key) : reach.Covers c (d.deliver k) := by
  unfold Cpu.deliver
  split
  · rename_i x waits
    refine { h with registers := fun y hy free => ?_, waits := nofun }
    have other : x ≠ y := by
      rintro rfl
      exact (h.waits x waits).elim hy free
    rw [← h.registers y hy free]
    exact (RegisterFile.get_set ..).trans (if_neg other)
  · exact h

/-- What happens after the cycle of a step stays within its reach. -/
theorem follows (h : reach.Covers c d) (follows : d.Follows e) : reach.Covers c e := by
  cases follows with
  | rests rests => exact h.rests rests
  | served rests => exact (h.deliver _).rests rests

end Reach.Covers

namespace Cpu

variable {c : Cpu} {w : Fetched} {o : Operation}

/-- The cycle of an instruction that is executed stays within the reach of its opcode, which is the one
at the program counter. -/
theorem covers_cycle (within : c.Within .standard) (done : c.cycle.2 = .done w o) :
    c.bus.peekOpcode c.state.pc = .ok w.opcode ∧
    ∃ reach, w.opcode.reach? = some reach ∧ reach.Covers c c.cycle.1 ∧
      reach.SparesTimers c.state.toRegisters c.cycle.1.state.toRegisters := by
  have ends := ends_cycle c
  rw [done] at ends
  generalize c.cycle.1 = d at ends ⊢
  cases ends with
  | @done bus _ i b inside hf _ hi he =>
    obtain ⟨-, same, opcode⟩ := Bus.logs_fetch hf
    have layout : bus.layout = c.bus.layout := layout_fetched hf
    have plain : bus.Plain := Bus.plain_standard.of_layout (layout.trans within.layout)
    have stack := within.inRange.stackSound
    have sound : (c.ready bus).state.StackSound := ⟨stack.length, stack.sp_nonneg, stack.sp_le⟩
    have low := within.inRange.pc_nonneg
    have size : c.bus.size = 4096 := Bus.size_of_layout within.layout
    have spares := i.spares_effect (b := c.ready bus) sound c.keypad
    have timers := i.sparesTimers_effect c.keypad (c.ready bus)
    have random := i.random_effect c.keypad (c.ready bus)
    have kept := layout_effect i c.keypad (c.ready bus)
    rw [he] at spares timers random kept
    have high : c.state.pc < 65532 := by omega
    have behind : (c.ready bus).state.pc = c.state.pc + 2 :=
      wrapWord_of_bounds (by omega) (by omega)
    have next : b.state.pc = i.reach.next c.keypad c.state.toRegisters :=
      Instruction.pc_effect (b := c.ready bus) sound behind low high he
    refine ⟨opcode, i.reach, ?_, ?_, ⟨timers.delay, timers.sound⟩⟩
    · rw [Opcode.reach?_eq, hi, Option.map_some]
    · exact {
        registers := spares.registers
        index := spares.index
        screen := spares.screen
        pointer := spares.pointer
        stack := spares.stack
        waits := spares.waits
        pc := next
        cycles := rfl
        fault := rfl
        memory := fun a outside =>
          (Instruction.memory_effect plain he outside).trans (congrFun same a)
        layout := kept.trans layout
        random := random }

/-- The cycle of an opcode that is no instruction leaves a fault, and changes nothing else but the access
log. -/
theorem cycle_of_unknown (within : c.Within .standard) {x : Opcode}
    (here : c.bus.peekOpcode c.state.pc = .ok x) (nonzero : x ≠ 0) (unknown : x.reach? = none) :
    c.cycle.2 = .fatal ∧ ∃ bus, c.cycle.1 =
        { c with bus, fault := some ⟨.unknownOpcode, c.state.pc, x.toNat⟩ } ∧
      bus.peek = c.bus.peek ∧ bus.layout = c.bus.layout := by
  have sound := Bus.built_standard.sound.of_layout within.layout
  have size : c.bus.size = 4096 := Bus.size_of_layout within.layout
  have low := within.inRange.pc_nonneg
  have inside := lt_of_peekOpcode within here
  have fetches {w : Fetched} {bus : Bus} (hf : c.fetched = (bus, .ok w)) :
      w.opcode = x ∧ w.pc = c.state.pc ∧ bus.peek = c.bus.peek ∧ bus.layout = c.bus.layout := by
    obtain ⟨-, same, opcode⟩ := Bus.logs_fetch hf
    have found : c.bus.peekOpcode c.state.pc = .ok w.opcode := opcode
    rw [here] at found
    exact ⟨(Except.ok.inj found).symm, Bus.pc_of_fetch (congrArg Prod.snd hf), same,
      layout_fetched hf⟩
  have noInstruction : Instruction.decode? x = none := by
    rw [Opcode.reach?_eq] at unknown
    exact Option.map_eq_none_iff.mp unknown
  have ends := ends_cycle c
  generalize c.cycle.1 = d, c.cycle.2 = r at ends ⊢
  cases ends with
  | outside out => omega
  | unreadable _ hf =>
    obtain ⟨w, ok⟩ := exists_fetched sound within.isWhole low (by omega)
    rw [hf] at ok
    cases ok
  | stopped _ hf zero => exact absurd ((fetches hf).1.symm.trans zero) nonzero
  | unknown _ hf _ _ =>
    obtain ⟨rfl, pc, same, layout⟩ := fetches hf
    exact ⟨rfl, _, by rw [pc], same, layout⟩
  | faulted _ hf _ hi _ _ | refused _ hf _ hi _ | done _ hf _ hi _ =>
    rw [(fetches hf).1, noInstruction] at hi
    cases hi

end Cpu

namespace Machine

variable {m n : Machine} {a : Action} {as : List Action} {w : Fetched} {reach : Reach} {c : Cpu}

/-- Whether the timers do not tick along a run. -/
def untimed (m : Machine) : List Action → Bool
  | [] => true
  | a :: as => !m.ticks a && (m.act a).untimed as

/-- As long as no other instruction begins, what is within reach stays the same. -/
theorem covers_after (h : reach.Covers c n.cpu) (calm : n.calm as = true) :
    reach.Covers c (n.after as).cpu := by
  induction as generalizing n with
  | nil => exact h
  | cons a as ih =>
    simp only [Machine.calm, Bool.and_eq_true, Bool.not_eq_true'] at calm
    obtain ⟨⟨idle, kept⟩, calm⟩ := calm
    have follows := follows_act kept
    rw [if_neg (Bool.eq_false_iff.mp idle)] at follows
    exact ih (h.follows follows) calm

/-- As long as no instruction begins and the timers do not tick, they stand. -/
theorem timers_after (calm : n.calm as = true) (untimed : n.untimed as = true) :
    (n.after as).cpu.state.timers = n.cpu.state.timers := by
  induction as generalizing n with
  | nil => rfl
  | cons a as ih =>
    simp only [Machine.calm, Machine.untimed, Bool.and_eq_true, Bool.not_eq_true'] at calm untimed
    obtain ⟨⟨idle, kept⟩, calm⟩ := calm
    have still := still_act kept untimed.1
    rw [if_neg (Bool.eq_false_iff.mp idle)] at still
    exact (ih calm untimed.2).trans still

/-- After an instruction was executed, a register waits only while a thread is inside an instruction. -/
theorem attended_of_executed {k : Nat} (here : m.executed? (.move k) = some w) :
    (m.act (.move k)).Attended := by
  obtain ⟨begins, o, done⟩ := executed?_eq_some.mp here
  simp only [Machine.begins, Option.any_eq_true] at begins
  obtain ⟨t, ht, enters⟩ := begins
  obtain ⟨u, turns, threads⟩ := turns_move ht (isRunnable_of_enters enters)
  cases turns with
  | rests idle _ _ _ | ceases idle _ _ => exact absurd (idle.symm.trans enters) Bool.false_ne_true
  | performs _ _ performs =>
    cases performs with
    | fails failed _ _ => exact absurd done (failed w o)
    | reports _ free reports => exact .of_keyWait (reports.rests.keyWait.trans free)
    | @suspends v p _ _ ceases =>
      cases ceases with
      | served _ reports =>
        exact .of_keyWait (reports.rests.keyWait.trans (Cpu.keyWait_deliver _ _))
      | waits _ _ =>
        have opened : ⟨t.task, .key v p⟩ ∈ (m.move k).threads := by
          rw [threads]
          exact List.mem_append_left _ (List.mem_append_right _ (List.mem_singleton_self _))
        exact fun _ => ⟨_, opened, Option.some_ne_none _⟩

/-- What a step does whose opcode is no instruction: only the fault and the access log change, besides the
speaker and the gate. -/
def Refuses (m n : Machine) (x : Opcode) : Prop :=
  ∃ bus speaker gate, n.cpu = { m.cpu with
      bus, speaker, gate, fault := some ⟨.unknownOpcode, m.cpu.state.pc, x.toNat⟩ } ∧
    bus.peek = m.cpu.bus.peek ∧ bus.layout = m.cpu.bus.layout

/-- A thread that begins with an opcode that is no instruction. -/
theorem refuses_act (within : m.cpu.Within .standard) {x : Opcode} (begins : m.begins a = true)
    (here : m.cpu.bus.peekOpcode m.cpu.state.pc = .ok x) (nonzero : x ≠ 0)
    (unknown : x.reach? = none) : m.Refuses (m.act a) x := by
  obtain ⟨fatal, bus, cycle, same, layout⟩ :=
    Cpu.cycle_of_unknown within here nonzero unknown
  cases a with
  | move k =>
    simp only [Machine.begins, Option.any_eq_true] at begins
    obtain ⟨t, ht, enters⟩ := begins
    let moving := { m with threads := m.threads.eraseIdx k, onThread := true }
    have stop : moving.cpu.cycle.2.stop? = some .fatal := congrArg Outcome.stop? fatal
    have moved := moveThread_of_enters (m := moving) enters
    rw [perform_of_stop stop] at moved
    obtain ⟨speaker, gate, shut, -⟩ :=
      shuts_afterResult { moving with cpu := moving.cpu.cycle.1 } t.task .fatal fun goes =>
        absurd goes (by decide)
    refine ⟨bus, speaker, gate, ?_, same, layout⟩
    simp only [act]
    rw [move_eq ht (isRunnable_of_enters enters)]
    simp only [moving] at moved shut ⊢
    rw [moved, goOn, shut, cycle]
  | _ => cases begins

/-- A step of a machine with the standard memory, whatever happens on it while the step waits for a key, as
long as no other instruction begins and nothing is reset: it executes the opcode at the program counter,
and only what is within its reach has changed afterwards, besides the timers. Those stand if they do not
tick, unless they are within reach, and once no instruction is open any more, no register waits. And a step
whose opcode is no instruction changes nothing but the fault and the access log. -/
theorem footprint_of_step (within : m.cpu.Within .standard) :
    (∀ k w during, m.executed? (.move k) = some w → (m.act (.move k)).calm during = true →
      m.cpu.bus.peekOpcode m.cpu.state.pc = .ok w.opcode ∧
      ∃ reach, w.opcode.reach? = some reach ∧
        reach.Covers m.cpu (m.after (.move k :: during)).cpu ∧
        (m.untimed (.move k :: during) = true → reach.SparesTimers m.cpu.state.toRegisters
          (m.after (.move k :: during)).cpu.state.toRegisters) ∧
        ((m.after (.move k :: during)).inside = [] →
          (m.after (.move k :: during)).cpu.state.keyWait = none)) ∧
    ∀ k x, m.begins (.move k) = true → m.cpu.bus.peekOpcode m.cpu.state.pc = .ok x → x ≠ 0 →
      x.reach? = none → m.Refuses (m.act (.move k)) x := by
  refine ⟨fun k w during here calm => ?_, fun k x begins here nonzero unknown =>
    refuses_act within begins here nonzero unknown⟩
  obtain ⟨begins, o, done⟩ := executed?_eq_some.mp here
  obtain ⟨opcode, reach, found, covers, timers⟩ := Cpu.covers_cycle within done
  have kept : m.restarts (.move k) = false := rfl
  refine ⟨opcode, reach, found, ?_, fun untimed => ?_, fun closed => ?_⟩
  · have follows := follows_act kept
    rw [if_pos begins] at follows
    exact covers_after (n := m.act (.move k)) (covers.follows follows) calm
  · simp only [Machine.untimed, Bool.and_eq_true, Bool.not_eq_true'] at untimed
    have first := still_act kept untimed.1
    rw [if_pos begins] at first
    have same := (timers_after calm untimed.2).trans first
    exact ⟨fun no => (congrArg Prod.fst same).trans (timers.delay no),
      fun no => (congrArg Prod.snd same).trans (timers.sound no)⟩
  · by_contra waits
    obtain ⟨t, ht, inside⟩ := attended_after (attended_of_executed here) during waits
    exact inside (List.filterMap_eq_nil_iff.mp closed t ht)

/-- A machine that is about to store two registers at 0x300, and to come upon an opcode that is no
instruction. -/
def storing : Machine :=
  (default : Machine).after [.load [0xA3, 0x00, 0xF1, 0x55, 0x50, 0x01], .step 3, .move 0]

/-- The two bytes at 0x300 are within reach, and nothing else. The opcode behind is refused. -/
theorem footprint_storing :
    Reach.Covers { bytes := 2 } storing.cpu (storing.after [.move 0, .press 5]).cpu ∧
    storing.cpu.state.i = 0x300 ∧
    (storing.act (.move 0)).Refuses ((storing.act (.move 0)).act (.move 0)) 0x5001 := by
  have assembled : assemble (.assemble .standard default none default Rom.standardLimit)
      standardCpuHz standardTimerHz Debugger.standardLimit = .ok default := rfl
  have facts : (storing.executed? (.move 0)).map (·.opcode) = some 0xF155 ∧
      (storing.act (.move 0)).calm [.press 5] = true ∧ storing.cpu.state.i = 0x300 ∧
      (storing.act (.move 0)).begins (.move 0) = true ∧
      (storing.act (.move 0)).cpu.bus.peekOpcode (storing.act (.move 0)).cpu.state.pc =
        .ok 0x5001 := by
    decide +kernel
  obtain ⟨executed, calm, index, begins, here⟩ := facts
  obtain ⟨w, executed, opcode⟩ := Option.map_eq_some_iff.mp executed
  have within : storing.cpu.Within .standard := within_after assembled _
  have later : (storing.act (.move 0)).cpu.Within .standard :=
    law_act (Cpu.within_law .standard) within (.move 0)
  obtain ⟨-, reach, found, covers, -, -⟩ :=
    (footprint_of_step within).1 0 w [.press 5] executed calm
  have two : Opcode.reach? 0xF155 = some { bytes := 2 } := rfl
  rw [opcode, two] at found
  cases found
  exact ⟨covers, index, (footprint_of_step later).2 0 0x5001 begins here (by decide) rfl⟩

end Machine

end Hexscope
