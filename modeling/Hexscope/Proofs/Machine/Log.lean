import Hexscope.Proofs.Cpu.Log
import Hexscope.Proofs.Machine.Range
import Hexscope.Proofs.Machine.Step

/-!
# The access log of a snapshot

The snapshot that reports an instruction takes the access log with it. If no other instruction begins
before the report, then its log is that of the cycle: the opcode and the accesses of the instruction,
complete and in order, and from them follows what has become of the memory.

* `Machine.pending_after`: an instruction that has begun stays open, or is reported once, with the
  records that its cycle left;
* `Machine.reported_of_step`: what is told of a step that has ended;
* `Machine.activity_of_step`: the log of every step of a machine with the standard memory.
-/

namespace Hexscope.Machine

variable {m n l : Machine} {a : Action} {w : Fetched} {o : Operation} {bus : Bus}

/-- Whether no instruction begins along a run, and no memory is blanked. -/
def calm (m : Machine) : List Action → Bool
  | [] => true
  | a :: as => !m.begins a && !m.restarts a && (m.act a).calm as

/-- Since a moment `m`, one instruction is open, and the bus is as its cycle left it. Or it has been
reported to each listener, with the records of that bus. -/
inductive Pending (m : Machine) (bus : Bus) (w : Fetched) (o : Operation) (n : Machine) : Prop where
  | waits : n.inside = [(w, o)] → n.cpu.bus = bus → n.snapshotListeners = m.snapshotListeners →
    n.moments = m.moments → Pending m bus w o n
  | reported {c : Cpu} : n.inside = [] → n.cpu.bus = bus.dropLog → c.bus = bus →
    n.moments = List.replicate m.snapshotListeners (c.closing w o) ++ m.moments → Pending m bus w o n

/-- A report takes the log of the bus with it. -/
theorem Pending.of_report {c : Cpu} (inside : n.inside = []) (same : c.bus = bus)
    (listeners : l.snapshotListeners = m.snapshotListeners) (moments : l.moments = m.moments)
    (tells : Tells (c.conclude w o).1 l n [c.closing w o]) : Pending m bus w o n := by
  have taken : n.cpu.bus = bus.dropLog := by rw [tells.bus, Cpu.bus_conclude, same]
  have told : n.moments = List.replicate m.snapshotListeners (c.closing w o) ++ m.moments := by
    rw [tells.moments, listeners, moments]
    simp
  exact .reported inside taken same told

/-- An instruction that begins while no other is open. -/
theorem pending_act (idle : m.inside = []) (begins : m.begins a = true) (done : m.cpu.cycle.2 = .done w o) :
    m.Pending m.cpu.cycle.1.bus w o (m.act a) := by
  cases begins_act begins with
  | fails failed _ _ => exact absurd done (failed w o)
  | reports done' served inside tells =>
    cases done.symm.trans done'
    refine .of_report (inside.trans idle) ?_ rfl rfl tells
    rcases served with rfl | ⟨k, rfl⟩
    · rfl
    · exact Cpu.bus_deliver _ k
  | suspends done' before after tells =>
    cases done.symm.trans done'
    obtain ⟨rfl, rfl⟩ := List.append_eq_nil_iff.mp (before.symm.trans idle)
    exact .waits after tells.bus tells.listeners (tells.moments.trans (List.nil_append _))

/-- An open instruction stays open, or it is reported. -/
theorem Pending.act (h : m.Pending bus w o n) (kept : n.restarts a = false)
    (idle : n.begins a = false) : m.Pending bus w o (n.act a) := by
  cases idles_act kept idle with
  | waits inside tells =>
    have moments := tells.moments.trans (List.nil_append _)
    cases h with
    | waits now same listeners told =>
      exact .waits (inside.trans now) (tells.bus.trans same) (tells.listeners.trans listeners)
        (moments.trans told)
    | reported now same activity told =>
      exact .reported (inside.trans now) (tells.bus.trans same) activity (moments.trans told)
  | @served k v p xs ys before after tells =>
    cases h with
    | waits now same listeners told =>
      -- The instruction that gets its key is the only one that is open.
      have alone : xs ++ (v, p) :: ys = [(w, o)] := before.symm.trans now
      obtain ⟨rfl, rest⟩ : xs = [] ∧ ys = [] := by
        have length := congrArg List.length alone
        simp only [List.length_append, List.length_cons, List.length_nil] at length
        exact ⟨List.eq_nil_of_length_eq_zero (by omega), List.eq_nil_of_length_eq_zero (by omega)⟩
      cases alone
      exact .of_report (after.trans rest) ((Cpu.bus_deliver _ k).trans same) listeners told tells
    | reported now _ _ _ =>
      rw [now] at before
      exact absurd before.symm (List.append_ne_nil_of_right_ne_nil _ (List.cons_ne_nil _ _))

theorem pending_after (h : m.Pending bus w o n) {as : List Action} (calm : n.calm as = true) :
    m.Pending bus w o (n.after as) := by
  induction as generalizing n with
  | nil => exact h
  | cons a as ih =>
    simp only [Machine.calm, Bool.and_eq_true, Bool.not_eq_true'] at calm
    exact ih (h.act calm.1.2 calm.1.1) calm.2

/-- A step that executes an instruction while no other is open, and what goes on until it has ended. Each
listener was told one snapshot, and the bus is as the cycle left it. -/
theorem reported_of_step (idle : m.inside = []) (here : m.executed? a = some w) {during : List Action}
    (calm : (m.act a).calm during = true) (ended : (m.after (a :: during)).inside = []) :
    ∃ (o : Operation) (c : Cpu), m.cpu.cycle.2 = .done w o ∧ c.bus = m.cpu.cycle.1.bus ∧
      (m.after (a :: during)).moments =
        List.replicate m.snapshotListeners (c.closing w o) ++ m.moments ∧
      (m.after (a :: during)).cpu.bus = m.cpu.cycle.1.bus.dropLog := by
  obtain ⟨begins, o, done⟩ := executed?_eq_some.mp here
  cases pending_after (pending_act idle begins done) calm with
  | waits now _ _ _ =>
    rw [after_cons, now] at ended
    cases ended
  | @reported c _ bus same told => exact ⟨o, c, done, same, told, bus⟩

variable {keypad : Keypad} {speaker : Option Speaker} {random : Random} {romLimit : Number}
  {cpuHz timerHz : Frequency} {historyLimit : Nat}

/-- A step of a machine with the standard memory, after any run that left no instruction open: an
instruction is executed, perhaps after a wait for a key, no other one begins in the meantime, and the
step ends. Then each listener was told one snapshot. Its log consists of the two reads of the opcode
and the accesses of the instruction, and the memory is what these accesses make of it. -/
theorem activity_of_step
    (assembled : assemble (.assemble .standard keypad speaker random romLimit) cpuHz timerHz
      historyLimit = .ok m) (before : List Action) (hn : n = m.after before)
    (idle : n.inside = []) {k : Nat} (here : n.executed? (.move k) = some w)
    {during : List Action} (calm : (n.act (.move k)).calm during = true)
    (ended : (n.after (.move k :: during)).inside = []) :
    ∃ i moment, n.cpu.bus.peekOpcode n.cpu.state.pc = .ok w.opcode ∧
      Instruction.decode? w.opcode = some i ∧
      (n.after (.move k :: during)).moments =
        List.replicate n.snapshotListeners moment ++ n.moments ∧
      moment.activity = Bus.reads n.cpu.bus.peek [n.cpu.state.pc, n.cpu.state.pc + 1] ++
        i.records n.cpu.bus.peek n.cpu.state ∧
      (n.after (.move k :: during)).cpu.bus.peek = Bus.replay n.cpu.bus.peek moment.activity := by
  subst hn
  have plain := Bus.plain_standard.of_layout (within_after assembled before).layout
  obtain ⟨o, c, done, same, told, bus⟩ := reported_of_step idle here calm ended
  obtain ⟨i, hi, opcode, logs⟩ := Cpu.logs_cycle plain done
  have log := logs.log.trans (List.nil_append _)
  have activity : (c.closing w o).activity = c.bus.log := rfl
  rw [same, log] at activity
  refine ⟨i, c.closing w o, opcode, hi, told, activity, ?_⟩
  have memory : ((m.after before).cpu.cycle.1.bus.dropLog).peek = _ := logs.memory
  rw [bus, memory, activity]
  rfl

/-- A machine that is about to draw a sprite of five rows, of which the last three lie below the bottom
of the screen. -/
def clippedSprite : Machine :=
  (default : Machine).after [.load [0x61, 0x1E, 0xD0, 0x15], .step 2, .move 0]

/-- All five rows of the sprite are in the log. -/
theorem activity_clippedSprite :
    clippedSprite.inside = [] ∧ (clippedSprite.executed? (.move 0)).isSome ∧
      (clippedSprite.act (.move 0)).calm [.tick] = true ∧
      (clippedSprite.after [.move 0, .tick]).inside = [] ∧
      ∃ moment : Moment,
        (clippedSprite.after [.move 0, .tick]).moments = moment :: clippedSprite.moments ∧
        moment.activity = [⟨0x202, 0xD0, .read⟩, ⟨0x203, 0x15, .read⟩, ⟨0, 0xF0, .read⟩,
          ⟨1, 0x90, .read⟩, ⟨2, 0x90, .read⟩, ⟨3, 0x90, .read⟩, ⟨4, 0xF0, .read⟩] := by
  have assembled : assemble (.assemble .standard default none default Rom.standardLimit)
      standardCpuHz standardTimerHz Debugger.standardLimit = .ok default := rfl
  obtain ⟨idle, form, listeners, calm, ended, log⟩ : clippedSprite.inside = [] ∧
      (clippedSprite.executed? (.move 0)).map (Instruction.decode? ·.opcode) =
        some (some (.draw 0 1 5)) ∧
      clippedSprite.snapshotListeners = 1 ∧
      (clippedSprite.act (.move 0)).calm [.tick] = true ∧
      (clippedSprite.after [.move 0, .tick]).inside = [] ∧
      Bus.reads clippedSprite.cpu.bus.peek
          [clippedSprite.cpu.state.pc, clippedSprite.cpu.state.pc + 1] ++
        (Instruction.draw 0 1 5).records clippedSprite.cpu.bus.peek clippedSprite.cpu.state =
      [⟨0x202, 0xD0, .read⟩, ⟨0x203, 0x15, .read⟩, ⟨0, 0xF0, .read⟩, ⟨1, 0x90, .read⟩,
        ⟨2, 0x90, .read⟩, ⟨3, 0x90, .read⟩, ⟨4, 0xF0, .read⟩] := by
    decide +kernel
  obtain ⟨w, here, form⟩ := Option.map_eq_some_iff.mp form
  obtain ⟨i, moment, -, hi, told, activity, -⟩ := activity_of_step assembled
    [.load [0x61, 0x1E, 0xD0, 0x15], .step 2, .move 0] (n := clippedSprite) rfl idle here calm ended
  rw [form] at hi
  cases hi
  rw [listeners] at told
  exact ⟨idle, by rw [here]; rfl, calm, ended, moment, told, activity.trans log⟩

end Hexscope.Machine
