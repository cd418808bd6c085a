import Hexscope.Proofs.Machine.Footprint
import Hexscope.Proofs.Machine.Outcome

/-!
# A key for an instruction

An instruction that waits for a key gets the lowest key that is down. If there is none, its thread stays
inside of it, and the timers go on ticking. The next key that goes down is stored, and the instruction is
reported. A reset or a load in the meantime forgets which register was to be filled, and the key then changes
nothing.

* `Cpu.suspends_cycle`: what the instruction does before there is a key;
* `Machine.delivered_of_ready`: what its report leaves;
* `Machine.Parked.after`: what ticks and keys that go up leave of a thread that waits;
* `Machine.key_delivered`: all of it together.
-/

namespace Hexscope

/-- A state in which an instruction is over that has waited for a key, but for the register that the key goes
into: the timers ticked a number of times in the meantime. -/
def State.waited (s : State) (ticks : Nat) : State :=
  { s with
    pc := s.pc + 2
    delay := max (s.delay - ticks) 0
    sound := max (s.sound - ticks) 0
    renderNeeded := false }

namespace Cpu

/-- The report of an instruction leaves the log empty and the screen shown. -/
theorem conclude_eq (c : Cpu) (w : Fetched) (o : Operation) : (c.conclude w o).1 =
    { c with bus := c.bus.dropLog, state := { c.state with renderNeeded := false } } := by
  unfold conclude notify takeFrame
  dsimp only
  split
  · rfl
  · rename_i still
    have still : c.state.renderNeeded = false := by simpa [snapshot] using still
    rw [← still]
    rfl

/-- An instruction that waits for the key of a register has begun, and the timers have ticked since. -/
def Suspends (c d : Cpu) (x : Register) (ticks : Nat) : Prop :=
  ∃ bus keypad speaker gate, bus.peek = c.bus.peek ∧ d = { c with
    bus, keypad, speaker, gate
    state := { c.state.waited ticks with keyWait := some x }
    cycles := c.cycles + 1 }

variable {c d : Cpu} {x : Register} {k : Key} {ticks : Nat}

/-- The cycle of an instruction that waits for a key. -/
theorem suspends_cycle (within : c.Within .standard)
    (here : c.bus.peekOpcode c.state.pc = .ok (.ofDigits 0xF x 0x0 0xA)) :
    ∃ v o, c.cycle.2 = .done v o ∧ c.Suspends c.cycle.1 x 0 ∧ c.cycle.1.keypad = c.keypad := by
  have size : c.bus.size = 4096 := Bus.size_of_layout within.layout
  have inside := lt_of_peekOpcode within here
  obtain ⟨v, o, bus, b, -, memory, done, effect, cycle⟩ := cycle_of_decoded within here
    (Opcode.ofDigits_ne_zero x 0x0 0xA) (Instruction.decode?_ofDigits x 0x0 0xA) rfl
  cases effect
  have behind : (c.state.advance 2).pc = c.state.pc + 2 := within.staysInside.advance (by omega)
  have delay : max (c.state.delay - ((0 : Nat) : Int)) 0 = c.state.delay := by
    have := within.inRange.delay_nonneg
    omega
  have sound : max (c.state.sound - ((0 : Nat) : Int)) 0 = c.state.sound := by
    have := within.inRange.sound_nonneg
    omega
  refine ⟨v, o, done, ⟨bus, c.keypad, c.speaker, c.gate, memory, ?_⟩, keypad_cycle c⟩
  rw [cycle]
  simp only [State.waited, delay, sound, ← behind]
  rfl

/-- The timers tick. -/
theorem Suspends.tick (h : c.Suspends d x ticks) : c.Suspends d.tick.1 x (ticks + 1) := by
  obtain ⟨speaker', ticked⟩ := exists_tick d
  have state : d.countDown.1.state = { c.state.waited (ticks + 1) with keyWait := some x } := by
    obtain ⟨bus, keypad, speaker, gate, -, rfl⟩ := h
    -- A timer that has stopped at zero stays there.
    have once (t : Int) : max (max (t - (ticks : Int)) 0 - 1) 0 = max (t - (ticks + 1 : Nat)) 0 := by
      omega
    rw [state_countDown ⟨Int.le_max_right .., Int.le_max_right ..⟩]
    simp only [State.waited, once]
  obtain ⟨bus, keypad, speaker, gate, memory, rfl⟩ := h
  refine ⟨bus, keypad, speaker', gate, memory, ?_⟩
  rw [ticked, ← state]
  rfl

/-- What does not concern the instruction. -/
theorem Suspends.around (h : c.Suspends d x ticks) (keypad : Keypad) (gate : Gate) :
    c.Suspends { d with keypad, gate } x ticks := by
  obtain ⟨bus, _, speaker, _, memory, rfl⟩ := h
  exact ⟨bus, keypad, speaker, gate, memory, rfl⟩

/-- The key is stored. -/
theorem Suspends.state_deliver (h : c.Suspends d x ticks) (k : Key) : (d.deliver k).state =
    { c.state.waited ticks with v := c.state.v.set x (UInt8.ofNat k), keyWait := none } := by
  obtain ⟨_, _, _, _, -, rfl⟩ := h
  rfl

/-- Storing a key concerns the state only. -/
theorem deliver_eq (c : Cpu) (k : Key) : c.deliver k = { c with state := (c.deliver k).state } := by
  unfold deliver
  split <;> rfl

/-- A report without a drawing is one snapshot. -/
theorem told_conclude_of_still (still : c.state.renderNeeded = false) (w : Fetched) (o : Operation) :
    (c.conclude w o).2 = [.snapshot (c.closing w o)] := by
  have same : (c.closing w o).renderNeeded = c.state.renderNeeded := rfl
  rw [told_conclude, same, still]
  rfl

end Cpu

namespace Machine

/-- Whether an action is a tick. -/
def Action.isTick : Action → Bool
  | .tick => true
  | _ => false

/-- Whether an action is a tick, or a key that goes up. -/
def Action.bides : Action → Bool
  | .tick | .release _ | .releaseAll => true
  | _ => false

/-- The step of a caller has ended, and a key was stored in a register. The timers ticked a number of times in
the meantime. Nothing else has changed, and each listener was told one snapshot. -/
structure Delivered (m n : Machine) (x : Register) (k : Key) (ticks : Nat) : Prop where
  results : n.results = m.results ++ [.carryOn]
  state : n.cpu.state = { m.cpu.state.waited ticks with
    v := m.cpu.state.v.set x (UInt8.ofNat k), keyWait := none }
  memory : n.cpu.bus.peek = m.cpu.bus.peek
  random : n.cpu.random = m.cpu.random
  cycles : n.cpu.cycles = m.cpu.cycles + 1
  fault : n.cpu.fault = m.cpu.fault
  down : n.cpu.keypad.isDown k = true
  shown : ∃ moment, n.shown = m.shown ++ List.replicate m.snapshotListeners (.snapshot moment)
  awaits : n.awaitsKey = false

/-- The step of a caller waits for a key. -/
def Sleeps (m : Machine) (left : Nat) : Prop := ∃ w o, m.threads = [⟨.steps left, .key w o⟩]

/-- The step of a caller waits for a key, and the timers have ticked a number of times since it began. Nothing
was told. -/
structure Parked (m n : Machine) (left : Nat) (x : Register) (ticks : Nat) : Prop where
  sleeps : n.Sleeps left
  cpu : m.cpu.Suspends n.cpu x ticks
  up : ∀ k, n.cpu.keypad.isDown k = false
  results : n.results = m.results
  shown : n.shown = m.shown
  listeners : n.snapshotListeners = m.snapshotListeners

/-- The step of a caller waits for a key, but no register does. -/
structure Orphaned (m : Machine) (left : Nat) : Prop where
  sleeps : m.Sleeps left
  keyWait : m.cpu.state.keyWait = none

/-- The step of a caller has ended, and neither a register nor the screen nor the memory has changed. -/
structure Dismissed (m n : Machine) : Prop where
  results : n.results = m.results ++ [.carryOn]
  registers : n.cpu.state.toRegisters = m.cpu.state.toRegisters
  screen : n.cpu.state.screen = m.cpu.state.screen
  memory : n.cpu.bus.peek = m.cpu.bus.peek

variable {m n : Machine} {x : Register} {k : Key} {left ticks : Nat} {place : Place} {w : Fetched}
  {o : Operation} {c : Cpu} {a : Action}

/-! ## The report -/

theorem getElem?_of_alone {t : Thread} (alone : m.threads = [t]) : m.threads[0]? = some t := by
  rw [alone]
  rfl

/-- What is left when the only thread, which belongs to a caller, has an instruction to report. -/
theorem report_of_ready (alone : m.threads = [⟨.steps left, place⟩])
    (ready : Ready m.cpu ⟨.steps left, place⟩ w o c) :
    let n := m.act (.move 0)
    n.results = m.results ++ [.carryOn] ∧ n.awaitsKey = false ∧
    ∃ speaker gate, n.cpu = { (c.conclude w o).1 with speaker, gate } := by
  intro n
  let moving := { m with threads := m.threads.eraseIdx 0, onThread := true }
  have ht := getElem?_of_alone alone
  have moved := move_eq ht (isRunnable_of_ready ready)
  rw [moveThread_of_ready (m := moving) ready] at moved
  have hushed := hushed_afterResult (moving.withCpu (c.conclude w o)) (.steps left) .carryOn nofun
  -- The report may hit a breakpoint and close the gate, so nothing is said of the gate.
  obtain ⟨hit, closes, -⟩ := (told_withCpu moving (c.conclude w o)).gate
  obtain ⟨speaker, gate, cpu⟩ := hushed.cpu
  refine ⟨?_, ?_, speaker, gate, ?_⟩
  · exact (results_move moved).trans
      ((results_report moving _ left).trans (congrArg (· ++ [_]) (results_of_heard rfl)))
  · have threads : n.threads = _ := congrArg Machine.threads moved
    rw [awaitsKey, threads, alone]
    simp only [goOn, afterResult]
    split <;> rfl
  · have left : n.cpu = _ := congrArg Machine.cpu moved
    rw [left, goOn, cpu, closes]

/-- The report of an instruction that has got its key. -/
theorem delivered_of_ready (alone : n.threads = [⟨.steps left, place⟩])
    (ready : Ready n.cpu ⟨.steps left, place⟩ w o (c.deliver k)) (suspends : m.cpu.Suspends c x ticks)
    (down : c.keypad.isDown k = true) (results : n.results = m.results) (shown : n.shown = m.shown)
    (listeners : n.snapshotListeners = m.snapshotListeners) :
    m.Delivered (n.act (.move 0)) x k ticks := by
  obtain ⟨heard, outside, speaker, gate, cpu⟩ := report_of_ready alone ready
  have state := suspends.state_deliver k
  have still : (c.deliver k).state.renderNeeded = false := by
    rw [state]
    rfl
  have ht := getElem?_of_alone alone
  have told := (displayed_of_ready ht ready).shown
  rw [Cpu.told_conclude_of_still still, shown] at told
  have last : n.shows [.snapshot ((c.deliver k).closing w o)] =
      List.replicate m.snapshotListeners (.snapshot ((c.deliver k).closing w o)) := by
    rw [← listeners]
    exact List.flatMap_singleton ..
  rw [Cpu.conclude_eq, Cpu.deliver_eq, state] at cpu
  obtain ⟨bus, keypad, _, _, memory, rfl⟩ := suspends
  exact {
    results := by rw [heard, results]
    state := by rw [cpu]; rfl
    memory := by rw [cpu]; exact memory
    random := by rw [cpu]
    cycles := by rw [cpu]
    fault := by rw [cpu]
    down := by rw [cpu]; exact down
    shown := ⟨_, told.trans (by rw [last])⟩
    awaits := outside }

/-! ## The wait -/

/-- The only thread begins an instruction that waits for a key. It gets one at once, or waits. -/
theorem delivered_or_parked (within : m.cpu.Within .standard)
    (alone : m.threads = [⟨.steps left, place⟩])
    (enters : Thread.enters ⟨.steps left, place⟩ m.cpu.gate = true)
    (here : m.cpu.bus.peekOpcode m.cpu.state.pc = .ok (.ofDigits 0xF x 0x0 0xA)) :
    (∀ k, m.cpu.keypad.first? = some k → m.Delivered (m.act (.move 0)) x k 0) ∧
    (m.cpu.keypad.first? = none → m.Parked (m.act (.move 0)) left x 0) := by
  obtain ⟨v, o, done, suspends, keypad⟩ := Cpu.suspends_cycle within here
  have waits : m.cpu.cycle.1.state.keyWait.isSome = true := by
    obtain ⟨_, _, _, _, -, cycle⟩ := suspends
    rw [cycle]
    rfl
  have asks : Asks m.cpu ⟨.steps left, place⟩ v o m.cpu.cycle.1 := .begins enters done waits
  refine ⟨fun k found => ?_, fun up => ?_⟩
  · have down := (Keypad.first?_eq_some_iff.mp found).1
    rw [← keypad] at found down
    exact delivered_of_ready alone (.served asks found) suspends down rfl rfl rfl
  · let moving := { m with threads := m.threads.eraseIdx 0, onThread := true }
    have ht := getElem?_of_alone alone
    have keys : (cpu { moving with cpu := m.cpu.cycle.1 }).keypad.first? = none := by
      rw [← up, ← keypad]
    have moved := move_eq ht (isRunnable_of_enters enters)
    rw [moveThread_of_asks (m := moving) asks, awaitKey_of_up keys] at moved
    rw [act, moved, alone]
    exact {
      sleeps := ⟨v, o, rfl⟩
      cpu := suspends.around _ _
      up := fun k => (Keypad.isDown_await _ k).trans (Keypad.first?_eq_none_iff.mp keys k)
      results := results_of_heard rfl
      shown := shown_of_heard rfl
      listeners := rfl }

/-- A key that goes down wakes the thread. -/
theorem Sleeps.press (h : m.Sleeps left) (k : Key) :
    ∃ w o, (m.press k).threads = [⟨.steps left, .woken w o⟩] := by
  obtain ⟨w, o, alone⟩ := h
  refine ⟨w, o, ?_⟩
  rw [Machine.press, alone]
  rfl

/-- A step of the wait. -/
theorem Parked.act (h : m.Parked n left x ticks) (bides : a.bides = true) :
    m.Parked (n.act a) left x (ticks + a.isTick.toNat) := by
  obtain ⟨w, o, alone⟩ := h.sleeps
  cases a with
  | tick =>
    have told := told_withCpu n n.cpu.tick
    obtain ⟨gate, cpu⟩ : ∃ gate, n.tick.cpu = { n.cpu.tick.1 with gate } := by
      obtain ⟨hit, closes, -⟩ := told.gate
      exact ⟨_, closes⟩
    have keys : n.cpu.tick.1.keypad = n.cpu.keypad := by
      obtain ⟨speaker, ticked⟩ := n.cpu.exists_tick
      rw [ticked]
      rfl
    exact {
      sleeps := ⟨w, o, told.threads.trans alone⟩
      cpu := by rw [Machine.act, cpu]; exact h.cpu.tick.around _ _
      up := by rw [Machine.act, cpu]; simpa only [keys] using h.up
      results := (results_withCpu _ _).trans h.results
      shown := (shown_withCpu_of_silent (Cpu.silent_requestTone _ _)).trans h.shown
      listeners := Eq.trans (by rw [Machine.act, tick, told.rest]) h.listeners }
  | release k =>
    refine ⟨⟨w, o, alone⟩, h.cpu.around _ _, fun j => ?_, (results_of_heard rfl).trans h.results,
      (shown_of_heard rfl).trans h.shown, h.listeners⟩
    exact (Keypad.isDown_release ..).trans (by rw [h.up j, Bool.and_false])
  | releaseAll =>
    exact ⟨⟨w, o, alone⟩, h.cpu.around _ _, Keypad.isDown_releaseAll _,
      (results_of_heard rfl).trans h.results, (shown_of_heard rfl).trans h.shown, h.listeners⟩
  | _ => cases bides

/-- Ticks and keys that go up leave the thread waiting. -/
theorem Parked.after (h : m.Parked n left x ticks) {during : List Action}
    (bides : ∀ a ∈ during, a.bides = true) :
    m.Parked (n.after during) left x (ticks + during.countP Action.isTick) := by
  induction during generalizing n ticks with
  | nil => exact h
  | cons a during ih =>
    have rest := ih (h.act (bides a (List.mem_cons_self ..))) fun b hb =>
      bides b (List.mem_cons_of_mem _ hb)
    have counted : (a :: during).countP Action.isTick =
        a.isTick.toNat + during.countP Action.isTick := by
      rw [List.countP_cons, Nat.add_comm]
      cases a.isTick <;> rfl
    rw [counted, ← Nat.add_assoc]
    exact rest

/-- The key that goes down is stored. -/
theorem Parked.delivered (h : m.Parked n left x ticks) (k : Key) :
    m.Delivered (n.after [.press k, .move 0]) x k ticks := by
  obtain ⟨w, o, woken⟩ := h.sleeps.press k
  have found : (n.press k).cpu.keypad.first? = some k := Keypad.first?_press h.up k
  have down := (Keypad.first?_eq_some_iff.mp found).1
  exact delivered_of_ready woken (.served (.woken rfl) found) (h.cpu.around _ _) down
    ((results_of_heard rfl).trans h.results) ((shown_of_heard rfl).trans h.shown) h.listeners

/-! ## A reset in the meantime -/

/-- A thread that waits goes on waiting through ticks, keys that go up, resets and loads. -/
theorem Sleeps.act (h : m.Sleeps left) (waits : a.bides = true ∨ a.keepsProgram = false) :
    (m.act a).Sleeps left := by
  obtain ⟨w, o, alone⟩ := h
  refine ⟨w, o, ?_⟩
  cases a with
  | tick => exact (told_withCpu m _).threads.trans alone
  | release | releaseAll => exact alone
  | reset => exact (quiet_reset m).threads.trans alone
  | load data => exact (quiet_loadProgram m data).threads.trans alone
  | _ => simp [Action.bides, Action.keepsProgram] at waits

theorem Sleeps.after (h : m.Sleeps left) {during : List Action}
    (waits : ∀ a ∈ during, a.bides = true ∨ a.keepsProgram = false) : (m.after during).Sleeps left :=
  List.foldlRecOn (motive := fun n => n.Sleeps left) during Machine.act h
    fun _ sleeps a ha => sleeps.act (waits a ha)

/-- No register waits after a reset or a load. -/
theorem keyWait_of_restarts (restarts : m.restarts a = true) : (m.act a).cpu.state.keyWait = none := by
  obtain ⟨d, initial, rests⟩ := fresh_act restarts
  rw [rests.keyWait, initial]
  rfl

theorem Orphaned.act (h : m.Orphaned left) (waits : a.bides = true ∨ a.keepsProgram = false) :
    (m.act a).Orphaned left := by
  refine ⟨h.sleeps.act waits, ?_⟩
  by_cases restarts : m.restarts a = true
  · exact keyWait_of_restarts restarts
  cases a with
  | tick => exact (congrArg State.keyWait (state_tick m)).trans h.keyWait
  | release | releaseAll => exact h.keyWait
  | reset => exact absurd rfl restarts
  | load data =>
    rw [load_of_not_restarts (Bool.eq_false_iff.mpr restarts)]
    exact h.keyWait
  | _ => simp [Action.bides, Action.keepsProgram] at waits

theorem Orphaned.after (h : m.Orphaned left) {during : List Action}
    (waits : ∀ a ∈ during, a.bides = true ∨ a.keepsProgram = false) :
    (m.after during).Orphaned left :=
  List.foldlRecOn (motive := fun n => n.Orphaned left) during Machine.act h
    fun _ orphaned a ha => orphaned.act (waits a ha)

/-- The key that goes down is stored nowhere. -/
theorem Orphaned.dismissed (h : m.Orphaned left) (k : Key) :
    m.Dismissed (m.after [.press k, .move 0]) := by
  obtain ⟨w, o, woken⟩ := h.sleeps.press k
  obtain ⟨j, found⟩ := Keypad.exists_first?_press m.cpu.keypad k
  have nothing : (m.press k).cpu.deliver j = (m.press k).cpu := by
    have none : (m.press k).cpu.state.keyWait = none := h.keyWait
    rw [Cpu.deliver, none]
  have ready : Ready (m.press k).cpu ⟨.steps left, .woken w o⟩ w o _ := .served (.woken rfl) found
  rw [nothing] at ready
  obtain ⟨results, -, speaker, gate, cpu⟩ := report_of_ready woken ready
  rw [Cpu.conclude_eq] at cpu
  have left : (m.after [.press k, .move 0]).cpu = _ := cpu
  exact {
    results := results.trans (congrArg (· ++ [_]) (results_of_heard rfl))
    registers := by rw [left]; rfl
    screen := by rw [left]; rfl
    memory := by rw [left]; rfl }

variable {keypad : Keypad} {speaker : Option Speaker} {random : Random} {romLimit : Number}
  {cpuHz timerHz : Frequency} {historyLimit : Nat}

/-- The step of a caller on a machine with the standard memory, whatever has happened before, comes upon an
instruction that waits for a key, and there is no other thread. If keys are down, the lowest one is stored at
once. If none is, the thread waits, the timers tick on, and the next key that goes down is stored. If the
program is replaced in the meantime, that key changes nothing. -/
theorem key_delivered
    (assembled : assemble (.assemble .standard keypad speaker random romLimit) cpuHz timerHz
      historyLimit = .ok m) (as : List Action) (alone : (m.after as).threads = [⟨.steps left, place⟩])
    (enters : Thread.enters ⟨.steps left, place⟩ (m.after as).cpu.gate = true)
    (here : (m.after as).cpu.bus.peekOpcode (m.after as).cpu.state.pc =
      .ok (.ofDigits 0xF x 0x0 0xA)) :
    let n := m.after as
    let next := n.act (.move 0)
    (∀ k, n.cpu.keypad.isDown k = true → (∀ j < k, n.cpu.keypad.isDown j = false) →
      n.Delivered next x k 0) ∧
    ((∀ k, n.cpu.keypad.isDown k = false) →
      (∀ during : List Action, (∀ a ∈ during, a.bides = true) →
        n.Parked (next.after during) left x (during.countP Action.isTick) ∧
        ∀ k, n.Delivered (next.after (during ++ [.press k, .move 0])) x k
          (during.countP Action.isTick)) ∧
      ∀ (before later : List Action) (a : Action),
        (∀ b ∈ before ++ a :: later, b.bides = true ∨ b.keepsProgram = false) →
        (next.after before).restarts a = true →
        ∀ k, (next.after (before ++ a :: later)).Dismissed
          (next.after (before ++ a :: later ++ [.press k, .move 0]))) := by
  intro n next
  obtain ⟨delivered, parked⟩ := delivered_or_parked (within_after assembled as) alone enters here
  refine ⟨fun k down lowest => delivered k (Keypad.first?_eq_some_iff.mpr ⟨down, lowest⟩), fun up => ?_⟩
  have parked : n.Parked next left x 0 := parked (Keypad.first?_eq_none_iff.mpr up)
  refine ⟨fun during bides => ?_, fun before later a waits restarts k => ?_⟩
  · have waiting := parked.after bides
    rw [Nat.zero_add] at waiting
    refine ⟨waiting, fun k => ?_⟩
    rw [after_append]
    exact waiting.delivered k
  · have sleeps := parked.sleeps.after fun b hb => waits b (List.mem_append_left _ hb)
    have orphaned : ((next.after before).act a).Orphaned left :=
      ⟨sleeps.act (waits a (by simp)), keyWait_of_restarts restarts⟩
    have rest := orphaned.after fun b hb =>
      waits b (List.mem_append_right _ (List.mem_cons_of_mem _ hb))
    rw [after_append _ (before ++ a :: later), after_append, after_cons]
    exact rest.dismissed k

/-- A machine with a step before an instruction that waits for a key. -/
def expectant : Machine := (default : Machine).after [.load [0xF3, 0x0A], .step 1]

/-- The timers tick, all keys go up although none is down, and then key 6 goes down and is stored. After a
reset it is not. -/
theorem key_delivered_expectant :
    (∀ k, expectant.cpu.keypad.isDown k = false) ∧
    expectant.Parked (expectant.after [.move 0, .tick, .releaseAll]) 1 3 1 ∧
    expectant.Delivered (expectant.after [.move 0, .tick, .releaseAll, .press 6, .move 0]) 3 6 1 ∧
    (expectant.after [.move 0, .reset]).Dismissed
      (expectant.after [.move 0, .reset, .press 6, .move 0]) := by
  have assembled : assemble (.assemble .standard default none default Rom.standardLimit)
      standardCpuHz standardTimerHz Debugger.standardLimit = .ok default := rfl
  obtain ⟨alone, enters, here, up⟩ : expectant.threads = [⟨.steps 1, .ready⟩] ∧
      Thread.enters ⟨.steps 1, .ready⟩ expectant.cpu.gate = true ∧
      expectant.cpu.bus.peekOpcode expectant.cpu.state.pc = .ok (.ofDigits 0xF 3 0x0 0xA) ∧
      ∀ k, expectant.cpu.keypad.isDown k = false := by
    decide +kernel
  obtain ⟨-, waits⟩ := key_delivered assembled [.load [0xF3, 0x0A], .step 1] alone enters here
  obtain ⟨stored, forgotten⟩ := waits up
  obtain ⟨parked, delivered⟩ := stored [.tick, .releaseAll] (by decide)
  exact ⟨up, parked, delivered 6, forgotten [] [] .reset (by decide) rfl 6⟩

end Machine

end Hexscope
