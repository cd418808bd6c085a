import Hexscope.Machine
import Hexscope.Proofs.Cpu.Gate

/-!
# How a thread moves

A thread that moves ends, stops at the gate, executes an instruction, or asks for its key. Each way leaves
a machine that can be written down (`Machine.Proceeds`). An instruction is reported, and its thread goes on,
in two of them: if it waits for no key, and if its key is there.

* `Machine.proceeds_moveThread`: the ways are complete;
* `Machine.Ready.gate`: inside of an instruction the gate stays as it is.
-/

namespace Hexscope

theorem Gate.arrive_of_open {g : Gate} (h : g.shouldWait = false) : g.arrive = (g, false) := by
  unfold arrive
  rw [h]
  rfl

theorem Gate.arrive_of_closed {g : Gate} (h : g.shouldWait = true) :
    g.arrive = ({ g with isWaiting := true, parked := g.parked + 1 }, true) := by
  unfold arrive
  rw [if_pos h]

/-- Whether a thread that moves begins an instruction, with a gate before it. -/
def Thread.enters (t : Thread) (g : Gate) : Bool :=
  match t.place with
  | .ready => t.task ≠ .clock false && !g.shouldWait
  | .released => true
  | .gate | .key .. | .woken .. => false

/-- The result of a cycle that executed no instruction, if it has one. -/
def Outcome.stop? {ω : Type} : Outcome ω → Option StepResult
  | .halted => some .halted
  | .fatal => some .fatal
  | .raised _ | .done .. => none

namespace Machine

variable {m : Machine} {t : Thread} {task : Task} {w : Fetched} {o : Operation}

/-! ## Executing -/

theorem perform_of_stop {r : StepResult} (h : m.cpu.cycle.2.stop? = some r) (task : Task) :
    m.perform task = goOn ({ m with cpu := m.cpu.cycle.1 }.afterResult task r) := by
  unfold perform
  generalize m.cpu.cycle = cycled at h ⊢
  obtain ⟨c, outcome⟩ := cycled
  cases outcome <;> cases h <;> rfl

theorem perform_of_refused {e : AccessError} (h : m.cpu.cycle.2 = .raised e) (task : Task) :
    m.perform task = ({ m with cpu := m.cpu.cycle.1 }.afterRaise task e, none) := by
  unfold perform
  generalize m.cpu.cycle = cycled at h ⊢
  obtain ⟨c, outcome⟩ := cycled
  subst h
  rfl

/-- An instruction that waits for no key is reported. -/
theorem perform_of_done (h : m.cpu.cycle.2 = .done w o)
    (free : m.cpu.cycle.1.state.keyWait = none) (task : Task) :
    m.perform task = goOn ((m.withCpu (m.cpu.cycle.1.conclude w o)).afterResult task .carryOn) := by
  unfold perform
  generalize m.cpu.cycle = cycled at h free ⊢
  obtain ⟨c, outcome⟩ := cycled
  subst h
  have goes : ¬ c.isSuspended = true := by
    rw [Cpu.isSuspended, free, Option.isSome_none]
    exact Bool.false_ne_true
  exact if_neg goes

/-- An instruction that waits for a key asks for it. -/
theorem perform_of_waits (h : m.cpu.cycle.2 = .done w o)
    (waits : m.cpu.cycle.1.state.keyWait.isSome = true) (task : Task) :
    m.perform task = { m with cpu := m.cpu.cycle.1 }.awaitKey task w o := by
  unfold perform
  generalize m.cpu.cycle = cycled at h waits ⊢
  obtain ⟨c, outcome⟩ := cycled
  subst h
  exact if_pos waits

theorem awaitKey_of_up (h : m.cpu.keypad.first? = none) (task : Task) (w : Fetched)
    (o : Operation) : m.awaitKey task w o =
      ({ m with cpu := { m.cpu with keypad := m.cpu.keypad.await.1 } }, some ⟨task, .key w o⟩) := by
  unfold awaitKey Keypad.await
  rw [h]

theorem awaitKey_of_down {k : Key} (h : m.cpu.keypad.first? = some k) (task : Task) (w : Fetched)
    (o : Operation) : m.awaitKey task w o =
      goOn ((m.withCpu ((m.cpu.deliver k).conclude w o)).afterResult task .carryOn) := by
  unfold awaitKey Keypad.await
  rw [h]

/-! ## Moving -/

/-- A thread that begins an instruction executes it, and leaves the gate as it is. -/
theorem moveThread_of_enters (h : t.enters m.cpu.gate = true) :
    m.moveThread t = m.perform t.task := by
  obtain ⟨task, place⟩ := t
  cases place with
  | ready =>
    simp only [Thread.enters, Bool.and_eq_true, decide_eq_true_eq, Bool.not_eq_true'] at h
    obtain ⟨wanted, opened⟩ := h
    rw [moveThread, if_neg wanted, Gate.arrive_of_open opened]
    rfl
  | released => rfl
  | gate | key w o | woken w o => cases h

/-- A thread that arrives at a closed gate stops there. -/
theorem moveThread_of_closed (ready : t.place = .ready) (wanted : t.task ≠ .clock false)
    (closed : m.cpu.gate.shouldWait = true) : m.moveThread t =
      ({ m with cpu := { m.cpu with gate := m.cpu.gate.arrive.1 } }, some ⟨t.task, .gate⟩) := by
  obtain ⟨task, place⟩ := t
  cases ready
  rw [moveThread, if_neg wanted, Gate.arrive_of_closed closed]
  rfl

/-- A thread that moves asks for a key, inside of an instruction that begins with this move or began
before. -/
inductive Asks (d : Cpu) (t : Thread) (w : Fetched) (o : Operation) : Cpu → Prop where
  | begins : t.enters d.gate = true → d.cycle.2 = .done w o →
    d.cycle.1.state.keyWait.isSome = true → Asks d t w o d.cycle.1
  | woken : t.place = .woken w o → Asks d t w o d

/-- A thread that moves has an instruction to report: one that waits for no key, or one whose key is
there. -/
inductive Ready (d : Cpu) (t : Thread) (w : Fetched) (o : Operation) : Cpu → Prop where
  | free : t.enters d.gate = true → d.cycle.2 = .done w o → d.cycle.1.state.keyWait = none →
    Ready d t w o d.cycle.1
  | served {c : Cpu} {k : Key} : Asks d t w o c → c.keypad.first? = some k →
    Ready d t w o (c.deliver k)

/-! The gate stays as it is inside of an instruction. -/

theorem Asks.gate {d c : Cpu} {w : Fetched} {o : Operation} (h : Asks d t w o c) :
    c.gate = d.gate := by
  cases h with
  | begins _ _ _ => exact Cpu.gate_cycle d
  | woken _ => rfl

theorem Ready.gate {d c : Cpu} {w : Fetched} {o : Operation} (h : Ready d t w o c) :
    c.gate = d.gate := by
  cases h with
  | free _ _ _ => exact Cpu.gate_cycle d
  | served asks _ => exact (Cpu.gate_deliver _ _).trans asks.gate

/-- The ways in which a thread that can go on moves, with the machine and the thread that are left. -/
inductive Proceeds (m : Machine) (t : Thread) : Machine × Option Thread → Prop where
  /-- Its clock does not want it any more. -/
  | ends : t.place = .ready → t.task = .clock false → Proceeds m t (m, none)
  | parks : t.place = .ready → t.task ≠ .clock false → m.cpu.gate.shouldWait = true →
    Proceeds m t ({ m with cpu := { m.cpu with gate := m.cpu.gate.arrive.1 } },
      some ⟨t.task, .gate⟩)
  /-- The program has ended, or the processor remembers a fault. -/
  | stops {r : StepResult} : t.enters m.cpu.gate = true → m.cpu.cycle.2.stop? = some r →
    Proceeds m t (goOn ({ m with cpu := m.cpu.cycle.1 }.afterResult t.task r))
  /-- An access is refused. -/
  | raises {e : AccessError} : t.enters m.cpu.gate = true → m.cpu.cycle.2 = .raised e →
    Proceeds m t ({ m with cpu := m.cpu.cycle.1 }.afterRaise t.task e, none)
  | reports {c : Cpu} {w : Fetched} {o : Operation} : Ready m.cpu t w o c →
    Proceeds m t (goOn ((m.withCpu (c.conclude w o)).afterResult t.task .carryOn))
  /-- There is no key. -/
  | waits {c : Cpu} {w : Fetched} {o : Operation} : Asks m.cpu t w o c → c.keypad.first? = none →
    Proceeds m t ({ m with cpu := { c with keypad := c.keypad.await.1 } }, some ⟨t.task, .key w o⟩)

/-- A thread that asks for a key. -/
theorem moveThread_of_asks {c : Cpu} (asks : Asks m.cpu t w o c) :
    m.moveThread t = awaitKey { m with cpu := c } t.task w o := by
  cases asks with
  | begins enters done waits => rw [moveThread_of_enters enters, perform_of_waits done waits]
  | woken inside =>
    obtain ⟨task, place⟩ := t
    cases inside
    rfl

/-- A thread that has an instruction to report. -/
theorem moveThread_of_ready {c : Cpu} (ready : Ready m.cpu t w o c) :
    m.moveThread t = goOn ((m.withCpu (c.conclude w o)).afterResult t.task .carryOn) := by
  cases ready with
  | free enters done free => rw [moveThread_of_enters enters, perform_of_done done free]
  | @served c k asks down =>
    have found : Keypad.first? (cpu { m with cpu := c }).keypad = some k := down
    rw [moveThread_of_asks asks, awaitKey_of_down found]
    rfl

theorem proceeds_of_asks {c : Cpu} (asks : Asks m.cpu t w o c) : Proceeds m t (m.moveThread t) := by
  cases h : c.keypad.first? with
  | none =>
    have up : Keypad.first? (cpu { m with cpu := c }).keypad = none := h
    rw [moveThread_of_asks asks, awaitKey_of_up up]
    exact .waits asks h
  | some k =>
    rw [moveThread_of_ready (.served asks h)]
    exact .reports (.served asks h)

theorem proceeds_of_enters (h : t.enters m.cpu.gate = true) : Proceeds m t (m.moveThread t) := by
  cases outcome : m.cpu.cycle.2 with
  | halted | fatal =>
    have stop : m.cpu.cycle.2.stop? = _ := congrArg Outcome.stop? outcome
    rw [moveThread_of_enters h, perform_of_stop stop]
    exact .stops h stop
  | raised e =>
    rw [moveThread_of_enters h, perform_of_refused outcome]
    exact .raises h outcome
  | done w o =>
    cases waits : m.cpu.cycle.1.state.keyWait with
    | none =>
      rw [moveThread_of_ready (.free h outcome waits)]
      exact .reports (.free h outcome waits)
    | some x => exact proceeds_of_asks (.begins h outcome (by rw [waits, Option.isSome_some]))

/-- The ways in which a thread moves are complete. -/
theorem proceeds_moveThread (m : Machine) (h : t.place.isRunnable = true) :
    Proceeds m t (m.moveThread t) := by
  obtain ⟨task, place⟩ := t
  cases place with
  | ready =>
    by_cases unwanted : task = .clock false
    · rw [moveThread, if_pos unwanted]
      exact .ends rfl unwanted
    by_cases closed : m.cpu.gate.shouldWait = true
    · rw [moveThread_of_closed rfl unwanted closed]
      exact .parks rfl unwanted closed
    · exact proceeds_of_enters (by simp [Thread.enters, unwanted, closed])
  | released => exact proceeds_of_enters rfl
  | woken w o => exact proceeds_of_asks (.woken rfl)
  | gate | key w o => cases h

end Machine

end Hexscope
