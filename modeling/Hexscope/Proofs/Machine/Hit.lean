import Hexscope.Proofs.Machine.Outcome

/-!
# A step and what it hits

What a step of the processor does depends on the processor alone, and not on its gate (`Cpu.step`). A thread
that executes an instruction makes this step, and then its task hears the result. The step hits if its snapshot
meets an enabled breakpoint, and then the gate closes.

* `Cpu.snaps`: a step that goes on tells one snapshot, and no other step tells any;
* `Machine.withCpu_step`, `Machine.sees_noted`: what a step leaves of the gate and of the debugger;
* `Machine.act_of_enters`: a thread that does not have to wait for a key makes one step.
-/

namespace Hexscope

namespace Cpu

/-- The processor after the lowest key that is down was stored, if an instruction waits for one. -/
def serve (c : Cpu) : Cpu :=
  match c.keypad.first? with
  | some k => c.deliver k
  | none => c

/-- One step of the processor: what it leaves, what it tells, and its result. -/
def step (c : Cpu) : (Cpu × List Notice) × Except AccessError StepResult :=
  match c.cycle.2 with
  | .halted => ((c.cycle.1, []), .ok .halted)
  | .fatal => ((c.cycle.1, []), .ok .fatal)
  | .raised e => ((c.cycle.1, []), .error e)
  | .done w o => (c.cycle.1.serve.conclude w o, .ok .carryOn)

/-- The instruction of the next step waits for a key, and none is down. -/
def Blocks (c : Cpu) : Prop :=
  c.cycle.2.word?.isSome = true ∧ c.cycle.1.isSuspended = true ∧ c.keypad.first? = none

/-- The snapshots of the next step: one if it executes an instruction, and none otherwise. -/
def moments (c : Cpu) : List Moment := c.step.1.2.filterMap Notice.moment?

instance (c : Cpu) : Decidable c.Blocks :=
  inferInstanceAs (Decidable (c.cycle.2.word?.isSome = true ∧ c.cycle.1.isSuspended = true ∧
    c.keypad.first? = none))

variable {c : Cpu} {w : Fetched} {o : Operation}

theorem step_of_stop {r : StepResult} (h : c.cycle.2.stop? = some r) :
    c.step = ((c.cycle.1, []), .ok r) := by
  unfold step
  cases outcome : c.cycle.2 with
  | halted | fatal =>
    rw [outcome] at h
    cases h
    rfl
  | raised e | done w o =>
    rw [outcome] at h
    cases h

theorem step_of_raised {e : AccessError} (h : c.cycle.2 = .raised e) :
    c.step = ((c.cycle.1, []), .error e) := by
  rw [step, h]

theorem step_of_done (h : c.cycle.2 = .done w o) :
    c.step = (c.cycle.1.serve.conclude w o, .ok .carryOn) := by
  rw [step, h]

/-- Where no instruction waits, no key is stored. -/
theorem serve_of_free (free : c.state.keyWait = none) : c.serve = c := by
  unfold serve
  split
  · rw [deliver, free]
  · rfl

theorem serve_of_down {k : Key} (down : c.keypad.first? = some k) : c.serve = c.deliver k := by
  rw [serve, down]

/-! The gate plays no part. -/

theorem serve_withGate (c : Cpu) (g : Gate) : (c.withGate g).serve = c.serve.withGate g := by
  have same : (c.withGate g).keypad = c.keypad := rfl
  unfold serve
  rw [same]
  cases c.keypad.first? with
  | none => rfl
  | some k => exact deliver_withGate c g k

theorem step_withGate (c : Cpu) (g : Gate) :
    (c.withGate g).step = ((c.step.1.1.withGate g, c.step.1.2), c.step.2) := by
  unfold step
  rw [cycle_withGate]
  cases c.cycle.2 with
  | done w o =>
    dsimp only
    rw [serve_withGate, conclude_withGate]
  | _ => rfl

theorem moments_withGate (c : Cpu) (g : Gate) : (c.withGate g).moments = c.moments := by
  rw [moments, step_withGate, moments]

theorem blocks_withGate (c : Cpu) (g : Gate) : (c.withGate g).Blocks ↔ c.Blocks := by
  have same : (c.withGate g).keypad = c.keypad := rfl
  rw [Blocks, cycle_withGate, same]
  exact Iff.rfl

@[simp] theorem gate_serve (c : Cpu) : c.serve.gate = c.gate := by
  unfold serve
  split
  · exact gate_deliver c _
  · rfl

@[simp] theorem gate_step (c : Cpu) : c.step.1.1.gate = c.gate := by
  unfold step
  split <;> simp

/-- What survives all that a machine does survives a step. -/
theorem Law.step {P : Cpu → Prop} (law : Law P) (h : P c) : P c.step.1.1 := by
  have cycled := law.cycle h
  unfold Cpu.step
  split
  · exact cycled
  · exact cycled
  · exact cycled
  · refine law.rests (rests_conclude _ _ _) ?_
    unfold serve
    split
    · exact law.deliver _ cycled
    · exact cycled

/-- A report leaves the registers as it tells them. -/
theorem toRegisters_conclude (c : Cpu) (w : Fetched) (o : Operation) :
    (c.conclude w o).1.state.toRegisters = (c.closing w o).state := by
  unfold conclude notify takeFrame closing
  dsimp only
  split <;> rfl

/-- A step that goes on has told the snapshot of its instruction, with the registers that it leaves, and any
other step has told nothing. -/
inductive Snaps (c : Cpu) : Prop where
  | none : c.step.2 ≠ .ok .carryOn → c.moments = [] → Snaps c
  | one {now : Moment} {o : Operation} : c.step.2 = .ok .carryOn → c.moments = [now] →
    now.operation = some o → now.state = c.step.1.1.state.toRegisters → Snaps c

theorem snaps (c : Cpu) : c.Snaps := by
  cases outcome : c.cycle.2 with
  | halted | fatal =>
    have step := step_of_stop (c := c) (congrArg Outcome.stop? outcome)
    exact .none (by simp [step]) (by rw [moments, step]; rfl)
  | raised e =>
    have step := step_of_raised outcome
    exact .none (by simp [step]) (by rw [moments, step]; rfl)
  | done w o =>
    have step := step_of_done outcome
    refine .one (o := o) (by rw [step]) (by rw [moments, step, moments_conclude]) rfl ?_
    rw [step, toRegisters_conclude]

end Cpu

namespace Machine

variable {m : Machine} {task : Task} {c : Cpu} {w : Fetched} {o : Operation} {k : Nat} {t : Thread}

/-- What becomes of a thread whose step has ended. -/
def ended (m : Machine) (task : Task) : Except AccessError StepResult → Machine × Option Thread
  | .ok r => goOn (m.afterResult task r)
  | .error e => (m.afterRaise task e, none)

/-- A thread that does not have to wait for a key makes one step. -/
theorem perform_eq (free : ¬ m.cpu.Blocks) (task : Task) :
    m.perform task = (m.withCpu m.cpu.step.1).ended task m.cpu.step.2 := by
  have stopped {r : StepResult} (stop : m.cpu.cycle.2.stop? = some r) :
      m.perform task = (m.withCpu m.cpu.step.1).ended task m.cpu.step.2 := by
    rw [perform_of_stop stop, Cpu.step_of_stop stop]
    rfl
  cases outcome : m.cpu.cycle.2 with
  | halted | fatal => exact stopped (congrArg Outcome.stop? outcome)
  | raised e =>
    rw [perform_of_refused outcome, Cpu.step_of_raised outcome]
    rfl
  | done w o =>
    rw [Cpu.step_of_done outcome]
    cases waits : m.cpu.cycle.1.state.keyWait with
    | none =>
      rw [perform_of_done outcome waits, Cpu.serve_of_free waits]
      rfl
    | some x =>
      have suspended : m.cpu.cycle.1.state.keyWait.isSome = true := by rw [waits, Option.isSome_some]
      cases found : m.cpu.keypad.first? with
      | none => exact absurd ⟨by rw [outcome]; rfl, suspended, found⟩ free
      | some k =>
        have down : m.cpu.cycle.1.keypad.first? = some k := by rw [Cpu.keypad_cycle, found]
        rw [perform_of_waits outcome suspended, Cpu.serve_of_down down]
        exact awaitKey_of_down (m := { m with cpu := m.cpu.cycle.1 }) down task w o

/-! ## What a step hits -/

/-- Whether the next step hits: it executes an instruction, and its snapshot meets an enabled breakpoint. -/
def hits (m : Machine) : Bool :=
  m.cpu.moments.any fun now => m.debugger.breakpoints.any (·.fires m.debugger.before now)

/-- The debugger after the next step. -/
def noted (m : Machine) : Debugger :=
  m.cpu.moments.foldl (fun d now => (d.observe now).1) m.debugger

theorem countSnapshot_of_none (none : m.stopAfter = none) : m.countSnapshot = m := by
  rw [countSnapshot, none]

/-- What is left of the machine when a step has been told, before a listener may end the run. -/
def afterStep (m : Machine) (heard : List Report) : Machine :=
  { m with
    cpu := m.cpu.step.1.1.withGate (m.cpu.gate.setPolicy (m.cpu.gate.shouldWait || m.hits))
    debugger := m.noted
    heard }

/-- What a step leaves: the gate has closed if the step hits. -/
theorem withCpu_step (m : Machine) : ∃ heard,
    m.withCpu m.cpu.step.1 = m.afterStep heard ∨
    m.withCpu m.cpu.step.1 = (m.afterStep heard).countSnapshot := by
  have silent (quiet : m.cpu.step.1.2 = []) :
      m.withCpu m.cpu.step.1 = m.afterStep m.heard := by
    have none : m.cpu.moments = [] := by rw [Cpu.moments, quiet]; rfl
    have gate : m.cpu.step.1.1.withGate m.cpu.gate = m.cpu.step.1.1 := by
      conv_lhs => rw [← Cpu.gate_step m.cpu]
      rfl
    rw [withCpu, quiet, afterStep, hits, noted, none, List.any_nil, Bool.or_false, Gate.setPolicy_self,
      gate]
    rfl
  cases outcome : m.cpu.cycle.2 with
  | halted | fatal =>
    have stop : m.cpu.cycle.2.stop? = _ := congrArg Outcome.stop? outcome
    exact ⟨_, .inl (silent (by rw [Cpu.step_of_stop stop]))⟩
  | raised e => exact ⟨_, .inl (silent (by rw [Cpu.step_of_raised outcome]))⟩
  | done w o =>
    have step := Cpu.step_of_done outcome
    have moments : m.cpu.moments = [m.cpu.cycle.1.serve.closing w o] := by
      rw [Cpu.moments, step, Cpu.moments_conclude]
    have gate : (m.cpu.cycle.1.serve.conclude w o).1.gate = m.cpu.gate := by simp
    obtain ⟨heard, told⟩ := m.withCpu_conclude m.cpu.cycle.1.serve w o
    have left : m.withCpu m.cpu.step.1 = _ := (congrArg m.withCpu (congrArg Prod.fst step)).trans told
    rw [tell_eq_countSnapshot] at left
    refine ⟨m.copies (.snapshot (m.cpu.cycle.1.serve.closing w o)) ++ heard,
      .inr (left.trans (congrArg countSnapshot ?_))⟩
    rw [afterStep, hits, noted, moments, step, Debugger.observe_of_operation (o := o) rfl, List.any_cons,
      List.any_nil, Bool.or_false]
    simp only [gate]
    rfl

/-- Without a listener that may end the run, no more than that happens. -/
theorem withCpu_step_of_none (none : m.stopAfter = none) :
    ∃ heard, m.withCpu m.cpu.step.1 = m.afterStep heard := by
  obtain ⟨heard, told | told⟩ := m.withCpu_step
  · exact ⟨heard, told⟩
  · exact ⟨heard, told.trans (countSnapshot_of_none (m := m.afterStep heard) none)⟩

/-! What the debugger knows after a step. -/

/-- What a step makes of the debugger. -/
structure Sees (m : Machine) (d : Debugger) : Prop where
  breakpoints : d.breakpoints = m.debugger.breakpoints
  running : d.running = m.debugger.running
  hit : d.hit.isSome = (m.hits || m.debugger.hit.isSome)
  before : m.cpu.step.2 = .ok .carryOn → d.before = some m.cpu.step.1.1.state.toRegisters

theorem sees_noted (m : Machine) : m.Sees m.noted := by
  cases m.cpu.snaps with
  | none ends none =>
    rw [noted, none]
    refine ⟨rfl, rfl, ?_, fun goes => absurd goes ends⟩
    rw [hits, none, List.any_nil, Bool.false_or]
    rfl
  | @one now o _ one executed state =>
    rw [noted, one, List.foldl_cons, List.foldl_nil, Debugger.observe_of_executed executed]
    refine ⟨rfl, rfl, ?_, fun _ => congrArg some state⟩
    have found : (m.debugger.firstMatch? now).isSome = m.hits := by
      have observed := Debugger.observe_of_operation (d := m.debugger) executed
      rw [Debugger.observe_of_executed executed] at observed
      rw [hits, one, List.any_cons, List.any_nil, Bool.or_false]
      exact observed
    rw [← found]
    exact Option.isSome_or

/-! ## A step on a thread -/

/-- The machine around a thread that moves. -/
def around (m : Machine) (k : Nat) : Machine :=
  { m with threads := m.threads.eraseIdx k, onThread := true }

theorem act_of_moveThread {r : Machine × Option Thread} (ht : m.threads[k]? = some t)
    (runs : t.place.isRunnable = true) (moved : (m.around k).moveThread t = r) :
    m.act (.move k) = { r.1 with
      threads := m.threads.take k ++ r.2.toList ++ m.threads.drop (k + 1), onThread := false } :=
  (move_eq ht runs).trans (by rw [← moved]; rfl)

/-- A thread that begins an instruction, and does not have to wait for a key in it, makes one step. -/
theorem act_of_enters (ht : m.threads[k]? = some t) (enters : t.enters m.cpu.gate = true)
    (free : ¬ m.cpu.Blocks) :
    let left := ((m.around k).withCpu m.cpu.step.1).ended t.task m.cpu.step.2
    m.act (.move k) = { left.1 with
      threads := m.threads.take k ++ left.2.toList ++ m.threads.drop (k + 1), onThread := false } :=
  act_of_moveThread ht (isRunnable_of_enters enters)
    ((moveThread_of_enters (m := m.around k) enters).trans (perform_eq (m := m.around k) free t.task))

end Machine

end Hexscope
