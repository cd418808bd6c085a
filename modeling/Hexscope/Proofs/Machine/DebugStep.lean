import Hexscope.Proofs.Machine.Breakpoint
import Hexscope.Proofs.Machine.Delivery
import Hexscope.Proofs.Machine.Hit

/-!
# The step of the debugger and the gate

The debugger lets a thread at the gate go on, or makes one step of its own with the gate open, and closes the
gate again if it was closed before. A breakpoint that is hit in the step closes the gate as well. So at the
end the gate is closed exactly if it was closed before or the step has hit (`Machine.Hits`).

* `Machine.shouldWait_move`: what a move makes of the gate;
* `Machine.act_single`: the step of the debugger is that of a caller with the gate open, and then the gate is
  closed again;
* `Machine.debugStep_keeps_policy`: all of it, also if the step has to wait for a key.
-/

namespace Hexscope

namespace Machine

variable {m n : Machine} {k : Nat} {t : Thread} {task : Task} {c : Cpu} {w : Fetched} {o : Operation}
  {a : Action}

/-- The move ends a step of the debugger that closes the gate again. -/
def Restores (m : Machine) (k : Nat) : Prop :=
  (∃ t, m.threads[k]? = some t ∧ t.task = .single true) ∧
    (m.act (.move k)).threads = m.threads.eraseIdx k

/-! ## The end of a step -/

theorem gate_withCpu_of_silent {told : Cpu × List Notice} (same : told.1.gate = m.cpu.gate)
    (silent : told.2.filterMap Notice.moment? = []) : (m.withCpu told).cpu.gate = m.cpu.gate := by
  have blank : ∀ now ∈ told.2.filterMap Notice.moment?, now.operation = none := by
    rw [silent]
    exact List.forall_mem_nil _
  rw [withCpu, cpu_tellAll_of_blank _ blank]
  exact same

theorem gate_requestTone (m : Machine) (beeping : Bool) :
    (m.withCpu (m.cpu.requestTone beeping)).cpu.gate = m.cpu.gate :=
  gate_withCpu_of_silent (Cpu.gate_requestTone _ _) (Cpu.moments_requestTone _ _)

theorem gate_tickIfDue (m : Machine) : m.tickIfDue.cpu.gate = m.cpu.gate := by
  unfold tickIfDue
  split
  · rfl
  · split
    · rfl
    · exact gate_withCpu_of_silent (Cpu.gate_tick _) (Cpu.moments_requestTone _ _)

/-- Only the step of the debugger closes the gate when it has ended, if it was closed before. -/
theorem gate_ended (m : Machine) (task : Task) (r : Except AccessError StepResult) :
    (m.ended task r).1.cpu.gate.shouldWait = true ↔
      m.cpu.gate.shouldWait = true ∨ task = .single true := by
  have other (same : (m.ended task r).1.cpu.gate = m.cpu.gate) (differs : task ≠ .single true) :
      (m.ended task r).1.cpu.gate.shouldWait = true ↔
        m.cpu.gate.shouldWait = true ∨ task = .single true := by
    rw [same]
    exact (or_iff_left differs).symm
  cases task with
  | single armed =>
    cases armed with
    | true => cases r <;> exact iff_of_true rfl (.inr rfl)
    | false => cases r <;> exact other rfl (by simp)
  | steps left => cases r <;> exact other rfl (by simp)
  | run limit taken =>
    refine other ?_ (by simp)
    cases r with
    | error e => rfl
    | ok r =>
      simp only [ended, goOn, afterResult]
      split <;> rfl
  | clock live =>
    refine other ?_ (by simp)
    cases r with
    | error e => rfl
    | ok r =>
      simp only [ended, goOn, afterResult]
      split
      · exact gate_tickIfDue m
      · exact gate_requestTone { m with outcome := some r, timer := false } false

/-! ## A move -/

/-- A thread whose step of the debugger has ended is gone. -/
theorem gone_of_single {armed : Bool} (m : Machine) (r : Except AccessError StepResult) :
    (m.ended (.single armed) r).2 = none := by
  cases r <;> rfl

/-- The end of a step closes the gate exactly if it was the step of the debugger and is to close it. -/
theorem shouldWait_of_ended {p : Machine} {r : Except AccessError StepResult} (ht : m.threads[k]? = some t)
    (moved : m.act (.move k) = { (p.ended t.task r).1 with
      threads := m.threads.take k ++ (p.ended t.task r).2.toList ++ m.threads.drop (k + 1)
      onThread := false }) :
    (m.act (.move k)).cpu.gate.shouldWait = true ↔ p.cpu.gate.shouldWait = true ∨ m.Restores k := by
  have gate : (m.act (.move k)).cpu.gate = (p.ended t.task r).1.cpu.gate := by rw [moved]
  rw [gate, gate_ended]
  refine or_congr_right ⟨fun single => ⟨⟨t, ht, single⟩, ?_⟩, fun ⟨⟨t', ht', single⟩, _⟩ => ?_⟩
  · rw [moved, single, gone_of_single, Option.toList_none, List.append_nil,
      List.eraseIdx_eq_take_drop_succ]
  · cases ht.symm.trans ht'
    exact single

/-- Where as many threads are left, no step has ended. -/
theorem not_restores_of_length (same : (m.act (.move k)).threads.length = m.threads.length) :
    ¬ m.Restores k := by
  rintro ⟨⟨t, ht, -⟩, gone⟩
  have lt : k < m.threads.length := (List.getElem?_eq_some_iff.mp ht).1
  rw [gone, List.length_eraseIdx_of_lt lt] at same
  omega

theorem length_replaced {ts : List Thread} (ht : ts[k]? = some t) (u : Thread) :
    (ts.take k ++ (some u).toList ++ ts.drop (k + 1)).length = ts.length := by
  have lt : k < ts.length := (List.getElem?_eq_some_iff.mp ht).1
  simp
  omega

/-- A move leaves the gate closed exactly if it was closed before, if the move hits, or if it ends a step of the
debugger that closes the gate again. -/
theorem shouldWait_move (m : Machine) (k : Nat) : (m.act (.move k)).cpu.gate.shouldWait = true ↔
    m.cpu.gate.shouldWait = true ∨ m.Hits k ∨ m.Restores k := by
  have nothing (same : (m.act (.move k)).cpu.gate.shouldWait = m.cpu.gate.shouldWait)
      (still : m.concludes (.move k) = false) (stays : ¬ m.Restores k) :
      (m.act (.move k)).cpu.gate.shouldWait = true ↔
        m.cpu.gate.shouldWait = true ∨ m.Hits k ∨ m.Restores k := by
    have missed : ¬ m.Hits k := fun hits => Bool.false_ne_true (still.symm.trans hits.concludes)
    rw [same]
    exact (or_iff_left (not_or.mpr ⟨missed, stays⟩)).symm
  rcases stopped_or_proceeds m k with stopped | ⟨t, r, ht, runs, proceeds, moved⟩
  · have same : m.act (.move k) = m := move_of_stopped stopped
    exact nothing (by rw [same]) (not_concludes_of_stopped stopped)
      (not_restores_of_length (by rw [same]))
  have idle (still : t.concludes m.cpu = false) : m.concludes (.move k) = false := by
    rw [concludes, ht, Option.any_some]
    exact still
  have moved : m.act (.move k) = _ := moved
  have finished {r : Except AccessError StepResult} (still : m.concludes (.move k) = false)
      (moved : m.act (.move k) =
        let left := ended { m.around k with cpu := m.cpu.cycle.1 } t.task r
        { left.1 with
          threads := m.threads.take k ++ left.2.toList ++ m.threads.drop (k + 1), onThread := false }) :
      (m.act (.move k)).cpu.gate.shouldWait = true ↔
        m.cpu.gate.shouldWait = true ∨ m.Hits k ∨ m.Restores k := by
    have missed : ¬ m.Hits k := fun hits => Bool.false_ne_true (still.symm.trans hits.concludes)
    have same : (cpu { m.around k with cpu := m.cpu.cycle.1 }).gate = m.cpu.gate := Cpu.gate_cycle m.cpu
    rw [shouldWait_of_ended ht moved, same]
    exact or_congr_right (or_iff_right missed).symm
  cases proceeds with
  | ends ready unwanted =>
    refine nothing (by rw [moved]) (idle (concludes_of_idle ?_ (by rw [ready]; rfl))) ?_
    · simp [Thread.enters, ready, unwanted]
    · rintro ⟨⟨t', ht', single⟩, -⟩
      cases ht.symm.trans ht'
      rw [unwanted] at single
      cases single
  | parks ready wanted closed =>
    have closed : m.cpu.gate.shouldWait = true := closed
    refine nothing ?_ (idle (concludes_of_idle ?_ (by rw [ready]; rfl))) (not_restores_of_length ?_)
    · rw [moved]
      exact (congrArg (·.1.shouldWait) (Gate.arrive_of_closed closed))
    · simp [Thread.enters, ready, closed]
    · rw [moved]
      exact length_replaced ht _
  | waits asks up =>
    refine nothing ?_ (idle (concludes_of_up asks up)) (not_restores_of_length ?_)
    · rw [moved]
      exact congrArg Gate.shouldWait asks.gate
    · rw [moved]
      exact length_replaced ht _
  | @stops r enters stop =>
    have enters : t.enters m.cpu.gate = true := enters
    have unfinished : m.cpu.cycle.2.word? = none := by
      have stop : m.cpu.cycle.2.stop? = some r := stop
      cases outcome : m.cpu.cycle.2 with
      | done w o =>
        rw [outcome] at stop
        cases stop
      | _ => rfl
    exact finished (r := .ok r) (idle (concludes_of_unfinished enters unfinished)) moved
  | @raises e enters raised =>
    have enters : t.enters m.cpu.gate = true := enters
    have unfinished : m.cpu.cycle.2.word? = none := by
      rw [show m.cpu.cycle.2 = .raised e from raised]
      rfl
    exact finished (r := .error e) (idle (concludes_of_unfinished enters unfinished)) moved
  | @reports c w o ready =>
    have ready : Ready m.cpu t w o c := ready
    have told := shouldWait_conclude (m.around k) c w o
    rw [ready.gate] at told
    constructor
    · intro closed
      refine ((shouldWait_of_ended (r := .ok .carryOn) ht moved).mp closed).elim (fun closed => ?_)
        fun restores => .inr (.inr restores)
      have closed : ((m.around k).withCpu (c.conclude w o)).cpu.gate.shouldWait = true := closed
      rw [told, Bool.or_eq_true] at closed
      refine closed.imp id fun fires => .inl ?_
      obtain ⟨b, listed, fires⟩ := List.any_eq_true.mp fires
      exact ⟨t, w, o, c, ht, ready, b, listed, fires⟩
    · rintro (closed | hits | restores)
      · refine (shouldWait_of_ended (r := .ok .carryOn) ht moved).mpr (.inl ?_)
        exact told.trans (by rw [closed, Bool.true_or])
      · exact closed_of_hits hits
      · exact (shouldWait_of_ended (r := .ok .carryOn) ht moved).mpr (.inr restores)

/-! ## A thread of one's own -/

/-- The place of a thread that was just begun. -/
theorem getElem?_spawn (m : Machine) (task : Task) :
    (m.spawn task).threads[m.threads.length]? = some ⟨task, .ready⟩ :=
  List.getElem?_concat_length ..

theorem around_spawn (m : Machine) (task : Task) :
    (m.spawn task).around m.threads.length = { m with onThread := true } := by
  have rest : (m.threads ++ [(⟨task, .ready⟩ : Thread)]).eraseIdx m.threads.length = m.threads := by
    rw [List.eraseIdx_append_of_length_le (Nat.le_refl _), Nat.sub_self]
    exact List.append_nil _
  rw [around, spawn, rest]

/-- A thread that was just begun makes a step, where the gate is open and no key is to be waited for. -/
theorem act_spawn (task : Task) (wanted : task ≠ .clock false) (opened : m.cpu.gate.shouldWait = false)
    (free : ¬ m.cpu.Blocks) :
    let left := (withCpu { m with onThread := true } m.cpu.step.1).ended task m.cpu.step.2
    (m.spawn task).act (.move m.threads.length) = { left.1 with
      threads := m.threads ++ left.2.toList, onThread := false } := by
  have enters : Thread.enters ⟨task, .ready⟩ m.cpu.gate = true := by
    simp [Thread.enters, wanted, opened]
  have moved := act_of_enters (m := m.spawn task) (getElem?_spawn m task) enters free
  rw [around_spawn] at moved
  rw [moved]
  simp [spawn]

/-- The step of the debugger is that of a caller, and then the gate is closed if it was closed before. -/
theorem ended_single (m : Machine) (armed : Bool) (r : Except AccessError StepResult) :
    (m.ended (.single armed) r).1 =
      (m.ended (.steps 1) r).1.setPolicy (armed || (m.ended (.steps 1) r).1.cpu.gate.shouldWait) := by
  cases armed <;> cases r <;> rfl

theorem ended_steps_one (m : Machine) (r : Except AccessError StepResult) :
    (m.ended (.steps 1) r).2 = none := by
  cases r with
  | error e => rfl
  | ok r => simp [ended, goOn, afterResult]

theorem act_single (armed : Bool) (opened : m.cpu.gate.shouldWait = false) (free : ¬ m.cpu.Blocks) :
    let p := (m.spawn (.steps 1)).act (.move m.threads.length)
    (m.spawn (.single armed)).act (.move m.threads.length) =
      p.setPolicy (armed || p.cpu.gate.shouldWait) := by
  intro p
  have caller : p = _ := act_spawn (.steps 1) (by simp) opened free
  rw [act_spawn (.single armed) (by simp) opened free, caller, gone_of_single, ended_steps_one, ended_single]
  rfl

/-! ## The result -/

theorem results_single (m : Machine) (armed : Bool) (r : StepResult) :
    (m.ended (.single armed) (.ok r)).1.results = m.results ++ [r] := by
  cases armed with
  | true => exact (results_hear (m.setPolicy true) _ rfl).trans (congrArg (· ++ [r]) (results_of_heard rfl))
  | false => exact results_hear m (m.resultEvent r) rfl

theorem cpu_single (m : Machine) (armed : Bool) (r : Except AccessError StepResult) :
    (m.ended (.single armed) r).1.cpu =
      m.cpu.withGate (m.cpu.gate.setPolicy (armed || m.cpu.gate.shouldWait)) := by
  cases armed <;> cases r <;> rfl

theorem heard_single (m : Machine) (armed : Bool) (e : AccessError) :
    (m.ended (.single armed) (.error e)).1.heard.head? = some ⟨.raised e, m.onThread⟩ := by
  cases armed <;> rfl

/-- What a step leaves of the processor. -/
theorem cpu_withCpu_step (m : Machine) : (m.withCpu m.cpu.step.1).cpu =
    m.cpu.step.1.1.withGate (m.cpu.gate.setPolicy (m.cpu.gate.shouldWait || m.hits)) := by
  obtain ⟨heard, told | told⟩ := m.withCpu_step
  · rw [told]
    rfl
  · obtain ⟨running, stopAfter, counted⟩ := countSnapshot_eq (m.afterStep heard)
    rw [told, counted]
    rfl

/-- What the step of the debugger leaves where the gate is open and no key is to be waited for. Whoever steps
hears the result, or that an access was refused. -/
structure Stepped (m : Machine) (armed : Bool) (d : Machine) : Prop where
  threads : d.threads = m.threads
  cpu : d.cpu = m.cpu.step.1.1.withGate (m.cpu.gate.setPolicy (armed || m.hits))
  result : ∀ r, m.cpu.step.2 = .ok r → d.results = m.results ++ [r]
  raised : ∀ e, m.cpu.step.2 = .error e → d.heard.head? = some ⟨.raised e, true⟩

theorem stepped_single (armed : Bool) (opened : m.cpu.gate.shouldWait = false) (free : ¬ m.cpu.Blocks) :
    m.Stepped armed ((m.spawn (.single armed)).act (.move m.threads.length)) := by
  let moving := { m with onThread := true }
  have moved := act_spawn (.single armed) (by simp) opened free
  have told := told_withCpu moving m.cpu.step.1
  refine ⟨?_, ?_, fun r result => ?_, fun e refused => ?_⟩
  · rw [moved, gone_of_single]
    exact List.append_nil _
  · have cpu : (moving.withCpu m.cpu.step.1).cpu = _ := cpu_withCpu_step moving
    rw [moved]
    refine (cpu_single _ armed _).trans ?_
    rw [cpu, opened, Bool.false_or]
    rfl
  · have results : (moving.withCpu m.cpu.step.1).results = m.results :=
      (results_withCpu moving _).trans (results_of_heard rfl)
    rw [moved, result]
    exact (results_of_heard rfl).trans ((results_single _ armed r).trans (congrArg (· ++ [r]) results))
  · have outside : (moving.withCpu m.cpu.step.1).onThread = true := by rw [told.rest]
    rw [moved, refused]
    exact (heard_single _ armed e).trans (by rw [outside])

/-- The policy before the step plays no part. -/
theorem Stepped.of_setPolicy {armed b : Bool} {d : Machine} (h : (m.setPolicy b).Stepped armed d) :
    m.Stepped armed d := by
  obtain ⟨threads, cpu, result, raised⟩ := h
  have step : (m.setPolicy b).cpu.step = _ := Cpu.step_withGate m.cpu (m.cpu.gate.setPolicy b)
  have hits : (m.setPolicy b).hits = m.hits := by
    have moments : (m.setPolicy b).cpu.moments = m.cpu.moments := Cpu.moments_withGate m.cpu _
    rw [Machine.hits, moments]
    rfl
  rw [step] at result raised
  rw [step, hits] at cpu
  exact ⟨threads, cpu, fun r ok => (result r ok).trans (congrArg (· ++ [r]) (results_of_heard rfl)), raised⟩

/-! ## The wait for a key -/

/-- A step that has to wait for a key. -/
theorem act_of_blocks (ht : m.threads[k]? = some t) (enters : t.enters m.cpu.gate = true)
    (blocks : m.cpu.Blocks) : ∃ w o cpu, cpu.gate = m.cpu.gate ∧
      m.act (.move k) = { m with
        cpu
        threads := m.threads.take k ++ [⟨t.task, .key w o⟩] ++ m.threads.drop (k + 1)
        onThread := false } := by
  obtain ⟨executed, suspended, up⟩ := blocks
  obtain ⟨w, executed⟩ := Option.isSome_iff_exists.mp executed
  obtain ⟨o, done⟩ := Outcome.word?_eq_some.mp executed
  have asks : Asks m.cpu t w o m.cpu.cycle.1 := .begins enters done suspended
  have keys : (cpu { m.around k with cpu := m.cpu.cycle.1 }).keypad.first? = none := by
    rw [← up]
    exact congrArg Keypad.first? (Cpu.keypad_cycle m.cpu)
  refine ⟨w, o, _, ?_, act_of_moveThread ht (isRunnable_of_enters enters)
    ((moveThread_of_asks (m := m.around k) asks).trans (awaitKey_of_up keys t.task w o))⟩
  exact Cpu.gate_cycle m.cpu

/-- Ticks and keys that go up change neither the gate nor the threads, and no result is heard of them. -/
structure Bides (m n : Machine) : Prop where
  threads : n.threads = m.threads
  gate : n.cpu.gate = m.cpu.gate
  results : n.results = m.results

theorem bides_act (h : a.bides = true) : m.Bides (m.act a) := by
  cases a with
  | tick =>
    exact ⟨(told_withCpu m _).threads,
      gate_withCpu_of_silent (Cpu.gate_tick _) (Cpu.moments_requestTone _ _), results_withCpu _ _⟩
  | release _ | releaseAll => exact ⟨rfl, rfl, results_of_heard rfl⟩
  | _ => cases h

theorem bides_after {during : List Action} (bides : ∀ a ∈ during, a.bides = true) :
    m.Bides (m.after during) :=
  List.foldlRecOn (motive := fun n => m.Bides n) during Machine.act ⟨rfl, rfl, rfl⟩
    fun _ h a ha =>
      have next := bides_act (bides a ha)
      ⟨next.threads.trans h.threads, next.gate.trans h.gate, next.results.trans h.results⟩

/-- A thread inside of the step of the debugger gets its key. -/
theorem act_of_woken {armed : Bool} (ht : m.threads[k]? = some ⟨.single armed, .woken w o⟩) {j : Key}
    (down : m.cpu.keypad.first? = some j) :
    let d := m.act (.move k)
    d.threads = m.threads.eraseIdx k ∧ d.results = m.results ++ [.carryOn] := by
  intro d
  have ready : Ready m.cpu ⟨.single armed, .woken w o⟩ w o _ := .served (.woken rfl) down
  have moved : d = _ :=
    act_of_moveThread ht (isRunnable_of_ready ready) (moveThread_of_ready (m := m.around k) ready)
  refine ⟨?_, ?_⟩
  · rw [moved, List.eraseIdx_eq_take_drop_succ]
    simp [goOn, afterResult]
  · rw [moved]
    have told : ((m.around k).withCpu ((m.cpu.deliver j).conclude w o)).results = m.results :=
      (results_withCpu _ _).trans (results_of_heard rfl)
    exact (results_of_heard rfl).trans
      ((results_single _ armed .carryOn).trans (congrArg (· ++ [.carryOn]) told))

/-- A step of the debugger that waits for a key ends when a key goes down, and then the gate is closed if it is
to be closed, or if the step hits. -/
theorem served_single {armed : Bool} {ts : List Thread} {j : Key}
    (threads : m.threads = ts ++ [⟨.single armed, .key w o⟩]) (opened : m.cpu.gate.shouldWait = false) :
    let q := m.act (.press j)
    let e := q.act (.move ts.length)
    e.threads = ts.map (fun t => { t with place := t.place.wake }) ∧ e.results = m.results ++ [.carryOn] ∧
      (e.cpu.gate.shouldWait = true ↔ armed = true ∨ q.Hits ts.length) := by
  intro q e
  have awake : q.threads =
      ts.map (fun t => { t with place := t.place.wake }) ++ [⟨.single armed, .woken w o⟩] := by
    have woken : q.threads = m.threads.map fun t => { t with place := t.place.wake } := rfl
    rw [woken, threads, List.map_append]
    rfl
  have last : q.threads[ts.length]? = some ⟨.single armed, .woken w o⟩ := by
    rw [awake, List.getElem?_append_right (by simp)]
    simp
  obtain ⟨key, down⟩ := Keypad.exists_first?_press m.cpu.keypad j
  obtain ⟨gone, results⟩ := act_of_woken (m := q) last down
  have rest : q.threads.eraseIdx ts.length = ts.map fun t => { t with place := t.place.wake } := by
    rw [awake, List.eraseIdx_append_of_length_le (by simp)]
    simp
  refine ⟨gone.trans rest, results.trans (congrArg (· ++ [_]) (results_of_heard rfl)), ?_⟩
  have shut : q.cpu.gate.shouldWait = false := opened
  rw [shouldWait_move, shut, or_iff_right Bool.false_ne_true, or_comm]
  refine or_congr_left ⟨?_, fun closes => ⟨⟨_, last, closes ▸ rfl⟩, gone⟩⟩
  rintro ⟨⟨t, ht, single⟩, -⟩
  cases last.symm.trans ht
  exact Task.single.inj single

/-- A step of the debugger that has to wait for a key leaves the gate open meanwhile. -/
theorem blocked_single (armed : Bool) (blocks : m.cpu.Blocks) :
    let d := ((m.setPolicy false).spawn (.single armed)).act (.move m.threads.length)
    ∃ w o, d.threads = m.threads ++ [⟨.single armed, .key w o⟩] ∧ d.results = m.results ∧
      d.cpu.gate.shouldWait = false := by
  intro d
  have blocks : ((m.setPolicy false).spawn (.single armed)).cpu.Blocks :=
    (Cpu.blocks_withGate m.cpu _).mpr blocks
  obtain ⟨w, o, cpu, gate, moved⟩ := act_of_blocks (getElem?_spawn (m.setPolicy false) _) rfl blocks
  have moved : d = _ := moved
  refine ⟨w, o, ?_, ?_, ?_⟩ <;> rw [moved]
  · simp [spawn, setPolicy]
  · exact results_of_heard rfl
  · exact congrArg Gate.shouldWait gate

/-! ## The step of the debugger -/

/-- Where nobody has stopped at the gate, the debugger opens it and begins a step of its own. -/
theorem debugStep_of_free (free : m.isPaused = false) :
    m.act .debugStep = (m.setPolicy false).spawn (.single m.cpu.gate.shouldWait) :=
  if_neg (Bool.eq_false_iff.mp free)

/-- The step of the debugger, whatever is going on. If threads stopped at the gate, then it lets them go on,
hears nothing and leaves the policy as it is, and a move of a thread closes the gate only if it hits a
breakpoint, or ends another step of the debugger. Otherwise it makes one step on a thread of its own, which
does not stop at the gate. This is the step of a caller with the gate open, and leaves the gate closed exactly
if it was closed before or the step hits a breakpoint, whatever the result is. The same holds if the step has
to wait for a key, when timers tick and keys go up until a key goes down. -/
theorem debugStep_keeps_policy (m : Machine) :
    let n := m.act .debugStep
    let k := m.threads.length
    let armed := m.cpu.gate.shouldWait
    let d := n.act (.move k)
    (m.isPaused = true →
      (n.cpu = m.cpu.withGate ⟨armed, false, 0⟩ ∧ n.debugger = m.debugger ∧ n.heard = m.heard ∧
        n.threads = m.threads.map fun t => { t with place := t.place.release }) ∧
      ∀ later j, let p := n.after later
        (∀ task, p.threads[j]? = some ⟨task, .released⟩ → p.begins (.move j) = true) ∧
        ((p.act (.move j)).cpu.gate.shouldWait = true ↔
          p.cpu.gate.shouldWait = true ∨ p.Hits j ∨ p.Restores j)) ∧
    (m.isPaused = false → n.begins (.move k) = true ∧
      (¬ m.cpu.Blocks →
        let p := (m.setPolicy false).after [.step 1, .move k]
        d = p.setPolicy (armed || p.cpu.gate.shouldWait) ∧ m.Stepped armed d ∧
        (d.cpu.gate.shouldWait = true ↔ armed = true ∨ m.hits = true)) ∧
      (m.cpu.Blocks → ∃ w o,
        d.threads = m.threads ++ [⟨.single armed, .key w o⟩] ∧ d.results = m.results ∧
        ∀ during : List Action, (∀ a ∈ during, a.bides = true) → ∀ j,
          let q := (d.after during).act (.press j)
          let e := q.act (.move k)
          e.threads = m.threads.map (fun t => { t with place := t.place.wake }) ∧
          e.results = m.results ++ [.carryOn] ∧
          (e.cpu.gate.shouldWait = true ↔ armed = true ∨ q.Hits k))) := by
  intro n k armed d
  refine ⟨fun paused => ⟨?_, fun later j => ⟨fun task ht => ?_, shouldWait_move _ j⟩⟩, fun free => ?_⟩
  · have opened : n = m.openGate := if_pos paused
    have released : m.cpu.gate.release.1 = ⟨armed, false, 0⟩ := congrArg Prod.fst (if_pos paused)
    rw [opened]
    exact ⟨congrArg (m.cpu.withGate ·) released, rfl, rfl, rfl⟩
  · rw [begins, ht]
    rfl
  have spawned : n = (m.setPolicy false).spawn (.single armed) := debugStep_of_free free
  have left : d = ((m.setPolicy false).spawn (.single armed)).act (.move k) := by
    rw [← spawned]
  refine ⟨?_, fun free => ?_, fun blocks => ?_⟩
  · have ht : n.threads[k]? = some ⟨.single armed, .ready⟩ := by
      rw [spawned]
      exact getElem?_spawn (m.setPolicy false) _
    rw [begins, ht, spawned]
    rfl
  · have free : ¬ (m.setPolicy false).cpu.Blocks := (Cpu.blocks_withGate m.cpu _).not.mpr free
    have stepped : m.Stepped armed d := by
      rw [left]
      exact (stepped_single armed rfl free).of_setPolicy
    refine ⟨left.trans (act_single armed rfl free), stepped, ?_⟩
    rw [stepped.cpu]
    exact Bool.or_eq_true_iff
  · obtain ⟨w, o, threads, results, opened⟩ := blocked_single armed blocks
    rw [← left] at threads results opened
    refine ⟨w, o, threads, results, fun during bides j => ?_⟩
    obtain ⟨waiting, policy, silent⟩ := bides_after (m := d) bides
    have served := served_single (j := j) (waiting.trans threads) (by rw [policy, opened])
    rwa [silent, results] at served

/-- A program of two instructions with a breakpoint at the second one, behind a closed gate. -/
def secondWatched : Machine :=
  { (default : Machine) with debugger := (default : Machine).debugger.add (breakpointAt 0x202) }.after
    [.load [0x60, 0x05, 0xF3, 0x0A], .pause]

/-- The first step hits, and the second one waits for a key. The gate is closed after both. A caller that has
stopped at the gate is let go on, and the gate stays closed. -/
theorem keeps_policy_secondWatched :
    let first := secondWatched.after [.debugStep, .move 0]
    let parked := secondWatched.after [.step 1, .move 0]
    (secondWatched.isPaused = false ∧ secondWatched.Stepped true first ∧
      first.cpu.gate.shouldWait = true) ∧
    (first.cpu.Blocks ∧
      (first.after [.debugStep, .move 0, .tick, .press 6, .move 0]).results = first.results ++ [.carryOn] ∧
      (first.after [.debugStep, .move 0, .tick, .press 6, .move 0]).cpu.gate.shouldWait = true) ∧
    parked.isPaused = true ∧ (parked.act .debugStep).cpu.gate.shouldWait = true ∧
      (parked.act .debugStep).threads = [⟨.steps 1, .released⟩] := by
  intro first parked
  obtain ⟨free, single, unblocked, closed⟩ : secondWatched.isPaused = false ∧
      secondWatched.threads.length = 0 ∧ ¬ secondWatched.cpu.Blocks ∧
      secondWatched.cpu.gate.shouldWait = true := by
    decide +kernel
  obtain ⟨free', single', blocks, closed'⟩ : first.isPaused = false ∧ first.threads.length = 0 ∧
      first.cpu.Blocks ∧ first.cpu.gate.shouldWait = true := by
    decide +kernel
  obtain ⟨paused, policy, threads⟩ : parked.isPaused = true ∧ parked.cpu.gate.shouldWait = true ∧
      parked.threads = [⟨.steps 1, .gate⟩] := by
    decide +kernel
  obtain ⟨-, steps⟩ := debugStep_keeps_policy secondWatched
  obtain ⟨-, waits⟩ := debugStep_keeps_policy first
  obtain ⟨releases, -⟩ := debugStep_keeps_policy parked
  obtain ⟨-, stepped, policy'⟩ := (steps free).2.1 unblocked
  obtain ⟨w, o, -, -, served⟩ := (waits free').2.2 blocks
  obtain ⟨-, results, iff⟩ := served [.tick] (by decide) 6
  obtain ⟨⟨cpu, -, -, released⟩, -⟩ := releases paused
  rw [single, closed] at stepped
  rw [single] at policy'
  rw [single'] at results iff
  rw [threads] at released
  refine ⟨⟨free, stepped, policy'.mpr (.inl closed)⟩, ⟨blocks, results, iff.mpr (.inl closed')⟩, paused, ?_,
    released⟩
  rw [cpu]
  exact policy

end Machine

end Hexscope
