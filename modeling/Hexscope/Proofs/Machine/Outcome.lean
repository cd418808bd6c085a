import Hexscope.Proofs.Instruction.Refusal
import Hexscope.Proofs.Machine.Frame
import Hexscope.Proofs.Machine.Log

/-!
# The result of a step

A step ends with one of three results. Which one is decided by the opcode at the program counter and by the
registers: the program has ended, the opcode is refused, or it is executed.

* `Cpu.verdict_cycle`: how a cycle ends on the standard memory, and what it leaves;
* `Cpu.cycle_of_decoded`: the cycle of an instruction that nothing stops;
* `Machine.results`: the results that were heard;
* `Machine.step_cases`: what a step does in each of the three cases (`Machine.Halts`, `Machine.Fails`,
  `Machine.GoesOn`);
* `Machine.step_result`: each result exactly in its case, along every run.
-/

namespace Hexscope

namespace Cpu

/-- The program has ended: not both bytes of an opcode are left, or the word at the program counter is zero. -/
def AtEnd (c : Cpu) : Prop := 0xFFF ≤ c.state.pc ∨ c.bus.peekOpcode c.state.pc = .ok 0

/-- Nothing but the access log differs. -/
def LogsOnly (c d : Cpu) : Prop := ∃ bus, d = { c with bus } ∧ bus.peek = c.bus.peek

variable {c : Cpu} {w : Opcode} {kind : ErrorKind}

/-- What is fetched is the opcode at the program counter, and fetching does not change the memory. -/
theorem opcode_of_fetched {bus : Bus} {v : Fetched} (fetched : c.fetched = (bus, .ok v)) :
    c.bus.peekOpcode c.state.pc = .ok v.opcode ∧ v.pc = c.state.pc ∧ bus.peek = c.bus.peek := by
  obtain ⟨-, same, opcode⟩ := Bus.logs_fetch fetched
  exact ⟨opcode, Bus.pc_of_fetch (congrArg Prod.snd fetched), same⟩

/-- How a cycle ends on the standard machine. -/
inductive Verdict (c d : Cpu) (outcome : Outcome Fetched) : Prop where
  | ended : c.AtEnd → outcome = .halted → c.LogsOnly d → Verdict c d outcome
  | refused {w : Opcode} {kind : ErrorKind} {cause : Fault.Cause} : ¬ c.AtEnd →
    c.bus.peekOpcode c.state.pc = .ok w → w.Refused c.state.toRegisters kind → outcome = .fatal →
    cause.kind = kind → d.fault = some ⟨cause, c.state.pc, w.toNat⟩ →
    d.state.pc = (if kind = .invalidOpcode then c.state.pc else c.state.pc + 2) →
    d.cycles = c.cycles → Verdict c d outcome
  | executed {v : Fetched} {o : Operation} : ¬ c.AtEnd →
    c.bus.peekOpcode c.state.pc = .ok v.opcode →
    (∀ kind, ¬ v.opcode.Refused c.state.toRegisters kind) → outcome = .done v o →
    d.cycles = c.cycles + 1 → Verdict c d outcome

theorem verdict_cycle (within : c.Within .standard) : c.Verdict c.cycle.1 c.cycle.2 := by
  have size : c.bus.size = 4096 := Bus.size_of_layout within.layout
  have sound := Bus.built_standard.sound.of_layout within.layout
  have stack := within.inRange.stackSound
  have mapped (a : Int) : c.bus.IsMapped a ↔ 0 ≤ a ∧ a < 4096 :=
    (Bus.isMapped_of_layout within.layout a).trans Bus.isMapped_standard
  have refused (i : Instruction) := Instruction.refusal?_eq stack mapped within.inRange.i_nonneg i
  have raises := within.staysInside.noRaise
  have goesOn {v : Fetched} {bus : Bus} (inside : c.state.pc + 1 < c.bus.size)
      (fetched : c.fetched = (bus, .ok v)) (nonzero : v.opcode ≠ 0) : ¬ c.AtEnd := by
    rintro (outside | zero)
    · omega
    · rw [(opcode_of_fetched fetched).1] at zero
      exact nonzero (Except.ok.inj zero)
  have ends := ends_cycle c
  generalize c.cycle.1 = d, c.cycle.2 = outcome at ends raises ⊢
  cases ends with
  | outside outside => exact .ended (.inl (by omega)) rfl ⟨_, rfl, rfl⟩
  | unreadable _ _ | refused _ _ _ _ _ => exact absurd rfl (raises _)
  | stopped _ fetched zero =>
    obtain ⟨opcode, -, same⟩ := opcode_of_fetched fetched
    exact .ended (.inr (zero ▸ opcode)) rfl ⟨_, rfl, same⟩
  | @unknown bus v inside fetched nonzero none =>
    obtain ⟨opcode, pc, -⟩ := opcode_of_fetched fetched
    have unfit : v.opcode.Refused c.state.toRegisters .invalidOpcode :=
      Opcode.refused_iff.mpr (by rw [none])
    exact .refused (goesOn inside fetched nonzero) opcode unfit rfl rfl (by rw [pc]) rfl rfl
  | @faulted bus v i b t inside fetched nonzero decoded stops _ =>
    obtain ⟨opcode, pc, -⟩ := opcode_of_fetched fetched
    have trap := trap_of_effect sound stack fetched stops
    have kind : i.refusal? c.state.toRegisters = some t.cause.kind := by
      rw [← refused i, ← trap]
      rfl
    have stopped : v.opcode.Refused c.state.toRegisters t.cause.kind :=
      Opcode.refused_iff.mpr (by rw [decoded]; exact kind)
    have behind : (c.ready bus).state.pc = c.state.pc + 2 :=
      within.staysInside.advance inside
    have after : b.state.pc = (c.ready bus).state.pc :=
      Instruction.pc_of_trap (b := c.ready bus) ⟨stack.length, stack.sp_nonneg, stack.sp_le⟩ stops
    have known : t.cause.kind ≠ .invalidOpcode := by
      cases t <;> simp [Trap.cause, Fault.Cause.kind]
    refine .refused (goesOn inside fetched nonzero) opcode stopped rfl rfl (by rw [pc]) ?_ rfl
    rw [if_neg known, ← behind, ← after]
  | @done bus v i b inside fetched nonzero decoded effect =>
    have trap := trap_of_effect sound stack fetched effect
    have free : i.refusal? c.state.toRegisters = none := by
      rw [← refused i, ← trap]
      rfl
    refine .executed (goesOn inside fetched nonzero) (opcode_of_fetched fetched).1 ?_ rfl rfl
    intro kind stopped
    have stopped := Opcode.refused_iff.mp stopped
    rw [decoded] at stopped
    cases free.symm.trans stopped

/-- The cycle of an instruction that nothing stops. -/
theorem cycle_of_decoded (within : c.Within .standard) {i : Instruction}
    (here : c.bus.peekOpcode c.state.pc = .ok w) (nonzero : w ≠ 0)
    (decoded : Instruction.decode? w = some i) (free : i.refusal? c.state.toRegisters = none) :
    ∃ v o bus b, v.opcode = w ∧ bus.peek = c.bus.peek ∧ c.cycle.2 = .done v o ∧
      i.effect c.keypad (c.ready bus) = (b, none) ∧
      c.cycle.1 = { c with toBoard := b, cycles := c.cycles + 1 } := by
  have inside := lt_of_peekOpcode within here
  cases verdict_cycle within with
  | ended atEnd _ _ =>
    rcases atEnd with beyond | zero
    · omega
    · exact absurd (Except.ok.inj (here.symm.trans zero)) nonzero
  | refused _ here' refused _ _ _ _ _ =>
    cases here.symm.trans here'
    have stops := Opcode.refused_iff.mp refused
    rw [decoded] at stops
    cases free.symm.trans stops
  | @executed v o _ here' _ done _ =>
    have same : v.opcode = w := Except.ok.inj (here'.symm.trans here)
    have ends := ends_cycle c
    rw [done] at ends
    generalize c.cycle.1 = d at ends ⊢
    cases ends with
    | @done bus _ j b _ fetched _ found effect =>
      rw [same, decoded] at found
      cases found
      exact ⟨v, _, bus, b, same, (opcode_of_fetched fetched).2.2, done, effect, rfl⟩

end Cpu

/-- The result in an event, if it is one. -/
def Event.result? : Event → Option StepResult
  | .result r _ => some r
  | .finish r => some r
  | .notice _ | .raised _ => none

namespace Machine

/-- The results of steps and runs that were heard and nobody has taken yet, oldest first. -/
def results (m : Machine) : List StepResult := m.events.filterMap Event.result?

variable {m n : Machine} {k : Nat} {t : Thread} {task : Task} {r : StepResult} {ns : List Notice}

/-! ## Results -/

theorem results_of_heard (h : n.heard = m.heard) : n.results = m.results := by
  rw [results, events_of_heard h, results]

theorem results_hear (m : Machine) (e : Event) (single : m.listeners e = 1) :
    (m.hear e).results = m.results ++ e.result?.toList := by
  rw [results, events_hear, single, List.filterMap_append, results]
  cases h : e.result? <;> simp [h]

/-- Notices are no results. -/
theorem Told.results (h : m.Told n ns) : n.results = m.results := by
  have nothing (e : Event) (he : e ∈ ns.flatMap fun notice =>
      List.replicate (m.listeners (.notice notice)) (Event.notice notice)) : e.result? = none := by
    obtain ⟨notice, -, copy⟩ := List.mem_flatMap.mp he
    rw [List.eq_of_mem_replicate copy]
    rfl
  rw [Machine.results, h.events, List.filterMap_append, List.filterMap_eq_nil_iff.mpr nothing,
    List.append_nil, Machine.results]

theorem results_withCpu (m : Machine) (told : Cpu × List Notice) :
    (m.withCpu told).results = m.results :=
  (told_withCpu m told).results.trans (results_of_heard rfl)

theorem results_finish (m : Machine) (r : StepResult) :
    (m.finish r).results = m.results ++ [r] := by
  refine (results_hear _ (.finish r) rfl).trans (congrArg (· ++ [r]) ?_)
  exact (results_of_heard rfl).trans ((results_withCpu _ _).trans (results_of_heard rfl))

/-- A result that ends a run is heard, whatever the task. -/
theorem results_afterResult_of_end (m : Machine) (task : Task) (ends : r ≠ .carryOn) :
    (m.afterResult task r).1.results = m.results ++ [r] := by
  cases task with
  | steps left => exact results_hear m (m.resultEvent r) rfl
  | run limit taken =>
    have ended : m.runEnds limit (taken + 1) r = true := by
      simp [runEnds, ends]
    rw [afterResult, if_pos ended]
    exact (results_hear m.endRun _ rfl).trans (congrArg (· ++ [r]) (results_of_heard rfl))
  | single armed =>
    simp only [afterResult]
    split
    · exact (results_hear (m.setPolicy true) _ rfl).trans
        (congrArg (· ++ [r]) (results_of_heard rfl))
    · exact results_hear m _ rfl
  | clock live =>
    rw [afterResult, if_neg ends]
    exact results_finish m r

theorem results_tickIfDue (m : Machine) : m.tickIfDue.results = m.results := by
  unfold tickIfDue
  split
  · rfl
  · split
    · exact results_of_heard rfl
    · exact (results_withCpu _ _).trans (results_of_heard rfl)

/-- No other result than that to go on is heard from who goes on. -/
theorem results_afterResult_of_carryOn (m : Machine) (task : Task) :
    (m.afterResult task .carryOn).1.results = m.results ∨
      (m.afterResult task .carryOn).1.results = m.results ++ [.carryOn] := by
  cases task with
  | steps left => exact .inr (results_hear m _ rfl)
  | run limit taken =>
    simp only [afterResult]
    split
    · exact .inr ((results_hear m.endRun _ rfl).trans (congrArg (· ++ [_]) (results_of_heard rfl)))
    · exact .inl rfl
  | single armed =>
    simp only [afterResult]
    split
    · exact .inr ((results_hear (m.setPolicy true) _ rfl).trans
        (congrArg (· ++ [_]) (results_of_heard rfl)))
    · exact .inr (results_hear m _ rfl)
  | clock live => exact .inl (results_tickIfDue m)

/-! ## A step -/

/-- A step finds the end of the program: its task hears so, and the processor is as before. -/
structure Halts (m n : Machine) : Prop where
  results : n.results = m.results ++ [.halted]
  state : n.cpu.state = m.cpu.state
  memory : n.cpu.bus.peek = m.cpu.bus.peek
  random : n.cpu.random = m.cpu.random
  keypad : n.cpu.keypad = m.cpu.keypad
  cycles : n.cpu.cycles = m.cpu.cycles
  fault : n.cpu.fault = m.cpu.fault
  shown : n.shown = m.shown

/-- A step comes upon an opcode that is refused: its task hears so, and the processor remembers why. -/
structure Fails (m n : Machine) (w : Opcode) (kind : ErrorKind) : Prop where
  results : n.results = m.results ++ [.fatal]
  fault : ∃ cause : Fault.Cause, cause.kind = kind ∧
    n.cpu.fault = some ⟨cause, m.cpu.state.pc, w.toNat⟩
  pc : n.cpu.state.pc = if kind = .invalidOpcode then m.cpu.state.pc else m.cpu.state.pc + 2
  cycles : n.cpu.cycles = m.cpu.cycles
  shown : n.shown = m.shown

/-- A thread inside of an instruction that waits for a key. Once it is woken, the result that it hears is
that to go on, or it waits again. -/
def Lingers (t : Thread) : Prop := ∃ w o, t.place = .key w o ∧
  ∀ (m : Machine) (k : Nat), m.threads[k]? = some { t with place := .woken w o } →
    (m.act (.move k)).results = m.results ++ [.carryOn] ∨
      (m.act (.move k)).results = m.results ∧ (m.act (.move k)).threads[k]? = some t

/-- A step executes its opcode. The task of a caller hears to go on, at once or after a key. -/
structure GoesOn (m n : Machine) (k : Nat) (task : Task) (w : Opcode) : Prop where
  executed : (m.executed? (.move k)).map (·.opcode) = some w
  results : n.results = m.results ∨ n.results = m.results ++ [.carryOn]
  caller : ∀ left, task = .steps left → n.results = m.results ++ [.carryOn] ∨
    n.results = m.results ∧ ∃ t ∈ n.threads[k]?, t.task = task ∧ Lingers t

/-- No result that ends a run is heard of a step that goes on. -/
theorem GoesOn.results_ne {w : Opcode} (h : m.GoesOn n k task w) (ends : r ≠ .carryOn) :
    n.results ≠ m.results ++ [r] := by
  intro heard
  rcases h.results with silent | goes
  · simpa using silent.symm.trans heard
  · have same : [.carryOn] = [r] := List.append_cancel_left (goes.symm.trans heard)
    exact ends (List.head_eq_of_cons_eq same).symm

/-- What a thread is replaced by stands in its place. -/
theorem getElem?_replaced {ts : List Thread} (lt : k < ts.length) (u : Thread) :
    (ts.take k ++ (some u).toList ++ ts.drop (k + 1))[k]? = some u := by
  have front : (ts.take k).length = k := List.length_take_of_le (Nat.le_of_lt lt)
  rw [List.append_assoc, List.getElem?_append_right (Nat.le_of_eq front), front, Nat.sub_self]
  rfl

/-- What a move leaves, but for its threads. -/
theorem results_move {s : Machine × Option Thread}
    (moved : m.move k = { s.1 with
      threads := m.threads.take k ++ s.2.toList ++ m.threads.drop (k + 1), onThread := false }) :
    (m.act (.move k)).results = s.1.results := by
  rw [act, moved]
  exact results_of_heard rfl

/-- The report of a caller's instruction is followed by the result to go on. -/
theorem results_report (m : Machine) (told : Cpu × List Notice) (left : Nat) :
    (goOn ((m.withCpu told).afterResult (.steps left) .carryOn)).1.results =
      m.results ++ [.carryOn] :=
  (results_hear (m.withCpu told) _ rfl).trans (congrArg (· ++ [_]) (results_withCpu m told))

/-- The step of a caller that waits for a key hears to go on, or waits on. -/
theorem lingers_key (left : Nat) (w : Fetched) (o : Operation) : Lingers ⟨.steps left, .key w o⟩ := by
  refine ⟨w, o, rfl, fun m k ht => ?_⟩
  obtain ⟨s, proceeds, moved⟩ := exists_proceeds ht rfl
  have lt : k < m.threads.length := (List.getElem?_eq_some_iff.mp ht).1
  have results := results_move moved
  cases proceeds with
  | ends ready _ | parks ready _ _ => cases ready
  | stops enters _ | raises enters _ => cases enters
  | @reports c v p ready =>
    exact .inl (results.trans (results_report _ _ left))
  | waits asks _ =>
    cases asks with
    | begins enters _ _ => cases enters
    | woken inside =>
      cases inside
      refine .inr ⟨results.trans (results_of_heard rfl), ?_⟩
      rw [act, moved]
      exact getElem?_replaced lt _

/-- A cycle that has a result, and what is left when the task of its thread has heard it. -/
theorem stops_of_stop (ht : m.threads[k]? = some t) (enters : t.enters m.cpu.gate = true)
    (stop : m.cpu.cycle.2.stop? = some r) :
    (m.act (.move k)).results = m.results ++ [r] ∧ (m.act (.move k)).shown = m.shown ∧
      ∃ speaker gate, (m.act (.move k)).cpu = { m.cpu.cycle.1 with speaker, gate } := by
  let moving := { m with threads := m.threads.eraseIdx k, onThread := true }
  have ends : r ≠ .carryOn := ne_carryOn_of_stop stop
  have moved := move_eq ht (isRunnable_of_enters enters)
  have performed : moving.moveThread t =
      goOn (afterResult { moving with cpu := m.cpu.cycle.1 } t.task r) :=
    (moveThread_of_enters (m := moving) enters).trans (perform_of_stop (m := moving) stop t.task)
  rw [show moveThread _ t = _ from performed] at moved
  have hushed := hushed_afterResult { moving with cpu := m.cpu.cycle.1 } t.task r
    fun goes => absurd goes ends
  refine ⟨?_, ?_, ?_⟩
  · rw [results_move moved]
    exact (results_afterResult_of_end _ t.task ends).trans (congrArg (· ++ [r]) (results_of_heard rfl))
  · rw [act, moved]
    exact (shown_of_heard rfl).trans (hushed.shown.trans (shown_of_heard rfl))
  · rw [act, moved]
    exact hushed.cpu

/-- A cycle that executes an instruction, and what the task of its thread hears. -/
theorem goesOn_of_done {v : Fetched} {o : Operation} (ht : m.threads[k]? = some t)
    (enters : t.enters m.cpu.gate = true) (done : m.cpu.cycle.2 = .done v o) :
    m.GoesOn (m.act (.move k)) k t.task v.opcode := by
  let moving := { m with threads := m.threads.eraseIdx k, onThread := true }
  have lt : k < m.threads.length := (List.getElem?_eq_some_iff.mp ht).1
  have executed : (m.executed? (.move k)).map (·.opcode) = some v.opcode := by
    rw [executed?, begins, ht, Option.any_some, enters, if_pos rfl, done]
    rfl
  obtain ⟨s, proceeds, moved⟩ := exists_proceeds ht (isRunnable_of_enters enters)
  have results := results_move moved
  cases proceeds with
  | ends ready unwanted => simp [Thread.enters, ready, unwanted] at enters
  | parks ready _ closed => simp [Thread.enters, ready, show m.cpu.gate.shouldWait = true from closed] at enters
  | stops _ stop =>
    have stop : m.cpu.cycle.2.stop? = some _ := stop
    rw [done] at stop
    cases stop
  | raises _ raised =>
    have raised : m.cpu.cycle.2 = _ := raised
    rw [done] at raised
    cases raised
  | @reports c u p ready =>
    have reported : (moving.withCpu (c.conclude u p)).results = m.results :=
      (results_withCpu moving _).trans (results_of_heard rfl)
    refine ⟨executed, ?_, fun left caller => .inl ?_⟩
    · have after := results_afterResult_of_carryOn (moving.withCpu (c.conclude u p)) t.task
      rw [reported] at after
      rw [results]
      exact after
    · rw [results, caller]
      exact results_report moving _ left
  | @waits c u p asks up =>
    have same : (m.act (.move k)).results = m.results := results.trans (results_of_heard rfl)
    refine ⟨executed, .inl same, fun left caller => .inr ⟨same, ⟨t.task, .key u p⟩, ?_, rfl, ?_⟩⟩
    · rw [act, moved]
      exact getElem?_replaced lt _
    · rw [caller]
      exact lingers_key left u p

/-- What a step does, by the opcode at the program counter and the registers. -/
theorem step_cases (within : m.cpu.Within .standard) (ht : m.threads[k]? = some t)
    (enters : t.enters m.cpu.gate = true) :
    (m.cpu.AtEnd ∧ m.Halts (m.act (.move k))) ∨
    ¬ m.cpu.AtEnd ∧ ∃ w, m.cpu.bus.peekOpcode m.cpu.state.pc = .ok w ∧
      ((∃ kind, w.Refused m.cpu.state.toRegisters kind ∧ m.Fails (m.act (.move k)) w kind) ∨
        (∀ kind, ¬ w.Refused m.cpu.state.toRegisters kind) ∧
          m.GoesOn (m.act (.move k)) k t.task w) := by
  have verdict := Cpu.verdict_cycle within
  cases verdict with
  | ended atEnd halted logs =>
    have stop : m.cpu.cycle.2.stop? = some .halted := congrArg Outcome.stop? halted
    obtain ⟨results, shown, speaker, gate, cpu⟩ := stops_of_stop ht enters stop
    obtain ⟨bus, cycle, memory⟩ := logs
    rw [cycle] at cpu
    refine .inl ⟨atEnd, results, ?_, ?_, ?_, ?_, ?_, ?_, shown⟩
    all_goals rw [cpu]
    exact memory
  | @refused w kind cause inside here refused fatal same fault pc cycles =>
    have stop : m.cpu.cycle.2.stop? = some .fatal := congrArg Outcome.stop? fatal
    obtain ⟨results, shown, speaker, gate, cpu⟩ := stops_of_stop ht enters stop
    refine .inr ⟨inside, w, here, .inl ⟨kind, refused, results, ⟨cause, same, ?_⟩, ?_, ?_, shown⟩⟩
    all_goals rw [cpu]
    · exact fault
    · exact pc
    · exact cycles
  | executed inside here free done _ =>
    exact .inr ⟨inside, _, here, .inr ⟨free, goesOn_of_done ht enters done⟩⟩

/-- The result that the program has ended is heard at its end, and nowhere else. -/
theorem halted_iff (within : m.cpu.Within .standard) (ht : m.threads[k]? = some t)
    (enters : t.enters m.cpu.gate = true) :
    (m.act (.move k)).results = m.results ++ [.halted] ↔ m.cpu.AtEnd := by
  rcases step_cases within ht enters with
    ⟨atEnd, halts⟩ | ⟨inside, w, -, ⟨kind, -, fails⟩ | ⟨-, goesOn⟩⟩
  · exact iff_of_true halts.results atEnd
  · refine iff_of_false (fun halted => ?_) inside
    simpa using fails.results.symm.trans halted
  · exact iff_of_false (goesOn.results_ne (by decide)) inside

variable {keypad : Keypad} {speaker : Option Speaker} {random : Random} {romLimit : Number}
  {cpuHz timerHz : Frequency} {historyLimit : Nat}

/-- The result of a step on a machine with the standard memory, whatever has happened before. It is that the
program has ended exactly if no whole opcode is left or the word at the program counter is zero, and then the
processor stays as it is. It is a fault exactly if the word is refused, and the fault then tells the address
and the word. With either result no cycle is counted and nothing is shown. Any other word is executed, and the
result that a caller hears, perhaps after a key, is that to go on. -/
theorem step_result
    (assembled : assemble (.assemble .standard keypad speaker random romLimit) cpuHz timerHz
      historyLimit = .ok m) (as : List Action) (ht : (m.after as).threads[k]? = some t)
    (enters : t.enters (m.after as).cpu.gate = true) :
    let n := m.after as
    let next := n.act (.move k)
    let address := n.cpu.state.pc
    (next.results = n.results ++ [.halted] ↔ n.cpu.AtEnd) ∧
    (n.cpu.AtEnd → n.Halts next) ∧
    (next.results = n.results ++ [.fatal] ↔ ¬ n.cpu.AtEnd ∧ ∃ w kind,
      n.cpu.bus.peekOpcode address = .ok w ∧ w.Refused n.cpu.state.toRegisters kind) ∧
    (¬ n.cpu.AtEnd → ∃ w, n.cpu.bus.peekOpcode address = .ok w ∧
      (∀ kind, w.Refused n.cpu.state.toRegisters kind → n.Fails next w kind) ∧
      ((∀ kind, ¬ w.Refused n.cpu.state.toRegisters kind) → n.GoesOn next k t.task w)) := by
  intro n next address
  have within := within_after assembled as
  refine ⟨halted_iff within ht enters, ?_⟩
  rcases step_cases within ht enters with
    ⟨atEnd, halts⟩ | ⟨inside, w, here, ⟨kind, refused, fails⟩ | ⟨free, goesOn⟩⟩
  · have ended : next.results = n.results ++ [.halted] := halts.results
    refine ⟨fun _ => halts, iff_of_false ?_ (fun h => h.1 atEnd), fun h => absurd atEnd h⟩
    intro fatal
    simpa using ended.symm.trans fatal
  · have failed : next.results = n.results ++ [.fatal] := fails.results
    refine ⟨fun h => absurd h inside, iff_of_true failed ⟨inside, w, kind, here, refused⟩,
      fun _ => ⟨w, here, fun kind' refused' => ?_, fun free => absurd refused (free kind)⟩⟩
    exact refused.unique refused' ▸ fails
  · refine ⟨fun h => absurd h inside, iff_of_false (goesOn.results_ne (by decide)) ?_,
      fun _ => ⟨w, here, fun kind refused => absurd refused (free kind), fun _ => goesOn⟩⟩
    rintro ⟨-, w', kind, here', refused⟩
    have same : w' = w := Except.ok.inj (here'.symm.trans here)
    exact free kind (same ▸ refused)

/-- A machine with a step before an opcode without an instruction. -/
def bewildered : Machine := (default : Machine).after [.load [0x50, 0x01], .step 1]

/-- The step hears of a fault, and the program counter stays where the opcode is. -/
theorem fails_bewildered :
    bewildered.threads[0]? = some ⟨.steps 1, .ready⟩ ∧
    Thread.enters ⟨.steps 1, .ready⟩ bewildered.cpu.gate = true ∧
    bewildered.Fails (bewildered.act (.move 0)) 0x5001 .invalidOpcode := by
  have assembled : assemble (.assemble .standard default none default Rom.standardLimit)
      standardCpuHz standardTimerHz Debugger.standardLimit = .ok default := rfl
  have facts : bewildered.threads[0]? = some ⟨.steps 1, .ready⟩ ∧
      Thread.enters ⟨.steps 1, .ready⟩ bewildered.cpu.gate = true ∧
      bewildered.cpu.bus.peekOpcode bewildered.cpu.state.pc = .ok 0x5001 ∧
      bewildered.cpu.state.pc = 0x200 := by
    decide +kernel
  obtain ⟨thread, enters, here, pc⟩ := facts
  have inside : ¬ bewildered.cpu.AtEnd := by
    rintro (beyond | zero)
    · omega
    · rw [here] at zero
      cases zero
  have unknown : Opcode.Refused 0x5001 bewildered.cpu.state.toRegisters .invalidOpcode :=
    Opcode.refused_iff.mpr rfl
  obtain ⟨-, -, -, word⟩ := step_result assembled [.load [0x50, 0x01], .step 1] thread enters
  obtain ⟨w, found, fails, -⟩ := word inside
  have same : w = 0x5001 := Except.ok.inj (found.symm.trans here)
  subst same
  exact ⟨thread, enters, fails .invalidOpcode unknown⟩

end Machine

end Hexscope
