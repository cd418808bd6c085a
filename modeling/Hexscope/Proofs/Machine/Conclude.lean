import Hexscope.Proofs.Machine.Step
import Hexscope.Proofs.Machine.Tell

/-!
# The end of an instruction

An instruction ends with its report, and `Machine.concludes` says which moves report one. What happens
around it leaves the state of the processor alone, and may close the gate but not open it (`Cpu.Shuts`).
Only the timers count, if it is the instruction of a clock and a tick is due (`Machine.ticks`).

* `Machine.concludes_iff`: a thread concludes exactly if it has an instruction to report;
* `Machine.still_act`: without a tick, the timers stand;
* `Machine.closed_act`: the gate stays closed until somebody opens it.
-/

namespace Hexscope

/-- Whether a task is that of a clock. -/
def Task.isClock : Task → Bool
  | .clock _ => true
  | .steps _ | .run .. | .single _ => false

/-- Whether a thread that moves reports an instruction. -/
def Thread.concludes (t : Thread) (c : Cpu) : Bool :=
  match t.place with
  | .woken .. => c.keypad.first?.isSome
  | _ => t.enters c.gate && c.cycle.2.word?.isSome &&
    (c.cycle.1.state.keyWait.isNone || c.keypad.first?.isSome)

/-- The delay timer and the sound timer. -/
def Registers.timers (r : Registers) : Int × Int := (r.delay, r.sound)

namespace Cpu

/-- From one moment to another only the speaker may have changed, and the gate may have closed. -/
def Shuts (c d : Cpu) : Prop := ∃ speaker gate, d = { c with speaker, gate } ∧
  (c.gate.shouldWait = true → gate.shouldWait = true)

variable {c d e : Cpu}

namespace Shuts

theorem refl (c : Cpu) : c.Shuts c := ⟨c.speaker, c.gate, rfl, id⟩

theorem trans (h : c.Shuts d) (h' : d.Shuts e) : c.Shuts e := by
  obtain ⟨speaker, gate, rfl, closed⟩ := h
  obtain ⟨speaker', gate', rfl, closed'⟩ := h'
  exact ⟨speaker', gate', rfl, fun h => closed' (closed h)⟩

theorem state (h : c.Shuts d) : d.state = c.state := by
  obtain ⟨speaker, gate, rfl, -⟩ := h
  rfl

theorem shouldWait (h : c.Shuts d) (closed : c.gate.shouldWait = true) :
    d.gate.shouldWait = true := by
  obtain ⟨speaker, gate, rfl, closes⟩ := h
  exact closes closed

end Shuts

theorem shuts_requestTone (c : Cpu) (beeping : Bool) : c.Shuts (c.requestTone beeping).1 := by
  unfold requestTone
  split
  · exact .refl c
  · exact ⟨_, _, rfl, id⟩

/-- No key goes down or up in a cycle. -/
@[simp] theorem keypad_cycle (c : Cpu) : c.cycle.1.keypad = c.keypad := by
  have ends := ends_cycle c
  generalize c.cycle.1 = d, c.cycle.2 = r at ends ⊢
  cases ends <;> rfl

/-- A key that is stored leaves the timers alone. -/
@[simp] theorem timers_deliver (c : Cpu) (k : Key) :
    (c.deliver k).state.timers = c.state.timers := by
  unfold deliver
  split <;> rfl

@[simp] theorem timers_conclude (c : Cpu) (w : Fetched) (o : Operation) :
    (c.conclude w o).1.state.timers = c.state.timers := by
  unfold conclude notify takeFrame
  dsimp only
  split <;> rfl

end Cpu

namespace Machine

variable {m n : Machine} {t : Thread} {a : Action} {k : Nat} {r : StepResult} {task : Task}

/-! ## What is left alone -/

theorem Told.shuts {ns : List Notice} (h : m.Told n ns) : m.cpu.Shuts n.cpu := by
  obtain ⟨hit, closes, -⟩ := h.gate
  rw [ClosesAtMost] at closes
  refine ⟨m.cpu.speaker, _, closes, fun closed => ?_⟩
  rw [Gate.setPolicy, closed, Bool.true_or]

theorem shuts_withCpu (m : Machine) {told : Cpu × List Notice} (h : m.cpu.Shuts told.1) :
    m.cpu.Shuts (m.withCpu told).cpu :=
  h.trans (told_withCpu m told).shuts

theorem shuts_setPolicy (m : Machine) : m.cpu.Shuts (m.setPolicy true).cpu :=
  ⟨m.cpu.speaker, _, rfl, fun _ => rfl⟩

theorem shuts_finish (m : Machine) (r : StepResult) : m.cpu.Shuts (m.finish r).cpu :=
  shuts_withCpu { m with outcome := some r, timer := false } (Cpu.shuts_requestTone m.cpu false)

/-- Whether a tick is due after one more instruction of the clock. -/
def tickDue (m : Machine) : Bool := m.timer && m.period ≤ m.sinceTick + 1

theorem tickIfDue_of_due (h : m.tickDue = true) : m.tickIfDue = { m with sinceTick := 0 }.tick := by
  simp only [tickDue, Bool.and_eq_true, decide_eq_true_eq] at h
  obtain ⟨on, due⟩ := h
  rw [tickIfDue, on, if_neg (by decide), if_neg (by omega)]

theorem tickIfDue_of_not_due (h : m.tickDue = false) :
    ∃ sinceTick, m.tickIfDue = { m with sinceTick } := by
  unfold tickIfDue
  split
  · exact ⟨m.sinceTick, rfl⟩
  rename_i on
  split
  · exact ⟨m.sinceTick + 1, rfl⟩
  · rename_i due
    have ticks : m.tickDue = true := by
      simp only [tickDue, Bool.and_eq_true, decide_eq_true_eq]
      exact ⟨by simpa using on, by omega⟩
    rw [h] at ticks
    cases ticks

theorem shuts_tickIfDue (h : m.tickDue = false) : m.cpu.Shuts m.tickIfDue.cpu := by
  obtain ⟨sinceTick, counted⟩ := tickIfDue_of_not_due h
  rw [counted]
  exact .refl _

/-- After an instruction only the timers may change, and only if a tick is due. -/
theorem shuts_afterResult (m : Machine) (task : Task) (r : StepResult)
    (h : r = .carryOn → task.isClock = true → m.tickDue = false) :
    m.cpu.Shuts (m.afterResult task r).1.cpu := by
  cases task with
  | steps left => exact .refl _
  | run limit taken =>
    simp only [afterResult]
    split <;> exact .refl _
  | single armed =>
    simp only [afterResult]
    split
    · exact shuts_setPolicy m
    · exact .refl _
  | clock live =>
    simp only [afterResult]
    split
    · rename_i goes
      exact shuts_tickIfDue (h goes rfl)
    · exact shuts_finish m r

theorem shuts_afterRaise (m : Machine) (task : Task) (e : AccessError) :
    m.cpu.Shuts (m.afterRaise task e).cpu := by
  cases task with
  | steps left | run limit taken | clock live => exact .refl _
  | single armed =>
    simp only [afterRaise]
    split
    · exact shuts_setPolicy m
    · exact .refl _

/-! ## Which moves report an instruction -/

/-- A thread concludes exactly if it has an instruction to report. -/
theorem concludes_iff {d : Cpu} : t.concludes d = true ↔ ∃ w o c, Ready d t w o c := by
  obtain ⟨task, place⟩ := t
  constructor
  · intro h
    have begun (enters : Thread.enters ⟨task, place⟩ d.gate = true)
        (h : (d.cycle.2.word?.isSome && (d.cycle.1.state.keyWait.isNone ||
          d.keypad.first?.isSome)) = true) : ∃ w o c, Ready d ⟨task, place⟩ w o c := by
      simp only [Bool.and_eq_true, Bool.or_eq_true, Option.isSome_iff_exists] at h
      obtain ⟨⟨w, executed⟩, key⟩ := h
      obtain ⟨o, done⟩ := Outcome.word?_eq_some.mp executed
      cases waits : d.cycle.1.state.keyWait with
      | none => exact ⟨w, o, _, .free enters done waits⟩
      | some x =>
        rw [waits, Option.isNone_some] at key
        obtain ⟨k, down⟩ := key.resolve_left Bool.false_ne_true
        rw [← Cpu.keypad_cycle] at down
        exact ⟨w, o, _, .served (.begins enters done (by rw [waits, Option.isSome_some])) down⟩
    cases place with
    | woken w o =>
      obtain ⟨k, down⟩ := Option.isSome_iff_exists.mp h
      exact ⟨w, o, _, .served (.woken rfl) down⟩
    | ready | released | gate | key w o =>
      simp only [Thread.concludes, Bool.and_assoc] at h
      obtain ⟨enters, h⟩ := Bool.and_eq_true_iff.mp h
      exact begun enters h
  · rintro ⟨w, o, c, ready⟩
    have begun (enters : Thread.enters ⟨task, place⟩ d.gate = true) (done : d.cycle.2 = .done w o)
        (key : d.cycle.1.state.keyWait = none ∨ d.keypad.first?.isSome = true) :
        Thread.concludes ⟨task, place⟩ d = true := by
      have finished : d.cycle.2.word?.isSome = true := by rw [done]; rfl
      have served : (d.cycle.1.state.keyWait.isNone || d.keypad.first?.isSome) = true := by
        rcases key with free | down
        · rw [free]; rfl
        · rw [down, Bool.or_true]
      cases place with
      | ready | released => simp only [Thread.concludes, enters, finished, served, Bool.and_true]
      | gate | key w o | woken w o => cases enters
    cases ready with
    | free enters done free => exact begun enters done (.inl free)
    | @served c k asks down =>
      cases asks with
      | begins enters done waits =>
        rw [Cpu.keypad_cycle] at down
        exact begun enters done (.inr (by rw [down, Option.isSome_some]))
      | woken inside =>
        cases inside
        simp only [Thread.concludes, down, Option.isSome_some]

/-- A thread that has stopped reports no instruction. -/
theorem concludes_of_stopped (h : t.place.isRunnable = false) (c : Cpu) : t.concludes c = false := by
  obtain ⟨task, place⟩ := t
  cases place with
  | gate | key w o => rfl
  | ready | released | woken w o => cases h

/-- Nor does one that neither begins an instruction nor is inside of one. -/
theorem concludes_of_idle {c : Cpu} (idle : t.enters c.gate = false)
    (outside : t.place.inside? = none) : t.concludes c = false := by
  obtain ⟨task, place⟩ := t
  cases place with
  | woken w o => cases outside
  | ready | released | gate | key w o => rw [Thread.concludes, idle]; rfl

/-- Nor does one whose instruction is not executed. -/
theorem concludes_of_unfinished {c : Cpu} (enters : t.enters c.gate = true)
    (unfinished : c.cycle.2.word? = none) : t.concludes c = false := by
  obtain ⟨task, place⟩ := t
  cases place with
  | ready | released => rw [Thread.concludes, unfinished, Option.isSome_none, Bool.and_false]; rfl
  | gate | key w o | woken w o => cases enters

/-- Nor does one for which there is no key. -/
theorem concludes_of_up {c d : Cpu} {w : Fetched} {o : Operation} (asks : Asks d t w o c)
    (up : c.keypad.first? = none) : t.concludes d = false := by
  obtain ⟨task, place⟩ := t
  cases asks with
  | begins enters done waits =>
    rw [Cpu.keypad_cycle] at up
    have kept : d.cycle.1.state.keyWait.isNone = false := by
      rw [← Option.not_isSome, waits]
      rfl
    cases place with
    | ready | released =>
      rw [Thread.concludes, kept, up, Option.isSome_none, Bool.or_false, Bool.and_false]
    | gate | key w o | woken w o => cases enters
  | woken inside =>
    cases inside
    rw [Thread.concludes, up, Option.isSome_none]

/-- Whether an action reports an instruction. -/
def concludes (m : Machine) : Action → Bool
  | .move k => (m.threads[k]?).any (·.concludes m.cpu)
  | _ => false

/-- A thread that has an instruction to report can go on. -/
theorem isRunnable_of_ready {d c : Cpu} {w : Fetched} {o : Operation} (h : Ready d t w o c) :
    t.place.isRunnable = true := by
  have asks {c : Cpu} (h : Asks d t w o c) : t.place.isRunnable = true := by
    cases h with
    | begins enters _ _ => exact isRunnable_of_enters enters
    | woken inside => rw [inside]; rfl
  cases h with
  | free enters _ _ => exact isRunnable_of_enters enters
  | served h _ => exact asks h

theorem exists_ready_of_concludes (h : m.concludes (.move k) = true) :
    ∃ t w o c, m.threads[k]? = some t ∧ Ready m.cpu t w o c := by
  simp only [concludes, Option.any_eq_true] at h
  obtain ⟨t, ht, concludes⟩ := h
  obtain ⟨w, o, c, ready⟩ := concludes_iff.mp concludes
  exact ⟨t, w, o, c, ht, ready⟩

/-! ## The timers -/

/-- Whether an action lets the timers tick. -/
def ticks (m : Machine) : Action → Bool
  | .tick => true
  | .start => !m.isRunning && m.start.2.isNone
  | .move k => m.concludes (.move k) && m.tickDue && (m.threads[k]?).any (·.task.isClock)
  | _ => false

theorem ticks_move (ht : m.threads[k]? = some t) :
    m.ticks (.move k) = (t.concludes m.cpu && m.tickDue && t.task.isClock) := by
  simp only [ticks, concludes, ht, Option.any_some]

/-- A machine whose clocks have just been made. -/
def opening (m : Machine) : Machine :=
  { m with
    outcome := none, finished := false, clocked := true, timer := true, sinceTick := 0
    onThread := true }

/-- Who opens a run lets the timers tick at once. -/
theorem start_of_ticks (h : m.ticks .start = true) :
    m.start = ({ m.opening.tick with onThread := false }.spawn (.clock true), none) := by
  simp only [ticks, Bool.and_eq_true, Bool.not_eq_true'] at h
  obtain ⟨idle, opened⟩ := h
  have stands : ¬ m.isRunning = true := Bool.eq_false_iff.mp idle
  unfold start at opened ⊢
  rw [if_neg stands] at opened ⊢
  dsimp only at opened ⊢
  split at opened
  · cases opened
  split at opened
  · cases opened
  rename_i period period'
  rw [if_neg period, if_neg period']
  rfl

/-- Who opens none at most forgets the last one. -/
theorem start_of_not_ticks (h : m.ticks .start = false) :
    ∃ outcome finished clocked, m.start.1 = { m with outcome, finished, clocked } := by
  simp only [ticks, Bool.and_eq_false_iff, Bool.not_eq_false'] at h
  unfold start at h ⊢
  split
  · exact ⟨_, _, _, rfl⟩
  rename_i idle
  have refused := h.resolve_left idle
  rw [if_neg idle] at refused
  dsimp only at refused ⊢
  split
  · exact ⟨_, _, _, rfl⟩
  split
  · exact ⟨_, _, _, rfl⟩
  rename_i period period'
  rw [if_neg period, if_neg period'] at refused
  cases refused

/-- The processor when a move has begun an instruction, if it begins one. -/
def entered (t : Thread) (d : Cpu) : Cpu := if t.enters d.gate then d.cycle.1 else d

theorem Told.tickDue {ns : List Notice} (h : m.Told n ns) : n.tickDue = m.tickDue := by
  rw [h.rest]
  rfl

theorem timers_of_asks {d c : Cpu} {w : Fetched} {o : Operation} (h : Asks d t w o c) :
    c.state.timers = (entered t d).state.timers := by
  obtain ⟨task, place⟩ := t
  cases h with
  | begins enters _ _ => rw [entered, if_pos enters]
  | woken inside =>
    cases inside
    rfl

theorem timers_of_ready {d c : Cpu} {w : Fetched} {o : Operation} (h : Ready d t w o c) :
    c.state.timers = (entered t d).state.timers := by
  cases h with
  | free enters _ _ => rw [entered, if_pos enters]
  | served asks _ => rw [Cpu.timers_deliver, timers_of_asks asks]

/-- A move without a tick leaves the timers as the instruction does that it begins. -/
theorem timers_of_proceeds {r : Machine × Option Thread} (h : Proceeds m t r)
    (untimed : t.concludes m.cpu = true → t.task.isClock = true → m.tickDue = false) :
    r.1.cpu.state.timers = (entered t m.cpu).state.timers := by
  cases h with
  | ends ready unwanted =>
    have idle : t.enters m.cpu.gate = false := by simp [Thread.enters, ready, unwanted]
    rw [entered, idle]
    rfl
  | parks ready _ closed =>
    have idle : t.enters m.cpu.gate = false := by simp [Thread.enters, ready, closed]
    rw [entered, idle]
    rfl
  | @stops result enters stop =>
    have shuts := shuts_afterResult { m with cpu := m.cpu.cycle.1 } t.task result fun goes => by
      rw [goes] at stop
      cases hr : m.cpu.cycle.2 <;> rw [hr] at stop <;> cases stop
    rw [entered, if_pos enters]
    exact congrArg (·.timers) shuts.state
  | raises enters _ =>
    rw [entered, if_pos enters]
    exact congrArg (·.timers) (shuts_afterRaise { m with cpu := m.cpu.cycle.1 } t.task _).state
  | @reports c w o ready =>
    have told := told_withCpu m (c.conclude w o)
    have shuts := shuts_afterResult (m.withCpu (c.conclude w o)) t.task .carryOn fun _ clock =>
      told.tickDue.trans (untimed (concludes_iff.mpr ⟨w, o, c, ready⟩) clock)
    have reported : (m.withCpu (c.conclude w o)).cpu.state.timers = c.state.timers := by
      rw [told.state]
      exact Cpu.timers_conclude c w o
    rw [← timers_of_ready ready, ← reported]
    exact congrArg (·.timers) shuts.state
  | @waits c w o asks _ =>
    have timers : c.state.timers = _ := timers_of_asks asks
    exact timers

/-- A thread that has stopped begins no instruction. -/
theorem begins_of_stopped (h : ∀ t ∈ m.threads[k]?, t.place.isRunnable = false) :
    m.begins (.move k) = false := by
  cases ht : m.threads[k]? with
  | none => rw [begins, ht, Option.any_none]
  | some t =>
    rw [begins, ht, Option.any_some, Bool.eq_false_iff]
    intro enters
    have runs := isRunnable_of_enters enters
    rw [h t ht] at runs
    cases runs

/-- Nor does it report one. -/
theorem not_concludes_of_stopped (h : ∀ t ∈ m.threads[k]?, t.place.isRunnable = false) :
    m.concludes (.move k) = false := by
  cases ht : m.threads[k]? with
  | none => rw [concludes, ht, Option.any_none]
  | some t =>
    rw [concludes, ht, Option.any_some]
    exact concludes_of_stopped (h t ht) m.cpu

/-- Without a tick, an action that blanks no memory leaves the timers as the instruction does that it
begins. -/
theorem still_act (kept : m.restarts a = false) (untimed : m.ticks a = false) :
    (m.act a).cpu.state.timers =
      (if m.begins a then m.cpu.cycle.1 else m.cpu).state.timers := by
  cases a with
  | move k =>
    rcases stopped_or_proceeds m k with stopped | ⟨t, r, ht, -, proceeds, moved⟩
    · rw [act, move_of_stopped stopped, begins_of_stopped stopped]
      rfl
    · have timers := timers_of_proceeds proceeds fun concludes clock => by
        have concluded : m.concludes (.move k) = true := by
          rw [Machine.concludes, ht, Option.any_some]
          exact concludes
        rw [ticks, concluded, ht, Option.any_some, clock, Bool.true_and, Bool.and_true] at untimed
        exact untimed
      rw [act, moved, begins, ht, Option.any_some]
      exact timers
  | start =>
    obtain ⟨outcome, finished, clocked, same⟩ := start_of_not_ticks untimed
    rw [act, same]
    rfl
  | cancel =>
    simp only [act, cancel]
    split <;> rfl
  | silence =>
    exact congrArg (·.timers) (shuts_withCpu m (Cpu.shuts_requestTone m.cpu false)).state
  | stepPaused =>
    simp only [act, stepPaused]
    split <;> rfl
  | step j =>
    simp only [act, step]
    split <;> rfl
  | debugStep =>
    simp only [act, debugStep]
    split <;> rfl
  | tick => cases untimed
  | reset => cases kept
  | load data =>
    rw [load_of_not_restarts kept]
    rfl
  | pause | resume | press | release | releaseAll | debugRun | debugResume => rfl

/-! ## The gate -/

/-- Whether an action opens the gate for later arrivals. -/
def Action.opens : Action → Bool
  | .resume | .cancel | .debugRun .. | .debugStep | .debugResume => true
  | _ => false

theorem closed_withCpu (m : Machine) {told : Cpu × List Notice} (same : told.1.gate = m.cpu.gate)
    (closed : m.cpu.gate.shouldWait = true) : (m.withCpu told).cpu.gate.shouldWait = true := by
  refine (told_withCpu m told).shouldWait ?_
  rw [show (cpu { m with cpu := told.1 }) = told.1 from rfl, same]
  exact closed

theorem closed_tick (m : Machine) (closed : m.cpu.gate.shouldWait = true) :
    m.tick.cpu.gate.shouldWait = true :=
  closed_withCpu m (Cpu.gate_tick m.cpu) closed

theorem closed_afterResult (task : Task) (r : StepResult) (closed : m.cpu.gate.shouldWait = true) :
    (m.afterResult task r).1.cpu.gate.shouldWait = true := by
  by_cases due : r = .carryOn ∧ task.isClock = true ∧ m.tickDue = true
  · obtain ⟨rfl, clock, due⟩ := due
    cases task with
    | clock live =>
      have ticks : (m.afterResult (.clock live) .carryOn).1 = m.tickIfDue := rfl
      rw [ticks, tickIfDue_of_due due]
      exact closed_tick { m with sinceTick := 0 } closed
    | steps | run | single => cases clock
  · refine (shuts_afterResult m task r fun goes clock => ?_).shouldWait closed
    exact Bool.eq_false_iff.mpr fun ticks => due ⟨goes, clock, ticks⟩

theorem closed_of_proceeds {r : Machine × Option Thread} (h : Proceeds m t r)
    (closed : m.cpu.gate.shouldWait = true) : r.1.cpu.gate.shouldWait = true := by
  cases h with
  | ends => exact closed
  | parks => simp only [Gate.arrive_of_closed closed]; exact closed
  | stops _ _ => exact closed_afterResult _ _ (by rw [Cpu.gate_cycle]; exact closed)
  | raises _ _ => exact (shuts_afterRaise _ _ _).shouldWait (by rw [Cpu.gate_cycle]; exact closed)
  | @reports c w o ready =>
    refine closed_afterResult _ _ ?_
    rw [shouldWait_conclude, ready.gate, closed, Bool.true_or]
  | @waits c w o asks _ =>
    have gate : c.gate.shouldWait = true := by rw [asks.gate, closed]
    exact gate

/-- The gate stays closed until somebody opens it. -/
theorem closed_act (closed : m.cpu.gate.shouldWait = true) (h : a.opens = false) :
    (m.act a).cpu.gate.shouldWait = true := by
  cases a with
  | move k =>
    rcases stopped_or_proceeds m k with stopped | ⟨t, r, -, -, proceeds, moved⟩
    · rw [act, move_of_stopped stopped]
      exact closed
    · rw [act, moved]
      exact closed_of_proceeds proceeds closed
  | start =>
    simp only [act]
    unfold start
    split
    · exact closed
    dsimp only
    split
    · exact closed
    split
    · exact closed
    · exact closed_tick _ closed
  | silence => exact closed_withCpu m (Cpu.gate_requestTone m.cpu false) closed
  | pause => rfl
  | stepPaused =>
    simp only [act, stepPaused]
    split
    · exact (Gate.shouldWait_release m.cpu.gate).trans closed
    · exact closed
  | step j =>
    simp only [act, step]
    split <;> exact closed
  | press k | release k | releaseAll => exact closed
  | tick => exact closed_tick m closed
  | reset => exact closed_withCpu m (Cpu.gate_reset m.cpu) closed
  | load data => exact closed_withCpu m (Cpu.gate_loadProgram m.cpu data) closed
  | resume | cancel | debugRun | debugStep | debugResume => cases h

theorem closed_after (closed : m.cpu.gate.shouldWait = true) {as : List Action}
    (h : ∀ a ∈ as, a.opens = false) : (m.after as).cpu.gate.shouldWait = true := by
  induction as generalizing m with
  | nil => exact closed
  | cons a as ih =>
    exact ih (closed_act closed (h a (List.mem_cons_self ..)))
      fun b hb => h b (List.mem_cons_of_mem _ hb)

end Machine

end Hexscope
