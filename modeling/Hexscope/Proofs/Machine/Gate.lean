import Hexscope.Proofs.Cpu.Gate
import Hexscope.Proofs.Machine.Run

/-!
# Threads at the gate

The gate knows only how many threads stay at it. Along every run these are exactly the threads that are
stopped before an instruction (`Machine.Counted`): only a thread that arrives is added, and all are let
through together.

* `Machine.counted_after`: this holds along every run;
* `Machine.Counted.isPaused_iff`: so a machine is paused exactly if a thread stays at the gate.
-/

namespace Hexscope

/-- Whether threads stay at a gate, and how many. Its policy is left out. -/
def Gate.guests (g : Gate) : Bool × Nat := (g.isWaiting, g.parked)

/-- Whether a thread here stays at the gate. -/
def Place.isGate : Place → Bool
  | .gate => true
  | _ => false

@[simp] theorem Place.isGate_release (p : Place) : p.release.isGate = false := by
  cases p <;> rfl

@[simp] theorem Place.isGate_wake (p : Place) : p.wake.isGate = p.isGate := by
  cases p <;> rfl

theorem Place.isGate_of_isRunnable {p : Place} (h : p.isRunnable = true) : p.isGate = false := by
  cases p <;> first | rfl | cases h

namespace Machine

variable {m n : Machine} {k : Nat} {t : Thread} {u : Option Thread}

/-- The threads at the gate, as the gate knows them. -/
def guests (m : Machine) : Bool × Nat := m.cpu.gate.guests

/-- The number of threads that stay at the gate. -/
def stopped (m : Machine) : Nat := m.threads.countP (·.place.isGate)

/-! ## Telling and executing leave the threads at the gate alone -/

@[simp] theorem guests_countSnapshot (m : Machine) : m.countSnapshot.guests = m.guests := by
  unfold countSnapshot
  split <;> rfl

@[simp] theorem guests_tell (m : Machine) (n : Notice) : (m.tell n).guests = m.guests := by
  cases n with
  | snapshot moment =>
    simp only [tell, guests_countSnapshot]
    split <;> rfl
  | _ => rfl

@[simp] theorem guests_tellAll (m : Machine) (ns : List Notice) :
    (m.tellAll ns).guests = m.guests := by
  induction ns generalizing m with
  | nil => rfl
  | cons n ns ih => exact (ih (m.tell n)).trans (guests_tell m n)

theorem guests_withCpu (m : Machine) (r : Cpu × List Notice) :
    (m.withCpu r).guests = r.1.gate.guests :=
  guests_tellAll _ _

theorem guests_withCpu_of_gate {r : Cpu × List Notice} (h : r.1.gate = m.cpu.gate) :
    (m.withCpu r).guests = m.guests := by
  rw [guests_withCpu, h, guests]

@[simp] theorem guests_tick (m : Machine) : m.tick.guests = m.guests :=
  guests_withCpu_of_gate (Cpu.gate_tick m.cpu)

@[simp] theorem guests_tickIfDue (m : Machine) : m.tickIfDue.guests = m.guests := by
  unfold tickIfDue
  split
  · rfl
  split
  · rfl
  · exact guests_tick _

theorem guests_finish (m : Machine) (r : StepResult) : (m.finish r).guests = m.guests :=
  guests_withCpu_of_gate (m := { m with outcome := some r, timer := false })
    (Cpu.gate_requestTone m.cpu false)

theorem guests_afterResult (m : Machine) (task : Task) (r : StepResult) :
    (m.afterResult task r).1.guests = m.guests := by
  cases task with
  | steps left => rfl
  | run limit taken =>
    simp only [afterResult]
    split <;> rfl
  | single armed =>
    simp only [afterResult]
    split <;> rfl
  | clock live =>
    simp only [afterResult]
    split
    · exact guests_tickIfDue m
    · exact guests_finish m r

theorem guests_afterRaise (m : Machine) (task : Task) (e : AccessError) :
    (m.afterRaise task e).guests = m.guests := by
  cases task with
  | single armed =>
    simp only [afterRaise]
    split <;> rfl
  | _ => rfl

/-- Whether what is left of a thread, if anything, is not at the gate. -/
def Away (u : Option Thread) : Prop := ∀ t ∈ u, t.place.isGate = false

theorem away_none : Away none := by
  rintro t ⟨⟩

theorem away_goOn (r : Machine × Option Task) : Away (goOn r).2 := by
  intro u hu
  rw [place_of_goOn hu]
  rfl

/-- A thread that moves is added to those at the gate if it stops there, and else nothing changes. -/
theorem guests_of_proceeds {r : Machine × Option Thread} (h : Proceeds m t r) :
    (r.1.guests = m.guests ∧ Away r.2) ∨
    (r.1.guests = (true, m.guests.2 + 1) ∧ r.2 = some ⟨t.task, .gate⟩) := by
  have ran : guests { m with cpu := m.cpu.cycle.1 } = m.guests :=
    congrArg Gate.guests (Cpu.gate_cycle m.cpu)
  cases h with
  | ends _ _ => exact .inl ⟨rfl, away_none⟩
  | parks _ _ closed =>
    refine .inr ⟨?_, rfl⟩
    rw [guests, Gate.arrive_of_closed closed]
    rfl
  | stops _ _ => exact .inl ⟨(guests_afterResult _ _ _).trans ran, away_goOn _⟩
  | raises _ _ => exact .inl ⟨(guests_afterRaise _ _ _).trans ran, away_none⟩
  | @reports c w o ready =>
    refine .inl ⟨(guests_afterResult _ _ _).trans (guests_withCpu_of_gate ?_), away_goOn _⟩
    rw [Cpu.gate_conclude, ready.gate]
  | @waits c w o asks _ =>
    refine .inl ⟨congrArg Gate.guests asks.gate, ?_⟩
    rintro u ⟨⟩
    rfl

/-! ## Counting -/

/-- The gate counts the threads that stay at it, and its flag tells whether there are any. -/
structure Counted (m : Machine) : Prop where
  sound : m.cpu.gate.Sound
  parked : m.cpu.gate.parked = m.stopped

/-- Both are the case if the gate knows the number of threads and whether there are any. -/
theorem counted_iff : m.Counted ↔ m.guests = (decide (0 < m.stopped), m.stopped) := by
  simp only [guests, Gate.guests, Prod.mk.injEq]
  constructor
  · intro h
    refine ⟨?_, h.parked⟩
    rw [← h.parked, Bool.eq_iff_iff, decide_eq_true_eq]
    exact h.sound
  · rintro ⟨waits, parked⟩
    refine ⟨?_, parked⟩
    rw [Gate.Sound, waits, parked, decide_eq_true_eq]

theorem Counted.of_same (h : m.Counted) (guests : n.guests = m.guests)
    (stopped : n.stopped = m.stopped) : n.Counted := by
  rw [counted_iff] at h ⊢
  rw [guests, stopped, h]

theorem Counted.of_threads (h : m.Counted) (guests : n.guests = m.guests)
    (threads : n.threads = m.threads) : n.Counted :=
  h.of_same guests (by rw [stopped, threads, stopped])

/-- A machine is paused exactly if a thread stays at the gate. -/
theorem Counted.isPaused_iff (h : m.Counted) :
    m.isPaused = true ↔ ∃ t ∈ m.threads, t.place = .gate := by
  have place (t : Thread) : t.place.isGate = true ↔ t.place = .gate := by
    cases t.place <;> simp [Place.isGate]
  have waits : m.isPaused = true ↔ 0 < m.stopped := h.parked ▸ h.sound
  rw [waits, stopped, List.countP_pos_iff]
  simp only [place]

/-- Where no thread stays at the gate, its policy is all there is to it. -/
theorem Counted.gate_eq (h : m.Counted) (none : ∀ t ∈ m.threads, t.place ≠ .gate) :
    m.cpu.gate = .ofPolicy m.cpu.gate.shouldWait := by
  have open_ : m.cpu.gate.isWaiting = false := by
    rw [Bool.eq_false_iff]
    intro waits
    obtain ⟨t, ht, place⟩ := h.isPaused_iff.mp waits
    exact none t ht place
  have empty : m.cpu.gate.parked = 0 := by
    have := h.sound
    rw [Gate.Sound, open_] at this
    simpa using this
  rw [Gate.ofPolicy, ← open_, ← empty]

/-- The number of threads at the gate, when a thread has taken the place of another. -/
theorem stopped_replaced (h : n.threads = m.threads.take k ++ u.toList ++ m.threads.drop (k + 1)) :
    n.stopped = (m.threads.take k).countP (·.place.isGate) +
      u.toList.countP (·.place.isGate) + (m.threads.drop (k + 1)).countP (·.place.isGate) := by
  rw [stopped, h, List.countP_append, List.countP_append]

theorem Away.countP (h : Away u) : u.toList.countP (·.place.isGate) = 0 := by
  rw [List.countP_eq_zero]
  intro t ht
  rw [h t (Option.mem_toList.mp ht)]
  exact Bool.false_ne_true

/-- A move keeps the count: the thread was not at the gate, and is counted if it stops there. -/
theorem counted_move (h : m.Counted) (k : Nat) : (m.move k).Counted := by
  rcases stopped_or_proceeds m k with stopped | ⟨t, r, ht, runs, proceeds, moved⟩
  · rw [move_of_stopped stopped]
    exact h
  have before := stopped_replaced (u := some t) (threads_around ht)
  have outside : Away (some t) := by
    rintro u ⟨⟩
    exact Place.isGate_of_isRunnable runs
  rw [outside.countP] at before
  have guests : (m.move k).guests = r.1.guests := by rw [moved]; rfl
  have after := stopped_replaced (m := m) (n := m.move k) (u := r.2) (by rw [moved])
  rcases guests_of_proceeds proceeds with ⟨same, away⟩ | ⟨stops, left⟩
  · rw [away.countP] at after
    exact h.of_same (guests.trans same) (after.trans before.symm)
  · rw [left] at after
    have one : (m.move k).stopped = m.stopped + 1 := by
      rw [after, before]
      simp only [Option.toList_some, List.countP_singleton, Place.isGate, if_true]
      omega
    have parked : m.cpu.gate.parked = m.stopped := h.parked
    rw [counted_iff, guests, stops, one, decide_eq_true (Nat.succ_pos _)]
    exact congrArg (fun n => (true, n + 1)) parked

theorem counted_openGate (h : m.cpu.gate.Sound) : m.openGate.Counted := by
  have nobody : m.openGate.stopped = 0 := by
    simp only [stopped, openGate, List.countP_eq_zero, List.mem_map]
    rintro t ⟨s, -, rfl⟩
    simp
  refine ⟨h.release, ?_⟩
  rw [nobody]
  simp only [openGate, Gate.release]
  split
  · rfl
  · rename_i open_
    have none : ¬ 0 < m.cpu.gate.parked := fun some => open_ (h.mpr some)
    exact Nat.eq_zero_of_not_pos none

theorem counted_spawn (h : m.Counted) (task : Task) : (m.spawn task).Counted := by
  refine h.of_same rfl ?_
  simp only [stopped, spawn, List.countP_append, List.countP_singleton]
  rfl

theorem counted_start (h : m.Counted) : m.start.1.Counted := by
  unfold start
  split
  · exact h
  dsimp only
  split
  · exact h.of_threads rfl rfl
  split
  · exact h.of_threads rfl rfl
  · let opened := { m with
      outcome := none, finished := false, clocked := true, timer := true, sinceTick := 0
      onThread := true }
    have ticked : Counted { opened.tick with onThread := false } :=
      h.of_threads (guests_tick opened) (says_tick opened).threads
    exact counted_spawn ticked _

/-- The gate counts the threads that stay at it after every action. -/
theorem counted_act (h : m.Counted) (a : Action) : (m.act a).Counted := by
  cases a with
  | move k => exact counted_move h k
  | start => exact counted_start h
  | cancel =>
    simp only [act, cancel]
    split
    · exact counted_openGate h.sound
    · exact h
  | silence =>
    exact h.of_threads (guests_withCpu_of_gate (Cpu.gate_requestTone m.cpu false))
      (says_requestTone m false).threads
  | pause => exact h.of_threads rfl rfl
  | resume => exact counted_openGate h.sound
  | stepPaused =>
    simp only [act, stepPaused]
    split
    · exact counted_openGate h.sound
    · exact h
  | press k =>
    refine h.of_same rfl ?_
    simp only [stopped, act, press, List.countP_map, Function.comp_def, Place.isGate_wake]
  | release k => exact h.of_threads rfl rfl
  | releaseAll => exact h.of_threads rfl rfl
  | tick => exact h.of_threads (guests_tick m) (says_tick m).threads
  | step k =>
    simp only [act, step]
    split
    · exact h
    · exact counted_spawn h _
  | debugRun limit stopAfter =>
    let ready := { m with debugger := { m.debugger with running := true, hit := none }, stopAfter }
    have opened : (ready.setPolicy false).Counted := h.of_threads rfl rfl
    exact counted_spawn opened _
  | debugStep =>
    simp only [act, debugStep]
    split
    · exact counted_openGate h.sound
    · have opened : (m.setPolicy false).Counted := h.of_threads rfl rfl
      exact counted_spawn opened _
  | debugResume => exact counted_openGate h.sound
  | reset =>
    exact h.of_threads (guests_withCpu_of_gate (Cpu.gate_reset m.cpu)) (quiet_reset m).threads
  | load data =>
    exact h.of_threads (guests_withCpu_of_gate (Cpu.gate_loadProgram m.cpu data))
      (quiet_loadProgram m data).threads

/-- Along every run the gate counts the threads that stay at it. -/
theorem counted_after (h : m.Counted) (as : List Action) : (m.after as).Counted := by
  induction as generalizing m with
  | nil => exact h
  | cons a as ih => exact ih (counted_act h a)

end Machine

end Hexscope
