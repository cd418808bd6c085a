import Hexscope.Proofs.Machine.DebugStep
import Hexscope.Proofs.Machine.Staff

/-!
# Whether a machine runs and is paused

Whether a clock wants a thread, and whether the gate is closed, is all that is shown of a machine on its
controls (`Machine.flags`). Without breakpoints and without threads of other callers (`Machine.Plain`) both stay as
they are while the clocks go on and keys are pressed, unless an instruction ends the run. Who loads a program
stops the machine first, and if the load then fails, it stays so.

* `Machine.Plain.goOn`: what the clocks and the keys leave as it is;
* `Machine.Plain.flags_of_carriesOn`: the flags stay while every instruction is executed;
* `Machine.Plain.flags_of_failed`: the flags after a load that fails.
-/

namespace Hexscope

namespace Machine

variable {m n : Machine} {a : Action} {as : List Action} {k : Nat} {files : FileNode} {path : Text}

/-- Whether a run is going on, and whether the gate is closed. -/
def flags (m : Machine) : Bool × Bool := (m.isRunning, m.cpu.gate.shouldWait)

/-- All threads are those of clocks, no stopped clock wants one, and there are no breakpoints. -/
structure Plain (m : Machine) : Prop where
  clocks : ∀ t ∈ m.threads, t.task.isClock = true
  clocked : m.threads.any Thread.isLiveClock = true → m.clocked = true
  unwatched : m.debugger.breakpoints = []

/-- Whether an action belongs to the course of a program: threads move, the timers tick, and keys go down and
up. -/
def Action.goesOn : Action → Bool
  | .move _ | .tick | .press _ | .release _ | .releaseAll => true
  | _ => false

/-- Whether an instruction that the action begins, if it begins one, is executed: it neither ends the program nor
fails. -/
def carriesOn (m : Machine) (a : Action) : Bool := !m.begins a || (m.executed? a).isSome

/-! ## What keeps a machine plain -/

theorem Plain.keep (h : m.Plain) (keeps : m.Keeps n) (clocked : n.clocked = m.clocked)
    (breakpoints : n.debugger.breakpoints = m.debugger.breakpoints) : n.Plain where
  clocks v hv := by
    obtain ⟨t, ht, task, -⟩ := keeps.mem v hv
    rw [task]
    exact h.clocks t ht
  clocked live := by
    obtain ⟨v, hv, live⟩ := List.any_eq_true.mp live
    obtain ⟨t, ht, task, -⟩ := keeps.mem v hv
    rw [isLiveClock_of_task task] at live
    exact clocked.trans (h.clocked (List.any_eq_true.mpr ⟨t, ht, live⟩))
  unwatched := breakpoints.trans h.unwatched

theorem breakpoints_act (m : Machine) (a : Action) :
    (m.act a).debugger.breakpoints = m.debugger.breakpoints :=
  breakpoints_after m [a]

/-- Requests that are not about runs. -/
theorem Plain.pass (h : m.Plain) (passes : a.passes = true) (permits : m.permits false a = true) :
    (m.act a).Plain :=
  h.keep (keeps_of_passes passes permits) (congrArg Course.clocked (course_of_passes passes))
    (breakpoints_act m a)

theorem clocked_move (m : Machine) (k : Nat) : (m.move k).clocked = m.clocked := by
  have course := congrArg Course.clocked (course_move m k)
  cases ending : m.ending? (.move k) <;> rw [ending] at course <;> exact course

/-- The clocks and the keys keep a machine plain. -/
theorem Plain.goOn (h : m.Plain) (goes : a.goesOn = true) : (m.act a).Plain := by
  cases a with
  | move k => exact h.keep (keeps_move h.clocks k) (clocked_move m k) (breakpoints_act m (.move k))
  | tick =>
    have keeps : m.Keeps (m.act .tick) := .of_threads (told_withCpu m m.cpu.tick).threads
    exact h.keep keeps (congrArg Course.clocked (course_of_passes rfl)) (breakpoints_act m .tick)
  | press | release | releaseAll => exact h.pass rfl rfl
  | _ => cases goes

theorem Plain.goOnAll (h : m.Plain) (goes : ∀ a ∈ as, a.goesOn = true) : (m.after as).Plain := by
  induction as generalizing m with
  | nil => exact h
  | cons a as ih =>
    exact ih (h.goOn (goes a List.mem_cons_self)) fun b hb => goes b (List.mem_cons_of_mem _ hb)

theorem Plain.start (h : m.Plain) : m.start.1.Plain := by
  cases ticks : m.ticks .start with
  | true =>
    have threads := threads_start ticks
    have clocked : m.start.1.clocked = true := congrArg Course.clocked (course_start ticks)
    refine ⟨fun t ht => ?_, fun _ => clocked, (breakpoints_act m .start).trans h.unwatched⟩
    rw [threads, List.mem_append, List.mem_singleton] at ht
    rcases ht with old | rfl
    · exact h.clocks t old
    · rfl
  | false =>
    by_cases running : m.isRunning = true
    · rw [start_of_isRunning running]
      exact h
    · obtain ⟨outcome, finished, clocked, same⟩ := start_of_not_ticks ticks
      refine ⟨by rw [same]; exact h.clocks, fun live => ?_, (breakpoints_act m .start).trans h.unwatched⟩
      have live : m.threads.any Thread.isLiveClock = true := by
        rw [same] at live
        exact live
      rw [isRunning, h.clocked live, live] at running
      exact absurd rfl running

/-! ## What leaves the flags alone -/

/-- Without breakpoints and steps of the debugger, a move leaves the gate open or closed as it is. -/
theorem Plain.shouldWait_move (h : m.Plain) (k : Nat) :
    (m.move k).cpu.gate.shouldWait = m.cpu.gate.shouldWait := by
  have missed : ¬ m.Hits k := by
    rintro ⟨t, w, o, c, -, -, b, listed, -⟩
    rw [h.unwatched] at listed
    cases listed
  have restores : ¬ m.Restores k := by
    rintro ⟨⟨t, ht, single⟩, -⟩
    have clock := h.clocks t (List.mem_of_getElem? ht)
    rw [single] at clock
    cases clock
  have closed := Machine.shouldWait_move m k
  rw [or_iff_left (not_or.mpr ⟨missed, restores⟩)] at closed
  exact Bool.eq_iff_iff.mpr closed

/-- Whether a clock wants a thread is the same after a move whose instruction is executed. -/
theorem Plain.live_move (h : m.Plain) (carries : m.carriesOn (.move k) = true) :
    (m.move k).threads.any Thread.isLiveClock = m.threads.any Thread.isLiveClock := by
  rcases stopped_or_proceeds m k with stopped | ⟨t, r, ht, -, proceeds, moved⟩
  · rw [move_of_stopped stopped]
  have same : r.2.toList.any Thread.isLiveClock = (some t).toList.any Thread.isLiveClock := by
    rw [Option.toList_some, List.any_cons, List.any_nil, Bool.or_false]
    cases live : t.isLiveClock with
    | true =>
      have executes (enters : t.enters m.cpu.gate = true) : m.cpu.cycle.2.word?.isSome = true := by
        have begins : m.begins (.move k) = true := by rw [begins, ht, Option.any_some, enters]
        rw [carriesOn, begins, Bool.not_true, Bool.false_or, executed?, if_pos begins] at carries
        exact carries
      obtain ⟨u, left, wanted⟩ := exists_left_of_live proceeds live executes
      rw [left, Option.toList_some, List.any_cons, wanted, Bool.true_or]
    | false =>
      refine List.any_eq_false.mpr fun u hu => ?_
      have kept := (left_of_proceeds proceeds (h.clocks t (List.mem_of_getElem? ht)) u
        (Option.mem_toList.mp hu)).1
      rw [isLiveClock_of_task kept, live]
      exact Bool.false_ne_true
  have threads : (m.move k).threads = m.threads.take k ++ r.2.toList ++ m.threads.drop (k + 1) := by
    rw [moved]
  conv_rhs => rw [threads_around ht]
  rw [threads]
  simp only [List.any_append, same]

/-- The flags stay as they are while the clocks go on and every instruction is executed. -/
theorem Plain.flags_of_carriesOn (h : m.Plain) (goes : a.goesOn = true) (carries : m.carriesOn a = true) :
    (m.act a).flags = m.flags := by
  cases a with
  | move k => rw [act, flags, isRunning, clocked_move, h.live_move carries, h.shouldWait_move k]; rfl
  | tick =>
    have told := told_withCpu m m.cpu.tick
    have clocked : m.tick.clocked = m.clocked := congrArg Course.clocked told.course
    have gate : m.tick.cpu.gate = m.cpu.gate :=
      (congrArg Cpu.gate (told.cpu_of_unwatched h.unwatched)).trans (Cpu.gate_tick m.cpu)
    have threads : m.tick.threads = m.threads := told.threads
    rw [act, flags, isRunning, clocked, threads, gate]
    rfl
  | press k =>
    have permits : m.permits false (.press k) = true := rfl
    have live : (m.press k).threads.any Thread.isLiveClock = m.threads.any Thread.isLiveClock :=
      live_of_passes rfl permits
    rw [act, flags, isRunning, live]
    rfl
  | release | releaseAll => rfl
  | _ => cases goes

/-! ## Stopping and loading -/

/-- When the clocks were cancelled, moves let nobody go on whom a clock wants. -/
theorem Deserted.moves (h : m.Deserted) (ks : List Nat) : (m.after (ks.map .move)).Deserted := by
  induction ks generalizing m with
  | nil => exact h
  | cons k ks ih =>
    refine ih (m := m.move k) ?_
    rcases stopped_or_proceeds m k with stopped | ⟨t, _, ht, runs, -⟩
    · rw [move_of_stopped stopped]
      exact h
    · exact (deserted_move h ht runs).1

theorem Deserted.live (h : m.Deserted) : m.threads.any Thread.isLiveClock = false := by
  refine List.any_eq_false.mpr fun t ht live => ?_
  have task := (h t ht).1
  rw [Thread.isLiveClock_iff.mp live] at task
  cases task

theorem Deserted.plain (h : m.Deserted) (unwatched : m.debugger.breakpoints = []) : m.Plain where
  clocks t ht := by
    rw [(h t ht).1]
    rfl
  clocked live := by
    rw [h.live] at live
    cases live
  unwatched := unwatched

theorem Plain.shouldWait_moves (h : m.Plain) (ks : List Nat) :
    (m.after (ks.map .move)).cpu.gate.shouldWait = m.cpu.gate.shouldWait := by
  induction ks generalizing m with
  | nil => rfl
  | cons k ks ih => exact (ih (h.goOn (a := .move k) rfl)).trans (h.shouldWait_move k)

/-- Who stops a machine leaves no thread that a clock wants, and opens the gate if there were clocks. -/
theorem Plain.stop (h : m.Plain) : m.stop.Plain ∧ m.stop.clocked = false ∧
    m.stop.cpu.gate.shouldWait = (!m.clocked && m.cpu.gate.shouldWait) := by
  cases clocked : m.clocked with
  | false =>
    have same : m.stop = m := by rw [Machine.stop, clocked, Bool.not_false, if_pos rfl]
    rw [same]
    exact ⟨h, clocked, rfl⟩
  | true =>
    obtain ⟨ks, stops⟩ := stop_eq_after m clocked
    have cancelled : m.cancel.Deserted := deserted_cancel h.clocks clocked
    let n := m.cancel.after (ks.map .move)
    have silenced : m.stop = n.silence := by
      rw [stops, List.cons_append, after_cons, after_append]
      rfl
    have deserted : n.Deserted := cancelled.moves ks
    have unwatched : n.debugger.breakpoints = [] :=
      (breakpoints_after m (.cancel :: ks.map .move)).trans h.unwatched
    have opened : n.cpu.gate.shouldWait = false := by
      have plain := cancelled.plain ((breakpoints_act m .cancel).trans h.unwatched)
      refine (plain.shouldWait_moves ks).trans ?_
      rw [cancel, if_pos clocked]
      exact Gate.shouldWait_release _
    have threads : n.silence.threads = n.threads := (told_withCpu n _).threads
    have gate : n.silence.cpu.gate = n.cpu.gate := gate_requestTone n false
    rw [silenced]
    refine ⟨Deserted.plain ?_ ((breakpoints_act n .silence).trans unwatched), rfl, ?_⟩
    · rw [Deserted, threads]
      exact deserted
    · rw [gate, opened]
      rfl

/-- A machine whose clocks were stopped does not run. -/
theorem not_isRunning_of_unclocked (unclocked : m.clocked = false) : m.isRunning = false := by
  rw [isRunning, unclocked, Bool.false_and]

/-- Loading a program is not about runs. -/
theorem Plain.load (h : m.Plain) (data : List UInt8) : (m.loadProgram data).1.Plain :=
  h.pass (a := .load data) rfl rfl

/-- A load keeps a machine plain, whatever comes of it. -/
theorem Plain.loadAndRun (h : m.Plain) (files : FileNode) (path : Text) :
    (m.loadAndRun files path).1.Plain := by
  have stopped := h.stop.1
  rcases loadAndRun_cases m files path with ⟨_, same⟩ | ⟨data, ⟨_, loaded⟩ | started⟩
  · rw [same]
    exact stopped
  · rw [loaded]
    exact stopped.load data
  · rw [started]
    exact (stopped.load data).start

/-- Who fails to start a machine leaves it as it stands. -/
theorem flags_start_of_failed (h : m.Plain) (unclocked : m.clocked = false) (failed : m.start.2 ≠ none) :
    m.start.1.flags = (false, m.cpu.gate.shouldWait) := by
  have dead : m.threads.any Thread.isLiveClock = false :=
    Bool.eq_false_iff.mpr fun live => Bool.false_ne_true (unclocked.symm.trans (h.clocked live))
  have still : m.ticks .start = false := by
    refine Bool.eq_false_iff.mpr fun ticks => failed ?_
    rw [start_of_ticks ticks]
  obtain ⟨outcome, finished, clocked, same⟩ := start_of_not_ticks still
  rw [same, flags, isRunning, dead, Bool.and_false]

/-- After a load that fails the machine stands, and the gate is open if there were clocks to stop. -/
theorem Plain.flags_of_failed (h : m.Plain) (failed : (m.loadAndRun files path).2 ≠ none) :
    (m.loadAndRun files path).1.flags = (false, !m.clocked && m.cpu.gate.shouldWait) := by
  obtain ⟨stopped, unclocked, gate⟩ := h.stop
  rw [← gate]
  have loads (data : List UInt8) : (m.stop.loadProgram data).1.clocked = false ∧
      (m.stop.loadProgram data).1.cpu.gate = m.stop.cpu.gate :=
    ⟨(congrArg Course.clocked (course_withCpu _ _)).trans unclocked,
      gate_of_not_keepsProgram (a := .load data) rfl⟩
  rcases loadAndRun_cases m files path with ⟨_, same⟩ | ⟨data, ⟨_, loaded⟩ | started⟩
  · rw [same, flags, not_isRunning_of_unclocked unclocked]
  · rw [loaded, flags, not_isRunning_of_unclocked (loads data).1, (loads data).2]
  · rw [started] at failed ⊢
    have refused : (m.stop.loadProgram data).1.start.2 ≠ none := fun none => failed (by rw [none]; rfl)
    rw [flags_start_of_failed (stopped.load data) (loads data).1 refused, (loads data).2]

end Machine

end Hexscope
