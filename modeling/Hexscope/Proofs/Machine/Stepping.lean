import Mathlib.Algebra.Ring.Nat
import Mathlib.Data.List.TakeWhile
import Hexscope.Proofs.Machine.Conclude
import Hexscope.Proofs.Machine.Gate

/-!
# Stepping behind a closed gate

While the gate is closed, only a thread that was let through begins an instruction, and afterwards it
arrives at the gate again. So every thread that is let through begins one instruction, and stops.

* `Machine.passing_act`: what an action does to the threads that were let through;
* `Machine.begun_after`: along a run, as many instructions begin as threads are let through;
* `Machine.executed_or_ends`: an instruction that begins is executed, or its thread ends;
* `Machine.isSettled_settleWith`: after at most two moves of each, all threads have stopped;
* `Machine.steps_once`: so a thread that is let through begins one instruction before it stops again.
-/

namespace Hexscope

namespace Place

/-- Whether a thread here was let through the gate. -/
def isReleased : Place → Bool
  | .released => true
  | _ => false

/-- The number of moves after which a thread here has stopped at the latest, if the gate is closed. -/
def toGo : Place → Nat
  | .ready => 1
  | .released | .woken .. => 2
  | .gate | .key .. => 0

@[simp] theorem isReleased_wake (p : Place) : p.wake.isReleased = p.isReleased := by
  cases p <;> rfl

theorem toGo_le (p : Place) : p.toGo ≤ 2 := by
  cases p <;> simp [toGo]

/-- A thread can go on exactly if it has a move to go. -/
theorem isRunnable_iff_toGo (p : Place) : p.isRunnable = true ↔ 0 < p.toGo := by
  cases p <;> simp [isRunnable, toGo]

end Place

variable {t : Thread} {g : Gate}

/-- Behind a closed gate only who was let through begins an instruction. -/
theorem Thread.enters_of_closed (closed : g.shouldWait = true) :
    t.enters g = t.place.isReleased := by
  obtain ⟨task, place⟩ := t
  cases place with
  | ready => rw [Thread.enters, closed, Bool.not_true, Bool.and_false]; rfl
  | gate | released | key w o | woken w o => rfl

namespace Machine

/-- The number of threads that were let through the gate and have not moved since. -/
def passing (m : Machine) : Nat := m.threads.countP (·.place.isReleased)

/-- The number of threads that an action lets through a closed gate. -/
def admits (m : Machine) : Action → Nat
  | .stepPaused => if m.isPaused then m.stopped else 0
  | _ => 0

/-- The number of threads that are let through along a run. -/
def admitted (m : Machine) : List Action → Nat
  | [] => 0
  | a :: as => m.admits a + (m.act a).admitted as

/-- The number of instructions that begin along a run. -/
def begun (m : Machine) : List Action → Nat
  | [] => 0
  | a :: as => (m.begins a).toNat + (m.act a).begun as

/-- The number of moves after which all threads have stopped at the latest, if the gate is closed. -/
def toGo (m : Machine) : Nat := (m.threads.map (·.place.toGo)).sum

variable {m n : Machine} {a : Action} {as : List Action} {k : Nat} {r : Machine × Option Thread}

/-! ## What is left of a thread -/

/-- A thread that moves behind a closed gate was not let through afterwards, and comes closer to where it
stops. -/
theorem closer_of_proceeds (h : Proceeds m t r) (closed : m.cpu.gate.shouldWait = true) :
    ∀ v ∈ r.2, v.place.isReleased = false ∧ v.place.toGo < t.place.toGo := by
  have began (enters : t.enters m.cpu.gate = true) : t.place = .released := by
    rw [Thread.enters_of_closed closed] at enters
    generalize t.place = place at enters
    cases place <;> first | rfl | cases enters
  have inside {w : Fetched} {o : Operation} {c : Cpu} (asks : Asks m.cpu t w o c) :
      t.place.toGo = 2 := by
    cases asks with
    | begins enters _ _ => rw [began enters]; rfl
    | woken woken => rw [woken]; rfl
  have ready {r : Machine × Option Task} (far : t.place.toGo = 2) :
      ∀ v ∈ (goOn r).2, v.place.isReleased = false ∧ v.place.toGo < t.place.toGo := by
    intro v hv
    rw [place_of_goOn hv, far]
    exact ⟨rfl, by decide⟩
  cases h with
  | ends _ _ => rintro v ⟨⟩
  | parks arrives _ _ =>
    rintro v ⟨⟩
    rw [arrives]
    exact ⟨rfl, Nat.zero_lt_one⟩
  | stops enters _ => exact ready (by rw [began enters]; rfl)
  | raises _ _ => rintro v ⟨⟩
  | reports concludes =>
    cases concludes with
    | free enters _ _ => exact ready (by rw [began enters]; rfl)
    | served asks _ => exact ready (inside asks)
  | waits asks _ =>
    rintro v ⟨⟩
    rw [inside asks]
    exact ⟨rfl, Nat.zero_lt_two⟩

/-! ## Counting what begins -/

theorem passing_of_threads (h : n.threads = m.threads) : n.passing = m.passing := by
  rw [passing, h, passing]

@[simp] theorem passing_spawn (m : Machine) (task : Task) : (m.spawn task).passing = m.passing := by
  rw [passing, spawn, List.countP_append, passing]
  rfl

/-- All who stayed at the gate are let through. -/
theorem passing_openGate (m : Machine) : m.openGate.passing = m.stopped + m.passing := by
  rw [passing, openGate, stopped, passing]
  induction m.threads with
  | nil => rfl
  | cons t ts ih =>
    have here : (if t.place.release.isReleased then 1 else 0) =
        (if t.place.isGate then 1 else 0) + if t.place.isReleased then 1 else 0 := by
      cases t.place <;> rfl
    simp only [List.map_cons, List.countP_cons, ih, here]
    omega

/-- A thread that was let through begins an instruction when it moves, and no other one does. -/
theorem passing_move (closed : m.cpu.gate.shouldWait = true) (k : Nat) :
    (m.begins (.move k)).toNat + (m.move k).passing = m.passing := by
  rcases stopped_or_proceeds m k with stopped | ⟨t, r, ht, -, proceeds, moved⟩
  · rw [begins_of_stopped stopped, move_of_stopped stopped, Bool.toNat_false, Nat.zero_add]
  have gone : r.2.toList.countP (·.place.isReleased) = 0 := by
    rw [List.countP_eq_zero]
    intro v hv
    rw [(closer_of_proceeds proceeds closed v (Option.mem_toList.mp hv)).1]
    exact Bool.false_ne_true
  have before := congrArg (List.countP (·.place.isReleased)) (threads_around ht)
  rw [List.countP_append, List.countP_append, Option.toList_some, List.countP_singleton] at before
  rw [begins, ht, Option.any_some, Thread.enters_of_closed closed, moved, passing,
    List.countP_append, List.countP_append, gone, passing, before]
  cases t.place.isReleased with
  | true => rw [if_pos rfl, Bool.toNat_true]; omega
  | false => rw [if_neg Bool.false_ne_true, Bool.toNat_false]; omega

/-- A thread goes on only if it is told to. -/
theorem task_of_ended {r : StepResult} (h : r ≠ .carryOn) (m : Machine) (task : Task) :
    (m.afterResult task r).2 = none := by
  cases task with
  | steps left => simp only [afterResult, h, false_and, if_false]
  | run limit taken =>
    have ends : m.runEnds limit (taken + 1) r = true := by
      simp only [runEnds, bne_iff_ne.mpr h, Bool.true_or]
    simp only [afterResult, ends, if_true]
  | single armed => rfl
  | clock live => simp only [afterResult, h, if_false]

/-- Without an executed instruction the thread ends. -/
theorem perform_ends (h : m.cpu.cycle.2.word? = none) (task : Task) : (m.perform task).2 = none := by
  cases outcome : m.cpu.cycle.2 with
  | done w o =>
    rw [outcome] at h
    cases h
  | halted =>
    rw [perform_of_stop (congrArg Outcome.stop? outcome), goOn,
      task_of_ended (r := .halted) (by decide), Option.map_none]
  | fatal =>
    rw [perform_of_stop (congrArg Outcome.stop? outcome), goOn,
      task_of_ended (r := .fatal) (by decide), Option.map_none]
  | raised e => rw [perform_of_refused outcome]

/-- An instruction that begins is executed, unless its thread ends with it. -/
theorem executed_or_ends (h : m.begins (.move k) = true) :
    (m.executed? (.move k)).isSome = true ∨
      (m.act (.move k)).threads.length < m.threads.length := by
  rw [executed?, h, if_pos rfl]
  cases executed : m.cpu.cycle.2.word? with
  | some w => exact .inl rfl
  | none =>
    right
    cases ht : m.threads[k]? with
    | none => simp [begins, ht] at h
    | some t =>
      have enters : t.enters m.cpu.gate = true := by simpa only [begins, ht, Option.any_some] using h
      have lt : k < m.threads.length := (List.getElem?_eq_some_iff.mp ht).1
      have ends := perform_ends
        (m := { m with threads := m.threads.eraseIdx k, onThread := true }) executed t.task
      rw [← moveThread_of_enters (m := { m with threads := m.threads.eraseIdx k, onThread := true })
        enters] at ends
      have moved := move_eq ht (isRunnable_of_enters enters)
      simp only [ends] at moved
      rw [act, moved, Option.toList_none, List.append_nil,
        List.length_append, List.length_take, List.length_drop]
      omega

/-- While the gate is closed, the threads that were let through are those from before, and those that are
let through now, but for the one that begins an instruction. -/
theorem passing_act (closed : m.cpu.gate.shouldWait = true) (h : a.opens = false) :
    (m.begins a).toNat + (m.act a).passing = m.admits a + m.passing := by
  have same {n : Machine} (threads : n.threads = m.threads) :
      0 + n.passing = 0 + m.passing := by
    rw [passing_of_threads threads]
  cases a with
  | move k => exact (passing_move closed k).trans (Nat.zero_add _).symm
  | start =>
    show 0 + m.start.1.passing = 0 + m.passing
    unfold start
    split
    · rfl
    dsimp only
    split
    · rfl
    split
    · rfl
    · rw [passing_spawn]
      exact same (told_withCpu _ _).threads
  | stepPaused =>
    show 0 + m.stepPaused.1.passing = (if m.isPaused then m.stopped else 0) + m.passing
    unfold stepPaused
    split
    · rw [Nat.zero_add, passing_openGate]
    · rfl
  | press k =>
    refine congrArg (0 + ·) ?_
    simp only [passing, act, press, List.countP_map, Function.comp_def, Place.isReleased_wake]
  | step i =>
    show 0 + (m.step i).passing = 0 + m.passing
    unfold step
    split
    · rfl
    · rw [passing_spawn]
  | silence => exact same (told_withCpu m _).threads
  | tick => exact same (told_withCpu m _).threads
  | reset => exact same (quiet_reset m).threads
  | load data => exact same (quiet_loadProgram m data).threads
  | pause | release k | releaseAll => rfl
  | resume | cancel | debugRun | debugStep | debugResume => cases h

/-- While the gate is closed, as many instructions begin along a run as threads are let through, but for
those that have not moved since. -/
theorem begun_after (closed : m.cpu.gate.shouldWait = true) (h : ∀ a ∈ as, a.opens = false) :
    m.begun as + (m.after as).passing = m.admitted as + m.passing := by
  induction as generalizing m with
  | nil => rfl
  | cons a as ih =>
    have shut : a.opens = false := h a (List.mem_cons_self ..)
    have first := passing_act closed shut
    have rest := ih (closed_act closed shut) fun b hb => h b (List.mem_cons_of_mem _ hb)
    rw [begun, admitted, after_cons]
    omega

/-- Without a step nobody is let through. -/
theorem admitted_of_unstepped (h : ∀ a ∈ as, a ≠ .stepPaused) : m.admitted as = 0 := by
  induction as generalizing m with
  | nil => rfl
  | cons a as ih =>
    have none : m.admits a = 0 := by
      cases a with
      | stepPaused => exact absurd rfl (h _ (List.mem_cons_self ..))
      | _ => rfl
    rw [admitted, none, Nat.zero_add]
    exact ih fun b hb => h b (List.mem_cons_of_mem _ hb)

/-! ## Stopping -/

theorem isSettled_of_all (h : m.threads.all (!·.place.isRunnable) = true) : m.IsSettled := by
  intro t ht
  simpa using List.all_eq_true.mp h t ht

/-- If all threads have stopped, those that were let through have moved. -/
theorem passing_of_isSettled (h : m.IsSettled) : m.passing = 0 := by
  rw [passing, List.countP_eq_zero]
  intro t ht
  have stopped := h t ht
  generalize t.place = place at stopped
  cases place <;> first | exact Bool.false_ne_true | cases stopped

theorem toGo_le (m : Machine) : m.toGo ≤ 2 * m.threads.length := by
  rw [toGo]
  induction m.threads with
  | nil => exact Nat.le_refl 0
  | cons t ts ih =>
    have here := t.place.toGo_le
    rw [List.map_cons, List.sum_cons, List.length_cons]
    omega

/-- Behind a closed gate every move brings a thread closer to where it stops. -/
theorem toGo_move {t : Thread} (closed : m.cpu.gate.shouldWait = true) (ht : m.threads[k]? = some t)
    (runs : t.place.isRunnable = true) : (m.move k).toGo < m.toGo := by
  obtain ⟨r, proceeds, moved⟩ := exists_proceeds ht runs
  have left : (r.2.toList.map (·.place.toGo)).sum < t.place.toGo := by
    cases hr : r.2 with
    | none => exact t.place.isRunnable_iff_toGo.mp runs
    | some v =>
      rw [Option.toList_some, List.map_singleton, List.sum_singleton]
      exact (closer_of_proceeds proceeds closed v hr).2
  have before := congrArg (fun ts => (ts.map (·.place.toGo)).sum) (threads_around ht)
  simp only [Option.toList_some, List.map_append, List.sum_append, List.map_singleton,
    List.sum_singleton] at before
  rw [moved, toGo, toGo, before]
  simp only [List.map_append, List.sum_append]
  omega

theorem isSettled_of_turn (h : m.turn = none) : m.IsSettled := by
  unfold turn at h
  rw [List.span_eq_takeWhile_dropWhile] at h
  cases hd : m.threads.dropWhile (!·.place.isRunnable) with
  | nil =>
    intro t ht
    simpa using List.dropWhile_eq_nil_iff.mp hd t ht
  | cons t ts =>
    rw [hd] at h
    cases h

/-- Threads settle if every move leaves less to do. -/
theorem isSettled_of_closer {P : Machine → Prop} {f : Machine → Nat}
    (closer : ∀ (m : Machine) (k : Nat) (t : Thread), P m → m.threads[k]? = some t →
      t.place.isRunnable = true → P (m.move k) ∧ f (m.move k) < f m)
    {fuel : Nat} (h : P m) (enough : f m ≤ fuel) :
    P (settleWith fuel m) ∧ (settleWith fuel m).IsSettled := by
  induction fuel generalizing m with
  | zero =>
    refine ⟨h, fun t ht => Bool.eq_false_iff.mpr fun runs => ?_⟩
    obtain ⟨k, here⟩ := List.getElem?_of_mem ht
    have fewer := (closer m k t h here runs).2
    omega
  | succ fuel ih =>
    rw [settleWith]
    cases turn : m.turn with
    | none => exact ⟨h, isSettled_of_turn turn⟩
    | some n =>
      obtain ⟨k, t, ht, runs, rfl⟩ := exists_move_of_turn turn
      obtain ⟨kept, fewer⟩ := closer m k t h ht runs
      exact ih kept (by omega)

/-- Behind a closed gate all threads stop. -/
theorem isSettled_settleWith (closed : m.cpu.gate.shouldWait = true) {fuel : Nat}
    (enough : m.toGo ≤ fuel) : (settleWith fuel m).IsSettled := by
  have closer (m : Machine) (k : Nat) (t : Thread) (closed : m.cpu.gate.shouldWait = true)
      (ht : m.threads[k]? = some t) (runs : t.place.isRunnable = true) :
      (m.move k).cpu.gate.shouldWait = true ∧ (m.move k).toGo < m.toGo :=
    ⟨closed_act (a := .move k) closed rfl, toGo_move closed ht runs⟩
  exact (isSettled_of_closer (P := fun m => m.cpu.gate.shouldWait = true) closer closed enough).2

/-- Who lets the only thread at a closed gate through, while the others have stopped, lets one instruction
begin before all have stopped again, unless somebody opens the gate or steps once more. -/
theorem steps_once (closed : m.cpu.gate.shouldWait = true) (paused : m.isPaused = true)
    (alone : m.stopped = 1) (settled : m.IsSettled)
    (quiet : ∀ a ∈ as, a.opens = false ∧ a ≠ .stepPaused) :
    (m.act .stepPaused).begun as ≤ 1 ∧
    (((m.act .stepPaused).after as).IsSettled → (m.act .stepPaused).begun as = 1) ∧
    ∀ fuel, 2 * ((m.act .stepPaused).after as).threads.length ≤ fuel →
      (settleWith fuel ((m.act .stepPaused).after as)).IsSettled := by
  have shut : ∀ a ∈ .stepPaused :: as, a.opens = false := by
    intro a ha
    rcases List.mem_cons.mp ha with rfl | later
    · rfl
    · exact (quiet a later).1
  have admitted : m.admitted (.stepPaused :: as) = 1 := by
    rw [Machine.admitted, admitted_of_unstepped fun a ha => (quiet a ha).2, admits, if_pos paused,
      alone]
  have begun : m.begun (.stepPaused :: as) = (m.act .stepPaused).begun as := Nat.zero_add _
  have counted := begun_after closed shut
  rw [admitted, passing_of_isSettled settled, begun, after_cons] at counted
  refine ⟨by omega, fun stopped => ?_, fun fuel enough => ?_⟩
  · rw [passing_of_isSettled stopped] at counted
    omega
  · exact isSettled_settleWith (closed_after closed shut) ((toGo_le _).trans enough)

end Machine

end Hexscope
