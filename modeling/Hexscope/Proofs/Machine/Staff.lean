import Hexscope.Proofs.Machine.Course
import Hexscope.Proofs.Machine.Stepping

/-!
# The threads of the clocks

A machine is used by its clocks, whose threads move, and by requests to start, stop, pause, step, load, and press
keys. Such a use is a session (`Machine.isSession`). A stop takes two actions of it, between which all threads go or
stop in key waits. At most one thread may begin an instruction at any time, and a thread that a stop has left waits
for a key (`Machine.Staffed`).

* `Machine.keeps_move`: what a move leaves of the threads;
* `Machine.Staffed.cancel`, `Machine.Staffed.silence`, `Machine.Staffed.opened`: what a stop and a new run leave;
* `Machine.reaches_request`: a request, with what the threads do until all have stopped, is part of a session.
-/

namespace Hexscope

/-- What becomes of a run. -/
inductive Milestone where
  | opened
  | ended (r : StepResult)
deriving DecidableEq, Repr

/-- How a run has ended, if it has. -/
def Milestone.result? : Milestone → Option StepResult
  | .opened => none
  | .ended r => some r

/-- Whether a thread may begin an instruction: it is outside of all, or its clock wants it. -/
def Thread.isActive (t : Thread) : Bool := t.isLiveClock || t.place.inside?.isNone

theorem Thread.isLiveClock_iff {t : Thread} : t.isLiveClock = true ↔ t.task = .clock true := by
  rw [isLiveClock, decide_eq_true_iff]

theorem Thread.isLiveClock_cancel (t : Thread) : t.cancel.isLiveClock = false := by
  unfold Thread.cancel
  split
  · rfl
  · rename_i dead
    exact Bool.eq_false_iff.mpr dead

theorem Thread.isActive_eq_false {t : Thread} :
    t.isActive = false ↔ t.isLiveClock = false ∧ t.place.inside?.isSome = true := by
  rw [isActive, Bool.or_eq_false_iff, ← Option.not_isSome, Bool.not_eq_false']

/-- Both clocks have periods. -/
def Course.HasPeriods (c : Course) : Prop :=
  c.cpuHz.period?.isSome = true ∧ c.timerHz.period?.isSome = true

namespace Machine

variable {m n : Machine} {a : Action} {as bs : List Action} {k : Nat} {t : Thread}
  {stopping : Bool} {r : StepResult}

/-- What an action makes of a run, if it opens or ends one. -/
def milestone? (m : Machine) : Action → Option Milestone
  | .start => if m.ticks .start then some .opened else none
  | .move k => (m.ending? (.move k)).map .ended
  | _ => none

/-- Whether a stop is going on after an action. -/
def Action.stops (before : Bool) : Action → Bool
  | .cancel => true
  | .silence => false
  | _ => before

/-- Whether an action belongs to the use of a machine by its clocks and by requests that are about runs. A stop ends
when all threads have gone or wait for keys, and nobody starts the machine before. There are no threads of other
callers, and nobody but the clocks lets the timers tick. -/
def permits (m : Machine) (stopping : Bool) : Action → Bool
  | .start => !stopping
  | .cancel => m.clocked
  | .silence => stopping && m.threads.all (·.place.inside?.isSome)
  | .tick | .step _ | .debugRun .. | .debugStep => false
  | _ => true

/-- Whether all actions do. -/
def isSession (m : Machine) (stopping : Bool) : List Action → Bool
  | [] => true
  | a :: as => m.permits stopping a && (m.act a).isSession (a.stops stopping) as

/-- Whether a stop is going on after some actions. -/
def stoppingAfter (stopping : Bool) (as : List Action) : Bool :=
  as.foldl (fun b a => a.stops b) stopping

/-- What holds of the threads of a machine between the actions of a session. -/
structure Staffed (m : Machine) (stopping : Bool) : Prop where
  clocks : ∀ t ∈ m.threads, t.task.isClock = true
  alone : m.threads.countP Thread.isActive ≤ 1
  /-- A thread that a stop has left waits for a key. -/
  left : stopping = false → ∀ t ∈ m.threads, t.isLiveClock = true ∨ t.place.inside?.isSome = true
  unwanted : stopping = true → ∀ t ∈ m.threads, t.isLiveClock = false
  clocked : m.threads.any Thread.isLiveClock = true → m.clocked = true

theorem milestone?_of_start (h : m.ticks .start = true) : m.milestone? .start = some .opened := by
  rw [milestone?, if_pos h]

theorem ending?_of_milestone? (h : m.milestone? a = some (.ended r)) : m.ending? a = some r := by
  cases a with
  | move k =>
    obtain ⟨s, hs, same⟩ := Option.map_eq_some_iff.mp h
    cases same
    exact hs
  | start =>
    rw [milestone?] at h
    split at h <;> cases h
  | _ => cases h

/-! ## Threads -/

/-- Between two moments the threads have gone or stayed those of their clocks. Who was wanted or inside of
an instruction is so still, and no more of them may begin one. -/
structure Keeps (m n : Machine) : Prop where
  mem : ∀ v ∈ n.threads, ∃ t ∈ m.threads, v.task = t.task ∧
    (t.isLiveClock = true ∨ t.place.inside?.isSome = true →
      v.isLiveClock = true ∨ v.place.inside?.isSome = true)
  count : n.threads.countP Thread.isActive ≤ m.threads.countP Thread.isActive

theorem isLiveClock_of_task {v : Thread} (h : v.task = t.task) : v.isLiveClock = t.isLiveClock := by
  rw [Thread.isLiveClock, h, Thread.isLiveClock]

theorem Keeps.of_map {f : Thread → Thread} (threads : n.threads = m.threads.map f)
    (task : ∀ t, (f t).task = t.task) (inside : ∀ t, (f t).place.inside? = t.place.inside?) :
    m.Keeps n where
  mem v hv := by
    rw [threads] at hv
    obtain ⟨t, ht, rfl⟩ := List.mem_map.mp hv
    refine ⟨t, ht, task t, ?_⟩
    rw [inside, isLiveClock_of_task (task t)]
    exact id
  count := by
    have same : Thread.isActive ∘ f = Thread.isActive := by
      funext t
      rw [Function.comp_apply, Thread.isActive, inside, isLiveClock_of_task (task t), Thread.isActive]
    rw [threads, List.countP_map, same]

theorem Keeps.of_threads (h : n.threads = m.threads) : m.Keeps n :=
  .of_map (f := id) (h.trans (List.map_id _).symm) (fun _ => rfl) fun _ => rfl

theorem isSome_of_isKeyWait {p : Place} (h : p.isKeyWait = true) : p.inside?.isSome = true := by
  cases p <;> first | rfl | cases h

/-- What is left of a thread may begin an instruction only if the thread might. -/
theorem isActive_of_left {v : Thread} (task : v.task = t.task)
    (kept : t.isLiveClock = true ∨ v.place.isKeyWait = true) (active : v.isActive = true) :
    t.isActive = true := by
  rcases kept with live | waits
  · rw [Thread.isActive, live, Bool.true_or]
  · rw [Thread.isActive, ← Option.not_isSome, isSome_of_isKeyWait waits, Bool.not_true,
      Bool.or_false, isLiveClock_of_task task] at active
    rw [Thread.isActive, active, Bool.true_or]

/-- How many threads are of some kind when one has moved. -/
theorem countP_replaced {u : Option Thread} (p : Thread → Bool) (ht : m.threads[k]? = some t)
    (threads : n.threads = m.threads.take k ++ u.toList ++ m.threads.drop (k + 1)) :
    n.threads.countP p + (if p t then 1 else 0) = m.threads.countP p + u.toList.countP p := by
  have before := congrArg (List.countP p) (threads_around ht)
  rw [List.countP_append, List.countP_append, Option.toList_some, List.countP_singleton] at before
  rw [threads, List.countP_append, List.countP_append]
  omega

/-- What a move leaves of the threads. -/
theorem keeps_move (clocks : ∀ t ∈ m.threads, t.task.isClock = true) (k : Nat) :
    m.Keeps (m.move k) := by
  rcases stopped_or_proceeds m k with stopped | ⟨t, r, ht, -, proceeds, moved⟩
  · rw [move_of_stopped stopped]
    exact .of_threads rfl
  have old : t ∈ m.threads := List.mem_of_getElem? ht
  have left := left_of_proceeds proceeds (clocks t old)
  have threads : (m.move k).threads = m.threads.take k ++ r.2.toList ++ m.threads.drop (k + 1) := by
    rw [moved]
  constructor
  · intro v hv
    rw [threads, List.mem_append, List.mem_append, Option.mem_toList] at hv
    rcases hv with (before | here) | behind
    · exact ⟨v, List.mem_of_mem_take before, rfl, id⟩
    · obtain ⟨task, -, kept⟩ := left v here
      refine ⟨t, old, task, fun _ => ?_⟩
      rw [isLiveClock_of_task task]
      exact kept.imp id isSome_of_isKeyWait
    · exact ⟨v, List.mem_of_mem_drop behind, rfl, id⟩
  · have counted := countP_replaced Thread.isActive ht threads
    have fewer : r.2.toList.countP Thread.isActive ≤ if t.isActive then 1 else 0 := by
      cases hr : r.2 with
      | none => exact Nat.zero_le _
      | some v =>
        obtain ⟨task, -, kept⟩ := left v hr
        rw [Option.toList_some, List.countP_singleton]
        by_cases active : v.isActive = true
        · rw [isActive_of_left task kept active, active]
        · rw [if_neg active]
          exact Nat.zero_le _
    omega

/-- What a move leaves of a thread that may begin no instruction. -/
theorem exists_left (clocks : ∀ t ∈ m.threads, t.task.isClock = true) (ht : m.threads[k]? = some t)
    (idle : t.isActive = false) : ∃ u : Option Thread, (∀ v ∈ u, v.isActive = false) ∧
      (m.move k).threads = m.threads.take k ++ u.toList ++ m.threads.drop (k + 1) := by
  by_cases runs : t.place.isRunnable = true
  · obtain ⟨r, proceeds, moved⟩ := exists_proceeds ht runs
    refine ⟨r.2, fun v hv => ?_, by rw [moved]⟩
    obtain ⟨task, -, kept⟩ := left_of_proceeds proceeds (clocks t (List.mem_of_getElem? ht)) v hv
    exact Bool.eq_false_iff.mpr fun active =>
      Bool.eq_false_iff.mp idle (isActive_of_left task kept active)
  · have stopped : ∀ u ∈ m.threads[k]?, u.place.isRunnable = false := by
      rw [ht]
      rintro u ⟨⟩
      exact Bool.eq_false_iff.mpr runs
    refine ⟨some t, ?_, ?_⟩
    · rintro v ⟨⟩
      exact idle
    · rw [move_of_stopped stopped]
      exact threads_around ht

/-- A thread whose move ends a run is outside of all instructions, and has gone afterwards. -/
theorem countP_of_ending? (clocks : ∀ t ∈ m.threads, t.task.isClock = true)
    (h : m.ending? (.move k) = some r) :
    (m.move k).threads.countP Thread.isActive + 1 = m.threads.countP Thread.isActive := by
  rcases stopped_or_proceeds m k with stopped | ⟨t, left, ht, -, proceeds, moved⟩
  · rw [not_ending_of_stopped stopped] at h
    cases h
  rw [ending?, ht, Option.bind_some] at h
  have threads : (m.move k).threads = m.threads.take k ++ left.2.toList ++ m.threads.drop (k + 1) := by
    rw [moved]
  have gone : left.2 = none := by
    cases hl : left.2 with
    | none => rfl
    | some v =>
      have unended := (left_of_proceeds proceeds (clocks t (List.mem_of_getElem? ht)) v hl).2.1
      cases unended.symm.trans h
  have active : t.isActive = true := by
    unfold Thread.ending? at h
    split at h
    · rename_i both
      rw [Thread.isActive, inside?_of_enters (Bool.and_eq_true_iff.mp both).2, Option.isNone_none,
        Bool.or_true]
    · cases h
  have counted := countP_replaced Thread.isActive ht threads
  rw [gone, active, if_pos rfl, Option.toList_none, List.countP_nil] at counted
  exact counted

/-! ## One action -/

theorem Staffed.keep (h : m.Staffed stopping) (keeps : m.Keeps n) (clocked : n.clocked = m.clocked) :
    n.Staffed stopping where
  clocks v hv := by
    obtain ⟨t, ht, task, -⟩ := keeps.mem v hv
    rw [task]
    exact h.clocks t ht
  alone := keeps.count.trans h.alone
  left idle v hv := by
    obtain ⟨t, ht, -, kept⟩ := keeps.mem v hv
    exact kept (h.left idle t ht)
  unwanted stops v hv := by
    obtain ⟨t, ht, task, -⟩ := keeps.mem v hv
    rw [isLiveClock_of_task task]
    exact h.unwanted stops t ht
  clocked live := by
    obtain ⟨v, hv, live⟩ := List.any_eq_true.mp live
    obtain ⟨t, ht, task, -⟩ := keeps.mem v hv
    rw [isLiveClock_of_task task] at live
    exact clocked.trans (h.clocked (List.any_eq_true.mpr ⟨t, ht, live⟩))


/-- What is left of a thread that its clock wants, unless its instruction ends the run or fails. -/
theorem exists_left_of_live {r : Machine × Option Thread} (proceeds : Proceeds m t r)
    (live : t.isLiveClock = true) (executes : t.enters m.cpu.gate = true → m.cpu.cycle.2.word?.isSome = true) :
    ∃ u, r.2 = some u ∧ u.isLiveClock = true := by
  obtain ⟨task, place⟩ := t
  have task : task = .clock true := Thread.isLiveClock_iff.mp live
  subst task
  cases proceeds with
  | ends _ unwanted => cases unwanted
  | parks | waits => exact ⟨_, rfl, rfl⟩
  | stops enters stop =>
    obtain ⟨w, executed⟩ := Option.isSome_iff_exists.mp (executes enters)
    obtain ⟨o, done⟩ := Outcome.word?_eq_some.mp executed
    rw [done] at stop
    cases stop
  | raises enters raised =>
    have executed := executes enters
    rw [raised] at executed
    cases executed
  | reports ready => exact ⟨_, rfl, rfl⟩

/-- Where no access is refused, a clock wants a thread until the run ends. -/
theorem live_move (noRaise : ∀ e, m.cpu.cycle.2 ≠ .raised e) (unended : m.ending? (.move k) = none)
    (live : m.threads.any Thread.isLiveClock = true) : (m.move k).threads.any Thread.isLiveClock = true := by
  rcases stopped_or_proceeds m k with stopped | ⟨t, r, ht, -, proceeds, moved⟩
  · rw [move_of_stopped stopped]
    exact live
  have threads : (m.move k).threads = m.threads.take k ++ r.2.toList ++ m.threads.drop (k + 1) := by
    rw [moved]
  rw [ending?, ht, Option.bind_some] at unended
  rw [threads_around ht, Option.toList_some] at live
  rw [threads]
  simp only [List.any_append, List.any_cons, List.any_nil, Bool.or_false, Bool.or_eq_true] at live ⊢
  refine live.imp (.imp id fun live => ?_) id
  have executes (enters : t.enters m.cpu.gate = true) : m.cpu.cycle.2.word?.isSome = true := by
    have clock : t.task.isClock = true := by rw [Thread.isLiveClock_iff.mp live]; rfl
    rw [Thread.ending?, clock, enters, Bool.true_and, if_pos rfl] at unended
    cases outcome : m.cpu.cycle.2 with
    | halted | fatal => rw [outcome] at unended; cases unended
    | raised e => exact absurd outcome (noRaise e)
    | done w o => rfl
  obtain ⟨u, left, wanted⟩ := exists_left_of_live proceeds live executes
  rw [left, Option.toList_some, List.any_cons, wanted, Bool.true_or]

/-- Without a live thread, and with none outside of an instruction, no thread may begin one. -/
theorem Staffed.countP_of_idle (h : m.Staffed false) (idle : m.isRunning = false) :
    m.threads.any Thread.isLiveClock = false ∧ m.threads.countP Thread.isActive = 0 := by
  have dead : m.threads.any Thread.isLiveClock = false := by
    rw [Bool.eq_false_iff]
    intro live
    rw [isRunning, h.clocked live, live] at idle
    cases idle
  refine ⟨dead, List.countP_eq_zero.mpr fun t ht => ?_⟩
  have unwanted : t.isLiveClock = false :=
    Bool.eq_false_iff.mpr fun live => by
      rw [List.any_eq_true.mpr ⟨t, ht, live⟩] at dead
      cases dead
  have inside := (h.left rfl t ht).resolve_left (Bool.eq_false_iff.mp unwanted)
  rw [Thread.isActive_eq_false.mpr ⟨unwanted, inside⟩]
  exact Bool.false_ne_true

theorem start_of_isRunning (h : m.isRunning = true) : m.start = (m, none) := by
  rw [start, if_pos h]

/-- With periods, who finds the machine standing opens a run. -/
theorem ticks_start_of_periods (periods : m.course.HasPeriods) (idle : m.isRunning = false) :
    m.ticks .start = true := by
  obtain ⟨cpu, timer⟩ := periods
  have cpuHz : m.cpuHz.period?.isNone = false := Option.isNone_eq_false_iff.mpr cpu
  have timerHz : m.timerHz.period?.isNone = false := Option.isNone_eq_false_iff.mpr timer
  simp only [ticks, start, idle, cpuHz, timerHz, Bool.not_false, Bool.true_and, Bool.false_eq_true,
    if_false, Option.isNone_none]

/-- The run has one thread, which its clock wants. -/
theorem threads_start (ticks : m.ticks .start = true) :
    m.start.1.threads = m.threads ++ [⟨.clock true, .ready⟩] := by
  rw [start_of_ticks ticks]
  exact congrArg (· ++ _) (told_withCpu m.opening _).threads

/-- The machine with a run that was opened, before its timers have ticked. -/
def opened (m : Machine) : Machine :=
  { m with outcome := none, finished := false, clocked := true }.spawn (.clock true)

theorem Staffed.opened (h : m.Staffed false) (idle : m.isRunning = false) : m.opened.Staffed false := by
  obtain ⟨-, none⟩ := h.countP_of_idle idle
  have count : m.opened.threads.countP Thread.isActive = 1 := by
    rw [Machine.opened, spawn, List.countP_append, none]
    rfl
  exact {
    clocks := fun t ht => by
      rcases List.mem_append.mp ht with old | new
      · exact h.clocks t old
      · rw [List.mem_singleton.mp new]
        rfl
    alone := count.le
    left := fun _ t ht => by
      rcases List.mem_append.mp ht with old | new
      · exact h.left rfl t old
      · rw [List.mem_singleton.mp new]
        exact .inl rfl
    unwanted := fun stopping => absurd stopping Bool.false_ne_true
    clocked := fun _ => rfl }

/-- Who cancels the clock wants none of its threads any more. -/
theorem Staffed.cancel (h : m.Staffed stopping) (clocked : m.clocked = true) :
    m.cancel.Staffed true ∧ m.cancel.threads.countP Thread.isActive ≤ m.threads.countP Thread.isActive := by
  let f (t : Thread) : Thread := { t.cancel with place := t.cancel.place.release }
  have threads : m.cancel.threads = m.threads.map f := by
    rw [Machine.cancel, if_pos clocked]
    exact List.map_map
  have inside (t : Thread) : (f t).place.inside? = t.place.inside? := by
    rw [Place.inside?_release, Thread.place_cancel]
  have dead (t : Thread) : (f t).isLiveClock = false := Thread.isLiveClock_cancel t
  have unwanted : ∀ v ∈ m.cancel.threads, v.isLiveClock = false := by
    intro v hv
    rw [threads] at hv
    obtain ⟨t, -, rfl⟩ := List.mem_map.mp hv
    exact dead t
  have fewer : m.cancel.threads.countP Thread.isActive ≤ m.threads.countP Thread.isActive := by
    rw [threads, List.countP_map]
    refine List.countP_mono_left fun t _ active => ?_
    rw [Function.comp_apply, Thread.isActive, dead, inside, Bool.false_or] at active
    rw [Thread.isActive, active, Bool.or_true]
  refine ⟨?_, fewer⟩
  exact {
    clocks := fun v hv => by
      rw [threads] at hv
      obtain ⟨t, ht, rfl⟩ := List.mem_map.mp hv
      have clock := h.clocks t ht
      unfold f Thread.cancel
      split
      · rfl
      · exact clock
    alone := fewer.trans h.alone
    left := fun idle => absurd idle.symm Bool.false_ne_true
    unwanted := fun _ => unwanted
    clocked := fun live => by
      obtain ⟨v, hv, live⟩ := List.any_eq_true.mp live
      rw [unwanted v hv] at live
      cases live }

/-- When all threads have gone or wait for keys, a stop ends. -/
theorem Staffed.silence (h : m.Staffed true) (inside : m.threads.all (·.place.inside?.isSome) = true) :
    m.silence.Staffed false := by
  have threads : m.silence.threads = m.threads := (told_withCpu m (m.cpu.requestTone false)).threads
  exact {
    clocks := threads ▸ h.clocks
    alone := threads ▸ h.alone
    left := fun _ t ht => by
      rw [threads] at ht
      exact .inr (List.all_eq_true.mp inside t ht)
    unwanted := fun stopping => absurd stopping Bool.false_ne_true
    clocked := fun live => by
      rw [threads] at live
      obtain ⟨t, ht, live⟩ := List.any_eq_true.mp live
      rw [h.unwanted rfl t ht] at live
      cases live }

/-- Requests that are not about runs change at most where the threads are, and nobody gets into an instruction or
out of one. -/
theorem exists_map_of_passes (passes : a.passes = true) (permits : m.permits stopping a = true) :
    ∃ f : Thread → Thread, (m.act a).threads = m.threads.map f ∧ (∀ t, (f t).task = t.task) ∧
      ∀ t, (f t).place.inside? = t.place.inside? := by
  have same {n : Machine} (h : n.threads = m.threads) : ∃ f : Thread → Thread, n.threads = m.threads.map f ∧
      (∀ t, (f t).task = t.task) ∧ ∀ t, (f t).place.inside? = t.place.inside? :=
    ⟨id, h.trans (List.map_id _).symm, fun _ => rfl, fun _ => rfl⟩
  cases a with
  | move | start | cancel | silence => cases passes
  | tick | step | debugRun | debugStep => cases permits
  | reset | load => exact same (told_withCpu m _).threads
  | pause | release | releaseAll => exact same rfl
  | resume | debugResume => exact ⟨_, rfl, fun _ => rfl, fun t => Place.inside?_release t.place⟩
  | stepPaused =>
    simp only [Machine.act, stepPaused]
    split
    · exact ⟨_, rfl, fun _ => rfl, fun t => Place.inside?_release t.place⟩
    · exact same rfl
  | press k => exact ⟨_, rfl, fun _ => rfl, fun t => Place.inside?_wake t.place⟩

/-- Requests that are not about runs leave the threads with their clocks. -/
theorem keeps_of_passes (passes : a.passes = true) (permits : m.permits stopping a = true) :
    m.Keeps (m.act a) := by
  obtain ⟨f, threads, task, inside⟩ := exists_map_of_passes passes permits
  exact .of_map threads task inside

theorem live_of_passes (passes : a.passes = true) (permits : m.permits stopping a = true) :
    (m.act a).threads.any Thread.isLiveClock = m.threads.any Thread.isLiveClock := by
  obtain ⟨f, threads, task, -⟩ := exists_map_of_passes passes permits
  rw [threads, List.any_map]
  exact congrArg (m.threads.any ·) (funext fun t => isLiveClock_of_task (task t))

/-! ## Sessions -/

theorem isSession_append (m : Machine) (stopping : Bool) (as bs : List Action) :
    m.isSession stopping (as ++ bs) =
      (m.isSession stopping as && (m.after as).isSession (stoppingAfter stopping as) bs) := by
  induction as generalizing m stopping with
  | nil => rw [List.nil_append, isSession, Bool.true_and]; rfl
  | cons a as ih => rw [List.cons_append, isSession, ih, isSession, Bool.and_assoc]; rfl

/-! ## Requests -/

/-- What is asked of a machine from outside. -/
inductive Request where
  | start
  | stop
  | pause
  | resume
  | stepPaused
  | press (k : Key)
  | release (k : Key)
  | loadAndRun (files : FileNode) (path : Text)

/-- The machine when it was asked for something. -/
def request (m : Machine) : Request → Machine
  | .start => m.start.1
  | .stop => m.stop
  | .pause => m.pause
  | .resume => m.resume
  | .stepPaused => m.stepPaused.1
  | .press k => m.press k
  | .release k => m.release k
  | .loadAndRun files path => (m.loadAndRun files path).1

/-- No clock wants a thread, and none stays at the gate. -/
def Deserted (m : Machine) : Prop := ∀ t ∈ m.threads, t.task = .clock false ∧ t.place ≠ .gate

theorem deserted_cancel (clocks : ∀ t ∈ m.threads, t.task.isClock = true)
    (clocked : m.clocked = true) : m.cancel.Deserted := by
  intro v hv
  rw [cancel, if_pos clocked] at hv
  obtain ⟨u, hu, rfl⟩ := List.mem_map.mp hv
  obtain ⟨⟨task, place⟩, ht, rfl⟩ := List.mem_map.mp hu
  have clock := clocks _ ht
  constructor
  · cases task with
    | clock live => cases live <;> rfl
    | steps | run | single => cases clock
  · rw [Thread.place_cancel]
    intro (gate : place.release = .gate)
    have outside := Place.isGate_release place
    rw [gate] at outside
    cases outside

/-- Nobody goes on whom no clock wants: a move leaves one thread less that can go on. -/
theorem deserted_move (h : m.Deserted) (ht : m.threads[k]? = some t)
    (runs : t.place.isRunnable = true) : (m.move k).Deserted ∧
      (m.move k).threads.countP (·.place.isRunnable) < m.threads.countP (·.place.isRunnable) := by
  obtain ⟨r, proceeds, moved⟩ := exists_proceeds ht runs
  obtain ⟨task, -⟩ := h t (List.mem_of_getElem? ht)
  have dead : ¬ t.isLiveClock = true := by
    rw [Thread.isLiveClock_iff, task]
    nofun
  have left : ∀ v ∈ r.2, v.task = .clock false ∧ v.place.isKeyWait = true := by
    intro v hv
    obtain ⟨same, -, kept⟩ := left_of_proceeds proceeds (by rw [task]; rfl) v hv
    exact ⟨same.trans task, kept.resolve_left dead⟩
  have threads : (m.move k).threads = m.threads.take k ++ r.2.toList ++ m.threads.drop (k + 1) := by
    rw [moved]
  constructor
  · intro v hv
    rw [threads, List.mem_append, List.mem_append, Option.mem_toList] at hv
    rcases hv with (before | here) | behind
    · exact h v (List.mem_of_mem_take before)
    · obtain ⟨task, waits⟩ := left v here
      refine ⟨task, fun gate => ?_⟩
      rw [gate] at waits
      cases waits
    · exact h v (List.mem_of_mem_drop behind)
  · have counted := countP_replaced (fun t => t.place.isRunnable) ht threads
    have none : r.2.toList.countP (·.place.isRunnable) = 0 := by
      rw [List.countP_eq_zero]
      intro v hv
      have waits := (left v (Option.mem_toList.mp hv)).2
      generalize v.place = place at waits
      cases place <;> first | exact Bool.false_ne_true | cases waits
    rw [none, if_pos runs] at counted
    omega

/-- After a clock was cancelled all threads go, or wait for keys. -/
theorem inside_of_cancel (clocks : ∀ t ∈ m.threads, t.task.isClock = true)
    (clocked : m.clocked = true) (few : m.threads.length ≤ patience) :
    m.cancel.settle.threads.all (·.place.inside?.isSome) = true := by
  have enough : m.cancel.threads.countP (·.place.isRunnable) ≤ patience := by
    refine List.countP_le_length.trans ?_
    rw [cancel, if_pos clocked]
    simpa only [openGate, setPolicy, List.length_map] using few
  obtain ⟨deserted, settled⟩ := isSettled_of_closer (P := Deserted)
    (f := fun m => m.threads.countP (·.place.isRunnable))
    (fun m k t h ht runs => deserted_move h ht runs) (deserted_cancel clocks clocked) enough
  refine List.all_eq_true.mpr fun t ht => ?_
  have passed := (deserted t ht).2
  have stopped := settled t ht
  generalize t.place = place at passed stopped
  cases place <;> first | rfl | exact absurd rfl passed | cases stopped

/-- Some actions bring a machine from outside of a stop to another moment outside of one. -/
def Reaches (m n : Machine) : Prop :=
  ∃ as, m.isSession false as = true ∧ stoppingAfter false as = false ∧ m.after as = n

theorem Reaches.refl (m : Machine) : m.Reaches m := ⟨[], rfl, rfl, rfl⟩

theorem Reaches.trans {l : Machine} (h : m.Reaches n) (h' : n.Reaches l) : m.Reaches l := by
  obtain ⟨as, session, idle, rfl⟩ := h
  obtain ⟨bs, session', idle', rfl⟩ := h'
  refine ⟨as ++ bs, ?_, ?_, after_append m as bs⟩
  · rw [isSession_append, session, idle, session', Bool.true_and]
  · rw [stoppingAfter, List.foldl_append]
    rw [stoppingAfter] at idle idle'
    rw [idle, idle']

theorem Reaches.one (permits : m.permits false a = true) (idle : a.stops false = false) :
    m.Reaches (m.act a) := by
  refine ⟨[a], ?_, idle, rfl⟩
  rw [isSession, permits]
  rfl

/-- Moves belong to every session. -/
theorem isSession_moves (m : Machine) (stopping : Bool) (ks : List Nat) :
    m.isSession stopping (ks.map .move) = true ∧
      stoppingAfter stopping (ks.map .move) = stopping := by
  induction ks generalizing m with
  | nil => exact ⟨rfl, rfl⟩
  | cons k ks ih => exact ih (m.act (.move k))

theorem reaches_settle (m : Machine) : m.Reaches m.settle := by
  obtain ⟨ks, hks⟩ := settle_eq_after m
  exact ⟨ks.map .move, (isSession_moves m false ks).1, (isSession_moves m false ks).2, hks.symm⟩

theorem reaches_stop (clocks : ∀ t ∈ m.threads, t.task.isClock = true)
    (few : m.threads.length ≤ patience) : m.Reaches m.stop := by
  by_cases clocked : m.clocked = true
  · have inside := inside_of_cancel clocks clocked few
    obtain ⟨ks, hks⟩ := settle_eq_after m.cancel
    have stops : m.stop = m.cancel.settle.silence := by
      simp only [stop, cancel, clocked, Bool.not_true, Bool.false_eq_true, if_false, if_true]
      rfl
    rw [hks] at inside stops
    let moves : List Action := ks.map .move
    have moving := isSession_moves (m.act .cancel) true ks
    have silence : (m.cancel.after moves).permits true .silence = true := inside
    refine ⟨.cancel :: (moves ++ [.silence]), ?_, ?_, ?_⟩
    · have first : m.permits false .cancel = true := clocked
      have last : (m.cancel.after moves).isSession true [.silence] = true := by
        rw [isSession, silence]
        rfl
      have rest : (m.act .cancel).isSession true (moves ++ [.silence]) = true := by
        rw [isSession_append, moving.1, moving.2, Bool.true_and]
        exact last
      rw [isSession, first, Bool.true_and]
      exact rest
    · rw [← List.cons_append, stoppingAfter, List.foldl_append]
      rfl
    · rw [after_cons, after_append, stops]
      rfl
  · have stands : m.stop = m := by
      rw [stop, if_pos (by simpa using clocked)]
    rw [stands]
    exact .refl m

/-- Who loads a program from a file stops the machine first. Only a program that was loaded is run. -/
theorem loadAndRun_cases (m : Machine) (files : FileNode) (path : Text) :
    (∃ e, m.loadAndRun files path = (m.stop, some e)) ∨
    ∃ data, (∃ e, m.loadAndRun files path = ((m.stop.loadProgram data).1, some e)) ∨
      m.loadAndRun files path =
        ((m.stop.loadProgram data).1.start.1, (m.stop.loadProgram data).1.start.2.map .clock) := by
  unfold loadAndRun loadRom Cpu.loadRom
  cases Rom.load m.stop.cpu.romLimit files path with
  | error e => exact .inl ⟨_, rfl⟩
  | ok data =>
    refine .inr ⟨data, ?_⟩
    unfold loadProgram
    dsimp only
    cases (m.stop.cpu.loadProgram data).2.2 with
    | some e => exact .inl ⟨_, rfl⟩
    | none => exact .inr rfl

/-- Every request, followed by what the threads do until all have stopped, is made up of actions of a
session. -/
theorem reaches_request (h : m.Staffed false) (few : m.threads.length ≤ patience) (q : Request) :
    m.Reaches (m.request q).settle := by
  refine Reaches.trans ?_ (reaches_settle _)
  cases q with
  | start => exact .one (a := .start) rfl rfl
  | stop => exact reaches_stop h.clocks few
  | pause => exact .one (a := .pause) rfl rfl
  | resume => exact .one (a := .resume) rfl rfl
  | stepPaused => exact .one (a := .stepPaused) rfl rfl
  | press k => exact .one (a := .press k) rfl rfl
  | release k => exact .one (a := .release k) rfl rfl
  | loadAndRun files path =>
    refine (reaches_stop h.clocks few).trans ?_
    have loads (data : List UInt8) : m.stop.Reaches (m.stop.loadProgram data).1 :=
      .one (a := .load data) rfl rfl
    rcases loadAndRun_cases m files path with ⟨_, same⟩ | ⟨data, ⟨_, loaded⟩ | started⟩
    · rw [request, same]
      exact .refl _
    · rw [request, loaded]
      exact loads data
    · rw [request, started]
      exact (loads data).trans (.one (a := .start) rfl rfl)

/-- A thread inside of an instruction begins no other. -/
theorem not_enters_of_inside {g : Gate} (h : t.place.inside?.isSome = true) : t.enters g = false := by
  rw [Bool.eq_false_iff]
  intro enters
  rw [inside?_of_enters enters] at h
  cases h

theorem milestone?_eq_ended : m.milestone? a = some (.ended r) ↔
    ∃ k t, a = .move k ∧ m.threads[k]? = some t ∧ t.task.isClock = true ∧
      t.enters m.cpu.gate = true ∧ m.cpu.cycle.2.stop? = some r := by
  constructor
  · intro h
    have ending := ending?_of_milestone? h
    cases a with
    | move k =>
      obtain ⟨t, ht, ending⟩ := Option.bind_eq_some_iff.mp ending
      unfold Thread.ending? at ending
      split at ending
      · rename_i both
        rw [Bool.and_eq_true] at both
        exact ⟨k, t, rfl, ht, both.1, both.2, ending⟩
      · cases ending
    | _ => cases ending
  · rintro ⟨k, t, rfl, ht, clock, enters, stop⟩
    rw [milestone?, ending?, ht, Option.bind_some, ending?_of_stop enters stop, clock]
    rfl

end Machine

end Hexscope
