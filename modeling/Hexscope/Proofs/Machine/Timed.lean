import Hexscope.Proofs.Machine.Race
import Hexscope.Proofs.Machine.Staff

/-!
# A machine and the timer clocks of its runs

Each run has a timer clock with a thread of its own, whose ticks have two parts, the count of the timers and the
request to the speaker. `Timed` is a machine beside these clocks. A clock looks whether it is cancelled only between
its ticks, so that a tick under way goes on when the run ends. A stop waits until the clock has ended, and the end of
a run does not. A new run gets a new clock, and if the one before has not been cancelled, both tick.

A machine by itself has a schedule in place of these threads: its timers tick once for every so many instructions,
both parts at once (`Machine.tickIfDue`). Here the schedule is switched off.

* `Timed.Shadows`: a machine that goes by its schedule, seen as one with its clocks beside it;
* `Timed.Shadows.act`, `Timed.Shadows.after`: what it does, its clocks can do;
* `Timed.Shadows.request`: so every request to it, with what its threads then do, is a part of a session of the two.
-/

namespace Hexscope

/-- A part of a tick. -/
inductive TickPart where
  | count
  | ask (beeping : Bool)
deriving DecidableEq, Repr

/-- A timer clock: whether it is cancelled, and where its thread is. -/
structure TimerClock where
  cancelled : Bool
  place : Race.Ticker
deriving DecidableEq

namespace TimerClock

/-- A clock that was just started. -/
def fresh : TimerClock := ⟨false, .looking⟩

/-- The clock begins no tick any more. -/
def cancel (c : TimerClock) : TimerClock := { c with cancelled := true }

/-- The part of a tick that the clock does next, if it is in one. -/
def part? (c : TimerClock) : Option TickPart :=
  match c.place with
  | .due => some .count
  | .carrying beeping => some (.ask beeping)
  | .looking | .ended => none

/-- The clock goes on to its next part. A tick that counts gets its request from the processor. -/
def turn (c : TimerClock) (cpu : Cpu) : TimerClock :=
  match c.place with
  | .looking => { c with place := if c.cancelled then .ended else .due }
  | .due => { c with place := .carrying cpu.countDown.2 }
  | .carrying _ => { c with place := .looking }
  | .ended => c

/-- The number of parts that are left of the tick under way. -/
def left (c : TimerClock) : Nat :=
  match c.place with
  | .due => 2
  | .carrying _ => 1
  | .looking | .ended => 0

/-- A cancelled clock does the parts that it has left, and no others. -/
theorem left_turn {c : TimerClock} (cancelled : c.cancelled = true) (cpu : Cpu) :
    c.part?.toList.length + (c.turn cpu).left = c.left := by
  obtain ⟨_, place⟩ := c
  subst cancelled
  cases place <;> rfl

theorem cancelled_turn (c : TimerClock) (cpu : Cpu) : (c.turn cpu).cancelled = c.cancelled := by
  unfold turn
  split <;> rfl

end TimerClock

/-- A machine beside the timer clocks of its runs, the last run's first. The schedule of the machine is off. -/
structure Timed where
  machine : Machine
  clocks : List TimerClock

namespace Machine

variable {m n : Machine} {a : Action} {k : Nat} {t : Thread}

/-- The thread of a timer clock does a part of a tick. -/
def doPart (m : Machine) : TickPart → Machine
  | .count => { m with cpu := m.cpu.countDown.1 }
  | .ask beeping =>
    { { m with onThread := true }.withCpu (m.cpu.requestTone beeping) with onThread := false }

/-- Whether an action cancels the timer clock that the machine knows. -/
def cancelsTimer (m : Machine) : Action → Bool
  | .move k => (m.ending? (.move k)).isSome
  | .cancel => m.clocked
  | _ => false

end Machine

namespace Timed

/-- What happens next: something happens to the machine, or the clock with a number does its next part. -/
inductive Action where
  | act (a : Machine.Action)
  | tick (i : Nat)

/-- Whether a stop is going on after an action. -/
def Action.stops (before : Bool) : Timed.Action → Bool
  | .act a => a.stops before
  | .tick _ => before

/-- The part of a tick that is done, if there is one. -/
def part? (s : Timed) : Timed.Action → Option TickPart
  | .tick i => s.clocks[i]?.bind TimerClock.part?
  | .act _ => none

/-- One thing happens. -/
def act (s : Timed) : Timed.Action → Timed
  | .tick i =>
    ⟨(s.part? (.tick i)).elim s.machine s.machine.doPart, s.clocks.modify i (·.turn s.machine.cpu)⟩
  | .act .start =>
    if s.machine.ticks .start then ⟨s.machine.opened, .fresh :: s.clocks⟩
    else ⟨s.machine.start.1, s.clocks⟩
  | .act a =>
    ⟨s.machine.act a,
      if s.machine.cancelsTimer a then s.clocks.modifyHead TimerClock.cancel else s.clocks⟩

/-- Several things happen in order. -/
def after (s : Timed) (as : List Timed.Action) : Timed := as.foldl act s

/-- Whether an action belongs to the use of a machine. The clocks go on at any time, and a stop ends when the
timer clock has ended. -/
def permits (s : Timed) (stopping : Bool) : Timed.Action → Bool
  | .tick _ => true
  | .act .silence => s.machine.permits stopping .silence && s.clocks.head?.all (·.place = .ended)
  | .act a => s.machine.permits stopping a

/-- Whether all actions do. -/
def isSession (s : Timed) (stopping : Bool) : List Timed.Action → Bool
  | [] => true
  | a :: as => s.permits stopping a && (s.act a).isSession (a.stops stopping) as

/-- Whether a stop is going on after some actions. -/
def stoppingAfter (stopping : Bool) (as : List Timed.Action) : Bool :=
  as.foldl (fun b a => a.stops b) stopping

/-- What an action makes of a run, if it opens or ends one. -/
def milestone? (s : Timed) : Timed.Action → Option Milestone
  | .act a => s.machine.milestone? a
  | .tick _ => none

/-- What became of the runs along some actions, in order. -/
def milestones (s : Timed) : List Timed.Action → List Milestone
  | [] => []
  | a :: as => (s.milestone? a).toList ++ (s.act a).milestones as

/-- The parts of ticks that are done along some actions, in order. -/
def parts (s : Timed) : List Timed.Action → List TickPart
  | [] => []
  | a :: as => (s.part? a).toList ++ (s.act a).parts as

/-- The number of parts that are left of the ticks under way. -/
def left (s : Timed) : Nat := (s.clocks.map TimerClock.left).sum

/-- Some actions lead from outside of a stop to another moment outside of one. -/
def Reaches (s s' : Timed) : Prop :=
  ∃ as, s.isSession false as = true ∧ stoppingAfter false as = false ∧ s.after as = s'

variable {s s' : Timed} {as bs : List Timed.Action} {stopping : Bool}

@[simp] theorem after_cons (s : Timed) (a : Timed.Action) (as : List Timed.Action) :
    s.after (a :: as) = (s.act a).after as := rfl

theorem after_append (s : Timed) (as bs : List Timed.Action) : s.after (as ++ bs) = (s.after as).after bs :=
  List.foldl_append

theorem isSession_append (s : Timed) (stopping : Bool) (as bs : List Timed.Action) :
    s.isSession stopping (as ++ bs) =
      (s.isSession stopping as && (s.after as).isSession (stoppingAfter stopping as) bs) := by
  induction as generalizing s stopping with
  | nil => rw [List.nil_append, isSession, Bool.true_and]; rfl
  | cons a as ih => rw [List.cons_append, isSession, ih, isSession, Bool.and_assoc]; rfl

/-- What neither opens nor ends a run nor stops one leaves the clocks alone. -/
theorem act_of_passes {a : Machine.Action} (passes : a.passes = true) (s : Timed) :
    s.act (.act a) = ⟨s.machine.act a, s.clocks⟩ ∧
      (∀ stopping, s.permits stopping (.act a) = s.machine.permits stopping a) ∧ ∀ stopping, a.stops stopping = stopping := by
  cases a with
  | move | start | cancel | silence => cases passes
  | _ => exact ⟨rfl, fun _ => rfl, fun _ => rfl⟩

theorem act_start_of_ticks (h : s.machine.ticks .start = true) :
    s.act (.act .start) = ⟨s.machine.opened, .fresh :: s.clocks⟩ :=
  if_pos h

theorem act_start_of_not_ticks (h : s.machine.ticks .start = false) :
    s.act (.act .start) = ⟨s.machine.start.1, s.clocks⟩ :=
  if_neg (Bool.eq_false_iff.mp h)

theorem stoppingAfter_append (stopping : Bool) (as bs : List Timed.Action) :
    stoppingAfter stopping (as ++ bs) = stoppingAfter (stoppingAfter stopping as) bs :=
  List.foldl_append

end Timed

/-! ## Without the schedule -/

namespace Machine

variable {m n : Machine} {a : Action} {k : Nat} {t : Thread} {stopping : Bool}

/-- The machine with other threads, and another moment of its schedule. -/
def refit (m : Machine) (timer : Bool) (sinceTick : Nat) (threads : List Thread) : Machine :=
  { m with timer, sinceTick, threads }

/-- The machine with its schedule off. -/
def unscheduled (m : Machine) : Machine := m.refit false 0 m.threads

theorem countSnapshot_refit (m : Machine) (timer : Bool) (sinceTick : Nat) (threads : List Thread) :
    (m.refit timer sinceTick threads).countSnapshot = m.countSnapshot.refit timer sinceTick threads := by
  have same : (m.refit timer sinceTick threads).stopAfter = m.stopAfter := rfl
  unfold countSnapshot
  rw [same]
  split <;> rfl

/-- What is told has nothing to do with threads and schedule. -/
theorem tell_refit (m : Machine) (timer : Bool) (sinceTick : Nat) (threads : List Thread) (n : Notice) :
    (m.refit timer sinceTick threads).tell n = (m.tell n).refit timer sinceTick threads := by
  cases n with
  | tone | frame => rfl
  | snapshot moment =>
    let seen : Machine := { m.hear (.notice (.snapshot moment)) with debugger := (m.debugger.observe moment).1 }
    have told : (m.refit timer sinceTick threads).tell (.snapshot moment) =
        (if (m.debugger.observe moment).2 then (seen.refit timer sinceTick threads).setPolicy true
          else seen.refit timer sinceTick threads).countSnapshot := rfl
    have plain : m.tell (.snapshot moment) =
        (if (m.debugger.observe moment).2 then seen.setPolicy true else seen).countSnapshot := rfl
    rw [told, plain]
    split
    · exact countSnapshot_refit (seen.setPolicy true) timer sinceTick threads
    · exact countSnapshot_refit seen timer sinceTick threads

theorem withCpu_refit (m : Machine) (timer : Bool) (sinceTick : Nat) (threads : List Thread)
    (r : Cpu × List Notice) :
    (m.refit timer sinceTick threads).withCpu r = (m.withCpu r).refit timer sinceTick threads := by
  have all (ns : List Notice) (n : Machine) :
      (n.refit timer sinceTick threads).tellAll ns = (n.tellAll ns).refit timer sinceTick threads := by
    induction ns generalizing n with
    | nil => rfl
    | cons x ns ih =>
      rw [tellAll, List.foldl_cons, tell_refit]
      exact ih (n.tell x)
  exact all r.2 { m with cpu := r.1 }

theorem withCpu_unscheduled (m : Machine) (r : Cpu × List Notice) : m.unscheduled.withCpu r = (m.withCpu r).unscheduled := by
  rw [unscheduled, withCpu_refit, unscheduled, (told_withCpu m r).threads]

theorem withCpu_threads (m : Machine) (threads : List Thread) (r : Cpu × List Notice) :
    { m with threads }.withCpu r = { m.withCpu r with threads } := by
  have rest := (told_withCpu m r).rest
  have timer : (m.withCpu r).timer = m.timer := by rw [rest]
  have sinceTick : (m.withCpu r).sinceTick = m.sinceTick := by rw [rest]
  refine (withCpu_refit m m.timer m.sinceTick threads r).trans ?_
  rw [refit, ← timer, ← sinceTick]

theorem onThread_withCpu (m : Machine) (r : Cpu × List Notice) : (m.withCpu r).onThread = m.onThread := by
  rw [(told_withCpu m r).rest]

theorem finish_unscheduled (m : Machine) (r : StepResult) : m.unscheduled.finish r = (m.finish r).unscheduled := by
  let ended : Machine := { m with outcome := some r, timer := false }
  have silent := withCpu_unscheduled ended (m.cpu.requestTone false)
  have told : m.unscheduled.finish r =
      hear { ended.unscheduled.withCpu (m.cpu.requestTone false) with finished := true } (.finish r) := rfl
  rw [told, silent]
  rfl

/-- The thread of a timer clock does both parts of a tick. -/
def clockTick (m : Machine) : Machine := (m.doPart .count).doPart (.ask m.cpu.countDown.2)

/-- With nothing in between, the parts are the tick of a machine. -/
theorem clockTick_eq (m : Machine) :
    m.clockTick = { { m with onThread := true }.tick with onThread := false } := rfl

theorem tickIfDue_unscheduled (m : Machine) :
    m.tickIfDue.unscheduled = if m.tickDue then m.unscheduled.tick else m.unscheduled := by
  split
  · rename_i due
    rw [tickIfDue_of_due due]
    exact (withCpu_unscheduled { m with sinceTick := 0 } m.cpu.tick).symm
  · rename_i still
    obtain ⟨sinceTick, counted⟩ := tickIfDue_of_not_due (Bool.eq_false_iff.mpr still)
    rw [counted]
    rfl

/-- With its schedule off, a thread of a clock moves in the same way. Only the tick that is due is missing. -/
theorem moveThread_unscheduled {r : Machine × Option Thread} (clock : t.task.isClock = true)
    (h : Proceeds m t r) : (m.unscheduled.moveThread t).2 = r.2 ∧ r.1.unscheduled =
      if t.concludes m.cpu && m.tickDue then (m.unscheduled.moveThread t).1.tick else (m.unscheduled.moveThread t).1 := by
  have same {n : Machine} {u : Option Thread} (moved : m.unscheduled.moveThread t = (n.unscheduled, u))
      (unreported : t.concludes m.cpu = false) : (m.unscheduled.moveThread t).2 = u ∧ n.unscheduled =
        if t.concludes m.cpu && m.tickDue then (m.unscheduled.moveThread t).1.tick else (m.unscheduled.moveThread t).1 := by
    rw [moved, unreported]
    exact ⟨rfl, rfl⟩
  cases h with
  | ends ready unwanted =>
    have idle : t.enters m.cpu.gate = false := by simp [Thread.enters, ready, unwanted]
    refine same ?_ (concludes_of_idle idle (by rw [ready]; rfl))
    obtain ⟨task, place⟩ := t
    cases ready
    cases unwanted
    rfl
  | parks ready wanted closed =>
    have idle : t.enters m.cpu.gate = false := by simp [Thread.enters, ready, closed]
    exact same (moveThread_of_closed (m := m.unscheduled) ready wanted closed)
      (concludes_of_idle idle (by rw [ready]; rfl))
  | @stops result enters stop =>
    have ends := ne_carryOn_of_stop stop
    have unfinished : m.cpu.cycle.2.word? = none := by
      cases outcome : m.cpu.cycle.2 <;> rw [outcome] at stop <;> first | rfl | cases stop
    rw [goOn, afterResult_of_clock clock ends]
    refine same ?_ (concludes_of_unfinished enters unfinished)
    rw [moveThread_of_enters (m := m.unscheduled) enters, perform_of_stop (m := m.unscheduled) stop,
      afterResult_of_clock clock ends, goOn]
    exact congrArg (·, none) (finish_unscheduled { m with cpu := m.cpu.cycle.1 } result)
  | @raises e enters raised =>
    obtain ⟨task, place⟩ := t
    cases task with
    | steps | run | single => cases clock
    | clock live =>
      refine same ?_ (concludes_of_unfinished enters (by rw [raised]; rfl))
      rw [moveThread_of_enters (m := m.unscheduled) enters, perform_of_refused (m := m.unscheduled) raised]
      rfl
  | @reports c w o ready =>
    obtain ⟨task, place⟩ := t
    cases task with
    | steps | run | single => cases clock
    | clock live =>
      let reported := m.withCpu (c.conclude w o)
      have due : reported.tickDue = m.tickDue := (told_withCpu m (c.conclude w o)).tickDue
      have still : reported.unscheduled.tickIfDue = reported.unscheduled := rfl
      have moved : m.unscheduled.moveThread ⟨.clock live, place⟩ =
          (reported.unscheduled, if live then some ⟨.clock true, .ready⟩ else none) := by
        rw [moveThread_of_ready (m := m.unscheduled) ready, withCpu_unscheduled]
        cases live <;> exact congrArg (·, _) still
      rw [moved, concludes_iff.mpr ⟨w, o, c, ready⟩, Bool.true_and, ← due]
      refine ⟨by cases live <;> rfl, ?_⟩
      have left : (goOn (reported.afterResult (.clock live) .carryOn)).1 = reported.tickIfDue := rfl
      exact (congrArg unscheduled left).trans (tickIfDue_unscheduled reported)
  | @waits c w o asks up =>
    refine same ?_ (concludes_of_up asks up)
    have none : Keypad.first? (cpu { m.unscheduled with cpu := c }).keypad = none := up
    rw [moveThread_of_asks (m := m.unscheduled) asks, awaitKey_of_up none]
    rfl

/-- Whoever moves a thread of a clock stays who he is. -/
theorem onThread_of_proceeds {r : Machine × Option Thread} (clock : t.task.isClock = true)
    (h : Proceeds m t r) : r.1.onThread = m.onThread := by
  obtain ⟨task, place⟩ := t
  cases task with
  | steps | run | single => cases clock
  | clock live =>
    cases h with
    | ends | parks | raises | waits => rfl
    | @stops result enters stop =>
      rw [goOn, afterResult_of_clock clock (ne_carryOn_of_stop stop)]
      exact onThread_withCpu _ _
    | @reports c w o ready =>
      let reported := m.withCpu (c.conclude w o)
      have ticked : reported.tickIfDue.onThread = reported.onThread := by
        cases due : reported.tickDue with
        | true =>
          rw [tickIfDue_of_due due]
          exact onThread_withCpu _ _
        | false =>
          obtain ⟨sinceTick, counted⟩ := tickIfDue_of_not_due due
          rw [counted]
      exact ticked.trans (onThread_withCpu _ _)

theorem move_unscheduled (clocks : ∀ t ∈ m.threads, t.task.isClock = true) (k : Nat) : (m.move k).unscheduled =
    if m.ticks (.move k) then (m.unscheduled.move k).clockTick else m.unscheduled.move k := by
  rcases stopped_or_proceeds m k with stopped | ⟨t, r, ht, runs, proceeds, moved⟩
  · have still : m.ticks (.move k) = false := by
      rw [ticks, not_concludes_of_stopped stopped]
      rfl
    rw [move_of_stopped stopped, still, move_of_stopped (m := m.unscheduled) stopped]
    rfl
  have clock := clocks t (List.mem_of_getElem? ht)
  obtain ⟨left, rest⟩ := moveThread_unscheduled clock proceeds
  have moved' := move_eq (m := m.unscheduled) ht runs
  rw [ticks_move ht, clock, Bool.and_true]
  let mover : Machine := { m.unscheduled with threads := m.threads.eraseIdx k, onThread := true }
  have moving : (mover.moveThread t).1.onThread = true :=
    onThread_of_proceeds clock (proceeds_moveThread mover runs)
  change (mover.moveThread t).2 = r.2 at left
  change r.1.unscheduled = if t.concludes m.cpu && m.tickDue then (mover.moveThread t).1.tick else (mover.moveThread t).1 at rest
  change m.unscheduled.move k = { (mover.moveThread t).1 with
    threads := m.threads.take k ++ (mover.moveThread t).2.toList ++ m.threads.drop (k + 1), onThread := false } at moved'
  generalize mover.moveThread t = r' at moving left rest moved'
  have replaced : (m.move k).unscheduled = { r.1.unscheduled with
      threads := m.threads.take k ++ r.2.toList ++ m.threads.drop (k + 1), onThread := false } := by
    rw [moved]
    rfl
  rw [replaced, rest, moved', left]
  split
  · let threads := m.threads.take k ++ r.2.toList ++ m.threads.drop (k + 1)
    have same : { r'.1 with threads, onThread := true } = { r'.1 with threads } :=
      congrArg (fun b : Bool => { r'.1 with threads, onThread := b }) moving.symm
    have ticked : tick { r'.1 with threads, onThread := true } = { r'.1.tick with threads } := by
      rw [same]
      exact withCpu_threads r'.1 threads r'.1.cpu.tick
    rw [clockTick_eq]
    exact (congrArg (fun n : Machine => { n with onThread := false }) ticked).symm
  · rfl

theorem start_snd (m : Machine) : m.start.2 =
    if m.isRunning then none else if m.cpuHz.period?.isNone then some .noPeriod
    else if m.timerHz.period?.isNone then some .noPeriod else none := by
  unfold start
  dsimp only
  split
  · rfl
  split
  · rfl
  split <;> rfl

theorem ticks_start_unscheduled (m : Machine) : m.unscheduled.ticks .start = m.ticks .start := by
  rw [ticks, start_snd, ticks, start_snd]
  rfl

theorem start_unscheduled_of_ticks (h : m.ticks .start = true) : m.start.1.unscheduled = m.unscheduled.opened.clockTick := by
  let opening : Machine := m.opening.unscheduled
  let threads := m.threads ++ [⟨.clock true, .ready⟩]
  have ticked : tick { opening with threads } = { m.opening.tick.unscheduled with threads } := by
    refine (withCpu_threads opening threads m.cpu.tick).trans ?_
    exact congrArg (fun n : Machine => { n with threads }) (withCpu_unscheduled m.opening m.cpu.tick)
  have kept : m.opening.tick.threads = m.threads := (told_withCpu m.opening _).threads
  have spawned : (({ m.opening.tick with onThread := false } : Machine).spawn (.clock true)).unscheduled =
      { m.opening.tick.unscheduled with
        threads := m.opening.tick.threads ++ [⟨.clock true, .ready⟩], onThread := false } := rfl
  rw [start_of_ticks h, clockTick_eq, spawned, kept]
  exact (congrArg (fun n : Machine => { n with onThread := false }) ticked).symm

theorem start_unscheduled_of_not_ticks (h : m.ticks .start = false) : m.start.1.unscheduled = m.unscheduled.start.1 := by
  have stands {n : Machine} (still : n.ticks .start = false) : n.start.1 =
      if n.isRunning then n else if n.cpuHz.period?.isNone then { n with outcome := none, finished := false }
      else { n with outcome := none, finished := false, clocked := true } := by
    rw [ticks, start_snd] at still
    unfold start
    dsimp only
    split
    · rfl
    rename_i idle
    rw [if_neg idle] at still
    split
    · rfl
    rename_i period
    rw [if_neg period] at still
    split
    · rfl
    rename_i period'
    rw [if_neg period', Bool.eq_false_iff.mpr idle] at still
    cases still
  rw [stands h, stands ((ticks_start_unscheduled m).trans h), apply_ite unscheduled, apply_ite unscheduled]
  rfl

/-- Nothing else has to do with the schedule. -/
theorem act_unscheduled (permits : m.permits stopping a = true) (other : a ≠ .start) (stays : ∀ k, a ≠ .move k) :
    (m.act a).unscheduled = m.unscheduled.act a := by
  cases a with
  | move k => exact absurd rfl (stays k)
  | start => exact absurd rfl other
  | tick | step | debugRun | debugStep => cases permits
  | reset | load => exact (withCpu_unscheduled m _).symm
  | silence => exact congrArg (fun n : Machine => { n with clocked := false }) (withCpu_unscheduled m _).symm
  | cancel =>
    simp only [act, cancel]
    split
    · rename_i clocked
      rw [if_pos (by exact clocked)]
      rfl
    · rename_i clocked
      rw [if_neg (by exact clocked)]
  | stepPaused =>
    simp only [act, stepPaused]
    split
    · rename_i paused
      rw [if_pos (by exact paused)]
      rfl
    · rename_i paused
      rw [if_neg (by exact paused)]
  | _ => rfl

/-- The clocks are the only ones to have threads, whatever happens in a session. -/
theorem clocks_act (clocks : ∀ t ∈ m.threads, t.task.isClock = true) (permits : m.permits stopping a = true) :
    ∀ t ∈ (m.act a).threads, t.task.isClock = true := by
  have kept {n : Machine} (keeps : m.Keeps n) : ∀ t ∈ n.threads, t.task.isClock = true := fun v hv => by
    obtain ⟨t, ht, task, -⟩ := keeps.mem v hv
    rw [task]
    exact clocks t ht
  cases a with
  | move k => exact kept (keeps_move clocks k)
  | start =>
    cases ticks : m.ticks .start with
    | true =>
      intro t ht
      rw [act, threads_start ticks, List.mem_append, List.mem_singleton] at ht
      rcases ht with old | rfl
      · exact clocks t old
      · rfl
    | false =>
      obtain ⟨outcome, finished, clocked, same⟩ := start_of_not_ticks ticks
      rw [act, same]
      exact clocks
  | cancel =>
    by_cases clocked : m.clocked = true
    · exact fun t ht => by rw [(deserted_cancel clocks clocked t ht).1]; rfl
    · rw [act, cancel, if_neg clocked]
      exact clocks
  | silence => exact kept (.of_threads (told_withCpu m _).threads)
  | tick | step | debugRun | debugStep => cases permits
  | _ => exact kept (keeps_of_passes rfl permits)

end Machine

/-! ## What the schedule does, the clocks can do -/

namespace Timed

variable {s : Timed} {m : Machine} {a : Machine.Action} {as : List Machine.Action} {k : Nat}
  {stopping behind : Bool}

/-- A machine that goes by its schedule, seen as one with its timer clocks beside it. No tick of the last run's
clock is under way. -/
structure Shadows (s : Timed) (stopping : Bool) (m : Machine) : Prop where
  machine : s.machine = m.unscheduled
  stopped : stopping = true → m.timer = false
  ticking : m.timer = true → ∃ cs, s.clocks = .fresh :: cs
  cancelled : m.timer = false →
    ∀ c ∈ s.clocks.head?, c.cancelled = true ∧ (c.place = .looking ∨ c.place = .ended)

/-- Some actions of a session lead to what a machine by itself comes to. -/
def LeadsTo (s : Timed) (stopping behind : Bool) (m : Machine) : Prop :=
  ∃ as, s.isSession stopping as = true ∧ stoppingAfter stopping as = behind ∧ (s.after as).Shadows behind m

theorem permits_unscheduled (m : Machine) (stopping : Bool) (a : Machine.Action) :
    m.unscheduled.permits stopping a = m.permits stopping a := by
  cases a <;> rfl

/-- The clock of the last run ticks once. -/
theorem after_ticks {cs : List TimerClock} (h : s.clocks = .fresh :: cs) :
    s.after [.tick 0, .tick 0, .tick 0] = ⟨s.machine.clockTick, s.clocks⟩ := by
  obtain ⟨m, _⟩ := s
  subst h
  rfl

theorem act_move (h : s.machine = m.unscheduled) (k : Nat) : s.act (.act (.move k)) = ⟨m.unscheduled.move k,
    if (m.ending? (.move k)).isSome then s.clocks.modifyHead TimerClock.cancel else s.clocks⟩ := by
  have moved : s.act (.act (.move k)) = ⟨s.machine.move k,
      if (s.machine.ending? (.move k)).isSome then s.clocks.modifyHead TimerClock.cancel else s.clocks⟩ := rfl
  rw [moved, h]
  rfl

/-- Who cancels the clock of the last run finds it between two ticks. -/
theorem Shadows.cancel (h : s.Shadows stopping m) :
    ∀ c ∈ (s.clocks.modifyHead TimerClock.cancel).head?,
      c.cancelled = true ∧ (c.place = .looking ∨ c.place = .ended) := by
  rw [List.head?_modifyHead]
  intro c hc
  obtain ⟨d, hd, rfl⟩ := Option.map_eq_some_iff.mp hc
  refine ⟨rfl, ?_⟩
  cases on : m.timer with
  | true =>
    obtain ⟨cs, fresh⟩ := h.ticking on
    rw [fresh, List.head?_cons, Option.some.injEq] at hd
    exact .inl (congrArg TimerClock.place hd.symm)
  | false => exact (h.cancelled on d hd).2

theorem Shadows.move (h : s.Shadows stopping m) (clocks : ∀ t ∈ m.threads, t.task.isClock = true) (k : Nat) :
    s.LeadsTo stopping stopping (m.move k) := by
  have moved := act_move h.machine k
  have unscheduled := m.move_unscheduled clocks k
  have timer := congrArg Course.timer (m.course_move k)
  cases ticks : m.ticks (.move k) with
  | true =>
    have on : m.timer = true := by
      simp only [Machine.ticks, Machine.tickDue, Bool.and_eq_true] at ticks
      exact ticks.1.2.1
    have unended : m.ending? (.move k) = none := by
      have quiet := m.not_hushes_of_ticks ticks
      rwa [Machine.hushes, Option.isSome_eq_false_iff, Option.isNone_iff_eq_none] at quiet
    obtain ⟨cs, fresh⟩ := h.ticking on
    rw [unended] at moved timer
    refine ⟨[.act (.move k), .tick 0, .tick 0, .tick 0], rfl, rfl, ?_⟩
    have reached : s.after [.act (.move k), .tick 0, .tick 0, .tick 0] =
        ⟨(m.unscheduled.move k).clockTick, s.clocks⟩ := by
      rw [after_cons, moved]
      exact after_ticks (s := ⟨m.unscheduled.move k, s.clocks⟩) fresh
    rw [ticks] at unscheduled
    rw [reached]
    exact ⟨unscheduled.symm, fun stops => timer.trans (h.stopped stops), fun _ => ⟨cs, fresh⟩,
      fun off => absurd (off.symm.trans (timer.trans on)) Bool.false_ne_true⟩
  | false =>
    rw [ticks] at unscheduled
    refine ⟨[.act (.move k)], rfl, rfl, ?_⟩
    have reached : s.after [.act (.move k)] = s.act (.act (.move k)) := rfl
    rw [reached, moved]
    cases ending : m.ending? (.move k) with
    | none =>
      rw [ending] at timer
      exact ⟨unscheduled.symm, fun stops => timer.trans (h.stopped stops), fun on => h.ticking (timer.symm.trans on),
        fun off => h.cancelled (timer.symm.trans off)⟩
    | some r =>
      rw [ending] at timer
      exact ⟨unscheduled.symm, fun _ => timer, fun on => absurd (timer.symm.trans on) Bool.false_ne_true, fun _ => h.cancel⟩

theorem Shadows.start (h : s.Shadows false m) : s.LeadsTo false false m.start.1 := by
  cases ticks : m.ticks .start with
  | true =>
    have opens : s.machine.ticks .start = true := by rw [h.machine, Machine.ticks_start_unscheduled, ticks]
    have reached : s.after [.act .start, .tick 0, .tick 0, .tick 0] =
        ⟨m.unscheduled.opened.clockTick, .fresh :: s.clocks⟩ := by
      rw [after_cons, act_start_of_ticks opens, after_ticks rfl, h.machine]
    have timer : m.start.1.timer = true := congrArg Course.timer (Machine.course_start ticks)
    refine ⟨[.act .start, .tick 0, .tick 0, .tick 0], rfl, rfl, ?_⟩
    rw [reached]
    exact ⟨(Machine.start_unscheduled_of_ticks ticks).symm, nofun, fun _ => ⟨_, rfl⟩,
      fun off => absurd (off.symm.trans timer) Bool.false_ne_true⟩
  | false =>
    have still : s.machine.ticks .start = false := by rw [h.machine, Machine.ticks_start_unscheduled, ticks]
    have stands : s.after [.act .start] = ⟨m.unscheduled.start.1, s.clocks⟩ := by
      rw [after_cons, act_start_of_not_ticks still, h.machine]
      rfl
    have timer : m.start.1.timer = m.timer := by
      obtain ⟨outcome, finished, clocked, same⟩ := Machine.start_of_not_ticks ticks
      rw [same]
    refine ⟨[.act .start], rfl, rfl, ?_⟩
    rw [stands]
    exact ⟨(Machine.start_unscheduled_of_not_ticks ticks).symm, nofun, fun on => h.ticking (timer.symm.trans on),
      fun off => h.cancelled (timer.symm.trans off)⟩

theorem Shadows.pass (h : s.Shadows stopping m) (passes : a.passes = true) (permits : m.permits stopping a = true) :
    s.LeadsTo stopping stopping (m.act a) := by
  obtain ⟨reached, permitted, idle⟩ := act_of_passes passes s
  have timer : (m.act a).timer = m.timer := congrArg Course.timer (Machine.course_of_passes passes)
  refine ⟨[.act a], ?_, idle stopping, ?_⟩
  · rw [isSession, permitted, h.machine, permits_unscheduled, permits]
    rfl
  have unscheduled : (m.act a).unscheduled = m.unscheduled.act a := by
    refine Machine.act_unscheduled permits ?_ ?_
    · rintro rfl
      cases passes
    · rintro k rfl
      cases passes
  rw [after_cons, reached, h.machine]
  exact ⟨unscheduled.symm, fun stops => timer.trans (h.stopped stops), fun on => h.ticking (timer.symm.trans on),
    fun off => h.cancelled (timer.symm.trans off)⟩

/-- A cancelled clock between two ticks ends with its next part. -/
theorem Shadows.join (h : s.Shadows stopping m) (off : m.timer = false) : ∃ cs, s.act (.tick 0) = ⟨s.machine, cs⟩ ∧
    ∀ c ∈ cs.head?, c.cancelled = true ∧ c.place = .ended := by
  have cancelled := h.cancelled off
  obtain ⟨n, clocks⟩ := s
  cases clocks with
  | nil => exact ⟨[], rfl, nofun⟩
  | cons c cs =>
    obtain ⟨dead, place⟩ := cancelled c rfl
    obtain ⟨_, _⟩ := c
    subst dead
    rcases place with rfl | rfl
    · exact ⟨_, rfl, by rintro c ⟨⟩; exact ⟨rfl, rfl⟩⟩
    · exact ⟨_, rfl, by rintro c ⟨⟩; exact ⟨rfl, rfl⟩⟩

theorem Shadows.silence (h : s.Shadows true m) (permits : m.permits true .silence = true) :
    s.LeadsTo true false m.silence := by
  have off := h.stopped rfl
  obtain ⟨cs, joined, ended⟩ := h.join off
  have timer : m.silence.timer = false :=
    (congrArg Course.timer (Machine.course_withCpu m (m.cpu.requestTone false))).trans off
  have unscheduled := Machine.act_unscheduled permits (by rintro ⟨⟩) (by rintro k ⟨⟩)
  have permitted : Timed.permits ⟨m.unscheduled, cs⟩ true (.act .silence) = true := by
    have gone : cs.head?.all (·.place = .ended) = true := by
      cases head : cs.head? with
      | none => rfl
      | some c => exact decide_eq_true (ended c head).2
    have same : Timed.permits ⟨m.unscheduled, cs⟩ true (.act .silence) =
        (m.unscheduled.permits true .silence && cs.head?.all (·.place = .ended)) := rfl
    rw [same, permits_unscheduled, permits, gone]
    rfl
  rw [h.machine] at joined
  refine ⟨[.tick 0, .act .silence], ?_, rfl, ?_⟩
  · have first : s.permits true (.tick 0) = true := rfl
    have second : isSession ⟨m.unscheduled, cs⟩ true [.act .silence] = true := by
      rw [isSession, permitted]
      rfl
    rw [isSession, first, joined]
    exact second
  · have reached : s.after [.tick 0, .act .silence] = ⟨m.unscheduled.silence, cs⟩ := by
      rw [after_cons, joined]
      rfl
    rw [reached]
    exact ⟨unscheduled.symm, nofun, fun on => absurd (timer.symm.trans on) Bool.false_ne_true,
      fun _ c hc => ⟨(ended c hc).1, .inr (ended c hc).2⟩⟩

theorem Shadows.act (h : s.Shadows stopping m) (clocks : ∀ t ∈ m.threads, t.task.isClock = true)
    (permits : m.permits stopping a = true) : s.LeadsTo stopping (a.stops stopping) (m.act a) := by
  cases a with
  | move k => exact h.move clocks k
  | start =>
    have idle : stopping = false := by simpa [Machine.permits] using permits
    subst idle
    exact h.start
  | cancel =>
    have clocked : m.clocked = true := permits
    have timer : (m.act .cancel).timer = false := by
      rw [Machine.act, Machine.cancel, if_pos clocked]
      rfl
    have unscheduled := Machine.act_unscheduled permits (by rintro ⟨⟩) (by rintro k ⟨⟩)
    have reached : s.after [.act .cancel] = ⟨m.unscheduled.cancel, s.clocks.modifyHead TimerClock.cancel⟩ := by
      have cancels : s.machine.cancelsTimer .cancel = true := by
        rw [h.machine]
        exact clocked
      rw [after_cons, Timed.act, cancels, h.machine]
      · rfl
      · rintro ⟨⟩
    refine ⟨[.act .cancel], ?_, rfl, ?_⟩
    · have permitted : s.permits stopping (.act .cancel) = true := by
        have same : s.permits stopping (.act .cancel) = s.machine.permits stopping .cancel := rfl
        rw [same, h.machine]
        exact clocked
      rw [isSession, permitted]
      rfl
    · rw [reached]
      exact ⟨unscheduled.symm, fun _ => timer, fun on => absurd (timer.symm.trans on) Bool.false_ne_true, fun _ => h.cancel⟩
  | silence =>
    have stops : stopping = true := (Bool.and_eq_true_iff.mp permits).1
    subst stops
    exact h.silence permits
  | _ => exact h.pass rfl permits

theorem Shadows.after (h : s.Shadows stopping m) (clocks : ∀ t ∈ m.threads, t.task.isClock = true)
    (session : m.isSession stopping as = true) :
    s.LeadsTo stopping (Machine.stoppingAfter stopping as) (m.after as) := by
  induction as generalizing s m stopping with
  | nil => exact ⟨[], rfl, rfl, h⟩
  | cons a as ih =>
    obtain ⟨permits, rest⟩ := Bool.and_eq_true_iff.mp session
    obtain ⟨bs, first, behind, shadows⟩ := h.act clocks permits
    obtain ⟨cs, second, behind', shadows'⟩ := ih shadows (Machine.clocks_act clocks permits) rest
    refine ⟨bs ++ cs, ?_, ?_, ?_⟩
    · rw [isSession_append, first, behind, second]
      rfl
    · rw [stoppingAfter_append, behind, behind']
      rfl
    · rw [after_append]
      exact shadows'

/-- Every request to a machine that goes by its schedule, followed by what its threads do until all have stopped, is
made up of actions of a session. -/
theorem Shadows.request (h : s.Shadows false m) (staffed : m.Staffed false)
    (few : m.threads.length ≤ Machine.patience) (q : Machine.Request) :
    s.LeadsTo false false (m.request q).settle := by
  obtain ⟨as, session, idle, reached⟩ := Machine.reaches_request staffed few q
  have leads := h.after staffed.clocks session
  rwa [idle, reached] at leads

end Timed

end Hexscope
