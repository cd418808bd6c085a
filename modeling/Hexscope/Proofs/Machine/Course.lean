import Hexscope.Proofs.Machine.Tone

/-!
# The course of a machine

A machine is started, runs, and ends or is stopped. `Machine.course` is what it knows of this itself: whether
its clocks were made, whether the timer clock ticks, how the last run ended, and which ends its listeners
heard. Opening a run, ending one and stopping change it, and nothing else does.

* `Machine.course_move`: the course changes with a move that ends the run of a clock, and with no other;
* `Machine.course_of_passes`: requests that are not about runs leave the course alone;
* `Machine.left_of_proceeds`: what is left of a clock's thread when it has moved.
-/

namespace Hexscope

/-- The end of a run that an event tells, if it tells one. -/
def Event.finish? : Event → Option StepResult
  | .finish r => some r
  | _ => none

/-- What a machine knows of its runs. -/
structure Course where
  cpuHz : Frequency
  timerHz : Frequency
  clocked : Bool
  timer : Bool
  outcome : Option StepResult
  /-- The ends that the listeners were told, oldest first. -/
  finishes : List StepResult

/-- The course when a run has ended. -/
def Course.ended (c : Course) (r : StepResult) : Course :=
  { c with timer := false, outcome := some r, finishes := c.finishes ++ [r] }

/-- The course when a run was opened. -/
def Course.opened (c : Course) : Course := { c with clocked := true, timer := true, outcome := none }

namespace Machine

/-- Whether a request is not about opening or stopping runs. -/
def Action.passes : Action → Bool
  | .move _ | .start | .cancel | .silence => false
  | _ => true

variable {m n : Machine} {a : Action} {k : Nat} {t : Thread} {ns : List Notice} {task : Task}

/-- The ends of runs that the listeners were told and nobody has taken yet, oldest first. -/
def finishes (m : Machine) : List StepResult := m.events.filterMap Event.finish?

/-- What a machine knows of its runs. -/
def course (m : Machine) : Course :=
  ⟨m.cpuHz, m.timerHz, m.clocked, m.timer, m.outcome, m.finishes⟩

/-! ## What leaves the course alone -/

/-- No notice tells the end of a run. -/
theorem Told.course (h : m.Told n ns) : n.course = m.course := by
  have silent : (ns.flatMap fun notice =>
      List.replicate (m.listeners (.notice notice)) (Event.notice notice)).filterMap Event.finish? =
        [] := by
    rw [List.filterMap_eq_nil_iff]
    intro e he
    obtain ⟨notice, -, he⟩ := List.mem_flatMap.mp he
    rw [List.eq_of_mem_replicate he]
    rfl
  have finishes : n.finishes = m.finishes := by
    rw [Machine.finishes, h.events, List.filterMap_append, silent, List.append_nil, Machine.finishes]
  rw [Machine.course, finishes, h.rest, Machine.course]

theorem course_withCpu (m : Machine) (told : Cpu × List Notice) :
    (m.withCpu told).course = m.course :=
  (told_withCpu m told).course

theorem course_hear {e : Event} (silent : e.finish? = none) (m : Machine) :
    (m.hear e).course = m.course := by
  have finishes : (m.hear e).finishes = m.finishes := by
    rw [Machine.finishes, events_hear, List.filterMap_append, List.filterMap_replicate, silent,
      List.append_nil, Machine.finishes]
  rw [course, finishes]
  rfl

theorem course_tickIfDue (m : Machine) : m.tickIfDue.course = m.course := by
  unfold tickIfDue
  split
  · rfl
  split
  · rfl
  · exact course_withCpu { m with sinceTick := 0 } _

/-! ## What changes it -/

theorem course_finish (m : Machine) (r : StepResult) : (m.finish r).course = m.course.ended r := by
  let silent := withCpu { m with outcome := some r, timer := false } (m.cpu.requestTone false)
  have course : silent.course = { m.course with outcome := some r, timer := false } :=
    course_withCpu _ _
  have told : (m.finish r).finishes = silent.finishes ++ [r] := by
    unfold finish
    rw [finishes, events_hear, List.filterMap_append]
    rfl
  have finishes : silent.finishes = m.finishes := congrArg Course.finishes course
  have rest : (m.finish r).course = { silent.course with finishes := (m.finish r).finishes } := rfl
  rw [rest, told, finishes, course, Course.ended]
  rfl

theorem course_afterResult_of_hand (hand : task.isClock = false) (m : Machine) (r : StepResult) :
    (m.afterResult task r).1.course = m.course := by
  cases task with
  | steps left => exact course_hear rfl m
  | run limit taken =>
    simp only [afterResult]
    split
    · exact course_hear rfl m.endRun
    · rfl
  | single armed =>
    simp only [afterResult]
    split
    · exact course_hear rfl (m.setPolicy true)
    · exact course_hear rfl m
  | clock live => cases hand

theorem course_afterResult_of_carryOn (m : Machine) (task : Task) :
    (m.afterResult task .carryOn).1.course = m.course := by
  cases task with
  | clock live => exact course_tickIfDue m
  | steps | run | single => exact course_afterResult_of_hand rfl m .carryOn

theorem course_afterRaise (m : Machine) (task : Task) (e : AccessError) :
    (m.afterRaise task e).course = m.course := by
  cases task with
  | steps left => exact course_hear rfl m
  | run limit taken => exact course_hear rfl { m with stopAfter := none }
  | single armed =>
    simp only [afterRaise]
    split
    · exact course_hear rfl (m.setPolicy true)
    · exact course_hear rfl m
  | clock live => rfl

/-- The course changes with a move that ends the run of a clock. -/
theorem course_of_proceeds {r : Machine × Option Thread} (h : Proceeds m t r) :
    r.1.course = (t.ending? m.cpu).elim m.course m.course.ended := by
  cases h with
  | ends ready unwanted =>
    rw [ending?_of_unstopped fun enters => by simp [Thread.enters, ready, unwanted] at enters]
    rfl
  | parks ready _ closed =>
    rw [ending?_of_unstopped fun enters => by simp [Thread.enters, ready, closed] at enters]
    rfl
  | @stops result enters stop =>
    rw [ending?_of_stop enters stop]
    cases clock : t.task.isClock with
    | true =>
      rw [goOn, afterResult_of_clock clock (ne_carryOn_of_stop stop)]
      exact course_finish _ result
    | false => exact course_afterResult_of_hand clock _ result
  | @raises e enters raised =>
    rw [ending?_of_unstopped fun _ => by rw [raised]; rfl]
    exact course_afterRaise _ t.task e
  | @reports c w o ready =>
    rw [ending?_of_ready ready]
    exact (course_afterResult_of_carryOn _ t.task).trans (course_withCpu m _)
  | @waits c w o asks _ =>
    rw [ending?_of_asks asks]
    rfl

/-- The course changes with a move that ends the run of a clock, and with no other. -/
theorem course_move (m : Machine) (k : Nat) :
    (m.move k).course = (m.ending? (.move k)).elim m.course m.course.ended := by
  rcases stopped_or_proceeds m k with stopped | ⟨t, r, ht, -, proceeds, moved⟩
  · rw [move_of_stopped stopped, not_ending_of_stopped stopped]
    rfl
  · rw [moved, ending?, ht, Option.bind_some]
    have course := course_of_proceeds proceeds
    exact course

/-- Who opens a run. -/
theorem course_start (h : m.ticks .start = true) : m.start.1.course = m.course.opened := by
  rw [start_of_ticks h]
  exact course_withCpu m.opening _

/-- Requests that are not about runs leave the course alone. -/
theorem course_of_passes (h : a.passes = true) : (m.act a).course = m.course := by
  cases a with
  | move | start | cancel | silence => cases h
  | tick | reset | load => exact course_withCpu m _
  | stepPaused =>
    simp only [act, stepPaused]
    split <;> rfl
  | step j =>
    simp only [act, step]
    split <;> rfl
  | debugStep =>
    simp only [act, debugStep]
    split <;> rfl
  | pause | resume | press | release | releaseAll | debugRun | debugResume => rfl

/-! ## Threads of clocks -/

/-- What is left of a clock's thread when it has moved is a thread of the same clock. It has gone if the run
has ended, and if the clock does not want it, it has gone or waits for a key. -/
theorem left_of_proceeds {r : Machine × Option Thread} (h : Proceeds m t r)
    (clock : t.task.isClock = true) : ∀ u ∈ r.2, u.task = t.task ∧ t.ending? m.cpu = none ∧
      (t.isLiveClock = true ∨ u.place.isKeyWait = true) := by
  obtain ⟨task, place⟩ := t
  cases task with
  | steps | run | single => cases clock
  | clock live =>
    cases h with
    | ends | raises => rintro u ⟨⟩
    | parks ready wanted closed =>
      rintro u ⟨⟩
      refine ⟨rfl, ending?_of_unstopped fun enters => ?_, .inl ?_⟩
      · simp [Thread.enters, show place = .ready from ready, closed] at enters
      · cases live
        · exact absurd rfl wanted
        · rfl
    | stops _ stop =>
      rw [goOn, afterResult_of_clock rfl (ne_carryOn_of_stop stop)]
      rintro u ⟨⟩
    | reports ready =>
      cases live with
      | false => rintro u ⟨⟩
      | true =>
        rintro u ⟨⟩
        exact ⟨rfl, ending?_of_ready ready, .inl rfl⟩
    | waits asks _ =>
      rintro u ⟨⟩
      exact ⟨rfl, ending?_of_asks asks, .inr rfl⟩

end Machine

end Hexscope
