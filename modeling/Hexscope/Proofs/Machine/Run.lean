import Mathlib.Data.List.TakeDrop
import Hexscope.Proofs.Machine.Move
import Hexscope.Proofs.Cpu.Rest

/-!
# Runs of a machine

An `Action` is one thing that happens to a machine: a thread moves, or somebody asks for something.
A run is a list of actions in any order (`Machine.after`), so it says nothing about which thread
moves when. Ending a run of the clock takes two actions with moves between them.

* `Machine.turns_moveThread`: what a move does to the processor and to the thread, and which
  snapshots it tells (`Turns`, of which `Moves` is what concerns the processor);
* `Machine.stopped_or_proceeds`: the way in which a thread of a machine moves, if one does;
* `Machine.stays_or_opens`, `Machine.tells_act`: what asking does. The processor rests, the threads
  stay where they are or there is one more, and no snapshot is told;
* `Machine.law_after`: a law of processors holds along every run;
* `Machine.settle_eq_after`, `Machine.stop_eq_after`: letting the threads settle, and stopping, are
  runs.
-/

namespace Hexscope

/-- The instruction in which a thread is stopped, if it is stopped inside one. -/
def Place.inside? : Place → Option (Fetched × Operation)
  | .key w o | .woken w o => some (w, o)
  | _ => none

@[simp] theorem Place.inside?_release (p : Place) : p.release.inside? = p.inside? := by
  cases p <;> rfl

@[simp] theorem Place.inside?_wake (p : Place) : p.wake.inside? = p.inside? := by
  cases p <;> rfl

@[simp] theorem Thread.place_cancel (t : Thread) : t.cancel.place = t.place := by
  unfold Thread.cancel
  split <;> rfl

@[simp] theorem Gate.shouldWait_release (g : Gate) : g.release.1.shouldWait = g.shouldWait := by
  unfold release
  split <;> rfl

/-- The snapshot that an event tells, if it tells one. -/
def Event.moment? : Event → Option Moment
  | .notice n => n.moment?
  | _ => none

/-- What a debugger knows of the snapshots that it has seen: all but the hit, and whether a run of its
own goes on. -/
def Debugger.record (d : Debugger) : Debugger := { d with running := false, hit := none }

/-- What a debugger knows after one more snapshot. -/
def Debugger.see (d : Debugger) (moment : Moment) : Debugger := (d.observe moment).1.record

/-- The hit has no influence on what is seen. -/
theorem Debugger.record_observe (d : Debugger) (moment : Moment) :
    (d.observe moment).1.record = d.record.see moment := by
  unfold see observe
  split <;> rfl

namespace Machine

/-! ## Telling -/

/-- The processor rests, and the threads stay where they are. -/
structure Quiet (m n : Machine) : Prop where
  rests : m.cpu.Rests n.cpu
  threads : n.threads = m.threads

/-- The snapshots that the listeners were told and nobody has taken yet, newest first. -/
def moments (m : Machine) : List Moment := m.heard.filterMap (·.event.moment?)

/-- The processor came to rest as it is after some operation, its bus and access log are as they were
then, and each listener was told some snapshots, and so was the debugger. -/
structure Tells (c : Cpu) (m n : Machine) (told : List Moment) : Prop where
  rests : c.Rests n.cpu
  bus : n.cpu.bus = c.bus
  listeners : n.snapshotListeners = m.snapshotListeners
  moments : n.moments = told.reverse.flatMap (List.replicate m.snapshotListeners) ++ m.moments
  record : n.debugger.record = told.foldl Debugger.see m.debugger.record

/-- The processor rests, each listener is told some snapshots, and the threads stay where they are. -/
structure Says (m n : Machine) (told : List Moment) : Prop extends Tells m.cpu m n told where
  threads : n.threads = m.threads

variable {c : Cpu} {m n l : Machine} {told more : List Moment}

namespace Quiet

theorem refl (m : Machine) : m.Quiet m := ⟨.refl _, rfl⟩

theorem trans (h : m.Quiet n) (h' : n.Quiet l) : m.Quiet l :=
  ⟨h.rests.trans h'.rests, h'.threads.trans h.threads⟩

end Quiet

namespace Tells

theorem refl (m : Machine) : Tells m.cpu m m [] := ⟨.refl _, rfl, rfl, rfl, rfl⟩

theorem trans (h : Tells c m n told) (h' : Tells n.cpu n l more) : Tells c m l (told ++ more) where
  rests := h.rests.trans h'.rests
  bus := h'.bus.trans h.bus
  listeners := h'.listeners.trans h.listeners
  moments := by
    rw [h'.moments, h.moments, h.listeners, List.reverse_append, List.flatMap_append,
      List.append_assoc]
  record := by rw [h'.record, h.record, List.foldl_append]

/-- Telling depends neither on the threads nor on the processor before. -/
theorem around {d : Cpu} {ts us : List Thread} {b b' : Bool}
    (h : Tells c { m with cpu := d, threads := ts, onThread := b } n told) :
    Tells c m { n with threads := us, onThread := b' } told :=
  ⟨h.rests, h.bus, h.listeners, h.moments, h.record⟩

end Tells

namespace Says

theorem refl (m : Machine) : m.Says m [] := ⟨.refl m, rfl⟩

theorem trans (h : m.Says n told) (h' : n.Says l more) : m.Says l (told ++ more) :=
  ⟨h.toTells.trans h'.toTells, h'.threads.trans h.threads⟩

/-- Nothing is told by a change that only concerns gate, keypad, speaker, timers, and the hit and the
run of the debugger. -/
theorem of_heard (rests : m.cpu.Rests n.cpu) (bus : n.cpu.bus = m.cpu.bus)
    (listeners : n.snapshotListeners = m.snapshotListeners) (heard : n.heard = m.heard)
    (record : n.debugger.record = m.debugger.record) (threads : n.threads = m.threads) :
    m.Says n [] :=
  ⟨⟨rests, bus, listeners, by rw [moments, heard]; rfl, record⟩, threads⟩

theorem quiet (h : m.Says n told) : m.Quiet n := ⟨h.rests, h.threads⟩

end Says

/-- What is heard of an event, as far as snapshots are concerned. -/
theorem moments_hear (m : Machine) (e : Event) :
    (m.hear e).moments = e.moment?.toList.flatMap (List.replicate m.snapshotListeners) ++
      m.moments := by
  unfold hear moments
  rw [List.filterMap_append, List.filterMap_replicate]
  cases e with
  | notice n => cases n <;> simp [Event.moment?, Notice.moment?, listeners]
  | _ => simp [Event.moment?]

theorem says_hear {e : Event} (h : e.moment? = none) (m : Machine) : m.Says (m.hear e) [] := by
  refine ⟨⟨.refl _, rfl, rfl, ?_, rfl⟩, rfl⟩
  rw [moments_hear, h]
  rfl

theorem says_setPolicy (m : Machine) (b : Bool) : m.Says (m.setPolicy b) [] :=
  .of_heard (Cpu.rests_gate _ _) rfl rfl rfl rfl rfl

theorem says_countSnapshot (m : Machine) : m.Says m.countSnapshot [] := by
  unfold countSnapshot
  split <;> exact .of_heard (.refl _) rfl rfl rfl rfl rfl

theorem says_tell (m : Machine) (notice : Notice) :
    m.Says (m.tell notice) notice.moment?.toList := by
  cases notice with
  | snapshot moment =>
    have observed : m.Says { m.hear (.notice (.snapshot moment))
        with debugger := (m.debugger.observe moment).1 } [moment] :=
      ⟨⟨.refl _, rfl, rfl, moments_hear m _, Debugger.record_observe _ _⟩, rfl⟩
    simp only [tell]
    split
    · exact observed.trans ((says_setPolicy _ true).trans (says_countSnapshot _))
    · exact observed.trans (says_countSnapshot _)
  | _ => exact says_hear rfl m

theorem says_tellAll (m : Machine) (ns : List Notice) :
    m.Says (m.tellAll ns) (ns.filterMap Notice.moment?) := by
  induction ns generalizing m with
  | nil => exact .refl m
  | cons notice ns ih =>
    have said : m.Says (m.tellAll (notice :: ns)) _ :=
      (says_tell m notice).trans (ih (m.tell notice))
    rw [List.filterMap_cons]
    cases h : notice.moment? <;> simpa [h] using said

/-- An operation of the processor that leaves the bus as it is, and tells no snapshot. -/
theorem says_withCpu {r : Cpu × List Notice} (h : m.cpu.Rests r.1) (bus : r.1.bus = m.cpu.bus)
    (silent : r.2.filterMap Notice.moment? = []) :
    m.Says (m.withCpu r) [] := by
  have changed : m.Says { m with cpu := r.1 } [] := .of_heard h bus rfl rfl rfl rfl
  have said := changed.trans (says_tellAll _ r.2)
  rw [silent] at said
  exact said

theorem says_requestTone (m : Machine) (beeping : Bool) :
    m.Says (m.withCpu (m.cpu.requestTone beeping)) [] :=
  says_withCpu (Cpu.rests_requestTone m.cpu beeping) (Cpu.bus_requestTone m.cpu beeping)
    (Cpu.moments_requestTone m.cpu beeping)

theorem says_tick (m : Machine) : m.Says m.tick [] :=
  says_withCpu (Cpu.rests_tick m.cpu) (Cpu.bus_requestTone _ _) (Cpu.moments_requestTone _ _)

theorem says_tickIfDue (m : Machine) : m.Says m.tickIfDue [] := by
  unfold tickIfDue
  split
  · exact .refl m
  · split
    · exact .of_heard (.refl _) rfl rfl rfl rfl rfl
    · have due : m.Says { m with sinceTick := 0 } [] := .of_heard (.refl _) rfl rfl rfl rfl rfl
      exact due.trans (says_tick _)

theorem says_finish (m : Machine) (r : StepResult) : m.Says (m.finish r) [] := by
  have ended : m.Says { m with outcome := some r, timer := false } [] :=
    .of_heard (.refl _) rfl rfl rfl rfl rfl
  have silent := ended.trans (says_requestTone { m with outcome := some r, timer := false } false)
  have heard := silent.trans (says_hear (e := .finish r) rfl _)
  exact ⟨⟨heard.rests, heard.bus, heard.listeners, heard.moments, heard.record⟩, heard.threads⟩

theorem says_resultEvent (m : Machine) (r : StepResult) :
    m.Says (m.hear (m.resultEvent r)) [] :=
  says_hear rfl m

theorem says_afterResult (m : Machine) (task : Task) (r : StepResult) :
    m.Says (m.afterResult task r).1 [] := by
  cases task with
  | steps left => exact says_resultEvent m r
  | run limit taken =>
    simp only [afterResult]
    split
    · have ended : m.Says m.endRun [] := .of_heard (.refl _) rfl rfl rfl rfl rfl
      exact ended.trans (says_hear rfl _)
    · exact .refl m
  | single armed =>
    simp only [afterResult]
    split
    · exact (says_setPolicy m true).trans (says_hear rfl _)
    · exact says_resultEvent m r
  | clock live =>
    simp only [afterResult]
    split
    · exact says_tickIfDue m
    · exact says_finish m r

theorem says_afterRaise (m : Machine) (task : Task) (e : AccessError) :
    m.Says (m.afterRaise task e) [] := by
  cases task with
  | steps left => exact says_hear rfl m
  | run limit taken =>
    have ended : m.Says { m with stopAfter := none } [] := .of_heard (.refl _) rfl rfl rfl rfl rfl
    exact ended.trans (says_hear rfl _)
  | single armed =>
    simp only [afterRaise]
    split
    · exact (says_setPolicy m true).trans (says_hear rfl _)
    · exact says_hear rfl m
  | clock live => exact .refl m

/-! ## Moving a thread -/

/-- Whether what is left of a thread, if anything, is outside of every instruction. -/
def Outside (t : Option Thread) : Prop := ∀ u ∈ t, u.place.inside? = none

theorem outside_none : Outside none := by
  rintro t ⟨⟩

/-- A thread that goes on is about to arrive at the gate. -/
theorem place_of_goOn {r : Machine × Option Task} {v : Thread} (h : v ∈ (goOn r).2) :
    v.place = .ready := by
  simp only [goOn, Option.mem_def, Option.map_eq_some_iff] at h
  obtain ⟨task, -, rfl⟩ := h
  rfl

theorem outside_goOn (r : Machine × Option Task) : Outside (goOn r).2 := by
  intro u hu
  rw [place_of_goOn hu]
  rfl

/-- How a thread leaves a key wait, or goes on waiting: from a processor to another one, with the
thread that is left. -/
inductive Awaits (c : Cpu) (task : Task) (w : Fetched) (o : Operation) :
    Cpu → Option Thread → Prop where
  /-- No key is down. -/
  | waits {d : Cpu} : c.keypad.first? = none → c.Rests d →
      Awaits c task w o d (some ⟨task, .key w o⟩)
  /-- The lowest key that is down is stored. -/
  | served {d : Cpu} {k : Key} {t : Option Thread} : c.keypad.first? = some k →
    (c.deliver k).Rests d → Outside t → Awaits c task w o d t

/-- How a thread executes an instruction. -/
inductive Executes (c : Cpu) (task : Task) : Cpu → Option Thread → Prop where
  /-- The cycle is the whole of it. -/
  | runs {d : Cpu} {t : Option Thread} : c.cycle.1.Rests d → Outside t →
    (∀ w o, c.cycle.2 = .done w o → c.cycle.1.state.keyWait = none) → Executes c task d t
  /-- After the cycle a register waits for a key. -/
  | suspends {d : Cpu} {t : Option Thread} {w : Fetched} {o : Operation} :
    c.cycle.2 = .done w o → c.cycle.1.state.keyWait.isSome → Awaits c.cycle.1 task w o d t →
    Executes c task d t

/-- How a thread moves. -/
inductive Moves (c : Cpu) (t : Thread) : Cpu → Option Thread → Prop where
  /-- It ends, or stops at the gate. -/
  | rests {d : Cpu} {u : Option Thread} : t.place.inside? = none → c.Rests d → Outside u →
    Moves c t d u
  | executes {d : Cpu} {u : Option Thread} : t.place.inside? = none → Executes c t.task d u →
    Moves c t d u
  | awaits {d : Cpu} {u : Option Thread} {w : Fetched} {o : Operation} :
    t.place.inside? = some (w, o) → Awaits c t.task w o d u → Moves c t d u

/-! What is told by a move, besides. -/

/-- An instruction is reported, and the thread leaves it. -/
structure Reports (c : Cpu) (w : Fetched) (o : Operation) (m n : Machine) (u : Option Thread) :
    Prop where
  tells : Tells (c.conclude w o).1 m n [c.closing w o]
  outside : Outside u

/-- How a thread leaves a key wait, or goes on waiting, and what it tells. -/
inductive Ceases (c : Cpu) (task : Task) (w : Fetched) (o : Operation) (m : Machine) :
    Machine → Option Thread → Prop where
  /-- No key is down. -/
  | waits {n : Machine} : c.keypad.first? = none → Tells c m n [] →
    Ceases c task w o m n (some ⟨task, .key w o⟩)
  /-- The lowest key that is down is stored. -/
  | served {n : Machine} {k : Key} {u : Option Thread} : c.keypad.first? = some k →
    Reports (c.deliver k) w o m n u → Ceases c task w o m n u

/-- How a thread executes an instruction, and what it tells. -/
inductive Performs (c : Cpu) (task : Task) (m n : Machine) (u : Option Thread) : Prop where
  /-- The program has ended, or the instruction fails. -/
  | fails : (∀ w o, c.cycle.2 ≠ .done w o) → Tells c.cycle.1 m n [] → Outside u →
    Performs c task m n u
  | reports {w : Fetched} {o : Operation} : c.cycle.2 = .done w o →
    c.cycle.1.state.keyWait = none → Reports c.cycle.1 w o m n u → Performs c task m n u
  /-- After the cycle a register waits for a key. -/
  | suspends {w : Fetched} {o : Operation} : c.cycle.2 = .done w o →
    c.cycle.1.state.keyWait.isSome → Ceases c.cycle.1 task w o m n u → Performs c task m n u

/-- How a thread moves, and what it tells. -/
inductive Turns (m : Machine) (t : Thread) (n : Machine) (u : Option Thread) : Prop where
  /-- It ends, or stops at the gate. -/
  | rests : t.enters m.cpu.gate = false → t.place.inside? = none → Tells m.cpu m n [] →
    Outside u → Turns m t n u
  | performs : t.enters m.cpu.gate = true → t.place.inside? = none →
    Performs m.cpu t.task m n u → Turns m t n u
  | ceases {w : Fetched} {o : Operation} : t.enters m.cpu.gate = false →
    t.place.inside? = some (w, o) → Ceases m.cpu t.task w o m n u → Turns m t n u

section

variable {t : Thread} {u : Option Thread} {task : Task} {w : Fetched} {o : Operation}
  {d : Cpu} {ts us : List Thread} {b b' : Bool}

theorem Reports.rests (h : Reports c w o m n u) : c.Rests n.cpu :=
  (Cpu.rests_conclude w o c).trans h.tells.rests

theorem Ceases.awaits (h : Ceases c task w o m n u) : Awaits c task w o n.cpu u := by
  cases h with
  | waits up tells => exact .waits up tells.rests
  | served down reports => exact .served down reports.rests reports.outside

theorem Performs.executes (h : Performs c task m n u) : Executes c task n.cpu u := by
  cases h with
  | fails unfinished tells outside =>
    exact .runs tells.rests outside fun w o done => absurd done (unfinished w o)
  | reports _ free reports => exact .runs reports.rests reports.outside fun _ _ _ => free
  | suspends done waits ceases => exact .suspends done waits ceases.awaits

theorem Turns.moves (h : Turns m t n u) : Moves m.cpu t n.cpu u := by
  cases h with
  | rests _ out tells outside => exact .rests out tells.rests outside
  | performs _ out performs => exact .executes out performs.executes
  | ceases _ inside ceases => exact .awaits inside ceases.awaits

/-! Nothing of this depends on the other threads. -/

theorem Reports.around
    (h : Reports c w o { m with cpu := d, threads := ts, onThread := b } n u) :
    Reports c w o m { n with threads := us, onThread := b' } u :=
  ⟨h.tells.around, h.outside⟩

theorem Ceases.around
    (h : Ceases c task w o { m with cpu := d, threads := ts, onThread := b } n u) :
    Ceases c task w o m { n with threads := us, onThread := b' } u := by
  cases h with
  | waits up tells => exact .waits up tells.around
  | served down reports => exact .served down reports.around

theorem Performs.around
    (h : Performs c task { m with cpu := d, threads := ts, onThread := b } n u) :
    Performs c task m { n with threads := us, onThread := b' } u := by
  cases h with
  | fails unfinished tells outside => exact .fails unfinished tells.around outside
  | reports done free reports => exact .reports done free reports.around
  | suspends done waits ceases => exact .suspends done waits ceases.around

theorem Turns.around (h : Turns { m with threads := ts, onThread := b } t n u) :
    Turns m t { n with threads := us, onThread := b' } u := by
  cases h with
  | rests idle out tells outside => exact .rests idle out tells.around outside
  | performs enters out performs => exact .performs enters out performs.around
  | ceases idle inside ceases => exact .ceases idle inside ceases.around

end

/-- An instruction is reported, and then the thread's task goes on or ends. -/
theorem reports_afterResult (m : Machine) (c : Cpu) (task : Task) (w : Fetched) (o : Operation) :
    Reports c w o m (goOn ((m.withCpu (c.conclude w o)).afterResult task .carryOn)).1
        (goOn ((m.withCpu (c.conclude w o)).afterResult task .carryOn)).2 ∧
      ((m.withCpu (c.conclude w o)).afterResult task .carryOn).1.threads = m.threads := by
  have told := says_tellAll { m with cpu := (c.conclude w o).1 } (c.conclude w o).2
  rw [Cpu.moments_conclude] at told
  have said := told.trans (says_afterResult _ task .carryOn)
  exact ⟨⟨said.toTells.around, outside_goOn _⟩, said.threads⟩

theorem inside?_of_enters {t : Thread} {g : Gate} (h : t.enters g = true) :
    t.place.inside? = none := by
  obtain ⟨task, place⟩ := t
  cases place with
  | ready | released => rfl
  | gate | key w o | woken w o => cases h

/-- What a move does, from the way in which it goes. The other threads stay where they are. -/
theorem turns_of_proceeds {t : Thread} {r : Machine × Option Thread} (h : Proceeds m t r) :
    Turns m t r.1 r.2 ∧ r.1.threads = m.threads := by
  obtain ⟨task, place⟩ := t
  cases h with
  | ends ready unwanted =>
    cases ready
    refine ⟨.rests ?_ rfl (.refl m) outside_none, rfl⟩
    simp [Thread.enters, show task = .clock false from unwanted]
  | parks ready _ closed =>
    cases ready
    refine ⟨.rests ?_ rfl ⟨Cpu.rests_gate _ _, rfl, rfl, rfl, rfl⟩ ?_, rfl⟩
    · simp [Thread.enters, closed]
    · rintro u ⟨⟩
      rfl
  | @stops r enters stop =>
    have said := says_afterResult { m with cpu := m.cpu.cycle.1 } task r
    have unfinished (w : Fetched) (o : Operation) : m.cpu.cycle.2 ≠ .done w o := by
      intro done
      rw [done] at stop
      cases stop
    exact ⟨.performs enters (inside?_of_enters enters)
      (.fails unfinished said.toTells.around (outside_goOn _)), said.threads⟩
  | @raises e enters raised =>
    have said := says_afterRaise { m with cpu := m.cpu.cycle.1 } task e
    have unfinished (w : Fetched) (o : Operation) : m.cpu.cycle.2 ≠ .done w o := by
      rw [raised]
      rintro ⟨⟩
    exact ⟨.performs enters (inside?_of_enters enters)
      (.fails unfinished said.toTells.around outside_none), said.threads⟩
  | @reports c w o ready =>
    obtain ⟨reports, threads⟩ := reports_afterResult m c task w o
    refine ⟨?_, threads⟩
    cases ready with
    | free enters done free =>
      exact .performs enters (inside?_of_enters enters) (.reports done free reports)
    | served asks down =>
      cases asks with
      | begins enters done waits =>
        exact .performs enters (inside?_of_enters enters) (.suspends done waits (.served down reports))
      | woken inside =>
        cases inside
        exact .ceases rfl rfl (.served down reports)
  | @waits c w o asks up =>
    cases asks with
    | begins enters done waits =>
      exact ⟨.performs enters (inside?_of_enters enters)
        (.suspends done waits (.waits up ⟨Cpu.rests_keypad _ _, rfl, rfl, rfl, rfl⟩)), rfl⟩
    | woken inside =>
      cases inside
      exact ⟨.ceases rfl rfl (.waits up ⟨Cpu.rests_keypad _ _, rfl, rfl, rfl, rfl⟩), rfl⟩

/-- What a move does to the machine and to the thread. The other threads stay where they are. -/
theorem turns_moveThread (m : Machine) {t : Thread} (h : t.place.isRunnable = true) :
    Turns m t (m.moveThread t).1 (m.moveThread t).2 ∧ (m.moveThread t).1.threads = m.threads :=
  turns_of_proceeds (proceeds_moveThread m h)

/-! ## Actions -/

/-- What can happen to a machine. -/
inductive Action where
  /-- The thread with this number moves, if it can. -/
  | move (k : Nat)
  | start
  /-- A stop begins: the clock is cancelled, and the gate opens. -/
  | cancel
  /-- A stop ends: the tone falls silent. -/
  | silence
  | pause
  | resume
  | stepPaused
  | press (k : Key)
  | release (k : Key)
  | releaseAll
  | tick
  | step (n : Nat)
  | debugRun (limit : Option Int) (stopAfter : Option Nat)
  | debugStep
  | debugResume
  | reset
  | load (data : List UInt8)

/-- Moves the thread with a number, if there is one that can go on. -/
def move (m : Machine) (k : Nat) : Machine :=
  match m.threads[k]? with
  | none => m
  | some t =>
    if t.place.isRunnable then
      let (n, t) := { m with threads := m.threads.eraseIdx k, onThread := true }.moveThread t
      { n with
        threads := n.threads.take k ++ t.toList ++ n.threads.drop k, onThread := false }
    else m

/-- The first part of a stop. -/
def cancel (m : Machine) : Machine :=
  if m.clocked then
    ({ m with timer := false, threads := m.threads.map Thread.cancel }.setPolicy false).openGate
  else m

/-- The last part of a stop. -/
def silence (m : Machine) : Machine :=
  { m.withCpu (m.cpu.requestTone false) with clocked := false }

/-- What an action makes of a machine. -/
def act (m : Machine) : Action → Machine
  | .move k => m.move k
  | .start => m.start.1
  | .cancel => m.cancel
  | .silence => m.silence
  | .pause => m.pause
  | .resume => m.resume
  | .stepPaused => m.stepPaused.1
  | .press k => m.press k
  | .release k => m.release k
  | .releaseAll => m.releaseAll
  | .tick => m.tick
  | .step n => m.step n
  | .debugRun limit stopAfter => m.debugRun limit stopAfter
  | .debugStep => m.debugStep
  | .debugResume => m.debugResume
  | .reset => m.reset.1
  | .load data => (m.loadProgram data).1

/-- The machine after some actions. -/
def after (m : Machine) (as : List Action) : Machine := as.foldl act m

@[simp] theorem after_cons (m : Machine) (a : Action) (as : List Action) :
    m.after (a :: as) = (m.act a).after as := rfl

theorem after_append (m : Machine) (as bs : List Action) :
    m.after (as ++ bs) = (m.after as).after bs :=
  List.foldl_append

/-- The threads before and behind the one with a number. -/
theorem threads_around {k : Nat} {t : Thread} (ht : m.threads[k]? = some t) :
    m.threads = m.threads.take k ++ (some t).toList ++ m.threads.drop (k + 1) := by
  obtain ⟨lt, rfl⟩ := List.getElem?_eq_some_iff.mp ht
  rw [Option.toList_some, List.append_assoc, List.singleton_append,
    ← List.drop_eq_getElem_cons lt, List.take_append_drop]

/-- The thread with a number moves, and what is left of it takes its place. -/
theorem move_eq {k : Nat} {t : Thread} (ht : m.threads[k]? = some t)
    (h : t.place.isRunnable = true) : m.move k =
      let r := { m with threads := m.threads.eraseIdx k, onThread := true }.moveThread t
      { r.1 with
        threads := m.threads.take k ++ r.2.toList ++ m.threads.drop (k + 1), onThread := false } := by
  obtain ⟨-, threads⟩ :=
    turns_moveThread { m with threads := m.threads.eraseIdx k, onThread := true } h
  have lt : k < m.threads.length := (List.getElem?_eq_some_iff.mp ht).1
  have front : (m.threads.eraseIdx k).take k = m.threads.take k := by
    rw [List.eraseIdx_eq_take_drop_succ, List.take_append_of_le_length (by simp; omega),
      List.take_take, Nat.min_self]
  have back : (m.threads.eraseIdx k).drop k = m.threads.drop (k + 1) := by
    rw [List.eraseIdx_eq_take_drop_succ, List.drop_append_of_le_length (by simp; omega),
      List.drop_take, Nat.sub_self, List.take_zero, List.nil_append]
  simp only [move, ht, h, if_true, threads, front, back]

/-- The way in which the thread with a number moves. -/
theorem exists_proceeds {k : Nat} {t : Thread} (ht : m.threads[k]? = some t)
    (h : t.place.isRunnable = true) :
    ∃ r, Proceeds { m with threads := m.threads.eraseIdx k, onThread := true } t r ∧
      m.move k = { r.1 with
        threads := m.threads.take k ++ r.2.toList ++ m.threads.drop (k + 1), onThread := false } :=
  ⟨_, proceeds_moveThread _ h, move_eq ht h⟩

/-- A thread that is not there, or cannot go on, does not move. -/
theorem move_of_stopped {k : Nat} (h : ∀ t ∈ m.threads[k]?, t.place.isRunnable = false) :
    m.move k = m := by
  cases ht : m.threads[k]? with
  | none => simp only [move, ht]
  | some t => simp only [move, ht, h t ht, Bool.false_eq_true, if_false]

/-- Either there is no thread to move, or it moves in one of the ways. -/
theorem stopped_or_proceeds (m : Machine) (k : Nat) :
    (∀ t ∈ m.threads[k]?, t.place.isRunnable = false) ∨
    ∃ t r, m.threads[k]? = some t ∧ t.place.isRunnable = true ∧
      Proceeds { m with threads := m.threads.eraseIdx k, onThread := true } t r ∧
      m.move k = { r.1 with
        threads := m.threads.take k ++ r.2.toList ++ m.threads.drop (k + 1), onThread := false } := by
  cases ht : m.threads[k]? with
  | none =>
    left
    rintro t ⟨⟩
  | some t =>
    by_cases h : t.place.isRunnable = true
    · obtain ⟨r, proceeds, moved⟩ := exists_proceeds ht h
      exact .inr ⟨t, r, rfl, h, proceeds, moved⟩
    · left
      rintro _ ⟨⟩
      exact Bool.eq_false_iff.mpr h

/-- What a move of the thread with a number does. -/
theorem turns_move {k : Nat} {t : Thread} (ht : m.threads[k]? = some t)
    (h : t.place.isRunnable = true) : ∃ u, Turns m t (m.move k) u ∧
      (m.move k).threads = m.threads.take k ++ u.toList ++ m.threads.drop (k + 1) := by
  obtain ⟨turns, -⟩ :=
    turns_moveThread { m with threads := m.threads.eraseIdx k, onThread := true } h
  rw [move_eq ht h]
  exact ⟨_, turns.around, rfl⟩

/-- A thread that is not there, or cannot go on, does not move. -/
theorem move_cases (m : Machine) (k : Nat) : m.move k = m ∨
    ∃ t u, m.threads[k]? = some t ∧ Moves m.cpu t (m.move k).cpu u ∧
      (m.move k).threads = m.threads.take k ++ u.toList ++ m.threads.drop (k + 1) := by
  cases ht : m.threads[k]? with
  | none => exact .inl (by simp only [move, ht])
  | some t =>
    by_cases h : t.place.isRunnable = true
    · obtain ⟨u, turns, threads⟩ := turns_move ht h
      exact .inr ⟨t, u, rfl, turns.moves, threads⟩
    · exact .inl (by simp only [move, ht, if_neg h])

/-! ## Asking -/

/-- The processor rests, and the threads stay in the instructions that they are in. -/
structure Stays (m n : Machine) : Prop where
  rests : m.cpu.Rests n.cpu
  threads : ∃ f : Thread → Thread, (∀ t, (f t).place.inside? = t.place.inside?) ∧
    n.threads = m.threads.map f

/-- The processor rests, and there is one thread more, which is wanted and about to arrive at the
gate. -/
structure Opens (m n : Machine) (task : Task) : Prop where
  rests : m.cpu.Rests n.cpu
  threads : n.threads = m.threads ++ [⟨task, .ready⟩]
  wanted : task ≠ .clock false

theorem Stays.trans (h : m.Stays n) (h' : n.Stays l) : m.Stays l := by
  obtain ⟨f, hf, ht⟩ := h.threads
  obtain ⟨g, hg, ht'⟩ := h'.threads
  refine ⟨h.rests.trans h'.rests, g ∘ f, fun t => (hg _).trans (hf t), ?_⟩
  rw [ht', ht, List.map_map]

theorem Quiet.stays (h : m.Quiet n) : m.Stays n :=
  ⟨h.rests, id, fun _ => rfl, by rw [h.threads, List.map_id]⟩

/-- What asking does: no snapshot is told, and the threads stay where they are, or there is one
more. -/
structure Asked (m n : Machine) : Prop where
  tells : Tells m.cpu m n []
  threads : m.Stays n ∨ ∃ task, m.Opens n task

namespace Asked

theorem stays (h : Tells m.cpu m n []) (hs : m.Stays n) : m.Asked n := ⟨h, .inl hs⟩

theorem of_told (h : m.Says n []) : m.Asked n := .stays h.toTells h.quiet.stays

theorem spawn {task : Task} (h : m.Says n []) (wanted : task ≠ .clock false) :
    m.Asked (n.spawn task) :=
  ⟨⟨h.rests, h.bus, h.listeners, h.moments, h.record⟩,
    .inr ⟨task, h.rests, by rw [Machine.spawn, h.threads], wanted⟩⟩

end Asked

theorem stays_openGate (m : Machine) : m.Stays m.openGate :=
  ⟨Cpu.rests_gate _ _, _, fun t => Place.inside?_release t.place, rfl⟩

theorem tells_openGate (m : Machine) : Tells m.cpu m m.openGate [] :=
  ⟨Cpu.rests_gate _ _, rfl, rfl, rfl, rfl⟩

theorem stays_resume (m : Machine) : m.Stays m.resume :=
  (says_setPolicy m false).quiet.stays.trans (stays_openGate _)

theorem tells_resume (m : Machine) : Tells m.cpu m m.resume [] :=
  (says_setPolicy m false).toTells.trans (tells_openGate _)

theorem asked_resume (m : Machine) : m.Asked m.resume := .stays (tells_resume m) (stays_resume m)

theorem asked_cancel (m : Machine) : m.Asked m.cancel := by
  unfold cancel
  split
  · let cancelled := { m with timer := false, threads := m.threads.map Thread.cancel }
    have forgotten : m.Stays cancelled :=
      ⟨.refl _, Thread.cancel, fun t => by rw [Thread.place_cancel], rfl⟩
    have untold : Tells m.cpu m cancelled [] := ⟨.refl _, rfl, rfl, rfl, rfl⟩
    exact .stays (untold.trans (tells_resume cancelled)) (forgotten.trans (stays_resume cancelled))
  · exact .of_told (.refl m)

theorem says_silence (m : Machine) : m.Says m.silence [] := by
  have silent := says_requestTone m false
  exact ⟨⟨silent.rests, silent.bus, silent.listeners, silent.moments, silent.record⟩, silent.threads⟩

theorem asked_start (m : Machine) : m.Asked m.start.1 := by
  unfold start
  split
  · exact .of_told (.refl m)
  dsimp only
  split
  · exact .of_told (.of_heard (.refl _) rfl rfl rfl rfl rfl)
  split
  · exact .of_told (.of_heard (.refl _) rfl rfl rfl rfl rfl)
  · have ticked := says_tick { m with
      outcome := none, finished := false, clocked := true, timer := true, sinceTick := 0
      onThread := true }
    refine .spawn ⟨⟨ticked.rests, ticked.bus, ticked.listeners, ?_, ticked.record⟩, ticked.threads⟩ nofun
    exact ticked.moments

/-- Whether an action only asks for something: no thread moves, and no memory is replaced. -/
def Action.asks : Action → Bool
  | .move _ | .reset | .load _ => false
  | _ => true

theorem asked_act (m : Machine) {a : Action} (h : a.asks = true) : m.Asked (m.act a) := by
  cases a with
  | move k | reset | load data => cases h
  | start => exact asked_start m
  | cancel => exact asked_cancel m
  | silence => exact .of_told (says_silence m)
  | pause => exact .of_told (says_setPolicy m true)
  | resume => exact asked_resume m
  | stepPaused =>
    simp only [act, stepPaused]
    split
    · exact .stays (tells_openGate m) (stays_openGate m)
    · exact .of_told (.refl m)
  | press k =>
    exact .stays ⟨Cpu.rests_keypad _ _, rfl, rfl, rfl, rfl⟩
      ⟨Cpu.rests_keypad _ _, _, fun t => Place.inside?_wake t.place, rfl⟩
  | release k | releaseAll => exact .of_told (.of_heard (Cpu.rests_keypad _ _) rfl rfl rfl rfl rfl)
  | tick => exact .of_told (says_tick m)
  | step n =>
    simp only [act, step]
    split
    · exact .of_told (.refl m)
    · exact .spawn (.refl m) nofun
  | debugRun limit stopAfter =>
    let ready := { m with debugger := { m.debugger with running := true, hit := none }, stopAfter }
    have prepared : m.Says ready [] := .of_heard (.refl _) rfl rfl rfl rfl rfl
    exact .spawn (prepared.trans (says_setPolicy ready false)) nofun
  | debugStep =>
    simp only [act, debugStep]
    split
    · exact .stays (tells_openGate m) (stays_openGate m)
    · exact .spawn (says_setPolicy m false) nofun
  | debugResume =>
    let forgotten := { m with debugger := { m.debugger with hit := none } }
    have said : m.Says forgotten [] := .of_heard (.refl _) rfl rfl rfl rfl rfl
    exact .stays (said.toTells.trans (tells_resume forgotten))
      (said.quiet.stays.trans (stays_resume forgotten))

/-- What asking does: the threads stay where they are, or there is one more. -/
theorem stays_or_opens (m : Machine) {a : Action} (h : a.asks = true) :
    m.Stays (m.act a) ∨ ∃ task, m.Opens (m.act a) task :=
  (asked_act m h).threads

/-- Asking tells no snapshot, and leaves the bus as it is. -/
theorem tells_act (m : Machine) {a : Action} (h : a.asks = true) :
    Tells m.cpu m (m.act a) [] :=
  (asked_act m h).tells

theorem rests_act (m : Machine) {a : Action} (h : a.asks = true) : m.cpu.Rests (m.act a).cpu :=
  (tells_act m h).rests

/-- A reset leaves the threads where they are, and the processor is a reset one at rest. -/
theorem quiet_reset (m : Machine) : Quiet { m with cpu := m.cpu.reset.1 } m.reset.1 :=
  (says_tellAll _ _).quiet

theorem quiet_loadProgram (m : Machine) (data : List UInt8) :
    Quiet { m with cpu := (m.cpu.loadProgram data).1 } (m.loadProgram data).1 :=
  (says_tellAll _ _).quiet

/-! ## Laws along a run -/

variable {P : Cpu → Prop}

theorem law_awaits (law : Cpu.Law P) {c d : Cpu} {task : Task} {w : Fetched} {o : Operation}
    {u : Option Thread} (h : Awaits c task w o d u) (hc : P c) : P d := by
  cases h with
  | waits _ rests => exact law.rests rests hc
  | served _ rests _ => exact law.rests rests (law.deliver _ hc)

theorem law_moves (law : Cpu.Law P) {c d : Cpu} {t : Thread} {u : Option Thread}
    (h : Moves c t d u) (hc : P c) : P d := by
  cases h with
  | rests _ rests _ => exact law.rests rests hc
  | executes _ executes =>
    cases executes with
    | runs rests _ _ => exact law.rests rests (law.cycle hc)
    | suspends _ _ awaits => exact law_awaits law awaits (law.cycle hc)
  | awaits _ awaits => exact law_awaits law awaits hc

/-- A law survives every action. -/
theorem law_act (law : Cpu.Law P) (h : P m.cpu) (a : Action) : P (m.act a).cpu := by
  by_cases ha : a.asks = true
  · exact law.rests (rests_act m ha) h
  cases a with
  | reset => exact law.rests (quiet_reset m).rests (law.reset h)
  | load data => exact law.rests (quiet_loadProgram m data).rests (law.loadProgram h data)
  | move k =>
    rcases move_cases m k with stays | ⟨t, u, -, moves, -⟩
    · simpa only [act, stays] using h
    · exact law_moves law moves h
  | _ => exact absurd rfl ha

/-- A law holds along every run. -/
theorem law_after (law : Cpu.Law P) (h : P m.cpu) (as : List Action) : P (m.after as).cpu := by
  induction as generalizing m with
  | nil => exact h
  | cons a as ih => exact ih (law_act law h a)

/-! ## Letting the threads settle -/

/-- A turn moves one thread, which can go on. -/
theorem exists_move_of_turn (h : m.turn = some n) :
    ∃ k t, m.threads[k]? = some t ∧ t.place.isRunnable = true ∧ n = m.move k := by
  unfold turn at h
  rw [List.span_eq_takeWhile_dropWhile] at h
  generalize hs : m.threads.takeWhile (!·.place.isRunnable) = stopped at h
  cases hd : m.threads.dropWhile (!·.place.isRunnable) with
  | nil => rw [hd] at h; cases h
  | cons t others =>
    rw [hd] at h
    simp only [Option.some.injEq] at h
    have runs : t.place.isRunnable = true := by
      have := List.head_dropWhile_not (fun t : Thread => !t.place.isRunnable) (l := m.threads)
        (by rw [hd]; nofun)
      simpa only [hd, List.head_cons, Bool.not_eq_false', Bool.not_eq_true'] using this
    have all : m.threads = stopped ++ t :: others := by
      rw [← hs, ← hd, List.takeWhile_append_dropWhile]
    have found : m.threads[stopped.length]? = some t := by
      rw [all, List.getElem?_append_right (Nat.le_refl _), Nat.sub_self]
      rfl
    have rest : m.threads.eraseIdx stopped.length = stopped ++ others := by
      rw [all, List.eraseIdx_append_of_length_le (Nat.le_refl _), Nat.sub_self]
      rfl
    refine ⟨stopped.length, t, found, runs, ?_⟩
    obtain ⟨-, threads⟩ :=
      turns_moveThread { m with threads := stopped ++ others, onThread := true } runs
    rw [← h]
    simp only [move, found, runs, if_true, rest, threads, List.take_left, List.drop_left]

theorem exists_moves_of_settleWith (fuel : Nat) (m : Machine) :
    ∃ ks : List Nat, settleWith fuel m = m.after (ks.map .move) := by
  induction fuel generalizing m with
  | zero => exact ⟨[], rfl⟩
  | succ fuel ih =>
    simp only [settleWith]
    cases ht : m.turn with
    | none => exact ⟨[], rfl⟩
    | some n =>
      obtain ⟨k, -, -, -, rfl⟩ := exists_move_of_turn ht
      obtain ⟨ks, hks⟩ := ih (m.move k)
      exact ⟨k :: ks, hks⟩

/-- Letting the threads settle is a run of moves. -/
theorem settle_eq_after (m : Machine) : ∃ ks : List Nat, m.settle = m.after (ks.map .move) :=
  exists_moves_of_settleWith patience m

/-- A stop is a run: it begins, threads move, and it ends. -/
theorem stop_eq_after (m : Machine) (h : m.clocked = true) : ∃ ks : List Nat,
    m.stop = m.after (.cancel :: ks.map .move ++ [.silence]) := by
  obtain ⟨ks, hks⟩ := settle_eq_after m.cancel
  refine ⟨ks, ?_⟩
  rw [List.cons_append, after_cons, after_append]
  simp only [act, ← hks]
  simp only [stop, cancel, h, Bool.not_true, Bool.false_eq_true, if_false, if_true]
  rfl

end Machine

end Hexscope
