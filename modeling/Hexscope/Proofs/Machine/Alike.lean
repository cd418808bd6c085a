import Hexscope.Proofs.Cpu.Alike
import Hexscope.Proofs.Machine.Run

/-!
# Machines that cannot be told apart

Two machines are `Machine.Alike` if their processors are, if they heard the same except for tones, and
if all else about them is the same. Whatever is done to both, they stay alike, and so they report the
same results, snapshots and frames.

* `Machine.Alike.act`: this is so for every action;
* `Machine.Alike.after`: and so for every run.
-/

namespace Hexscope

/-- Whether an event is about a tone. -/
def Event.isTone : Event → Bool
  | .notice n => n.isTone
  | _ => false

namespace Machine

/-- What was heard, except for tones, newest first. -/
def heardButTones (m : Machine) : List Report := m.heard.filter (!·.event.isTone)

/-- Two machines with processors that are alike heard the same, except for tones, and nothing else
tells them apart. -/
structure Alike (m n : Machine) : Prop where
  cpu : m.cpu.Alike n.cpu
  heard : n.heardButTones = m.heardButTones
  rest : n = { m with cpu := n.cpu, heard := n.heard }

variable {m n l : Machine} {c d : Cpu} {t : Thread} {task : Task}

namespace Alike

theorem refl (m : Machine) : m.Alike m := ⟨.refl _, rfl, rfl⟩

theorem symm (h : m.Alike n) : n.Alike m := ⟨h.cpu.symm, h.heard.symm, by rw [h.rest]⟩

theorem trans (h : m.Alike n) (h' : n.Alike l) : m.Alike l :=
  ⟨h.cpu.trans h'.cpu, h'.heard.trans h.heard, by rw [h'.rest, h.rest]⟩

/-- A change that looks neither at the processor nor at what was heard. -/
theorem map {f : Machine → Machine} (h : m.Alike n)
    (apart : ∀ m c hs, f { m with cpu := c, heard := hs } = { f m with cpu := c, heard := hs }) :
    (f m).Alike (f n) := by
  have cpu (m : Machine) : (f m).cpu = m.cpu := congrArg (·.cpu) (apart m m.cpu m.heard)
  have heard (m : Machine) : (f m).heard = m.heard := congrArg (·.heard) (apart m m.cpu m.heard)
  refine ⟨?_, ?_, ?_⟩
  · rw [cpu, cpu]
    exact h.cpu
  · rw [heardButTones, heardButTones, heard, heard]
    exact h.heard
  · rw [cpu, heard]
    exact (congrArg f h.rest).trans (apart m n.cpu n.heard)

/-- All but what was heard and the processor may be taken to be the same. -/
theorem exists_eq (h : m.Alike n) : ∃ c hs, n = { m with cpu := c, heard := hs } :=
  ⟨_, _, h.rest⟩

/-- Both get processors that are alike. -/
theorem setCpu (h : m.Alike n) (hc : c.Alike d) :
    Alike { m with cpu := c } { n with cpu := d } :=
  ⟨hc, h.heard, by rw [h.rest]⟩

/-! ### Telling -/

theorem listeners (h : m.Alike n) (e : Event) : n.listeners e = m.listeners e := by
  rw [h.rest]
  rfl

theorem hear (h : m.Alike n) (e : Event) : (m.hear e).Alike (n.hear e) := by
  have onThread : n.onThread = m.onThread := by rw [h.rest]
  refine ⟨h.cpu, ?_, by rw [h.rest]; rfl⟩
  simp only [heardButTones, Machine.hear, List.filter_append, h.listeners, onThread]
  exact congrArg _ h.heard

/-- A tone is heard by one of them only. -/
theorem hear_tone (m : Machine) (beeping : Bool) : m.Alike (m.hear (.notice (.tone beeping))) := by
  refine ⟨.refl _, ?_, rfl⟩
  simp only [heardButTones, Machine.hear, List.filter_append, List.filter_replicate]
  rfl

theorem setPolicy (h : m.Alike n) (b : Bool) : (m.setPolicy b).Alike (n.setPolicy b) := by
  unfold Machine.setPolicy
  rw [h.cpu.gate]
  exact h.setCpu (h.cpu.withGate _)

theorem countSnapshot (h : m.Alike n) : m.countSnapshot.Alike n.countSnapshot := by
  refine h.map fun m c hs => ?_
  unfold Machine.countSnapshot
  dsimp only
  split <;> rfl

theorem tell (h : m.Alike n) (notice : Notice) : (m.tell notice).Alike (n.tell notice) := by
  have heard := h.hear (.notice notice)
  cases notice with
  | snapshot moment =>
    have debugger : n.debugger = m.debugger := by rw [h.rest]
    have observed : Alike
        { m.hear (.notice (.snapshot moment)) with debugger := (m.debugger.observe moment).1 }
        { n.hear (.notice (.snapshot moment)) with debugger := (m.debugger.observe moment).1 } :=
      heard.map (f := fun l => { l with debugger := (m.debugger.observe moment).1 }) fun _ _ _ => rfl
    simp only [Machine.tell, show (n.hear (.notice (.snapshot moment))).debugger = n.debugger from rfl,
      show (m.hear (.notice (.snapshot moment))).debugger = m.debugger from rfl, debugger]
    split
    · exact (observed.setPolicy true).countSnapshot
    · exact observed.countSnapshot
  | _ => exact heard

theorem tellAll (h : m.Alike n) (ns : List Notice) : (m.tellAll ns).Alike (n.tellAll ns) := by
  induction ns generalizing m n with
  | nil => exact h
  | cons notice ns ih => exact ih (h.tell notice)

/-- Tones may be left out. -/
theorem tellAll_filter (m : Machine) (ns : List Notice) :
    (m.tellAll ns).Alike (m.tellAll (ns.filter (!·.isTone))) := by
  induction ns generalizing m with
  | nil => exact .refl m
  | cons notice ns ih =>
    cases notice with
    | tone beeping =>
      have silent := (hear_tone m beeping).symm.tellAll ns
      exact silent.trans (ih m)
    | frame screen => exact ih (m.tell (.frame screen))
    | snapshot moment => exact ih (m.tell (.snapshot moment))

/-- Both tell the same except for tones. -/
theorem withCpu (h : m.Alike n) {r s : Cpu × List Notice} (hr : Cpu.AlikeTold r s) :
    (m.withCpu r).Alike (n.withCpu s) := by
  have told := tellAll_filter { n with cpu := s.1 } s.2
  rw [hr.told] at told
  have same := (h.setCpu hr.cpu).tellAll (r.2.filter (!·.isTone))
  exact (tellAll_filter _ _).trans (same.trans told.symm)

theorem tick (h : m.Alike n) : m.tick.Alike n.tick := h.withCpu h.cpu.tick

theorem requestTone (h : m.Alike n) (beeping : Bool) :
    (m.withCpu (m.cpu.requestTone beeping)).Alike (n.withCpu (n.cpu.requestTone beeping)) :=
  h.withCpu (h.cpu.requestTone beeping beeping)

theorem tickIfDue (h : m.Alike n) : m.tickIfDue.Alike n.tickIfDue := by
  have counted := h.map (f := fun l => { l with sinceTick := l.sinceTick + 1 }) fun _ _ _ => rfl
  have due := (h.map (f := fun l => { l with sinceTick := 0 }) fun _ _ _ => rfl).tick
  obtain ⟨c, hs, rfl⟩ := h.exists_eq
  have period : period { m with cpu := c, heard := hs } = m.period := rfl
  unfold Machine.tickIfDue
  rw [period]
  dsimp only at counted due ⊢
  split
  · exact h
  split
  · exact counted
  · exact due

theorem finish (h : m.Alike n) (r : StepResult) : (m.finish r).Alike (n.finish r) := by
  have ended := h.map (f := fun l => { l with outcome := some r, timer := false }) fun _ _ _ => rfl
  have silent := ended.requestTone false
  exact (silent.map (f := fun l => { l with finished := true }) fun _ _ _ => rfl).hear (.finish r)

theorem resultEvent (h : m.Alike n) (r : StepResult) : n.resultEvent r = m.resultEvent r := by
  rw [Machine.resultEvent, Machine.resultEvent, h.cpu.fault]

theorem hearResult (h : m.Alike n) (r : StepResult) :
    (m.hear (m.resultEvent r)).Alike (n.hear (n.resultEvent r)) := by
  rw [h.resultEvent]
  exact h.hear _

end Alike

/-! ## Moving a thread -/

/-- Two machines are alike, and the same is left of a thread of theirs. -/
structure AlikeLeft {α : Type} (r s : Machine × α) : Prop where
  machine : r.1.Alike s.1
  left : s.2 = r.2

theorem AlikeLeft.goOn {r s : Machine × Option Task} (h : AlikeLeft r s) :
    AlikeLeft (goOn r) (goOn s) :=
  ⟨h.machine, by rw [Machine.goOn, Machine.goOn, h.left]⟩

namespace Alike

theorem afterResult (h : m.Alike n) (task : Task) (r : StepResult) :
    AlikeLeft (m.afterResult task r) (n.afterResult task r) := by
  cases task with
  | steps left => exact ⟨h.hearResult r, rfl⟩
  | run limit taken =>
    have ends : n.runEnds limit (taken + 1) r = m.runEnds limit (taken + 1) r := by
      rw [h.rest]
      rfl
    simp only [Machine.afterResult, ends]
    split
    · have ended := h.map (f := endRun) fun _ _ _ => rfl
      exact ⟨ended.hearResult r, rfl⟩
    · exact ⟨h, rfl⟩
  | single armed =>
    simp only [Machine.afterResult]
    split
    · refine ⟨?_, rfl⟩
      rw [h.resultEvent]
      exact (h.setPolicy true).hear _
    · exact ⟨h.hearResult r, rfl⟩
  | clock live =>
    simp only [Machine.afterResult]
    split
    · exact ⟨h.tickIfDue, rfl⟩
    · exact ⟨h.finish r, rfl⟩

theorem afterRaise (h : m.Alike n) (task : Task) (e : AccessError) :
    (m.afterRaise task e).Alike (n.afterRaise task e) := by
  cases task with
  | steps left => exact h.hear (.raised e)
  | run limit taken =>
    exact (h.map (f := fun l => { l with stopAfter := none }) fun _ _ _ => rfl).hear (.raised e)
  | single armed =>
    simp only [Machine.afterRaise]
    split
    · exact (h.setPolicy true).hear (.raised e)
    · exact h.hear (.raised e)
  | clock live => exact h

theorem awaitKey (h : m.Alike n) (task : Task) (w : Fetched) (o : Operation) :
    AlikeLeft (m.awaitKey task w o) (n.awaitKey task w o) := by
  have same : n.cpu.keypad.first? = m.cpu.keypad.first? := by
    unfold Keypad.first? Keypad.isDown
    rw [h.cpu.down]
  unfold Machine.awaitKey Keypad.await
  rw [same]
  cases m.cpu.keypad.first? with
  | none => exact ⟨h.setCpu (h.cpu.withKeypad h.cpu.down), rfl⟩
  | some k =>
    have told := ((h.cpu.deliver k).conclude w o)
    exact ((h.withCpu told).afterResult task .carryOn).goOn

theorem perform (h : m.Alike n) (task : Task) : AlikeLeft (m.perform task) (n.perform task) := by
  obtain ⟨alike, same⟩ := h.cpu.cycle
  unfold Machine.perform
  generalize m.cpu.cycle = r at alike same ⊢
  generalize n.cpu.cycle = s at alike same ⊢
  obtain ⟨c, o⟩ := r
  obtain ⟨d, o'⟩ := s
  obtain rfl : o' = o := same
  have ran : Alike { m with cpu := c } { n with cpu := d } := h.setCpu alike
  cases o' with
  | halted => exact (ran.afterResult task .halted).goOn
  | fatal => exact (ran.afterResult task .fatal).goOn
  | raised e => exact ⟨ran.afterRaise task e, rfl⟩
  | done w o =>
    have waits : d.isSuspended = c.isSuspended := by
      rw [Cpu.isSuspended, Cpu.isSuspended, Cpu.Alike.state alike]
    dsimp only
    rw [waits]
    split
    · exact ran.awaitKey task w o
    · exact ((ran.withCpu (Cpu.Alike.conclude alike w o)).afterResult task .carryOn).goOn

theorem moveThread (h : m.Alike n) (t : Thread) : AlikeLeft (m.moveThread t) (n.moveThread t) := by
  obtain ⟨task, place⟩ := t
  cases place with
  | ready =>
    simp only [Machine.moveThread]
    rw [h.cpu.gate]
    split
    · exact ⟨h, rfl⟩
    have arrived := h.setCpu (h.cpu.withGate m.cpu.gate.arrive.1)
    split
    · exact ⟨arrived, rfl⟩
    · exact arrived.perform task
  | released => exact h.perform task
  | woken w o => exact h.awaitKey task w o
  | gate | key w o => exact ⟨h, rfl⟩

theorem move (h : m.Alike n) (k : Nat) : (m.move k).Alike (n.move k) := by
  have threads : n.threads = m.threads := by rw [h.rest]
  unfold Machine.move
  rw [threads]
  cases m.threads[k]? with
  | none => exact h
  | some t =>
    dsimp only
    split
    · have others := h.map (f := fun l =>
        { l with threads := m.threads.eraseIdx k, onThread := true }) fun _ _ _ => rfl
      have moved := others.moveThread t
      have left := moved.left
      rw [left]
      refine moved.machine.map (f := fun l => { l with
        threads := l.threads.take k ++ Option.toList _ ++ l.threads.drop k, onThread := false })
        fun _ _ _ => rfl
    · exact h

/-! ## Actions -/

theorem spawn (h : m.Alike n) (task : Task) : (m.spawn task).Alike (n.spawn task) :=
  h.map (f := fun l => l.spawn task) fun _ _ _ => rfl

theorem openGate (h : m.Alike n) : m.openGate.Alike n.openGate := by
  have released := h.map (f := fun l => { l with
    threads := l.threads.map fun t => { t with place := t.place.release } }) fun _ _ _ => rfl
  unfold Machine.openGate
  rw [h.cpu.gate]
  exact released.setCpu (h.cpu.withGate _)

theorem resume (h : m.Alike n) : m.resume.Alike n.resume := (h.setPolicy false).openGate

theorem isPaused (h : m.Alike n) : n.isPaused = m.isPaused := by
  rw [Machine.isPaused, Machine.isPaused, h.cpu.gate]

theorem start (h : m.Alike n) : m.start.1.Alike n.start.1 := by
  have forgotten := h.map (f := fun l => { l with outcome := none, finished := false })
    fun _ _ _ => rfl
  have made := forgotten.map (f := fun l => { l with clocked := true }) fun _ _ _ => rfl
  have opened := made.map (f := fun l => { l with timer := true, sinceTick := 0, onThread := true })
    fun _ _ _ => rfl
  have ticked := opened.tick.map (f := fun l => { l with onThread := false }) fun _ _ _ => rfl
  have spawned := ticked.spawn (.clock true)
  obtain ⟨c, hs, rfl⟩ := h.exists_eq
  have running : isRunning { m with cpu := c, heard := hs } = m.isRunning := rfl
  unfold Machine.start
  rw [running]
  split
  · exact h
  dsimp only at forgotten made ⊢
  split
  · exact forgotten
  split
  · exact made
  · exact spawned

theorem cancel (h : m.Alike n) : m.cancel.Alike n.cancel := by
  have forgotten := h.map (f := fun l => { l with
    timer := false, threads := l.threads.map Thread.cancel }) fun _ _ _ => rfl
  have cancelled := (forgotten.setPolicy false).openGate
  obtain ⟨c, hs, rfl⟩ := h.exists_eq
  unfold Machine.cancel
  dsimp only at cancelled ⊢
  split
  · exact cancelled
  · exact h

theorem press (h : m.Alike n) (k : Key) : (m.press k).Alike (n.press k) := by
  have woken := h.map (f := fun l => { l with
    threads := l.threads.map fun t => { t with place := t.place.wake } }) fun _ _ _ => rfl
  refine woken.setCpu (h.cpu.withKeypad ?_)
  simp only [h.cpu.down]

theorem debugStep (h : m.Alike n) : m.debugStep.Alike n.debugStep := by
  unfold Machine.debugStep
  rw [h.isPaused, h.cpu.gate]
  split
  · exact h.openGate
  · exact (h.setPolicy false).spawn _

/-- Whatever is done to machines that are alike, they stay so. -/
theorem act (h : m.Alike n) (a : Action) : (m.act a).Alike (n.act a) := by
  cases a with
  | move k => exact h.move k
  | start => exact h.start
  | cancel => exact h.cancel
  | silence => exact (h.requestTone false).map (f := fun l => { l with clocked := false }) fun _ _ _ => rfl
  | pause => exact h.setPolicy true
  | resume => exact h.resume
  | stepPaused =>
    simp only [Machine.act, Machine.stepPaused, h.isPaused]
    split
    · exact h.openGate
    · exact h
  | press k => exact h.press k
  | release k =>
    refine h.setCpu (h.cpu.withKeypad ?_)
    simp only [Keypad.release, h.cpu.down]
  | releaseAll => exact h.setCpu (h.cpu.withKeypad rfl)
  | tick => exact h.tick
  | step k =>
    simp only [Machine.act, Machine.step]
    split
    · exact h
    · exact h.spawn _
  | debugRun limit stopAfter =>
    have ready := h.map (f := fun l => { l with
      debugger := { l.debugger with running := true, hit := none }, stopAfter }) fun _ _ _ => rfl
    exact (ready.setPolicy false).spawn _
  | debugStep => exact h.debugStep
  | debugResume =>
    have forgotten := h.map (f := fun l => { l with debugger := { l.debugger with hit := none } })
      fun _ _ _ => rfl
    exact forgotten.resume
  | reset =>
    have reset := h.cpu.kin.reset
    exact h.withCpu ⟨reset.cpu, reset.told⟩
  | load data =>
    have load := h.cpu.loadProgram data
    exact h.withCpu ⟨load.cpu, load.told⟩

/-- Along every run, machines that are alike stay so. -/
theorem after (h : m.Alike n) (as : List Action) : (m.after as).Alike (n.after as) := by
  induction as generalizing m n with
  | nil => exact h
  | cons a as ih => exact ih (h.act a)

end Alike

end Machine

end Hexscope
