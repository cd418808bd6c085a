import Mathlib.Data.List.Perm.Basic
import Hexscope.Proofs.Machine.Conclude
import Hexscope.Proofs.Machine.Show
import Hexscope.Proofs.Machine.Stepping

/-!
# Control from outside

While a machine runs a program, others may pause it, let it go on, let it execute one instruction at a
time, or have it stopped by breakpoints. For what is executed this makes no difference. A run is compared
with one of the same processor without gate and breakpoints (`Machine.plain`), in which a caller executes
one instruction whenever a thread begins one, and keys and ticks come where they came
(`Machine.plainly`). Who is inside of an instruction has a caller there as a shadow.

* `Machine.Twins.moveThread`: an instruction is the same one with and without control;
* `Machine.Mirrors.after`: the plain run mirrors the one under control, as long as no program is replaced;
* `Machine.control_transparent`: so listeners are shown the same, and a step behind a closed gate executes
  one instruction.
-/

namespace Hexscope

/-- Whether an action is a step by a caller, or one that just happens. -/
def Machine.Action.isPlain : Machine.Action → Bool
  | .step n => n == 1
  | .move _ | .press _ | .release _ | .releaseAll | .tick => true
  | _ => false

namespace Thread

/-- A caller inside the instruction in which a thread is, if it is inside one. -/
def shadow? (t : Thread) : Option Thread :=
  if t.place.inside?.isSome then some ⟨.steps 1, t.place⟩ else none

theorem shadow?_of_outside {t : Thread} (h : t.place.inside? = none) : t.shadow? = none := by
  rw [shadow?, h]
  rfl

theorem shadow?_of_inside {t : Thread} (h : t.place.inside?.isSome = true) :
    t.shadow? = some ⟨.steps 1, t.place⟩ := by
  rw [shadow?, if_pos h]

@[simp] theorem shadow?_cancel (t : Thread) : t.cancel.shadow? = t.shadow? := by
  rw [shadow?, place_cancel, shadow?]

/-- Who is let through the gate is inside of no instruction. -/
@[simp] theorem shadow?_release (t : Thread) :
    shadow? { t with place := t.place.release } = t.shadow? := by
  obtain ⟨task, place⟩ := t
  cases place <;> rfl

/-- A key wakes a thread together with its shadow. -/
@[simp] theorem shadow?_wake (t : Thread) : shadow? { t with place := t.place.wake } =
    t.shadow?.map fun u => { u with place := u.place.wake } := by
  obtain ⟨task, place⟩ := t
  cases place <;> rfl

end Thread

namespace Machine

/-- The shadows of the threads. -/
def shadows (m : Machine) : List Thread := m.threads.filterMap Thread.shadow?

/-- The machine without breakpoints and with the gate open. Instead of its threads there are their
shadows. -/
def plain (m : Machine) : Machine :=
  { m with
    cpu := m.cpu.withGate (.ofPolicy false)
    debugger := { m.debugger with breakpoints := [] }
    threads := m.shadows }

/-- What happens to a plain machine when a thread of this one moves: a caller executes an instruction if
the thread begins one, and the shadow moves if the thread is inside of one. -/
def passes (m p : Machine) (t : Thread) : List Action :=
  if t.enters m.cpu.gate then [.step 1, .move p.threads.length]
  else t.shadow?.toList.map fun u => .move (p.threads.idxOf u)

/-- What happens to a plain machine when something happens to this one. Keys go down and up there as they
do here, and the timers tick if they tick here. -/
def plainOf (m p : Machine) (a : Action) : List Action :=
  (match a with
    | .move k => (m.threads[k]?).toList.flatMap (m.passes p)
    | .press k => [.press k]
    | .release k => [.release k]
    | .releaseAll => [.releaseAll]
    | _ => []) ++ if m.ticks a then [.tick] else []

/-- What happens to a plain machine along a run of this one. -/
def plainly (m p : Machine) : List Action → List Action
  | [] => []
  | a :: as => m.plainOf p a ++ (m.act a).plainly (p.after (m.plainOf p a)) as

/-- Two machines whose processors are alike but for the gate have shown the same. The second one has its
gate open and no breakpoints. -/
structure Twins (m p : Machine) : Prop where
  cpu : m.cpu.AlikeButGate p.cpu
  opened : p.cpu.gate.shouldWait = false
  unwatched : p.debugger.breakpoints = []
  frames : p.frameListeners = m.frameListeners
  snapshots : p.snapshotListeners = m.snapshotListeners
  shown : p.shown = m.shown

/-- Nothing is shown, and of the processor at most the speaker and the gate change. -/
structure Hushed (m n : Machine) : Prop where
  cpu : ∃ speaker gate, n.cpu = { m.cpu with speaker, gate }
  frames : n.frameListeners = m.frameListeners
  snapshots : n.snapshotListeners = m.snapshotListeners
  shown : n.shown = m.shown

variable {m n p q : Machine} {a : Action} {as : List Action} {t u : Thread} {l : Option Thread}
  {j k : Nat}

/-! ## What shows nothing -/

namespace Hushed

theorem of_heard (cpu : ∃ speaker gate, n.cpu = { m.cpu with speaker, gate })
    (frames : n.frameListeners = m.frameListeners)
    (snapshots : n.snapshotListeners = m.snapshotListeners) (heard : n.heard = m.heard) :
    m.Hushed n :=
  ⟨cpu, frames, snapshots, shown_of_heard heard⟩

theorem refl (m : Machine) : m.Hushed m := .of_heard ⟨m.cpu.speaker, m.cpu.gate, rfl⟩ rfl rfl rfl

theorem hear (h : m.Hushed n) {e : Event} (silent : e.shown? = none) : m.Hushed (n.hear e) :=
  { h with shown := (shown_hear silent n).trans h.shown }

end Hushed

theorem hushed_setPolicy (m : Machine) (b : Bool) : m.Hushed (m.setPolicy b) :=
  .of_heard ⟨m.cpu.speaker, _, rfl⟩ rfl rfl rfl

theorem hushed_requestTone (m : Machine) (beeping : Bool) :
    m.Hushed (m.withCpu (m.cpu.requestTone beeping)) := by
  have told := told_withCpu m (m.cpu.requestTone beeping)
  obtain ⟨speaker, gate, shut, -⟩ := shuts_withCpu m (Cpu.shuts_requestTone m.cpu beeping)
  refine ⟨⟨speaker, gate, shut⟩, ?_, ?_,
    shown_withCpu_of_silent (Cpu.silent_requestTone m.cpu beeping)⟩
  · rw [told.rest]
  · rw [told.rest]

/-- The end of a run shows nothing. -/
theorem hushed_finish (m : Machine) (r : StepResult) : m.Hushed (m.finish r) := by
  have silent := hushed_requestTone { m with outcome := some r, timer := false } false
  refine ⟨silent.cpu, silent.frames, silent.snapshots, ?_⟩
  exact (shown_hear rfl _).trans silent.shown

theorem hushed_tickIfDue (h : m.tickDue = false) : m.Hushed m.tickIfDue := by
  obtain ⟨sinceTick, counted⟩ := tickIfDue_of_not_due h
  rw [counted]
  exact .of_heard ⟨m.cpu.speaker, m.cpu.gate, rfl⟩ rfl rfl rfl

/-- A result shows nothing, unless a tick is due. -/
theorem hushed_afterResult (m : Machine) (task : Task) (r : StepResult)
    (h : r = .carryOn → task.isClock = true → m.tickDue = false) :
    m.Hushed (m.afterResult task r).1 := by
  cases task with
  | steps left => exact (Hushed.refl m).hear rfl
  | run limit taken =>
    simp only [afterResult]
    split
    · have ended : m.Hushed m.endRun := .of_heard ⟨m.cpu.speaker, m.cpu.gate, rfl⟩ rfl rfl rfl
      exact ended.hear rfl
    · exact .refl m
  | single armed =>
    simp only [afterResult]
    split
    · exact (hushed_setPolicy m true).hear rfl
    · exact (Hushed.refl m).hear rfl
  | clock live =>
    simp only [afterResult]
    split
    · rename_i goes
      exact hushed_tickIfDue (h goes rfl)
    · exact hushed_finish m r

theorem hushed_afterRaise (m : Machine) (task : Task) (e : AccessError) :
    m.Hushed (m.afterRaise task e) := by
  cases task with
  | steps left => exact (Hushed.refl m).hear rfl
  | run limit taken =>
    have ended : m.Hushed { m with stopAfter := none } :=
      .of_heard ⟨m.cpu.speaker, m.cpu.gate, rfl⟩ rfl rfl rfl
    exact ended.hear rfl
  | single armed =>
    simp only [afterRaise]
    split
    · exact (hushed_setPolicy m true).hear rfl
    · exact (Hushed.refl m).hear rfl
  | clock live => exact .refl m

namespace Twins

theorem hushed (h : m.Twins p) (hushed : m.Hushed n) : n.Twins p := by
  obtain ⟨speaker, gate, cpu⟩ := hushed.cpu
  refine ⟨?_, h.opened, h.unwatched, h.frames.trans hushed.frames.symm,
    h.snapshots.trans hushed.snapshots.symm, h.shown.trans hushed.shown.symm⟩
  rw [cpu]
  exact h.cpu.around speaker gate

/-- The second one has its own events besides. -/
theorem hear (h : m.Twins p) {e : Event} (silent : e.shown? = none) : m.Twins (p.hear e) :=
  { h with shown := (shown_hear silent p).trans h.shown }

/-- The threads do not matter. -/
theorem around (h : m.Twins p) (ts us : List Thread) (b b' : Bool) :
    Twins { m with threads := ts, onThread := b } { p with threads := us, onThread := b' } :=
  ⟨h.cpu, h.opened, h.unwatched, h.frames, h.snapshots, h.shown⟩

/-- The same is done to both processors, and told except for tones. -/
theorem withCpu (h : m.Twins p) {r s : Cpu × List Notice} (cpu : r.1.AlikeButGate s.1)
    (gate : s.1.gate = p.cpu.gate) (told : Cpu.SameButTones r.2 s.2) :
    (m.withCpu r).Twins (p.withCpu s) := by
  have here := told_withCpu m r
  have there := told_withCpu p s
  obtain ⟨hit, closes, -⟩ := here.gate
  rw [ClosesAtMost] at closes
  have same : (p.withCpu s).cpu = s.1 := there.cpu_of_unwatched h.unwatched
  refine ⟨?_, ?_, there.breakpoints.trans h.unwatched, ?_, ?_, ?_⟩
  · rw [same, closes]
    exact cpu.around r.1.speaker _
  · rw [same, gate, h.opened]
  · rw [here.rest, there.rest]
    exact h.frames
  · rw [here.rest, there.rest]
    exact h.snapshots
  · have listeners : p.listeners = m.listeners := by
      funext e
      unfold Machine.listeners
      rw [h.frames, h.snapshots]
    rw [shown_withCpu, shown_withCpu, h.shown, shows, shows, told, listeners]

theorem tick (h : m.Twins p) : m.tick.Twins p.tick := by
  obtain ⟨cpu, told⟩ := h.cpu.tick
  exact h.withCpu cpu (Cpu.gate_tick p.cpu) told

end Twins

/-! ## A move and its shadow -/

/-- A thread does what another one does, each with a gate before it. -/
structure Mimics (t u : Thread) (g g' : Gate) : Prop where
  enters : t.enters g = true → u.enters g' = true
  woken {w : Fetched} {o : Operation} : t.place = .woken w o → u.place = .woken w o

section

variable {c d e : Cpu} {w : Fetched} {o : Operation}

theorem Mimics.asks (mimics : Mimics t u c.gate d.gate) (alike : c.AlikeButGate d)
    (h : Asks c t w o e) : ∃ f, Asks d u w o f ∧ e.AlikeButGate f := by
  cases h with
  | begins enters done waits =>
    obtain ⟨cycled, same⟩ := alike.cycle
    exact ⟨_, .begins (mimics.enters enters) (same.trans done) (by rw [cycled.state]; exact waits), cycled⟩
  | woken inside => exact ⟨_, .woken (mimics.woken inside), alike⟩

theorem Mimics.ready (mimics : Mimics t u c.gate d.gate) (alike : c.AlikeButGate d)
    (h : Ready c t w o e) : ∃ f, Ready d u w o f ∧ e.AlikeButGate f := by
  cases h with
  | free enters done free =>
    obtain ⟨cycled, same⟩ := alike.cycle
    exact ⟨_, .free (mimics.enters enters) (same.trans done) (by rw [cycled.state]; exact free), cycled⟩
  | served asks down =>
    obtain ⟨f, asks', alike'⟩ := mimics.asks alike asks
    exact ⟨_, .served asks' (alike'.first?.trans down), alike'.deliver _⟩

end

/-- Outside of every instruction there is no shadow. -/
theorem Outside.shadow? (h : Outside l) : l.bind Thread.shadow? = none := by
  cases l with
  | none => rfl
  | some t => exact Thread.shadow?_of_outside (h t rfl)

/-- The report of a caller is that of the thread, and afterwards the timers tick if it is the thread of a
clock and they are due. -/
theorem Twins.reports (h : m.Twins p) {w : Fetched} {o : Operation} {e f : Cpu}
    (ready : Ready m.cpu t w o e) (ready' : Ready p.cpu u w o f) (alike : e.AlikeButGate f)
    (caller : u.task = .steps 1) :
    if m.tickDue && t.task.isClock then
      ∃ n : Machine, n.Twins (p.moveThread u).1 ∧ (m.moveThread t).1 = n.tick
    else (m.moveThread t).1.Twins (p.moveThread u).1 := by
  obtain ⟨concluded, told⟩ := alike.conclude w o
  have reported : (m.withCpu (e.conclude w o)).Twins (p.withCpu (f.conclude w o)) :=
    h.withCpu concluded ((Cpu.gate_conclude f w o).trans ready'.gate) told
  have heard := reported.hear (e := (p.withCpu (f.conclude w o)).resultEvent .carryOn) rfl
  have due : (m.withCpu (e.conclude w o)).tickDue = m.tickDue :=
    (told_withCpu m (e.conclude w o)).tickDue
  rw [moveThread_of_ready ready, moveThread_of_ready ready', caller]
  split
  · rename_i both
    obtain ⟨ticks, clock⟩ := Bool.and_eq_true_iff.mp both
    refine ⟨{ m.withCpu (e.conclude w o) with sinceTick := 0 }, { heard with }, ?_⟩
    obtain ⟨task, place⟩ := t
    cases task with
    | clock live => exact tickIfDue_of_due (due.trans ticks)
    | steps | run | single => cases clock
  · rename_i still
    refine heard.hushed (hushed_afterResult _ _ _ fun _ clock => ?_)
    rw [clock, Bool.and_true, Bool.not_eq_true] at still
    exact due.trans still

/-- The instruction of a thread is executed by a caller, who then is where the thread is: inside of the
instruction, or outside of every one. -/
theorem Twins.moveThread (h : m.Twins p) (mimics : Mimics t u m.cpu.gate p.cpu.gate)
    (caller : u.task = .steps 1)
    (goes : t.enters m.cpu.gate = true ∨ t.place.inside?.isSome = true)
    (runs : t.place.isRunnable = true) :
    (if t.concludes m.cpu && m.tickDue && t.task.isClock then
        ∃ n : Machine, n.Twins (p.moveThread u).1 ∧ (m.moveThread t).1 = n.tick
      else (m.moveThread t).1.Twins (p.moveThread u).1) ∧
    (p.moveThread u).2 = (m.moveThread t).2.bind Thread.shadow? := by
  obtain ⟨cycled, same⟩ := h.cpu.cycle
  have begun : Twins { m with cpu := m.cpu.cycle.1 } { p with cpu := p.cpu.cycle.1 } :=
    { h with cpu := cycled, opened := by rw [Cpu.gate_cycle]; exact h.opened }
  by_cases concludes : t.concludes m.cpu = true
  · obtain ⟨w, o, e, ready⟩ := concludes_iff.mp concludes
    obtain ⟨f, ready', alike⟩ := mimics.ready h.cpu ready
    rw [concludes, Bool.true_and]
    refine ⟨h.reports ready ready' alike caller, ?_⟩
    rw [moveThread_of_ready ready, moveThread_of_ready ready', caller, (outside_goOn _).shadow?]
    rfl
  rw [Bool.eq_false_iff.mpr concludes, Bool.false_and, Bool.false_and, if_neg Bool.false_ne_true]
  have proceeds := proceeds_moveThread m runs
  generalize m.moveThread t = r at proceeds ⊢
  -- Who arrives at the gate neither begins an instruction nor is inside of one.
  have arrives (ready : t.place = .ready) : t.enters m.cpu.gate = true := by
    refine goes.resolve_right fun inside => ?_
    rw [ready] at inside
    cases inside
  cases proceeds with
  | ends ready unwanted =>
    have enters := arrives ready
    simp [Thread.enters, ready, unwanted] at enters
  | parks ready _ closed =>
    have enters := arrives ready
    simp [Thread.enters, ready, closed] at enters
  | @stops result enters stop =>
    have stop' : p.cpu.cycle.2.stop? = some result := same ▸ stop
    have ended : result ≠ .carryOn := by
      rintro rfl
      cases hr : m.cpu.cycle.2 <;> rw [hr] at stop <;> cases stop
    rw [moveThread_of_enters (mimics.enters enters), perform_of_stop stop', caller]
    refine ⟨?_, ?_⟩
    · exact (begun.hushed (hushed_afterResult _ _ _ fun goes => absurd goes ended)).hear rfl
    · rw [(outside_goOn _).shadow?, goOn, task_of_ended ended, Option.map_none]
  | @raises e enters raised =>
    have raised' : p.cpu.cycle.2 = .raised e := same.trans raised
    rw [moveThread_of_enters (mimics.enters enters), perform_of_refused raised', caller]
    exact ⟨(begun.hushed (hushed_afterRaise _ _ _)).hear rfl, rfl⟩
  | reports ready => exact absurd (concludes_iff.mpr ⟨_, _, _, ready⟩) concludes
  | @waits e w o asks up =>
    obtain ⟨f, asks', alike⟩ := mimics.asks h.cpu asks
    have up' : Keypad.first? (Machine.cpu { p with cpu := f }).keypad = none := alike.first?.trans up
    rw [moveThread_of_asks asks', awaitKey_of_up up', caller]
    refine ⟨?_, rfl⟩
    exact { h with
      cpu := alike.await
      opened := by
        have gate : f.gate.shouldWait = false := by rw [asks'.gate, h.opened]
        exact gate }

/-! ## The plain run -/

/-- The second machine is a twin of the first one, and its threads are the shadows of the first one's, in
any order. -/
structure Mirrors (m p : Machine) : Prop extends m.Twins p where
  shadows : p.threads.Perm m.shadows

/-- The plain machine is a mirror of the one it was made of. -/
theorem mirrors_plain (m : Machine) : m.Mirrors m.plain where
  cpu := .withGate m.cpu _
  opened := rfl
  unwatched := rfl
  frames := rfl
  snapshots := rfl
  shown := rfl
  shadows := .refl _

/-- A thread that neither begins an instruction nor is inside of one shows nothing. -/
theorem hushed_of_proceeds {r : Machine × Option Thread} (h : Proceeds m t r)
    (idle : t.enters m.cpu.gate = false) (outside : t.place.inside? = none) :
    m.Hushed r.1 ∧ r.2.bind Thread.shadow? = none := by
  have asks {w : Fetched} {o : Operation} {c : Cpu} (asks : Asks m.cpu t w o c) : False := by
    cases asks with
    | begins enters _ _ => rw [idle] at enters; cases enters
    | woken inside => rw [inside] at outside; cases outside
  cases h with
  | ends _ _ => exact ⟨.refl m, rfl⟩
  | parks _ _ _ => exact ⟨.of_heard ⟨m.cpu.speaker, _, rfl⟩ rfl rfl rfl, rfl⟩
  | stops enters _ => exact absurd (idle.symm.trans enters) Bool.false_ne_true
  | raises enters _ => exact absurd (idle.symm.trans enters) Bool.false_ne_true
  | reports ready =>
    cases ready with
    | free enters _ _ => exact absurd (idle.symm.trans enters) Bool.false_ne_true
    | served inside _ => exact (asks inside).elim
  | waits inside _ => exact (asks inside).elim

/-- The threads when one has taken the place of another, which has gone. -/
theorem perm_replaced (ts us : List Thread) (k : Nat) :
    (ts.take k ++ us ++ ts.drop (k + 1)).Perm (us ++ ts.eraseIdx k) := by
  rw [List.eraseIdx_eq_take_drop_succ, List.append_assoc]
  exact List.perm_append_comm_assoc ..

theorem shadows_replaced (ts : List Thread) (l : Option Thread) (k : Nat) :
    ((ts.take k ++ l.toList ++ ts.drop (k + 1)).filterMap Thread.shadow?).Perm
      ((l.bind Thread.shadow?).toList ++ (ts.eraseIdx k).filterMap Thread.shadow?) := by
  have shadow : (l.bind Thread.shadow?).toList = l.toList.filterMap Thread.shadow? := by
    cases l with
    | none => rfl
    | some t => cases ht : t.shadow? <;> simp [ht]
  rw [shadow, ← List.filterMap_append]
  exact (perm_replaced ts l.toList k).filterMap _

theorem shadows_tick (m : Machine) : m.tick.shadows = m.shadows := by
  rw [shadows, tick, (told_withCpu m m.cpu.tick).threads, shadows]

theorem shadows_around (ht : m.threads[k]? = some t) :
    m.shadows.Perm (t.shadow?.toList ++ (m.threads.eraseIdx k).filterMap Thread.shadow?) := by
  have replaced := shadows_replaced m.threads (some t) k
  rw [← threads_around ht] at replaced
  exact replaced

@[simp] theorem shadows_spawn (m : Machine) (task : Task) : (m.spawn task).shadows = m.shadows := by
  rw [shadows, spawn, List.filterMap_append, shadows]
  exact List.append_nil _

@[simp] theorem shadows_openGate (m : Machine) : m.openGate.shadows = m.shadows := by
  simp only [shadows, openGate, List.filterMap_map, Function.comp_def, Thread.shadow?_release]

namespace Mirrors

/-- Nothing is shown, and no thread enters or leaves an instruction. -/
theorem hushed (h : m.Mirrors p) (hushed : m.Hushed n) (shadows : n.shadows = m.shadows) :
    n.Mirrors p :=
  { h.toTwins.hushed hushed with shadows := shadows ▸ h.shadows }

theorem tick (h : m.Mirrors p) : m.tick.Mirrors p.tick := by
  refine { h.toTwins.tick with shadows := ?_ }
  rw [shadows_tick, Machine.tick, (told_withCpu p p.cpu.tick).threads]
  exact h.shadows

/-- Two threads move, one on each machine, while the others are mirrored. -/
theorem of_moves (h : m.Twins q) (ht : m.threads[k]? = some t) (hu : q.threads[j]? = some u)
    (others : (q.threads.eraseIdx j).Perm ((m.threads.eraseIdx k).filterMap Thread.shadow?))
    (mimics : Mimics t u m.cpu.gate q.cpu.gate) (caller : u.task = .steps 1)
    (goes : t.enters m.cpu.gate = true ∨ t.place.inside?.isSome = true)
    (runs : t.place.isRunnable = true) (runs' : u.place.isRunnable = true) :
    (m.act (.move k)).Mirrors
      (q.after (.move j :: if m.ticks (.move k) then [.tick] else [])) := by
  have both := h.around (m.threads.eraseIdx k) (q.threads.eraseIdx j) true true
  obtain ⟨moved, left⟩ := both.moveThread mimics caller goes runs
  have here := move_eq ht runs
  have there := move_eq hu runs'
  simp only at here there
  change if (t.concludes m.cpu && m.tickDue && t.task.isClock) = true then _ else _ at moved
  rw [← ticks_move ht] at moved
  generalize Machine.moveThread { m with threads := m.threads.eraseIdx k, onThread := true } t = r
    at moved left here
  generalize Machine.moveThread { q with threads := q.threads.eraseIdx j, onThread := true } u = s
    at moved left there
  have shadows : (q.move j).threads.Perm (m.move k).shadows := by
    have replaced := shadows_replaced m.threads r.2 k
    rw [← left] at replaced
    rw [Machine.shadows, here, there]
    exact (perm_replaced q.threads s.2.toList j).trans ((others.append_left _).trans replaced.symm)
  cases hticks : m.ticks (.move k) with
  | false =>
    rw [hticks, if_neg Bool.false_ne_true] at moved
    have twins : (m.move k).Twins (q.move j) := by
      rw [here, there]
      exact moved.around _ _ _ _
    exact { twins with shadows }
  | true =>
    rw [hticks, if_pos rfl] at moved
    obtain ⟨n, twins, ticked⟩ := moved
    have twins : (m.move k).Twins (q.move j).tick := by
      rw [here, there, ticked]
      exact (twins.around n.threads _ n.onThread false).tick.around _ _ _ _
    have kept : (q.move j).tick.threads = (q.move j).threads := (told_withCpu (q.move j) _).threads
    exact { twins with shadows := kept ▸ shadows }

/-- A thread moves that neither begins an instruction nor is inside of one. -/
theorem of_idle (h : m.Mirrors p) (ht : m.threads[k]? = some t)
    (runs : t.place.isRunnable = true) (idle : t.enters m.cpu.gate = false)
    (outside : t.place.inside? = none) : (m.act (.move k)).Mirrors p := by
  obtain ⟨r, proceeds, moved⟩ := exists_proceeds ht runs
  obtain ⟨hushed, left⟩ := hushed_of_proceeds proceeds idle outside
  have same : (m.move k).shadows.Perm m.shadows := by
    have before := shadows_around ht
    have after := shadows_replaced m.threads r.2 k
    rw [Thread.shadow?_of_outside outside] at before
    rw [left] at after
    rw [Machine.shadows, moved]
    exact after.trans before.symm
  have twins : (m.move k).Twins p := by
    have before := h.toTwins.around (m.threads.eraseIdx k) p.threads true p.onThread
    rw [moved]
    exact (before.hushed hushed).around _ p.threads _ p.onThread
  exact { twins with shadows := h.shadows.trans same.symm }

/-- A thread begins an instruction, and so does a new caller. -/
theorem of_enters (h : m.Mirrors p) (ht : m.threads[k]? = some t)
    (enters : t.enters m.cpu.gate = true) :
    (m.act (.move k)).Mirrors (p.after (.step 1 :: .move p.threads.length ::
      if m.ticks (.move k) then [.tick] else [])) := by
  have outside := inside?_of_enters enters
  have around := shadows_around ht
  rw [Thread.shadow?_of_outside outside] at around
  let caller : Thread := ⟨.steps 1, .ready⟩
  have spawned : (p.act (.step 1)).threads = p.threads ++ [caller] := rfl
  refine of_moves (q := p.act (.step 1)) (u := caller) (j := p.threads.length)
    (h.toTwins.around m.threads _ m.onThread p.onThread) ht ?_ ?_ ?_ rfl (.inl enters)
    (isRunnable_of_enters enters) rfl
  · rw [spawned, List.getElem?_concat_length]
  · rw [spawned, List.eraseIdx_append_of_length_le (Nat.le_refl _), Nat.sub_self]
    simpa using h.shadows.trans around
  · refine ⟨fun _ => ?_, fun inside => ?_⟩
    · have opened : (p.act (.step 1)).cpu.gate.shouldWait = false := h.opened
      simp [Thread.enters, caller, opened]
    · rw [inside] at outside
      cases outside

/-- A thread goes on inside of an instruction, or stays in it, and so does its shadow. -/
theorem of_inside (h : m.Mirrors p) (ht : m.threads[k]? = some t)
    (within : t.place.inside?.isSome = true) :
    (m.act (.move k)).Mirrors (p.after (.move (p.threads.idxOf ⟨.steps 1, t.place⟩) ::
      if m.ticks (.move k) then [.tick] else [])) := by
  have around := shadows_around ht
  rw [Thread.shadow?_of_inside within] at around
  generalize hu : (⟨.steps 1, t.place⟩ : Thread) = u at around ⊢
  have place : u.place = t.place := hu ▸ rfl
  have found : u ∈ p.threads :=
    (h.shadows.trans around).mem_iff.mpr (List.mem_append_left _ (List.mem_singleton_self u))
  have there : p.threads[p.threads.idxOf u]? = some u := List.getElem?_idxOf found
  by_cases runs : t.place.isRunnable = true
  · refine of_moves h.toTwins ht there ?_ ?_ (hu ▸ rfl) (.inr within) runs (place ▸ runs)
    · obtain ⟨lt, get⟩ := List.getElem?_eq_some_iff.mp there
      have first := List.getElem_cons_eraseIdx_perm lt
      rw [get] at first
      exact (first.trans (h.shadows.trans around)).cons_inv
    · refine ⟨fun enters => ?_, fun woken => place.trans woken⟩
      rw [inside?_of_enters enters] at within
      cases within
  · have stays := Bool.eq_false_iff.mpr runs
    have here : m.act (.move k) = m := move_of_stopped (by rw [ht]; rintro _ ⟨⟩; exact stays)
    have same : p.act (.move (p.threads.idxOf u)) = p :=
      move_of_stopped (by rw [there]; rintro _ ⟨⟩; exact place ▸ stays)
    rw [ticks_move ht, concludes_of_stopped stays, here, after_cons, same]
    exact h

theorem move (h : m.Mirrors p) (k : Nat) :
    (m.act (.move k)).Mirrors (p.after (m.plainOf p (.move k))) := by
  cases ht : m.threads[k]? with
  | none =>
    have nothing : m.plainOf p (.move k) = [] := by simp [plainOf, ticks, concludes, ht]
    rw [nothing, Machine.act, move_of_stopped (by rw [ht]; rintro _ ⟨⟩)]
    exact h
  | some t =>
    have does : m.plainOf p (.move k) =
        m.passes p t ++ if m.ticks (.move k) then [.tick] else [] := by
      simp only [plainOf, ht, Option.toList_some, List.flatMap_singleton]
    rw [does, passes]
    by_cases enters : t.enters m.cpu.gate = true
    · rw [if_pos enters]
      exact h.of_enters ht enters
    rw [if_neg enters]
    rw [Bool.not_eq_true] at enters
    cases inside : t.place.inside? with
    | some x =>
      have within : t.place.inside?.isSome = true := by rw [inside, Option.isSome_some]
      rw [Thread.shadow?_of_inside within]
      exact h.of_inside ht within
    | none =>
      rw [Thread.shadow?_of_outside inside, ticks_move ht, concludes_of_idle enters inside]
      by_cases runs : t.place.isRunnable = true
      · exact h.of_idle ht runs enters inside
      · rw [Machine.act, move_of_stopped (by rw [ht]; rintro _ ⟨⟩; exact Bool.eq_false_iff.mpr runs)]
        exact h

/-- Besides moves, only ticks show anything. -/
theorem act (h : m.Mirrors p) (kept : a.keepsProgram = true) :
    (m.act a).Mirrors (p.after (m.plainOf p a)) := by
  have gate (m : Machine) (g : Gate) : ∃ speaker gate,
      ({ m.cpu with gate := g } : Cpu) = { m.cpu with speaker, gate } :=
    ⟨m.cpu.speaker, g, rfl⟩
  cases a with
  | move k => exact h.move k
  | start =>
    have does : m.plainOf p .start = if m.ticks .start then [.tick] else [] := rfl
    rw [does]
    simp only [Machine.act, Machine.ticks]
    unfold start
    split
    · rename_i running
      rw [running]
      exact h
    rename_i idle
    rw [Bool.not_eq_true] at idle
    rw [idle]
    dsimp only
    split
    · exact h.hushed (.of_heard (gate m _) rfl rfl rfl) rfl
    split
    · exact h.hushed (.of_heard (gate m _) rfl rfl rfl) rfl
    · have ready : Mirrors { m with
          outcome := none, finished := false, clocked := true, timer := true, sinceTick := 0
          onThread := true } p := { h with }
      refine { ready.tick with shadows := ?_ }
      rw [shadows_spawn]
      exact ready.tick.shadows
  | cancel =>
    simp only [Machine.act, cancel]
    split
    · refine h.hushed (.of_heard (gate m _) rfl rfl rfl) ?_
      simp only [shadows_openGate]
      simp only [Machine.shadows, setPolicy, List.filterMap_map, Function.comp_def,
        Thread.shadow?_cancel]
    · exact h
  | silence =>
    have silent := hushed_requestTone m false
    refine h.hushed ⟨silent.cpu, silent.frames, silent.snapshots, silent.shown⟩ ?_
    simp only [Machine.shadows, Machine.act, silence, (told_withCpu m _).threads]
  | pause => exact h.hushed (hushed_setPolicy m true) rfl
  | resume => exact h.hushed (.of_heard (gate m _) rfl rfl rfl) (shadows_openGate _)
  | stepPaused =>
    simp only [Machine.act, stepPaused]
    split
    · exact h.hushed (.of_heard (gate m _) rfl rfl rfl) (shadows_openGate m)
    · exact h
  | press k =>
    refine { h.toTwins with cpu := h.cpu.withKeypad ?_, shadows := ?_ }
    · exact congrArg (·.set k true) h.cpu.down
    · have pressed := h.shadows.map fun u => { u with place := u.place.wake }
      simp only [Machine.shadows, List.map_filterMap] at pressed
      simp only [Machine.shadows, Machine.act, press, List.filterMap_map, Function.comp_def,
        Thread.shadow?_wake]
      exact pressed
  | release k =>
    exact { h with cpu := h.cpu.withKeypad (congrArg (·.set k false) h.cpu.down) }
  | releaseAll => exact { h with cpu := h.cpu.withKeypad rfl }
  | tick => exact h.tick
  | step i =>
    simp only [Machine.act, step]
    split
    · exact h
    · exact h.hushed (.of_heard (gate m _) rfl rfl rfl) (shadows_spawn m _)
  | debugRun limit stopAfter =>
    exact h.hushed (.of_heard (gate m _) rfl rfl rfl) (shadows_spawn (m.setPolicy false) _)
  | debugStep =>
    simp only [Machine.act, debugStep]
    split
    · exact h.hushed (.of_heard (gate m _) rfl rfl rfl) (shadows_openGate m)
    · exact h.hushed (.of_heard (gate m _) rfl rfl rfl) (shadows_spawn (m.setPolicy false) _)
  | debugResume => exact h.hushed (.of_heard (gate m _) rfl rfl rfl) (shadows_openGate _)
  | reset | load data => cases kept

theorem after (h : m.Mirrors p) (kept : ∀ a ∈ as, a.keepsProgram = true) :
    (m.after as).Mirrors (p.after (m.plainly p as)) := by
  induction as generalizing m p with
  | nil => exact h
  | cons a as ih =>
    have first := h.act (kept a (List.mem_cons_self ..))
    rw [plainly, after_append]
    exact ih first fun b hb => kept b (List.mem_cons_of_mem _ hb)

end Mirrors

theorem isPlain_plainOf (m p : Machine) (a : Action) : ∀ b ∈ m.plainOf p a, b.isPlain = true := by
  intro b hb
  rcases List.mem_append.mp hb with does | ticks
  · cases a with
    | move k =>
      obtain ⟨t, -, passes⟩ := List.mem_flatMap.mp does
      unfold Machine.passes at passes
      split at passes
      · rcases List.mem_cons.mp passes with rfl | moves
        · rfl
        · rw [List.mem_singleton.mp moves]
          rfl
      · obtain ⟨u, -, rfl⟩ := List.mem_map.mp passes
        rfl
    | press k | release k | releaseAll =>
      rw [List.mem_singleton.mp does]
      rfl
    | _ => cases does
  · split at ticks
    · rw [List.mem_singleton.mp ticks]
      rfl
    · cases ticks

/-- Nothing but steps by callers, keys and ticks happens to the plain machine. -/
theorem isPlain_plainly (m p : Machine) (as : List Action) :
    ∀ b ∈ m.plainly p as, b.isPlain = true := by
  induction as generalizing m p with
  | nil => exact List.forall_mem_nil _
  | cons a as ih =>
    intro b hb
    rcases List.mem_append.mp hb with here | later
    · exact isPlain_plainOf m p a b here
    · exact ih _ _ b later

/-- As long as no program is replaced, whatever is asked of a machine, its processor stays like the one of
the plain machine, and listeners are shown what they are shown there, and what is shown there afterwards
comes behind it. If one thread stays at a closed gate and the others have stopped as well, then after a
step one instruction begins before all have stopped again, unless somebody opens the gate or steps once
more, and they do stop. An instruction that begins is executed, unless the thread ends with it. -/
theorem control_transparent (m : Machine) :
    (∀ as : List Action, (∀ a ∈ as, a.keepsProgram = true) →
      (∀ b ∈ m.plainly m.plain as, b.isPlain = true) ∧
      (m.after as).cpu.AlikeButGate (m.plain.after (m.plainly m.plain as)).cpu ∧
      (m.after as).shown = (m.plain.after (m.plainly m.plain as)).shown ∧
      ∀ more, (m.after as).shown <+: (m.plain.after (m.plainly m.plain as ++ more)).shown) ∧
    (m.cpu.gate.shouldWait = true → m.isPaused = true → m.stopped = 1 → m.IsSettled →
      ∀ as : List Action, (∀ a ∈ as, a.opens = false ∧ a ≠ .stepPaused) →
        (m.act .stepPaused).begun as ≤ 1 ∧
        (((m.act .stepPaused).after as).IsSettled → (m.act .stepPaused).begun as = 1) ∧
        ∀ fuel, 2 * ((m.act .stepPaused).after as).threads.length ≤ fuel →
          (settleWith fuel ((m.act .stepPaused).after as)).IsSettled) ∧
    ∀ k, m.begins (.move k) = true → (m.executed? (.move k)).isSome = true ∨
      (m.act (.move k)).threads.length < m.threads.length := by
  refine ⟨fun as kept => ?_, fun closed paused alone settled as quiet => ?_,
    fun k => executed_or_ends⟩
  · have mirrors := (mirrors_plain m).after kept
    refine ⟨isPlain_plainly m m.plain as, mirrors.cpu, mirrors.shown.symm, fun more => ?_⟩
    rw [after_append, ← mirrors.shown]
    exact shown_prefix_after _ more
  · exact steps_once closed paused alone settled quiet

/-- A machine that was started and paused before the first instruction of a program. -/
def pausedAtOnce : Machine :=
  (default : Machine).after [.load [0x60, 0x05, 0x61, 0x06], .start, .pause, .move 0]

/-- A step executes the first instruction, and then the clock stays at the gate again. -/
theorem stepped_once : pausedAtOnce.isPaused = true ∧
    (pausedAtOnce.act .stepPaused).begun [.move 0, .move 0] = 1 ∧
    (pausedAtOnce.after [.stepPaused, .move 0, .move 0]).shown <+:
      (pausedAtOnce.plain.after (pausedAtOnce.plainly pausedAtOnce.plain
        [.stepPaused, .move 0, .move 0] ++ [.step 1, .move 0])).shown := by
  have facts : pausedAtOnce.cpu.gate.shouldWait = true ∧ pausedAtOnce.isPaused = true ∧
      pausedAtOnce.stopped = 1 ∧ pausedAtOnce.threads.all (!·.place.isRunnable) = true ∧
      ((pausedAtOnce.act .stepPaused).after [.move 0, .move 0]).threads.all
        (!·.place.isRunnable) = true := by
    decide +kernel
  obtain ⟨closed, paused, alone, settled, again⟩ := facts
  obtain ⟨transparent, stepping, -⟩ := control_transparent pausedAtOnce
  have once := stepping closed paused alone (isSettled_of_all settled) [.move 0, .move 0]
    (by simp [Action.opens])
  refine ⟨paused, once.2.1 (isSettled_of_all again), ?_⟩
  exact (transparent [.stepPaused, .move 0, .move 0] (by simp [Action.keepsProgram])).2.2.2 _

end Machine

end Hexscope
