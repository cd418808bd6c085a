import Hexscope.Proofs.Machine.Control
import Hexscope.Proofs.Machine.Load
import Hexscope.Proofs.Machine.Report
import Hexscope.Proofs.Machine.Tone

/-!
# Frames and the screen

An instruction that draws asks for the screen to be shown, and its report shows it. A reset and a load show
the blank screen. So the frame that was shown last is the screen, as long as who draws is also who reports.
An instruction that is executed while a register waits for a key is not reported before there is one, and if
it draws, the listeners keep a frame that is not the screen any more (`Machine.defers`).

* `Ends.display`: what a cycle does to the screen;
* `Machine.paints_act`: what an action shows, and what the screen is afterwards;
* `Machine.pictured`: which frame comes with which snapshot;
* `Machine.isCurrent_act`: the last frame stays the screen, but for a drawing that is deferred;
* `Machine.frames_show_screen`: all of it along every run.
-/

namespace Hexscope

/-- Whether an opcode draws: it blanks the screen, or draws a sprite. -/
def Opcode.draws (w : Opcode) : Bool := w = 0x00E0 || w.family = 0xD

/-- What of a state concerns the screen: its pixels, and whether they must be shown. -/
def State.display (s : State) : Screen × Bool := (s.screen, s.renderNeeded)

/-- The screen that a notice shows, if it shows one. -/
def Notice.frame? : Notice → Option Screen
  | .frame screen => some screen
  | .tone _ | .snapshot _ => none

/-! ## The processor -/

/-- What draws is what has the screen within reach. -/
theorem Opcode.draws_eq (w : Opcode) : w.draws = w.reach?.any (·.screen) := by
  have registers : w.registersReach?.any (·.screen) = false := by
    unfold registersReach?
    split <;> rfl
  have devices : w.devicesReach?.any (·.screen) = false := by
    unfold devicesReach?
    split <;> rfl
  by_cases blanks : w = 0x00E0
  · rw [blanks]
    rfl
  rw [draws, decide_eq_false blanks, Bool.false_or, reach?, if_neg blanks]
  generalize w.family = family
  split
  case h_1 => split <;> rfl
  case h_6 | h_10 => split <;> rfl
  case h_9 => exact registers.symm
  case h_15 =>
    split
    · rfl
    · split <;> rfl
  case h_16 => exact devices.symm
  case h_17 =>
    rw [Option.any_none, decide_eq_false_iff_not]
    assumption
  all_goals rfl

theorem Instruction.screen_reach {w : Opcode} {i : Instruction} (h : decode? w = some i) :
    i.reach.screen = w.draws := by
  rw [Opcode.draws_eq, Opcode.reach?_eq, h, Option.map_some, Option.any_some]

namespace Instruction

variable {i : Instruction} {keys : Keypad} {b b' : Board}

/-- Who does not draw leaves the screen alone. -/
theorem display_effect (plain : i.reach.screen = false) (keys : Keypad) (b : Board) :
    (i.effect keys b).1.state.display = b.state.display := by
  cases i with
  | cls | draw => cases plain
  | ret =>
    obtain ⟨pc, sp, e⟩ := b.exists_ret
    exact congrArg (·.state.display) e
  | call a =>
    obtain ⟨pc, sp, stack, e⟩ := b.exists_call a
    exact congrArg (·.state.display) e
  | fill x =>
    exact Board.keep_fillFrom (P := fun d => d.state.display = b.state.display)
      (fun _ _ _ _ _ _ h => h) rfl _ _
  | skipIfByte | skipUnlessByte | skipIfSame | skipUnlessSame | skipIfKey | skipUnlessKey =>
    simp only [effect, Board.withState, State.skipIf]
    split <;> rfl
  | _ => rfl

/-- Who draws asks for the screen to be shown. -/
theorem renderNeeded_effect (draws : i.reach.screen = true) (h : i.effect keys b = (b', none)) :
    b'.state.renderNeeded = true := by
  cases i with
  | cls =>
    cases h
    rfl
  | draw x y n =>
    simp only [effect, Board.draw] at h
    split at h
    · cases h
      rfl
    · cases h
  | _ => cases draws

end Instruction

namespace Cpu

variable {c d : Cpu} {r : Outcome Fetched} {w : Fetched} {o : Operation} {told : List Notice}

theorem Ends.display_of_done (h : c.Ends d (.done w o)) (plain : w.opcode.draws = false) :
    d.state.display = (c.state.screen, false) := by
  cases h with
  | @done bus _ i b _ _ _ hi he =>
    have same := Instruction.display_effect ((Instruction.screen_reach hi).trans plain) c.keypad
      (c.ready bus)
    rw [he] at same
    exact same

/-- An instruction that is executed asks for the screen to be shown exactly if it draws. -/
theorem Ends.renderNeeded (h : c.Ends d (.done w o)) : d.state.renderNeeded = w.opcode.draws := by
  cases draws : w.opcode.draws with
  | true =>
    cases h with
    | done _ _ _ hi he =>
      exact Instruction.renderNeeded_effect ((Instruction.screen_reach hi).trans draws) he
  | false => exact congrArg Prod.snd (h.display_of_done draws)

/-- Where nothing is drawn and no fault is left, the screen stays as it is, and nobody asks for it to be
shown. -/
theorem Ends.display (h : c.Ends d r) (whole : r.stop? ≠ some .fatal) (accepted : ∀ e, r ≠ .raised e)
    (plain : ∀ w ∈ r.word?, w.opcode.draws = false) :
    d.state.screen = c.state.screen ∧ (c.state.renderNeeded = false → d.state.renderNeeded = false) := by
  cases r with
  | halted => cases h <;> exact ⟨rfl, id⟩
  | fatal => exact absurd rfl whole
  | raised e => exact absurd rfl (accepted e)
  | done w o =>
    have same := h.display_of_done (plain w rfl)
    exact ⟨congrArg Prod.fst same, fun _ => congrArg Prod.snd same⟩

@[simp] theorem display_deliver (c : Cpu) (k : Key) : (c.deliver k).state.display = c.state.display := by
  unfold deliver
  split <;> rfl

/-- A moment is told as the screen, if it must be shown, and then the snapshot. -/
theorem told_notify (operation : Option Operation) (next : Option Opcode) (always : Bool) (c : Cpu) :
    (c.notify operation next always).2 =
      (if always || c.state.renderNeeded then [.frame c.state.screen] else []) ++
        [.snapshot (c.snapshot operation next).2] ∧
    (c.notify operation next always).1.state.display = (c.state.screen, false) := by
  have same : (c.snapshot operation next).1.state = c.state := rfl
  unfold notify takeFrame
  dsimp only
  rw [same]
  split
  · exact ⟨rfl, rfl⟩
  · rename_i no
    rw [Bool.or_eq_true, not_or, Bool.not_eq_true, Bool.not_eq_true] at no
    exact ⟨rfl, congrArg (Prod.mk _) no.2⟩

/-- A report is one snapshot, with the screen before it if the snapshot says that it must be shown. -/
theorem told_conclude (c : Cpu) (w : Fetched) (o : Operation) : (c.conclude w o).2 =
    (if (c.closing w o).renderNeeded then [.frame c.state.screen] else []) ++
      [.snapshot (c.closing w o)] :=
  (told_notify (some o) w.next false c).1

theorem display_conclude (c : Cpu) (w : Fetched) (o : Operation) :
    (c.conclude w o).1.state.display = (c.state.screen, false) :=
  (told_notify (some o) w.next false c).2

/-- An operation leaves the screen blank, and shows this and then a snapshot. -/
def Blanks (r : Cpu × List Notice) : Prop :=
  r.1.state.display = (.blank, false) ∧
    ∃ moment, r.2.filter (!·.isTone) = [.frame .blank, .snapshot moment]

theorem blanks_notify (silent : told.filter (!·.isTone) = []) (blank : c.state.screen = .blank) :
    Blanks ((c.notify none none true).1, told ++ (c.notify none none true).2) := by
  obtain ⟨shown, display⟩ := told_notify none none true c
  refine ⟨display.trans (by rw [blank]), (c.snapshot none none).2, ?_⟩
  rw [shown, blank, List.filter_append, silent]
  rfl

theorem silent_blank (c : Cpu) : c.blank.2.1.filter (!·.isTone) = [] := by
  unfold blank
  rcases c.bus.clear.load 0 Font.bytes with ⟨bus, _ | e⟩
  · exact silent_requestTone _ false
  · rfl

theorem blanks_reset (accepted : c.reset.2.2 = none) : Blanks (c.reset.1, c.reset.2.1) := by
  have state := state_blank c
  have silent := silent_blank c
  unfold reset at accepted ⊢
  generalize c.blank = r at accepted state silent ⊢
  obtain ⟨d, told, _ | e⟩ := r
  · exact blanks_notify silent (congrArg State.screen state)
  · cases accepted

theorem blanks_loadProgram {data : List UInt8} (accepted : (c.loadProgram data).2.2 = none) :
    Blanks ((c.loadProgram data).1, (c.loadProgram data).2.1) := by
  have state := state_blank c
  have silent := silent_blank c
  unfold loadProgram at accepted ⊢
  generalize c.blank = r at accepted state silent ⊢
  cases checked : Rom.checkSize c.romLimit data.length none with
  | error e =>
    rw [checked] at accepted
    cases accepted
  | ok u =>
    rw [checked] at accepted
    obtain ⟨d, told, _ | e⟩ := r
    · dsimp only at accepted state silent ⊢
      generalize d.bus.load programStart data = loaded at accepted ⊢
      obtain ⟨bus, _ | e⟩ := loaded
      · exact blanks_notify silent (congrArg State.screen state)
      · cases accepted
    · cases accepted

end Cpu

namespace Machine

variable {m n l : Machine} {a : Action} {k : Nat} {t : Thread} {c : Cpu} {w : Fetched} {o : Operation}
  {ns : List Notice} {r : Machine × Option Thread}

/-- The frames that the listeners were told and nobody has taken yet, oldest first. -/
def frames (m : Machine) : List Screen := m.shown.filterMap Notice.frame?

/-- The frame that was shown last. Before the first one listeners take the screen for blank. -/
def lastFrame (m : Machine) : Screen := m.frames.getLast?.getD .blank

/-- Whether the frame that was shown last is the screen. -/
def IsCurrent (m : Machine) : Prop := m.lastFrame = m.cpu.state.screen

/-- Whether a step has a fault for its result. -/
def fails (m : Machine) (a : Action) : Bool := m.begins a && m.cpu.cycle.2.stop? = some .fatal

/-- Whether an instruction that draws is executed, and not reported by the same action. -/
def defers (m : Machine) (a : Action) : Bool :=
  !m.concludes a && (m.executed? a).any (·.opcode.draws)

/-- Whether such an instruction changes the screen. -/
def outdates (m : Machine) (a : Action) : Bool :=
  m.defers a && (m.act a).cpu.state.screen != m.cpu.state.screen

/-- Whether something never happens along a run. -/
def never (P : Machine → Action → Bool) (m : Machine) : List Action → Bool
  | [] => true
  | a :: as => !P m a && never P (m.act a) as

/-! ## What an action shows -/

/-- Some frames and snapshots were shown, and the screen is that of a processor. -/
structure Displayed (c : Cpu) (m n : Machine) (ns : List Notice) : Prop where
  display : n.cpu.state.display = c.state.display
  shown : n.shown = m.shown ++ m.shows ns
  frames : n.frameListeners = m.frameListeners
  snapshots : n.snapshotListeners = m.snapshotListeners

namespace Displayed

theorem of_heard (display : n.cpu.state.display = c.state.display) (heard : n.heard = m.heard)
    (frames : n.frameListeners = m.frameListeners)
    (snapshots : n.snapshotListeners = m.snapshotListeners) : Displayed c m n [] :=
  ⟨display, (shown_of_heard heard).trans (List.append_nil _).symm, frames, snapshots⟩

theorem refl (m : Machine) : Displayed m.cpu m m [] := .of_heard rfl rfl rfl rfl

/-- What shows nothing. -/
theorem hushed (h : Displayed c m n ns) (hushed : n.Hushed l) : Displayed c m l ns := by
  obtain ⟨speaker, gate, cpu⟩ := hushed.cpu
  refine ⟨?_, hushed.shown.trans h.shown, hushed.frames.trans h.frames,
    hushed.snapshots.trans h.snapshots⟩
  rw [cpu]
  exact h.display

end Displayed

theorem displayed_withCpu (m : Machine) (told : Cpu × List Notice) :
    Displayed told.1 m (m.withCpu told) (told.2.filter (!·.isTone)) := by
  have tells := told_withCpu m told
  refine ⟨congrArg State.display tells.state, ?_, ?_, ?_⟩
  · rw [shown_withCpu, shows, shows, List.filter_filter]
    simp only [Bool.and_self]
  · rw [tells.rest]
  · rw [tells.rest]

/-- A tick shows nothing. -/
theorem Displayed.tick (h : Displayed c m n ns) : Displayed c m n.tick ns := by
  have ticked := displayed_withCpu n n.cpu.tick
  have silent : n.cpu.tick.2.filter (!·.isTone) = [] := Cpu.silent_requestTone _ _
  rw [silent] at ticked
  refine ⟨?_, ?_, ticked.frames.trans h.frames, ticked.snapshots.trans h.snapshots⟩
  · refine ticked.display.trans ?_
    rw [Cpu.state_tick]
    exact h.display
  · exact ticked.shown.trans ((List.append_nil _).trans h.shown)

/-- Nor does a result. -/
theorem Displayed.afterResult (h : Displayed c m n ns) (task : Task) (r : StepResult) :
    Displayed c m (n.afterResult task r).1 ns := by
  by_cases due : r = .carryOn ∧ task.isClock = true ∧ n.tickDue = true
  · obtain ⟨rfl, clock, due⟩ := due
    cases task with
    | clock live =>
      have ticks : (n.afterResult (.clock live) .carryOn).1 = n.tickIfDue := rfl
      rw [ticks, tickIfDue_of_due due]
      exact Displayed.tick (n := { n with sinceTick := 0 }) ⟨h.display, h.shown, h.frames, h.snapshots⟩
    | steps | run | single => cases clock
  · refine h.hushed (hushed_afterResult n task r fun goes clock => ?_)
    exact Bool.eq_false_iff.mpr fun ticks => due ⟨goes, clock, ticks⟩

/-- After a report nobody asks for the screen to be shown. -/
theorem Displayed.display_of_conclude (h : Displayed (c.conclude w o).1 m n ns) :
    n.cpu.state.display = (c.state.screen, false) :=
  h.display.trans (Cpu.display_conclude c w o)

/-- A report shows what it tells. -/
theorem displayed_of_ready (ht : m.threads[k]? = some t) (ready : Ready m.cpu t w o c) :
    Displayed (c.conclude w o).1 m (m.act (.move k)) (c.conclude w o).2 := by
  let moving := { m with threads := m.threads.eraseIdx k, onThread := true }
  have toneless : (c.conclude w o).2.filter (!·.isTone) = (c.conclude w o).2 := by
    rw [Cpu.told_conclude]
    split <;> rfl
  have told := displayed_withCpu moving (c.conclude w o)
  rw [toneless] at told
  have shown := told.afterResult t.task .carryOn
  have moved := move_eq ht (isRunnable_of_ready ready)
  rw [moveThread_of_ready (m := moving) ready] at moved
  rw [act, moved]
  exact ⟨shown.display, shown.shown, shown.frames, shown.snapshots⟩

/-- A move without a report shows nothing. -/
theorem displayed_of_proceeds (h : Proceeds m t r) (still : t.concludes m.cpu = false) :
    Displayed (entered t m.cpu) m r.1 [] := by
  have begun (enters : t.enters m.cpu.gate = true) : entered t m.cpu = m.cpu.cycle.1 := if_pos enters
  have idle (outside : t.enters m.cpu.gate = false) : entered t m.cpu = m.cpu := by
    rw [entered, outside]
    rfl
  have cycled : Displayed m.cpu.cycle.1 m { m with cpu := m.cpu.cycle.1 } [] := .of_heard rfl rfl rfl rfl
  cases h with
  | ends ready unwanted =>
    rw [idle (by simp [Thread.enters, ready, unwanted])]
    exact .refl m
  | parks ready _ closed =>
    rw [idle (by simp [Thread.enters, ready, closed])]
    exact .of_heard rfl rfl rfl rfl
  | @stops result enters _ =>
    rw [begun enters]
    exact cycled.afterResult t.task result
  | raises enters _ =>
    rw [begun enters]
    exact cycled.hushed (hushed_afterRaise _ t.task _)
  | @reports c w o ready =>
    rw [concludes_iff.mpr ⟨w, o, c, ready⟩] at still
    cases still
  | waits asks _ =>
    refine .of_heard ?_ rfl rfl rfl
    cases asks with
    | begins enters _ _ => rw [begun enters]
    | woken inside => rw [idle (by rw [Thread.enters, inside])]

/-- What an action shows, and what the screen is afterwards. -/
inductive Paints (m : Machine) (a : Action) : Prop where
  /-- The screen is blanked. -/
  | blanks {c : Cpu} {moment : Moment} : m.restarts a = true → c.state.display = (.blank, false) →
    Displayed c m (m.act a) [.frame .blank, .snapshot moment] → Paints m a
  /-- An instruction is reported. -/
  | reports {k : Nat} {t : Thread} {w : Fetched} {o : Operation} {c : Cpu} : a = .move k →
    m.threads[k]? = some t → Ready m.cpu t w o c →
    Displayed (c.conclude w o).1 m (m.act a) (c.conclude w o).2 → Paints m a
  /-- Nothing is shown. -/
  | silent : m.restarts a = false → m.concludes a = false →
    Displayed (m.executing a) m (m.act a) [] → Paints m a

theorem paints_of_blanks {told : Cpu × List Notice} (restarts : m.restarts a = true)
    (blanks : Cpu.Blanks told) (same : m.act a = m.withCpu told) : m.Paints a := by
  obtain ⟨display, moment, shown⟩ := blanks
  have displayed := displayed_withCpu m told
  rw [shown, ← same] at displayed
  exact .blanks restarts display displayed

theorem paints_act (kept : m.cpu.Kept .standard Rom.standardLimit) (a : Action) : m.Paints a := by
  have silent (restarts : m.restarts a = false) (concludes : m.concludes a = false)
      (begins : m.begins a = false) (displayed : Displayed m.cpu m (m.act a) []) : m.Paints a := by
    refine .silent restarts concludes ?_
    rw [executing, begins]
    exact displayed
  cases a with
  | move k =>
    by_cases concludes : m.concludes (.move k) = true
    · obtain ⟨t, w, o, c, ht, ready⟩ := exists_ready_of_concludes concludes
      exact .reports rfl ht ready (displayed_of_ready ht ready)
    rw [Bool.not_eq_true] at concludes
    rcases stopped_or_proceeds m k with stopped | ⟨t, r, ht, -, proceeds, moved⟩
    · refine silent rfl concludes (begins_of_stopped stopped) ?_
      rw [act, move_of_stopped stopped]
      exact .refl m
    · have still := concludes
      rw [Machine.concludes, ht, Option.any_some] at still
      have shown := displayed_of_proceeds proceeds still
      refine .silent rfl concludes ?_
      rw [executing, begins, ht, Option.any_some, act, moved]
      exact ⟨shown.display, shown.shown, shown.frames, shown.snapshots⟩
  | reset => exact paints_of_blanks rfl (Cpu.blanks_reset kept.reset) rfl
  | load data =>
    by_cases restarts : m.restarts (.load data) = true
    · have fit : data.length ≤ 3584 :=
        of_decide_eq_true ((kept.toBool_checkSize data).symm.trans restarts)
      exact paints_of_blanks restarts (Cpu.blanks_loadProgram (kept.loadProgram fit).1) rfl
    · rw [Bool.not_eq_true] at restarts
      refine silent restarts rfl rfl ?_
      rw [load_of_not_restarts restarts]
      exact .refl m
  | start =>
    refine silent rfl rfl rfl ?_
    by_cases ticks : m.ticks .start = true
    · have ticked : Displayed m.cpu m m.opening.tick [] :=
        Displayed.tick (n := m.opening) (.of_heard rfl rfl rfl rfl)
      rw [act, start_of_ticks ticks]
      exact ⟨ticked.display, ticked.shown, ticked.frames, ticked.snapshots⟩
    · obtain ⟨outcome, finished, clocked, same⟩ :=
        start_of_not_ticks (Bool.eq_false_iff.mpr ticks)
      rw [act, same]
      exact .of_heard rfl rfl rfl rfl
  | tick => exact silent rfl rfl rfl (Displayed.refl m).tick
  | silence =>
    have hushed := (Displayed.refl m).hushed (hushed_requestTone m false)
    exact silent rfl rfl rfl ⟨hushed.display, hushed.shown, hushed.frames, hushed.snapshots⟩
  | cancel =>
    refine silent rfl rfl rfl ?_
    simp only [act, cancel]
    split <;> exact .of_heard rfl rfl rfl rfl
  | stepPaused =>
    refine silent rfl rfl rfl ?_
    simp only [act, stepPaused]
    split <;> exact .of_heard rfl rfl rfl rfl
  | step j =>
    refine silent rfl rfl rfl ?_
    simp only [act, step]
    split <;> exact .of_heard rfl rfl rfl rfl
  | debugStep =>
    refine silent rfl rfl rfl ?_
    simp only [act, debugStep]
    split <;> exact .of_heard rfl rfl rfl rfl
  | pause | resume | press | release | releaseAll | debugRun | debugResume =>
    exact silent rfl rfl rfl (.of_heard rfl rfl rfl rfl)

/-! ## The last frame -/

/-- Each frame is shown to all listeners. -/
theorem frames_shows (m : Machine) (ns : List Notice) : (m.shows ns).filterMap Notice.frame? =
    (ns.filterMap Notice.frame?).flatMap (List.replicate m.frameListeners) := by
  induction ns with
  | nil => rfl
  | cons n ns ih =>
    rw [shows] at ih ⊢
    cases n with
    | tone beeping => exact ih
    | frame screen =>
      have front : (Notice.frame screen :: ns).filter (!·.isTone) =
          .frame screen :: ns.filter (!·.isTone) := rfl
      rw [front, List.flatMap_cons, List.filterMap_append, ih, List.filterMap_replicate]
      rfl
    | snapshot moment =>
      have front : (Notice.snapshot moment :: ns).filter (!·.isTone) =
          .snapshot moment :: ns.filter (!·.isTone) := rfl
      rw [front, List.flatMap_cons, List.filterMap_append, ih, List.filterMap_replicate]
      rfl

namespace Displayed

theorem frames_eq (h : Displayed c m n ns) : n.frames = m.frames ++
    (ns.filterMap Notice.frame?).flatMap (List.replicate m.frameListeners) := by
  rw [Machine.frames, h.shown, List.filterMap_append, frames_shows, Machine.frames]

theorem lastFrame_of_none (h : Displayed c m n ns) (none : ns.filterMap Notice.frame? = []) :
    n.lastFrame = m.lastFrame := by
  rw [lastFrame, h.frames_eq, none, List.flatMap_nil, List.append_nil, lastFrame]

theorem lastFrame_of_frame (h : Displayed c m n ns) (heard : 0 < m.frameListeners) {screen : Screen}
    (one : ns.filterMap Notice.frame? = [screen]) : n.lastFrame = screen := by
  have last : (List.replicate m.frameListeners screen).getLast? = some screen := by
    rw [List.getLast?_replicate, if_neg (by omega)]
  rw [lastFrame, h.frames_eq, one, List.flatMap_singleton, List.getLast?_append, last]
  rfl

end Displayed

/-- An instruction that begins and is reported by one action shows the screen exactly if it draws. -/
theorem Ready.renderNeeded_of_enters {d : Cpu} (h : Ready d t w o c) (enters : t.enters d.gate = true) :
    c.state.renderNeeded = w.opcode.draws := by
  have cycled (done : d.cycle.2 = .done w o) : d.cycle.1.state.renderNeeded = w.opcode.draws := by
    have ends := Cpu.ends_cycle d
    rw [done] at ends
    exact ends.renderNeeded
  cases h with
  | free _ done _ => exact cycled done
  | served asks _ =>
    cases asks with
    | begins _ done _ => exact (congrArg Prod.snd (Cpu.display_deliver _ _)).trans (cycled done)
    | woken inside => rw [Thread.enters, inside] at enters; cases enters

/-- Where the screen is not shown, it has not changed. -/
theorem Ready.screen {d : Cpu} (h : Ready d t w o c) (hidden : c.state.renderNeeded = false) :
    c.state.screen = d.state.screen := by
  have cycled (enters : t.enters d.gate = true) (done : d.cycle.2 = .done w o) :
      d.cycle.1.state.screen = d.state.screen := by
    have ends := Cpu.ends_cycle d
    rw [done] at ends
    exact congrArg Prod.fst (ends.display_of_done ((h.renderNeeded_of_enters enters).symm.trans hidden))
  cases h with
  | free enters done _ => exact cycled enters done
  | served asks _ =>
    refine (congrArg Prod.fst (Cpu.display_deliver _ _)).trans ?_
    cases asks with
    | begins enters done _ => exact cycled enters done
    | woken _ => rfl

/-- Where nothing is drawn and no step fails, the processor that an action leaves before anything is told
has the screen from before. -/
theorem display_executing (within : m.cpu.Within .standard) (whole : m.fails a = false)
    (plain : (m.executed? a).any (·.opcode.draws) = false) :
    (m.executing a).state.screen = m.cpu.state.screen ∧
      (m.cpu.state.renderNeeded = false → (m.executing a).state.renderNeeded = false) := by
  unfold executing
  split
  · rename_i begins
    rw [fails, begins, Bool.true_and, decide_eq_false_iff_not] at whole
    rw [executed?, if_pos begins, Option.any_eq_false] at plain
    exact (Cpu.ends_cycle m.cpu).display whole within.staysInside.noRaise plain
  · exact ⟨rfl, id⟩

/-- What holds of a standard machine all the time, once somebody listens to its frames. -/
structure Standing (m : Machine) : Prop where
  within : m.cpu.Within .standard
  kept : m.cpu.Kept .standard Rom.standardLimit
  heard : 0 < m.frameListeners

theorem Standing.act (h : m.Standing) (a : Action) : (m.act a).Standing where
  within := law_act (Cpu.within_law .standard) h.within a
  kept := law_act (Cpu.kept_law Bus.plain_standard _) h.kept a
  heard := by
    cases paints_act h.kept a with
    | blanks _ _ displayed | reports _ _ _ displayed | silent _ _ displayed =>
      rw [displayed.frames]
      exact h.heard

theorem not_defers_of_restarts (h : m.restarts a = true) : m.defers a = false := by
  cases a with
  | reset | load data => rfl
  | _ => cases h

/-- The last frame stays the screen, except where a drawing is deferred that changes it. -/
theorem isCurrent_act (h : m.Standing) (whole : m.fails a = false) (current : m.IsCurrent) :
    (m.act a).IsCurrent ↔ m.outdates a = false := by
  cases paints_act h.kept a with
  | blanks restarts display displayed =>
    rw [outdates, not_defers_of_restarts restarts, Bool.false_and, eq_self, iff_true, IsCurrent,
      displayed.lastFrame_of_frame h.heard rfl]
    exact (congrArg Prod.fst (displayed.display.trans display)).symm
  | @reports k t w o c same ht ready displayed =>
    have concludes : m.concludes a = true := by
      rw [same, Machine.concludes, ht, Option.any_some]
      exact concludes_iff.mpr ⟨w, o, c, ready⟩
    have screen : (m.act a).cpu.state.screen = c.state.screen :=
      congrArg Prod.fst displayed.display_of_conclude
    rw [outdates, defers, concludes, Bool.not_true, Bool.false_and, Bool.false_and, eq_self, iff_true,
      IsCurrent, screen]
    have told := Cpu.told_conclude c w o
    cases shown : c.state.renderNeeded with
    | true =>
      refine displayed.lastFrame_of_frame h.heard ?_
      rw [told, show (c.closing w o).renderNeeded = true from shown]
      rfl
    | false =>
      have none : (c.conclude w o).2.filterMap Notice.frame? = [] := by
        rw [told, show (c.closing w o).renderNeeded = false from shown]
        rfl
      rw [displayed.lastFrame_of_none none, ready.screen shown]
      exact current
  | silent _ concludes displayed =>
    rw [IsCurrent, displayed.lastFrame_of_none rfl, show m.lastFrame = m.cpu.state.screen from current]
    by_cases same : (m.act a).cpu.state.screen = m.cpu.state.screen
    · rw [outdates, same, bne_self_eq_false, Bool.and_false, eq_self, eq_self]
    · have deferred : m.defers a = true := by
        by_contra no
        rw [defers, concludes, Bool.not_false, Bool.true_and, Bool.not_eq_true] at no
        exact same ((congrArg Prod.fst displayed.display).trans (display_executing h.within whole no).1)
      rw [outdates, deferred, Bool.true_and, bne_eq_false_iff_eq]
      exact eq_comm

/-- Along a run in which no step fails, the last frame is the screen at all times exactly if no drawing is
deferred that changes the screen. -/
theorem isCurrent_after_iff (h : m.Standing) (current : m.IsCurrent) {as : List Action}
    (whole : m.never fails as = true) :
    (∀ p, p <+: as → (m.after p).IsCurrent) ↔ m.never outdates as = true := by
  induction as generalizing m with
  | nil =>
    refine ⟨fun _ => rfl, fun _ p hp => ?_⟩
    rw [List.prefix_nil.mp hp]
    exact current
  | cons a as ih =>
    simp only [never, Bool.and_eq_true, Bool.not_eq_true'] at whole ⊢
    have first := isCurrent_act h whole.1 current
    have rest (now : (m.act a).IsCurrent) := ih (h.act a) now whole.2
    constructor
    · intro always
      have now : (m.act a).IsCurrent := always [a] (List.cons_prefix_cons.mpr ⟨rfl, List.nil_prefix⟩)
      exact ⟨first.mp now, (rest now).mp fun p hp =>
        always (a :: p) (List.cons_prefix_cons.mpr ⟨rfl, hp⟩)⟩
    · rintro ⟨now, later⟩ p hp
      rcases List.prefix_cons_iff.mp hp with rfl | ⟨q, rfl, hq⟩
      · exact current
      · exact (rest (first.mpr now)).mpr later q hq

/-! ## Which reports show the screen -/

/-- Nobody has asked for the screen to be shown, and no instruction that draws is open. -/
structure Clean (m : Machine) : Prop where
  hidden : m.cpu.state.renderNeeded = false
  plain : ∀ p ∈ m.inside, p.1.opcode.draws = false

/-- Only an instruction that is executed and not reported becomes open. -/
theorem inside_of_proceeds (h : Proceeds m t r) {p : Fetched × Operation}
    (inside : r.2.bind (·.place.inside?) = some p) : t.place.inside? = some p ∨
      t.concludes m.cpu = false ∧ t.enters m.cpu.gate = true ∧ m.cpu.cycle.2.word? = some p.1 := by
  have goes (s : Machine × Option Task) (inside : (goOn s).2.bind (·.place.inside?) = some p) : False := by
    obtain ⟨u, hu, open'⟩ := Option.bind_eq_some_iff.mp inside
    rw [outside_goOn s u hu] at open'
    cases open'
  cases h with
  | ends | parks | raises => cases inside
  | stops | reports => exact (goes _ inside).elim
  | @waits c w o asks up =>
    obtain rfl : (w, o) = p := Option.some.inj inside
    cases asks with
    | begins enters done waits =>
      exact .inr ⟨concludes_of_up (.begins enters done waits) up, enters, by rw [done]; rfl⟩
    | woken woken => exact .inl (by rw [woken]; rfl)

theorem mem_inside_act (kept : m.restarts a = false) {p : Fetched × Operation}
    (h : p ∈ (m.act a).inside) :
    p ∈ m.inside ∨ m.concludes a = false ∧ (m.executed? a) = some p.1 := by
  cases a with
  | move k =>
    rcases stopped_or_proceeds m k with stopped | ⟨t, r, ht, -, proceeds, moved⟩
    · rw [act, move_of_stopped stopped] at h
      exact .inl h
    · have replaced : (m.act (.move k)).threads =
          m.threads.take k ++ r.2.toList ++ m.threads.drop (k + 1) := by rw [act, moved]
      rw [inside_replaced replaced, List.mem_append, List.mem_append, Option.mem_toList] at h
      rw [inside_eq ht, List.mem_append, List.mem_append, Option.mem_toList]
      rcases h with (front | here) | back
      · exact .inl (.inl (.inl front))
      · rcases inside_of_proceeds proceeds here with before | ⟨open', enters, word⟩
        · exact .inl (.inl (.inr before))
        · rw [Machine.concludes, executed?, begins, ht, Option.any_some, Option.any_some, if_pos enters]
          exact .inr ⟨open', word⟩
      · exact .inl (.inr back)
  | _ =>
    refine .inl ?_
    cases idles_act kept rfl with
    | waits inside _ => exact inside ▸ h
    | served before after _ =>
      rw [after] at h
      rw [before]
      exact List.mem_append.mpr ((List.mem_append.mp h).imp_right (List.mem_cons_of_mem _))

/-- As long as no drawing is deferred, nobody asks for the screen between two actions. -/
theorem clean_act (h : m.Standing) (whole : m.fails a = false) (prompt : m.defers a = false)
    (clean : m.Clean) : (m.act a).Clean := by
  have plain (concludes : m.concludes a = false) : (m.executed? a).any (·.opcode.draws) = false := by
    rw [defers, concludes, Bool.not_false, Bool.true_and] at prompt
    exact prompt
  refine ⟨?_, fun p hp => ?_⟩
  · cases paints_act h.kept a with
    | blanks _ display displayed => exact congrArg Prod.snd (displayed.display.trans display)
    | reports _ _ _ displayed => exact congrArg Prod.snd displayed.display_of_conclude
    | silent _ concludes displayed =>
      exact (congrArg Prod.snd displayed.display).trans
        ((display_executing h.within whole (plain concludes)).2 clean.hidden)
  · by_cases restarts : m.restarts a = true
    · have replaces : a.keepsProgram = false := by
        by_contra keeps
        rw [Bool.not_eq_false] at keeps
        rw [restarts_of_keepsProgram m keeps] at restarts
        cases restarts
      rw [(tells_of_not_keepsProgram (m := m) replaces).1] at hp
      exact clean.plain p hp
    · rcases mem_inside_act (Bool.eq_false_iff.mpr restarts) hp with before | ⟨concludes, executed⟩
      · exact clean.plain p before
      · have free := plain concludes
        rw [executed] at free
        exact free

/-- So a report shows the screen exactly if its instruction draws. -/
theorem Clean.renderNeeded (clean : m.Clean) (ht : m.threads[k]? = some t) (ready : Ready m.cpu t w o c) :
    c.state.renderNeeded = w.opcode.draws := by
  by_cases enters : t.enters m.cpu.gate = true
  · exact ready.renderNeeded_of_enters enters
  · cases ready with
    | free begins _ _ => exact absurd begins enters
    | served asks _ =>
      cases asks with
      | begins begins _ _ => exact absurd begins enters
      | woken woken =>
        have inside : (w, o) ∈ m.inside :=
          List.mem_filterMap.mpr ⟨t, List.mem_of_getElem? ht, by rw [woken]; rfl⟩
        rw [clean.plain _ inside]
        exact (congrArg Prod.snd (Cpu.display_deliver _ _)).trans clean.hidden

theorem clean_after (h : m.Standing) (clean : m.Clean) {as : List Action}
    (whole : m.never fails as = true) (prompt : m.never defers as = true) : (m.after as).Clean := by
  induction as generalizing m with
  | nil => exact clean
  | cons a as ih =>
    simp only [never, Bool.and_eq_true, Bool.not_eq_true'] at whole prompt
    exact ih (h.act a) (clean_act h whole.1 prompt.1 clean) whole.2 prompt.2

/-! ## All of it -/

/-- What an action shows. -/
structure Pictured (m : Machine) : Prop where
  /-- A reset and a load show the screen and then a snapshot. -/
  restarts : ∀ a, m.restarts a = true → ∃ moment, (m.act a).shown =
    m.shown ++ m.shows [.frame (m.act a).cpu.state.screen, .snapshot moment]
  /-- Only programs over the limit are refused. -/
  loads : ∀ data, m.restarts (.load data) = decide (data.length ≤ 3584)
  /-- A report is a snapshot, with the screen before it if the snapshot says that it must be shown. -/
  reports : ∀ k t w o c, m.threads[k]? = some t → Ready m.cpu t w o c → (m.act (.move k)).shown =
    m.shown ++ m.shows ((if (c.closing w o).renderNeeded then
      [.frame (m.act (.move k)).cpu.state.screen] else []) ++ [.snapshot (c.closing w o)])
  /-- It does if the instruction draws, and only then, where the same action begins the instruction. -/
  atOnce : ∀ t w o c, Ready m.cpu t w o c → t.enters m.cpu.gate = true →
    (c.closing w o).renderNeeded = w.opcode.draws
  /-- Nothing else is shown. -/
  others : ∀ a, m.restarts a = false → m.concludes a = false → (m.act a).shown = m.shown

theorem pictured (kept : m.cpu.Kept .standard Rom.standardLimit) : m.Pictured where
  restarts a restarts := by
    cases paints_act kept a with
    | @blanks c moment _ display displayed =>
      have blank : (m.act a).cpu.state.screen = .blank :=
        congrArg Prod.fst (displayed.display.trans display)
      exact ⟨moment, blank ▸ displayed.shown⟩
    | reports same => subst same; cases restarts
    | silent kept => rw [kept] at restarts; cases restarts
  loads data := kept.toBool_checkSize data
  reports k t w o c ht ready := by
    have displayed := displayed_of_ready ht ready
    have screen : (m.act (.move k)).cpu.state.screen = c.state.screen :=
      congrArg Prod.fst displayed.display_of_conclude
    rw [displayed.shown, Cpu.told_conclude, screen]
  atOnce t w o c ready enters := ready.renderNeeded_of_enters enters
  others a kept' still := by
    cases paints_act kept a with
    | blanks restarts => rw [kept'] at restarts; cases restarts
    | @reports k t w o c same ht ready =>
      subst same
      rw [Machine.concludes, ht, Option.any_some, concludes_iff.mpr ⟨w, o, c, ready⟩] at still
      cases still
    | silent _ _ displayed => exact displayed.shown.trans (List.append_nil _)

variable {keypad : Keypad} {speaker : Option Speaker} {random : Random} {cpuHz timerHz : Frequency}
  {historyLimit : Nat}

/-- A machine that was just assembled shows the blank screen to one listener. -/
theorem of_assemble_frame {b : Bus} {limit : Number}
    (assembled : assemble (.assemble b keypad speaker random limit) cpuHz timerHz historyLimit = .ok m) :
    m.IsCurrent ∧ m.Clean ∧ m.frameListeners = 1 := by
  unfold assemble at assembled
  split at assembled
  · cases assembled
  · cases assembled
    exact ⟨rfl, ⟨rfl, nofun⟩, rfl⟩

/-- Along every run of a standard machine, a reset and a load show the screen before their snapshot, a report
shows it before its snapshot exactly if the snapshot says so, and nothing else is shown. In a run in which
no step fails, the frame that was shown last is the screen at all times exactly if no instruction that draws
is executed without being reported by the same action, unless it leaves the screen as it is. If there is no
such instruction at all, the reports that show the screen are those of the instructions that draw. Times are
those between actions, and an instruction with its notices is one of them unless it waits for a key. -/
theorem frames_show_screen
    (assembled : assemble (.assemble .standard keypad speaker random Rom.standardLimit) cpuHz timerHz
      historyLimit = .ok m) (as : List Action) :
    (m.after as).Pictured ∧
    (m.never fails as = true →
      ((∀ p, p <+: as → (m.after p).IsCurrent) ↔ m.never outdates as = true) ∧
      (m.never defers as = true → ∀ (k : Nat) t w o c, (m.after as).threads[k]? = some t →
        Ready (m.after as).cpu t w o c → (c.closing w o).renderNeeded = w.opcode.draws)) := by
  obtain ⟨current, clean, listeners⟩ := of_assemble_frame assembled
  have standing : m.Standing :=
    ⟨within_after assembled [], (kept_after assembled []).1, by omega⟩
  refine ⟨pictured (kept_after assembled as).1, fun whole => ⟨?_, fun prompt k t w o c ht ready => ?_⟩⟩
  · exact isCurrent_after_iff standing current whole
  · exact (clean_after standing clean whole prompt).renderNeeded ht ready

/-- A program waits for a key and then draws. While the clock waits for the key, the debugger executes the
drawing. -/
def crossed : List Action := [.load [0xF0, 0x0A, 0xD0, 0x05], .start, .move 0, .debugStep, .move 1]

/-- The screen has changed and was not shown. -/
theorem stale_crossed : (default : Machine).never fails crossed = true ∧
    ((default : Machine).after crossed).lastFrame = .blank ∧
    ((default : Machine).after crossed).cpu.state.screen ≠ .blank := by
  decide +kernel

/-- A program draws, and then waits for a key. -/
def drawn : List Action :=
  [.load [0xD0, 0x05, 0xF0, 0x0A], .start, .move 0, .move 0, .press 5, .move 0]

/-- The sprite is shown, and stays the last frame while the program waits and goes on. -/
theorem current_drawn :
    ((default : Machine).after drawn).IsCurrent ∧ ((default : Machine).after drawn).lastFrame ≠ .blank := by
  have assembled : assemble (.assemble .standard default none default Rom.standardLimit)
      standardCpuHz standardTimerHz Debugger.standardLimit = .ok default := rfl
  have whole : (default : Machine).never fails drawn = true := by decide +kernel
  have always := ((frames_show_screen assembled drawn).2 whole).1.mpr (by decide +kernel)
  exact ⟨always drawn (List.prefix_refl _), by decide +kernel⟩

end Machine

end Hexscope
