import Hexscope.Session
import Hexscope.Proofs.Machine.Flags
import Hexscope.Proofs.Results

/-!
# The buttons and the machine

The buttons of the window are set at the end of its operations, and show what the machine was then
(`Window.Truthful`). A load stops the machine before it can fail, and if it fails the buttons stay as they were.
So it misleads if the machine ran or was paused before (`Window.misleads`).

A use of a window is a list of actions (`Window.after`). Between its operations, and before an operation sets the
buttons, the threads of the machine move, its timers tick, and keys go down and up.

* `Window.exists_act_eq_loadRom`, `Window.exists_act_eq_togglePause`: the operations of the window are actions;
* `Window.Follows.act`: what one action does to the buttons, and so to whether they are right;
* `Window.truthful_iff_not_misleads`: they are right at all moments exactly if no load misleads.
-/

namespace Hexscope

/-- The buttons show whether a machine runs, and whether its gate is closed. -/
structure Buttons.Show (b : Buttons) (m : Machine) : Prop where
  canRun : b.canRun = m.isRunning
  canStop : b.canStop = m.isRunning
  canStep : b.canStep = (m.isRunning && m.cpu.gate.shouldWait)
  runText : b.runText = "Run" ↔ m.cpu.gate.shouldWait = true

namespace Buttons

variable {b : Buttons} {m n : Machine}

theorem show_of (m : Machine) : (Buttons.of m).Show m where
  canRun := rfl
  canStop := rfl
  canStep := rfl
  runText := by
    rw [Buttons.of]
    cases m.cpu.gate.shouldWait <;> simp

theorem Show.flags_eq (h : b.Show m) (h' : b.Show n) : m.flags = n.flags := by
  have gate : m.cpu.gate.shouldWait = n.cpu.gate.shouldWait :=
    Bool.eq_iff_iff.mpr (h.runText.symm.trans h'.runText)
  rw [Machine.flags, ← h.canRun, h'.canRun, gate, Machine.flags]

theorem Show.congr (h : b.Show m) (same : m.flags = n.flags) : b.Show n := by
  obtain ⟨canRun, canStop, canStep, runText⟩ := h
  obtain ⟨running, gate⟩ := Prod.mk.inj same
  rw [running] at canRun canStop canStep
  rw [gate] at canStep runText
  exact ⟨canRun, canStop, canStep, runText⟩

theorem show_congr (same : m.flags = n.flags) : b.Show m ↔ b.Show n := ⟨(·.congr same), (·.congr same.symm)⟩

end Buttons

namespace Window

/-- The buttons show the present machine. -/
def Truthful (w : Window) : Prop := w.buttons.Show w.machine

/-- What happens to a window. -/
inductive Action where
  /-- Something that nobody asked the window for happens to the machine. -/
  | goOn (a : Machine.Action)
  /-- A program is loaded, and some things happen to the machine before the buttons are set. -/
  | load (files : FileNode) (path : Text) (meanwhile : List Machine.Action)
  /-- The run is paused or goes on, and some things happen to the machine before the buttons are set. -/
  | toggle (meanwhile : List Machine.Action)
  | stop

/-- The window when something has happened. -/
def act (w : Window) : Action → Window
  | .goOn a => { w with machine := w.machine.act a }
  | .load files path as => (w.loadRomWhile (·.after as) files path).1
  | .toggle as => w.togglePauseWhile (·.after as)
  | .stop => w.endRun

/-- The window when several things have happened in order. -/
def after (w : Window) (as : List Action) : Window := as.foldl act w

/-- Whether something belongs to the use of a window while programs run that do not finish: the clocks go on and
keys are pressed, and outside of the window's own operations every instruction is executed. -/
def permits (w : Window) : Action → Bool
  | .goOn a => a.goesOn && w.machine.carriesOn a
  | .load _ _ as | .toggle as => as.all (·.goesOn)
  | .stop => true

/-- Whether all of several things do. -/
def isUse (w : Window) : List Action → Bool
  | [] => true
  | a :: as => w.permits a && (w.act a).isUse as

/-- Whether a load fails. -/
def fails (w : Window) : Action → Bool
  | .load files path _ => (w.machine.loadAndRun files path).2.isSome
  | _ => false

/-- Whether the buttons are set. -/
def sets (w : Window) : Action → Bool
  | .goOn _ => false
  | .load files path as => !w.fails (.load files path as)
  | .toggle _ | .stop => true

/-- Whether a load fails that has stopped a machine which ran or was paused. -/
def misleads (w : Window) (a : Action) : Bool :=
  w.fails a && w.machine.clocked && (w.machine.isRunning || w.machine.cpu.gate.shouldWait)

/-- Whether the buttons are wrong when several things have happened, if they are at first. -/
def wrongAfter (w : Window) (wrong : Bool) : List Action → Bool
  | [] => wrong
  | a :: as => (w.act a).wrongAfter (!w.sets a && (wrong || w.misleads a)) as

variable {w : Window} {a : Action} {as bs : List Action}

/-! ## Operations -/

section

variable {goOn : Machine → Machine} {files : FileNode} {path : Text} {meanwhile : List Machine.Action}

/-- A program that is loaded is run, and then the buttons are set. -/
theorem loadRomWhile_of_loaded (loaded : (w.machine.loadAndRun files path).2 = none) :
    w.loadRomWhile goOn files path = ({ w with
      machine := goOn (w.machine.loadAndRun files path).1
      loaded := true
      table := .empty
      status := "Running " ++ baseName path }.updateButtons, .ok true) := by
  unfold loadRomWhile
  generalize w.machine.loadAndRun files path = run at loaded
  obtain ⟨m, e⟩ := run
  cases loaded
  rfl

/-- A load that fails leaves the machine as it left it, and perhaps a message. -/
theorem loadRomWhile_of_failed (failed : (w.machine.loadAndRun files path).2.isSome = true) :
    ∃ messages answer, answer ≠ .ok true ∧ ∀ goOn, w.loadRomWhile goOn files path =
      ({ w with machine := (w.machine.loadAndRun files path).1, messages }, answer) := by
  unfold loadRomWhile
  generalize w.machine.loadAndRun files path = run at failed
  obtain ⟨m, e⟩ := run
  obtain ⟨e, rfl⟩ := Option.isSome_iff_exists.mp failed
  dsimp only
  split
  · exact ⟨_, .ok false, nofun, fun _ => rfl⟩
  · exact ⟨w.messages, .error e, nofun, fun _ => rfl⟩

/-- The run is paused or goes on, and then the buttons are set. -/
theorem togglePauseWhile_cases (w : Window) (goOn : Machine → Machine) : ∃ a status,
    (a = .pause ∨ a = .debugResume) ∧
    w.togglePauseWhile goOn = { w with machine := goOn (w.machine.act a), status }.updateButtons := by
  unfold togglePauseWhile
  split
  · exact ⟨.debugResume, _, .inr rfl, rfl⟩
  · exact ⟨.pause, _, .inl rfl, rfl⟩

theorem fails_load : w.fails (.load files path meanwhile) = (w.machine.loadAndRun files path).2.isSome := rfl

/-- Who loads a program is told whether it fails. -/
theorem fails_iff : w.fails (.load files path meanwhile) = true ↔ (w.loadRom files path).2 ≠ .ok true := by
  rw [fails_load, loadRom]
  cases run : (w.machine.loadAndRun files path).2 with
  | none => rw [loadRomWhile_of_loaded run]; simp
  | some e =>
    obtain ⟨_, _, refused, failed⟩ := loadRomWhile_of_failed (Option.isSome_iff_exists.mpr ⟨e, run⟩)
    rw [failed]
    exact iff_of_true rfl refused

/-- A load until the threads have ended or stopped is an action. -/
theorem exists_act_eq_loadRom (w : Window) (files : FileNode) (path : Text) :
    ∃ ks : List Nat, (w.loadRom files path).1 = w.act (.load files path (ks.map .move)) := by
  obtain ⟨ks, settles⟩ := Machine.settle_eq_after (w.machine.loadAndRun files path).1
  refine ⟨ks, ?_⟩
  rw [act, loadRom]
  cases run : (w.machine.loadAndRun files path).2 with
  | none => rw [loadRomWhile_of_loaded run, loadRomWhile_of_loaded run, settles]
  | some e =>
    obtain ⟨_, _, -, failed⟩ := loadRomWhile_of_failed (Option.isSome_iff_exists.mpr ⟨e, run⟩)
    rw [failed, failed]

/-- A pause, or its end, until the threads have ended or stopped is an action. -/
theorem exists_act_eq_togglePause (w : Window) :
    ∃ ks : List Nat, w.togglePause = w.act (.toggle (ks.map .move)) := by
  rw [togglePause]
  unfold act togglePauseWhile
  split
  · obtain ⟨ks, settles⟩ := Machine.settle_eq_after w.machine.debugResume
    exact ⟨ks, by rw [settles]⟩
  · obtain ⟨ks, settles⟩ := Machine.settle_eq_after w.machine.pause
    exact ⟨ks, by rw [settles]⟩

end

/-! ## One action -/

/-- A machine stays plain, whatever the window is asked for. -/
theorem plain_act (h : w.machine.Plain) (permits : w.permits a = true) : (w.act a).machine.Plain := by
  cases a with
  | goOn a => exact h.goOn (Bool.and_eq_true_iff.mp permits).1
  | load files path as =>
    have loaded := h.loadAndRun files path
    rw [act]
    cases run : (w.machine.loadAndRun files path).2 with
    | none =>
      rw [loadRomWhile_of_loaded run]
      exact loaded.goOnAll (List.all_eq_true.mp permits)
    | some e =>
      obtain ⟨_, _, -, failed⟩ := loadRomWhile_of_failed (Option.isSome_iff_exists.mpr ⟨e, run⟩)
      rw [failed]
      exact loaded
  | toggle as =>
    obtain ⟨a, _, kind, toggled⟩ := togglePauseWhile_cases w (·.after as)
    rw [act, toggled]
    rcases kind with rfl | rfl
    · exact (h.pass (a := .pause) rfl rfl).goOnAll (List.all_eq_true.mp permits)
    · exact (h.pass (a := .debugResume) rfl rfl).goOnAll (List.all_eq_true.mp permits)
  | stop => exact h.stop.1

theorem truthful_of_sets (sets : w.sets a = true) : (w.act a).Truthful := by
  cases a with
  | goOn a => cases sets
  | load files path as =>
    have loaded : (w.machine.loadAndRun files path).2 = none := by
      simpa [Window.sets, fails] using sets
    rw [act, loadRomWhile_of_loaded loaded]
    exact Buttons.show_of _
  | toggle as =>
    obtain ⟨_, _, -, toggled⟩ := togglePauseWhile_cases w (·.after as)
    rw [act, toggled]
    exact Buttons.show_of _
  | stop => exact Buttons.show_of _

/-- Where the buttons are not set, only a load that misleads changes what they should show. After it the machine
stands with the gate open. -/
theorem act_of_not_sets (h : w.machine.Plain) (permits : w.permits a = true) (stays : w.sets a = false) :
    (w.act a).buttons = w.buttons ∧
    (w.act a).machine.flags = if w.misleads a then (false, false) else w.machine.flags := by
  cases a with
  | goOn a =>
    obtain ⟨goes, carries⟩ := Bool.and_eq_true_iff.mp permits
    exact ⟨rfl, h.flags_of_carriesOn goes carries⟩
  | load files path as =>
    have failed : (w.machine.loadAndRun files path).2.isSome = true := by
      simpa [sets, fails] using stays
    obtain ⟨_, _, -, left⟩ := loadRomWhile_of_failed failed
    rw [act, left]
    refine ⟨rfl, (h.flags_of_failed (Option.isSome_iff_ne_none.mp failed)).trans ?_⟩
    rw [misleads, fails_load, failed, Machine.flags]
    cases clocked : w.machine.clocked with
    | false =>
      rw [Machine.not_isRunning_of_unclocked clocked]
      rfl
    | true => cases w.machine.isRunning <;> cases w.machine.cpu.gate.shouldWait <;> rfl
  | toggle as | stop => cases stays

/-! ## Several actions -/

/-- What holds of a window all the time: if its buttons are wrong, the machine stands with the gate open. -/
structure Follows (w : Window) (wrong : Bool) : Prop where
  plain : w.machine.Plain
  truthful_iff : w.Truthful ↔ wrong = false
  stands : wrong = true → w.machine.flags = (false, false)

/-- What one thing that happens does to the buttons. -/
theorem Follows.act {wrong : Bool} (h : w.Follows wrong) (permits : w.permits a = true) :
    (w.act a).Follows (!w.sets a && (wrong || w.misleads a)) := by
  have plain := plain_act h.plain permits
  cases stays : w.sets a with
  | true => exact ⟨plain, iff_of_true (truthful_of_sets stays) rfl, nofun⟩
  | false =>
    obtain ⟨buttons, flags⟩ := act_of_not_sets h.plain permits stays
    rw [Bool.not_false, Bool.true_and]
    cases misleads : w.misleads a with
    | false =>
      rw [misleads, if_neg Bool.false_ne_true] at flags
      rw [Bool.or_false]
      refine ⟨plain, ?_, fun wrong => flags.trans (h.stands wrong)⟩
      rw [Truthful, buttons, Buttons.show_congr flags]
      exact h.truthful_iff
    | true =>
      rw [misleads, if_pos rfl] at flags
      rw [Bool.or_true]
      refine ⟨plain, iff_of_false (fun truthful => ?_) nofun, fun _ => flags⟩
      -- The machine ran or was paused, so its buttons were right, and show what it no longer is.
      have shown : w.machine.flags ≠ (false, false) := by
        intro same
        obtain ⟨running, gate⟩ := Prod.mk.inj same
        rw [Window.misleads, running, gate, Bool.or_false, Bool.and_false] at misleads
        cases misleads
      have right : w.Truthful := h.truthful_iff.mpr (Bool.eq_false_iff.mpr fun wrong => shown (h.stands wrong))
      rw [Truthful, buttons] at truthful
      exact shown ((right.flags_eq truthful).trans flags)

theorem Follows.after {wrong : Bool} (h : w.Follows wrong) (use : w.isUse as = true) :
    (w.after as).Follows (w.wrongAfter wrong as) := by
  induction as generalizing w wrong with
  | nil => exact h
  | cons a as ih =>
    obtain ⟨permits, use⟩ := Bool.and_eq_true_iff.mp use
    exact ih (h.act permits) use

theorem isUse_append : w.isUse (as ++ bs) = (w.isUse as && (w.after as).isUse bs) := by
  induction as generalizing w with
  | nil => exact (Bool.true_and _).symm
  | cons a as ih => rw [List.cons_append, isUse, ih, isUse, Bool.and_assoc]; rfl

theorem wrongAfter_concat {wrong : Bool} : w.wrongAfter wrong (as ++ [a]) =
    (!(w.after as).sets a && (w.wrongAfter wrong as || (w.after as).misleads a)) := by
  induction as generalizing w wrong with
  | nil => rfl
  | cons a as ih => exact ih

theorem not_sets_of_misleads (misleads : w.misleads a = true) : w.sets a = false := by
  cases a with
  | goOn a => rfl
  | load files path as =>
    rw [Window.misleads, Bool.and_eq_true, Bool.and_eq_true] at misleads
    rw [sets, misleads.1.1, Bool.not_true]
  | toggle as | stop => cases misleads

/-- While no load misleads, the buttons do not become wrong. -/
theorem wrongAfter_of_not_misleads (honest : ∀ bs a, bs ++ [a] <+: as → (w.after bs).misleads a = false) :
    w.wrongAfter false as = false := by
  induction as using List.reverseRecOn with
  | nil => rfl
  | append_singleton as a ih =>
    have before := ih fun bs a first => honest bs a (first.trans (List.prefix_append _ _))
    rw [wrongAfter_concat, before, honest as a (List.prefix_refl _), Bool.or_false, Bool.and_false]

/-! ## The window of a configuration -/

variable {fonts : FontShelf} {c : Config}

/-- A machine that is built is assembled around a processor with the standard memory that was reset. -/
theorem exists_assemble_of_build {m : Machine} (built : c.build = .ok m) : ∃ keypad speaker random,
    Machine.assemble (Cpu.assemble .standard keypad speaker random Rom.standardLimit).reset.1 c.cpuHz c.timerHz
      Debugger.standardLimit = .ok m := by
  unfold Config.build at built
  obtain ⟨keypad, -, built⟩ := exists_of_bind_eq_ok built
  dsimp only at built
  split at built
  · cases built
  · exact ⟨_, _, _, mapError_eq_ok_iff.mp built⟩

theorem exists_of_openWindow (opened : Session.openWindow fonts c = .ok w) :
    ∃ m, c.build = .ok m ∧ w = ofMachine fonts c m := by
  unfold Session.openWindow at opened
  cases built : c.build with
  | error e =>
    rw [built] at opened
    cases opened
  | ok m =>
    rw [built] at opened
    cases opened
    exact ⟨m, rfl, rfl⟩

/-- A machine that is built has no threads and no breakpoints. -/
theorem plain_of_build {m : Machine} (built : c.build = .ok m) : m.Plain := by
  obtain ⟨_, _, _, assembled⟩ := exists_assemble_of_build built
  unfold Machine.assemble at assembled
  split at assembled
  · cases assembled
  · cases assembled
    exact ⟨nofun, nofun, rfl⟩

/-- The window of a new machine shows it. -/
theorem follows_of_openWindow (opened : Session.openWindow fonts c = .ok w) : w.Follows false := by
  obtain ⟨m, built, rfl⟩ := exists_of_openWindow opened
  have plain := plain_of_build built
  have shown : (ofMachine fonts c m).Truthful := ⟨rfl, rfl, rfl, (Buttons.show_of m).runText⟩
  exact ⟨⟨plain.clocks, plain.clocked, plain.unwatched⟩, iff_of_true shown rfl, nofun⟩

/-- Along every use of a window the buttons are right at all moments exactly if no load misleads, that is, fails
when the machine ran or was paused. If one does, they are wrong until an operation sets them again. -/
theorem truthful_iff_not_misleads (opened : Session.openWindow fonts c = .ok w) (use : w.isUse as = true) :
    ((∀ bs, bs <+: as → (w.after bs).Truthful) ↔
      ∀ bs a, bs ++ [a] <+: as → (w.after bs).misleads a = false) ∧
    ((w.after as).Truthful ↔ w.wrongAfter false as = false) := by
  have follows {bs : List Action} (first : bs <+: as) : (w.after bs).Follows (w.wrongAfter false bs) := by
    obtain ⟨rest, rfl⟩ := first
    rw [isUse_append, Bool.and_eq_true] at use
    exact (follows_of_openWindow opened).after use.1
  refine ⟨⟨fun right bs a first => ?_, fun honest bs first => ?_⟩, (follows (List.prefix_refl as)).truthful_iff⟩
  · have still := (follows first).truthful_iff.mp (right _ first)
    rw [wrongAfter_concat] at still
    refine Bool.eq_false_iff.mpr fun misleads => ?_
    rw [misleads, not_sets_of_misleads misleads, Bool.or_true] at still
    cases still
  · exact (follows first).truthful_iff.mpr
      (wrongAfter_of_not_misleads fun bs' a first' => honest bs' a (first'.trans first))

/-- A file with a program that jumps to itself. -/
def looping : FileNode := .directory [(FileName.ofString "loop.ch8", .file [0x12, 0x00])]

/-- A window of the standard configuration. -/
def standard : Window := (Session.openWindow default .standard).toOption.getD default

theorem openWindow_standard : Session.openWindow default .standard = .ok standard := by
  have builds : (Session.openWindow default .standard).toOption.isSome = true := by decide +kernel
  unfold standard
  cases opened : Session.openWindow default .standard with
  | error e =>
    rw [opened] at builds
    cases builds
  | ok w => rfl

/-- The program runs, is paused twice and stopped, and then a file is missing. -/
def pausedTwice : List Action :=
  [.load looping "loop.ch8" [], .goOn (.move 0), .toggle [.move 0], .goOn .tick, .toggle [], .goOn (.move 0),
   .toggle [], .stop, .load looping "missing.ch8" []]

/-- A file that is missing when the machine stands misleads nobody. -/
theorem truthful_pausedTwice : (standard.after pausedTwice).Truthful := by
  have facts : standard.isUse pausedTwice = true ∧ standard.wrongAfter false pausedTwice = false := by
    decide +kernel
  exact (truthful_iff_not_misleads openWindow_standard facts.1).2.mpr facts.2

/-- The program runs when a file is missing. -/
def missing : List Action := [.load looping "loop.ch8" [], .load looping "missing.ch8" []]

/-- The machine stands then, but the buttons show that it runs. -/
theorem missing_misleads : Session.openWindow default .standard = .ok standard ∧
    standard.isUse missing = true ∧ (standard.after missing).machine.isRunning = false ∧
    (standard.after missing).buttons = ⟨"Pause", true, false, true⟩ ∧ ¬ (standard.after missing).Truthful := by
  have facts : standard.isUse missing = true ∧ (standard.after missing).machine.isRunning = false ∧
      (standard.after missing).buttons = ⟨"Pause", true, false, true⟩ := by
    decide +kernel
  obtain ⟨use, stands, buttons⟩ := facts
  refine ⟨openWindow_standard, use, stands, buttons, fun truthful => ?_⟩
  have runs := truthful.canRun
  rw [stands, buttons] at runs
  cases runs

end Window

end Hexscope
