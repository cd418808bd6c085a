import Hexscope.Listing
import Hexscope.Proofs.Bus.Block
import Hexscope.Proofs.Machine.Range
import Hexscope.Proofs.Machine.Step

/-!
# Looking at a machine

A caller may look at the registers, the screen, the memory, or at all of them in a snapshot. A snapshot
takes the access log with it, and this is the only trace that looking leaves (`Machine.inspected_eq`). The
log is dropped anyway when an instruction begins or the machine is reset. But a thread that waits for a
key will report its instruction with the log, and after an instruction that failed the log is there for
the next snapshot.

* `Machine.unnoticed_iff`: looking goes unnoticed exactly if the log is empty or no snapshot was taken.
  It is empty if no instruction is open and the last one was executed to its end;
* `Machine.missed_breakpoint`: a snapshot in a key wait makes the debugger miss a breakpoint.
-/

namespace Hexscope

/-- A way to look at a machine. -/
inductive Inspection where
  | snapshot
  | registers
  | screen
  /-- The memory from an address on, as instructions. -/
  | listing (start length : Int)
deriving DecidableEq

/-- What a caller asks for. -/
inductive Request where
  | act (a : Machine.Action)
  | inspect (i : Inspection)

/-- What a caller gets back. -/
inductive Answer where
  | nothing
  /-- Whether a thread was let through the gate. -/
  | stepped (released : Bool)
  | started (error : Option Machine.ClockError)
  | reset (error : Option Bus.Error)
  | loaded (error : Option Cpu.LoadError)
  | moment (now : Moment)
  | registers (table : List (String × Int))
  | screen (s : Screen)
  | listing (lines : Except Bus.Error (List ListingLine))

/-! ## Blanking clears the access log -/

namespace Cpu

theorem log_blank (c : Cpu) : c.blank.1.bus.log = [] := by
  rw [show c.blank.1.bus = _ from congrArg Prod.fst (bus_blank c), Bus.log_load]
  rfl

theorem log_reset (c : Cpu) : c.reset.1.bus.log = [] := by
  rcases reset_cases c with same | shown
  · rw [same, log_blank]
  · rw [shown, bus_notify]
    rfl

theorem log_loadProgram {c : Cpu} {data : List UInt8}
    (fits : Rom.checkSize c.romLimit data.length none = .ok ()) :
    (c.loadProgram data).1.bus.log = [] := by
  rcases loadProgram_cases fits with same | ⟨d, rfl, same | shown⟩
  · rw [same, log_blank]
  · rw [same, Bus.log_load, log_blank]
  · rw [shown, bus_notify]
    rfl

end Cpu

namespace Machine

/-! ## Looking -/

/-- Looks at the machine. -/
def inspect (m : Machine) : Inspection → Machine × Answer
  | .snapshot => (m.snapshot.1, .moment m.snapshot.2)
  | .registers => (m, .registers m.cpu.state.table)
  | .screen => (m, .screen m.cpu.state.screen)
  | .listing start length => (m, .listing (m.cpu.bus.listing start length))

/-- What an action answers. -/
def reply (m : Machine) : Action → Answer
  | .start => .started m.start.2
  | .stepPaused => .stepped m.stepPaused.2
  | .reset => .reset m.reset.2
  | .load data => .loaded (m.loadProgram data).2
  | _ => .nothing

def ask (m : Machine) : Request → Machine × Answer
  | .act a => (m.act a, m.reply a)
  | .inspect i => m.inspect i

/-- The machine after some requests, with the answers in order. -/
def askAll (m : Machine) : List Request → Machine × List Answer
  | [] => (m, [])
  | r :: rs => (((m.ask r).1.askAll rs).1, (m.ask r).2 :: ((m.ask r).1.askAll rs).2)

/-- All that can be noticed of some requests: what is answered, and what is reported. -/
def observe (m : Machine) (rs : List Request) : List Answer × List Report :=
  ((m.askAll rs).2, (m.askAll rs).1.reports)

/-- The machine after it was looked at in some ways. -/
def inspected (m : Machine) (is : List Inspection) : Machine :=
  is.foldl (fun m i => (m.inspect i).1) m

/-- Whether the last instruction that began failed, or found the end of the program. A reset makes up for
that. `before` tells whether it was so before the requests. -/
def interrupted (m : Machine) (before : Bool) : List Request → Bool
  | [] => before
  | .inspect i :: rs => (m.inspect i).1.interrupted before rs
  | .act a :: rs =>
    (m.act a).interrupted
      (if m.restarts a then false else if m.begins a then (m.executed? a).isNone else before) rs

variable {m n : Machine} {a : Action} {is : List Inspection}

/-! ## What looking does -/

/-- The machine without its access log. -/
def dropLog (m : Machine) : Machine := { m with cpu := { m.cpu with bus := m.cpu.bus.dropLog } }

theorem dropLog_of_log (h : m.cpu.bus.log = []) : m.dropLog = m := by
  have same : m.cpu.bus.dropLog = m.cpu.bus := by
    unfold Bus.dropLog
    rw [← h]
  rw [dropLog, same]

theorem inspect_of_ne {i : Inspection} (h : i ≠ .snapshot) : (m.inspect i).1 = m := by
  cases i with
  | snapshot => exact absurd rfl h
  | _ => rfl

/-- A snapshot takes the access log, and nothing else leaves a trace. -/
theorem inspected_eq (m : Machine) (is : List Inspection) :
    m.inspected is = if .snapshot ∈ is then m.dropLog else m := by
  induction is generalizing m with
  | nil => rfl
  | cons i is ih =>
    have first : m.inspected (i :: is) = (m.inspect i).1.inspected is := rfl
    by_cases taken : i = .snapshot
    · subst taken
      rw [first, ih, if_pos (List.mem_cons_self ..)]
      exact ite_self _
    · rw [first, inspect_of_ne taken, ih]
      simp only [List.mem_cons, Ne.symm taken, false_or]

/-- Whoever takes a snapshot sees whether the log was taken before. -/
theorem activity_snapshot (m : Machine) : m.snapshot.2.activity = m.cpu.bus.log := rfl

/-- An instruction begins without the log, so it does not matter whether that was taken. -/
theorem perform_dropLog (m : Machine) (task : Task) : m.dropLog.perform task = m.perform task := rfl

theorem moveThread_dropLog {t : Thread} (h : t.enters m.cpu.gate = true) :
    m.dropLog.moveThread t = m.moveThread t := by
  obtain ⟨task, place⟩ := t
  cases place with
  | ready =>
    simp only [Thread.enters, Bool.and_eq_true, decide_eq_true_eq, Bool.not_eq_true'] at h
    have passes := Gate.arrive_of_open h.2
    simp only [moveThread, if_neg h.1, dropLog, passes, Bool.false_eq_true, if_false]
    exact perform_dropLog m task
  | released => exact perform_dropLog m task
  | gate | key w o | woken w o => cases h

theorem act_dropLog_of_begins (h : m.begins a = true) : m.dropLog.act a = m.act a := by
  cases a with
  | move k =>
    cases ht : m.threads[k]? with
    | none => simp [begins, ht] at h
    | some t =>
      simp only [begins, ht, Option.any_some] at h
      have moved := moveThread_dropLog (m := { m with
        threads := m.threads.eraseIdx k, onThread := true }) h
      have here : m.dropLog.threads[k]? = some t := ht
      simp only [act, move, ht, here, isRunnable_of_enters h, if_true]
      rw [← moved]
      rfl
  | _ => cases h

/-- Nor does it when registers and memory are blanked. -/
theorem act_dropLog_of_restarts (h : m.restarts a = true) : m.dropLog.act a = m.act a := by
  cases a with
  | reset => rfl
  | load data =>
    have same : m.dropLog.cpu.loadProgram data = m.cpu.loadProgram data := by
      simp only [restarts] at h
      unfold Cpu.loadProgram
      cases fits : Rom.checkSize m.cpu.romLimit data.length none with
      | error e => rw [fits] at h; cases h
      | ok u =>
        have limit : m.dropLog.cpu.romLimit = m.cpu.romLimit := rfl
        rw [limit, fits]
        rfl
    simp only [act, loadProgram, same]
    rfl
  | _ => cases h

theorem act_inspected (h : m.begins a = true ∨ m.restarts a = true) (is : List Inspection) :
    (m.inspected is).act a = m.act a := by
  rw [inspected_eq]
  split
  · exact h.elim act_dropLog_of_begins act_dropLog_of_restarts
  · rfl

/-! ## When the log is empty -/

/-- There is something in the log only while an instruction is open, or after one was interrupted. -/
def Accounted (m : Machine) (interrupted : Bool) : Prop :=
  m.cpu.bus.log ≠ [] → m.inside ≠ [] ∨ interrupted = true

theorem bus_withCpu (m : Machine) (r : Cpu × List Notice) : (m.withCpu r).cpu.bus = r.1.bus :=
  (says_tellAll { m with cpu := r.1 } r.2).bus

/-- Blanking clears the log, and what is stored then leaves no record. -/
theorem log_of_restarts (h : m.restarts a = true) : (m.act a).cpu.bus.log = [] := by
  cases a with
  | reset =>
    have reset : (m.act .reset).cpu.bus = m.cpu.reset.1.bus := bus_withCpu m _
    rw [reset, Cpu.log_reset]
  | load data =>
    have load : (m.act (.load data)).cpu.bus = (m.cpu.loadProgram data).1.bus := bus_withCpu m _
    have accepted : Rom.checkSize m.cpu.romLimit data.length none = .ok () := by
      simp only [restarts] at h
      cases fits : Rom.checkSize m.cpu.romLimit data.length none with
      | error e => rw [fits] at h; cases h
      | ok u => rfl
    rw [load, Cpu.log_loadProgram accepted]
  | _ => cases h

theorem accounted_act {before : Bool} (h : m.Accounted before) (a : Action) :
    (m.act a).Accounted
      (if m.restarts a then false else if m.begins a then (m.executed? a).isNone else before) := by
  intro log
  cases restarts : m.restarts a with
  | true => exact absurd (log_of_restarts restarts) log
  | false =>
  simp only [Bool.false_eq_true, if_false]
  cases begins : m.begins a with
  | true =>
    simp only [if_true]
    cases begins_act begins with
    | fails failed inside tells =>
      refine .inr (Option.isNone_iff_eq_none.mpr ?_)
      rw [executed?, if_pos begins, Option.eq_none_iff_forall_ne_some]
      intro w done
      obtain ⟨o, done⟩ := Outcome.word?_eq_some.mp done
      exact failed w o done
    | reports done same inside tells =>
      rw [tells.bus, Cpu.bus_conclude] at log
      exact absurd rfl log
    | suspends done before after tells =>
      left
      rw [after]
      simp
  | false =>
    simp only [Bool.false_eq_true, if_false]
    cases idles_act restarts begins with
    | waits inside tells =>
      rw [tells.bus] at log
      rw [inside]
      exact h log
    | served before after tells =>
      rw [tells.bus, Cpu.bus_conclude] at log
      exact absurd rfl log

theorem accounted_inspect {before : Bool} (h : m.Accounted before) (i : Inspection) :
    (m.inspect i).1.Accounted before := by
  cases i with
  | snapshot => exact fun log => absurd rfl log
  | _ => exact h

theorem accounted_askAll {before : Bool} (h : m.Accounted before) (rs : List Request) :
    (m.askAll rs).1.Accounted (m.interrupted before rs) := by
  induction rs generalizing m before with
  | nil => exact h
  | cons r rs ih =>
    cases r with
    | act a => exact ih (accounted_act h a)
    | inspect i => exact ih (accounted_inspect h i)

/-! ## What goes unnoticed -/

/-- If the log holds something, a later snapshot tells whether one was taken before. -/
theorem log_of_observe (h : m.dropLog.observe [.inspect .snapshot] =
    m.observe [.inspect .snapshot]) : m.cpu.bus.log = [] := by
  have answers : [Answer.moment m.dropLog.snapshot.2] = [Answer.moment m.snapshot.2] :=
    congrArg Prod.fst h
  simp only [List.cons.injEq, Answer.moment.injEq, and_true] at answers
  have taken : m.dropLog.snapshot.2.activity = [] := rfl
  rw [← activity_snapshot, ← answers, taken]

variable {keypad : Keypad} {speaker : Option Speaker} {random : Random} {cpuHz timerHz : Frequency}
  {historyLimit : Nat}

/-- At any moment of a standard machine, looking at it goes unnoticed by all later answers and reports
exactly if the access log is empty or no snapshot is taken. Either way it does not matter once an
instruction begins or the machine is reset. The log is empty if no instruction is open and the last one
was executed to its end. -/
theorem unnoticed_iff
    (assembled : assemble (.assemble .standard keypad speaker random Rom.standardLimit) cpuHz
      timerHz historyLimit = .ok m) (rs : List Request) (hn : n = (m.askAll rs).1)
    (is : List Inspection) :
    ((∀ later, (n.inspected is).observe later = n.observe later) ↔
      n.cpu.bus.log = [] ∨ .snapshot ∉ is) ∧
    (∀ a, n.begins a = true ∨ n.restarts a = true → (n.inspected is).act a = n.act a) ∧
    (n.inside = [] → m.interrupted false rs = false → n.cpu.bus.log = []) := by
  subst hn
  refine ⟨⟨fun unnoticed => ?_, fun quiet later => ?_⟩, fun a h => act_inspected h is, ?_⟩
  · rw [Decidable.or_iff_not_imp_right, Decidable.not_not]
    intro taken
    have same := unnoticed [.inspect .snapshot]
    rw [inspected_eq, if_pos taken] at same
    exact log_of_observe same
  · rw [inspected_eq]
    split
    · rename_i taken
      rw [dropLog_of_log (quiet.resolve_right (not_not_intro taken))]
    · rfl
  · intro closed whole
    have initial : m.Accounted false := by
      intro log
      rw [(of_assemble assembled).1] at log
      exact absurd rfl log
    have accounted := accounted_askAll initial rs
    rw [Accounted, closed, whole] at accounted
    simpa using accounted

/-- A machine that was loaded and has executed one instruction. -/
def stepped : Machine :=
  ((default : Machine).askAll [.act (.load [0x60, 0x05]), .act (.step 1), .act (.move 0)]).1

/-- After an instruction was executed to its end, looking goes unnoticed. -/
theorem unnoticed_stepped : stepped.inside = [] ∧
    ∀ later, (stepped.inspected [.snapshot, .registers]).observe later = stepped.observe later := by
  have assembled : assemble (.assemble .standard default none default Rom.standardLimit)
      standardCpuHz standardTimerHz Debugger.standardLimit = .ok default := rfl
  have facts : stepped.inside = [] ∧ (default : Machine).interrupted false
      [.act (.load [0x60, 0x05]), .act (.step 1), .act (.move 0)] = false := by
    decide +kernel
  obtain ⟨closed, whole⟩ := facts
  obtain ⟨iff, -, log⟩ := unnoticed_iff assembled _ rfl [.snapshot, .registers]
  exact ⟨closed, iff.mpr (.inl (log closed whole))⟩

/-- A debugger that stops where the first byte of a program is read. -/
def watcher : Debugger :=
  (Debugger.fresh Debugger.standardLimit).add ⟨.memoryRead, .null, .int 0x200, .null, .bool true⟩

/-- A machine with this debugger, whose first instruction waits for a key. -/
def watched : Machine := { (default : Machine) with debugger := watcher }.after
  [.load [0xF0, 0x0A, 0x61, 0x05], .debugRun none none, .move 0]

/-- Once a key is pressed, the instruction is reported with the reads of its opcode, and the breakpoint is
hit. If a snapshot was taken in between, it is reported without them, and nothing is hit. -/
theorem missed_breakpoint :
    ((watched.after [.press 5, .move 0]).moments.map (·.activity) =
        [[⟨0x200, 0xF0, .read⟩, ⟨0x201, 0x0A, .read⟩], []] ∧
      (watched.after [.press 5, .move 0]).debugger.hit.isSome = true) ∧
    (((watched.inspected [.snapshot]).after [.press 5, .move 0]).moments.map (·.activity) =
        [[], []] ∧
      ((watched.inspected [.snapshot]).after [.press 5, .move 0]).debugger.hit.isSome = false) ∧
    (watched.inspected [.snapshot]).observe [.act (.press 5), .act (.move 0)] ≠
      watched.observe [.act (.press 5), .act (.move 0)] := by
  have facts : ((watched.after [.press 5, .move 0]).moments.map (·.activity) =
        [[⟨0x200, 0xF0, .read⟩, ⟨0x201, 0x0A, .read⟩], []] ∧
      (watched.after [.press 5, .move 0]).debugger.hit.isSome = true) ∧
    (((watched.inspected [.snapshot]).after [.press 5, .move 0]).moments.map (·.activity) =
        [[], []] ∧
      ((watched.inspected [.snapshot]).after [.press 5, .move 0]).debugger.hit.isSome = false) := by
    decide +kernel
  obtain ⟨⟨read, hit⟩, taken, missed⟩ := facts
  refine ⟨⟨read, hit⟩, ⟨taken, missed⟩, fun same => ?_⟩
  -- What is reported includes the snapshots, and they differ in their logs.
  have moments (m : Machine) :
      (m.observe [.act (.press 5), .act (.move 0)]).2.reverse.filterMap (·.event.moment?) =
        (m.after [.press 5, .move 0]).moments := by
    simp only [observe, reports, List.reverse_reverse]
    rfl
  rw [← moments, same, moments, read] at taken
  cases taken

end Machine

end Hexscope
