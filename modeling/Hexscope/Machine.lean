import Hexscope.Clock
import Hexscope.Debugger

/-!
# The machine

A machine drives its processor by two clocks, one for instructions and one for the timers, and lets
a debugger watch. Instructions run on threads: the instruction clock's own, and those of callers
that step by hand. A thread stops at one of two places, the gate before an instruction and the key
wait inside one, and `Thread.place` says where. `Machine.turn` moves one thread by one instruction,
and `Machine.settle` moves all threads until each has ended or stopped; the operations below change
the machine in between. What listeners hear is kept in `reports`, with the side that told it.

A thread holds the lock of its processor while it executes, again when it has its key, and again while it
takes the snapshot, and it tells the listeners with the lock released. Here an instruction from the gate
to its last notice, or to the key wait, is one action (`Machine.perform`), and so is what is left of it
once there is a key (`Machine.awaitKey`). What another thread could do between the change of the state,
the snapshot and the notices is not described.

The timers tick by a schedule (`Machine.timer`, `Machine.tickIfDue`), both parts of a tick at once, and one
flag stands for all timer clocks. The clocks as threads, several of which may tick side by side or finish
a tick after their run, are laid beside the machine in `Hexscope.Proofs.Machine.Timed`.
-/

namespace Hexscope

/-- How a step ends, as its caller sees it. -/
inductive StepResult where
  | carryOn
  | halted
  | fatal
deriving DecidableEq, Repr

/-- The word for a result. -/
def StepResult.name : StepResult → String
  | .carryOn => "CONTINUE"
  | .halted => "HALTED"
  | .fatal => "FATAL"

/-- What is heard from a machine. -/
inductive Event where
  | notice (n : Notice)
  /-- A caller's step or run has a result; a fatal one comes with the fault. -/
  | result (r : StepResult) (fault : Option Fault)
  /-- A caller's step or run was refused an access. -/
  | raised (error : AccessError)
  /-- The instruction clock has ended with a result. -/
  | finish (r : StepResult)
deriving Repr

/-- An event as a listener gets it. -/
structure Report where
  event : Event
  /-- Whether a thread of the machine told it, and not the caller of an operation. -/
  fromThread : Bool
deriving Repr

/-- What a thread does besides the current instruction. -/
inductive Task where
  /-- Executes up to `left` instructions, this one included. -/
  | steps (left : Nat)
  /-- Executes instructions for the debugger until a breakpoint is hit or the limit is reached.
  `taken` have been executed. -/
  | run (limit : Option Int) (taken : Nat)
  /-- Executes one instruction for the debugger. `armed` tells whether the gate was closed. -/
  | single (armed : Bool)
  /-- Is the thread of the instruction clock. `live` tells whether the clock still wants it. -/
  | clock (live : Bool)
deriving DecidableEq, Repr

/-- Where a thread is. -/
inductive Place where
  /-- About to arrive at the gate. -/
  | ready
  /-- Stopped at the gate. -/
  | gate
  /-- Let through the gate. -/
  | released
  /-- Stopped inside an instruction that waits for a key. -/
  | key (word : Fetched) (operation : Operation)
  /-- Woken inside an instruction that waits for a key. -/
  | woken (word : Fetched) (operation : Operation)
deriving DecidableEq, Repr

namespace Place

/-- Whether a thread here can go on. -/
def isRunnable : Place → Bool
  | .ready | .released | .woken .. => true
  | .gate | .key .. => false

/-- Whether a thread here waits for a key. -/
def isKeyWait : Place → Bool
  | .key .. => true
  | _ => false

/-- The place after the gate is opened. -/
def release : Place → Place
  | .gate => .released
  | p => p

/-- The place after a key was pressed. -/
def wake : Place → Place
  | .key w o => .woken w o
  | p => p

end Place

/-- A thread that executes instructions. -/
structure Thread where
  task : Task
  place : Place
deriving DecidableEq, Repr

/-- Whether a thread is that of a clock that is wanted. -/
def Thread.isLiveClock (t : Thread) : Bool := t.task = .clock true

/-- The thread after its clock was cancelled. -/
def Thread.cancel (t : Thread) : Thread :=
  if t.isLiveClock then { t with task := .clock false } else t

/-- A processor with its clocks, its debugger and its threads. -/
structure Machine where
  cpu : Cpu
  debugger : Debugger
  cpuHz : Frequency
  timerHz : Frequency
  /-- Whether the clocks were started and not stopped since. -/
  clocked : Bool
  /-- Whether a timer clock ticks, by the schedule of the instructions. -/
  timer : Bool
  /-- Instructions of the clock since the last tick. -/
  sinceTick : Nat
  /-- How the last run ended. -/
  outcome : Option StepResult
  finished : Bool
  threads : List Thread
  /-- The number of snapshots after which a listener ends the debugger's run. After none it never
  does. -/
  stopAfter : Option Nat
  /-- The number of listeners that keep frames among the events. -/
  frameListeners : Nat
  /-- The number of listeners that keep snapshots among the events. -/
  snapshotListeners : Nat
  /-- Whether what happens now happens on a thread of the machine. -/
  onThread : Bool
  /-- What listeners heard and nobody has taken yet, newest first. -/
  heard : List Report

namespace Machine

/-- The frequency of the instruction clock unless said otherwise. -/
def standardCpuHz : Int := 500

/-- The frequency of the timer clock unless said otherwise. -/
def standardTimerHz : Int := 60

/-- A clock must have a positive frequency, and a period that is a floating point number. -/
inductive ClockError where
  | notPositive
  | badFrequency (hz : Frequency)
  | noPeriod
deriving DecidableEq, Repr

/-- The text of a refusal. -/
def ClockError.message : ClockError → Text
  | .notPositive => "Clock frequencies must be positive."
  | .badFrequency hz => (Clock.Error.notPositive hz).message
  | .noPeriod => Clock.Error.noPeriod.message

/-- The kind of a refusal. -/
def ClockError.kind : ClockError → ErrorKind
  | .notPositive | .badFrequency _ => .value
  | .noPeriod => .overflow

instance : Failure ClockError := ⟨ClockError.kind, ClockError.message⟩

/-- A machine that stands still. -/
def assemble (cpu : Cpu) (cpuHz timerHz : Frequency) (historyLimit : Nat) :
    Except ClockError Machine :=
  if cpuHz.isRefused || timerHz.isRefused then .error .notPositive
  else .ok {
    cpu, cpuHz, timerHz
    debugger := .fresh historyLimit
    clocked := false
    timer := false
    sinceTick := 0
    outcome := none
    finished := false
    threads := []
    stopAfter := none
    frameListeners := 1
    snapshotListeners := 1
    onThread := false
    heard := [] }

instance : Inhabited Machine :=
  ⟨{ cpu := default, debugger := default, cpuHz := standardCpuHz, timerHz := standardTimerHz,
     clocked := false, timer := false, sinceTick := 0, outcome := none, finished := false,
     threads := [], stopAfter := none, frameListeners := 1, snapshotListeners := 1,
     onThread := false, heard := [] }⟩

/-! ## Listeners -/

/-- The number of listeners that keep an event. -/
def listeners (m : Machine) : Event → Nat
  | .notice (.frame _) => m.frameListeners
  | .notice (.snapshot _) => m.snapshotListeners
  | _ => 1

/-- Keeps an event for whoever listens. -/
def hear (m : Machine) (e : Event) : Machine :=
  { m with heard := List.replicate (m.listeners e) ⟨e, m.onThread⟩ ++ m.heard }

/-- One listener more keeps frames and snapshots. -/
def listen (m : Machine) : Machine :=
  { m with
    frameListeners := m.frameListeners + 1, snapshotListeners := m.snapshotListeners + 1 }

/-- One listener less keeps frames and snapshots. -/
def ignore (m : Machine) : Machine :=
  { m with
    frameListeners := m.frameListeners - 1, snapshotListeners := m.snapshotListeners - 1 }

/-- The reports that nobody has taken yet, oldest first. -/
def reports (m : Machine) : List Report := m.heard.reverse

/-- The events that nobody has taken yet, oldest first. -/
def events (m : Machine) : List Event := m.reports.map (·.event)

/-- Takes the reports. -/
def takeReports (m : Machine) : Machine × List Report := ({ m with heard := [] }, m.reports)

/-- Closes or opens the gate for later arrivals. -/
def setPolicy (m : Machine) (shouldWait : Bool) : Machine :=
  { m with cpu := { m.cpu with gate := m.cpu.gate.setPolicy shouldWait } }

/-- The listener that ends the debugger's run counts a snapshot. -/
def countSnapshot (m : Machine) : Machine :=
  match m.stopAfter with
  | none | some 0 => m
  | some 1 => { m with stopAfter := none, debugger := { m.debugger with running := false } }
  | some (n + 2) => { m with stopAfter := some (n + 1) }

/-- Tells the listeners one thing. The debugger closes the gate when a breakpoint is hit. -/
def tell (m : Machine) (n : Notice) : Machine :=
  let m := m.hear (.notice n)
  match n with
  | .snapshot moment =>
    let (debugger, stop) := m.debugger.observe moment
    let m := { m with debugger }
    (if stop then m.setPolicy true else m).countSnapshot
  | _ => m

/-- Tells the listeners several things in order. -/
def tellAll (m : Machine) (ns : List Notice) : Machine := ns.foldl tell m

/-- The machine after an operation of the processor that has notices. -/
def withCpu (m : Machine) (r : Cpu × List Notice) : Machine :=
  { m with cpu := r.1 }.tellAll r.2

/-! ## Threads -/

/-- Whether a run of the machine is going on. -/
def isRunning (m : Machine) : Bool := m.clocked && m.threads.any Thread.isLiveClock

/-- One tick of the timers. -/
def tick (m : Machine) : Machine := m.withCpu m.cpu.tick

/-- The most instructions that are executed between two ticks of the timers, however fast the clock
of instructions is meant to be. -/
def maxPeriod : Nat := 10000

/-- The number of instructions of the clock between two ticks of the timers. -/
def period (m : Machine) : Nat :=
  min maxPeriod (max 1 (m.cpuHz.rounded / m.timerHz.rounded).toNat)

/-- Lets the timer clock tick if it is due after one more instruction of the clock. -/
def tickIfDue (m : Machine) : Machine :=
  if !m.timer then m
  else if m.sinceTick + 1 < m.period then { m with sinceTick := m.sinceTick + 1 }
  else { m with sinceTick := 0 }.tick

/-- The clocks stop because a run has ended, and the listeners hear how. -/
def finish (m : Machine) (r : StepResult) : Machine :=
  let m := { m with outcome := some r, timer := false }
  let m := m.withCpu (m.cpu.requestTone false)
  { m with finished := true }.hear (.finish r)

/-- The event of a result. -/
def resultEvent (m : Machine) (r : StepResult) : Event :=
  .result r (if r = .fatal then m.cpu.fault else none)

/-- Ends the debugger's run. -/
def endRun (m : Machine) : Machine :=
  { m with debugger := { m.debugger with running := false }, stopAfter := none }

/-- Whether the debugger's run ends with a result after `taken` instructions. -/
def runEnds (m : Machine) (limit : Option Int) (taken : Nat) (r : StepResult) : Bool :=
  r != .carryOn || m.debugger.hit.isSome || !m.debugger.running ||
    match limit with
    | some n => n ≤ taken
    | none => false

/-- What becomes of a thread whose instruction has a result: its next instruction, if any. -/
def afterResult (m : Machine) (task : Task) (r : StepResult) : Machine × Option Task :=
  match task with
  | .steps left =>
    (m.hear (m.resultEvent r), if r = .carryOn ∧ 1 < left then some (.steps (left - 1)) else none)
  | .run limit taken =>
    if m.runEnds limit (taken + 1) r then (m.endRun.hear (m.resultEvent r), none)
    else (m, some (.run limit (taken + 1)))
  | .single armed =>
    ((if armed then m.setPolicy true else m).hear (m.resultEvent r), none)
  | .clock live =>
    if r = .carryOn then (m.tickIfDue, if live then some (.clock true) else none)
    else (m.finish r, none)

/-- What becomes of the machine when a thread's instruction is refused an access. -/
def afterRaise (m : Machine) (task : Task) (e : AccessError) : Machine :=
  match task with
  | .steps _ => m.hear (.raised e)
  | .run .. => { m with stopAfter := none }.hear (.raised e)
  | .single armed => (if armed then m.setPolicy true else m).hear (.raised e)
  | .clock _ => m

/-- A thread that goes on is about to arrive at the gate. -/
def goOn (r : Machine × Option Task) : Machine × Option Thread :=
  (r.1, r.2.map fun task => ⟨task, .ready⟩)

/-- Ends an instruction for which a key is there, or lets the thread wait for one. -/
def awaitKey (m : Machine) (task : Task) (w : Fetched) (o : Operation) :
    Machine × Option Thread :=
  let (keypad, key) := m.cpu.keypad.await
  let m := { m with cpu := { m.cpu with keypad } }
  match key with
  | none => (m, some ⟨task, .key w o⟩)
  | some k => goOn ((m.withCpu ((m.cpu.deliver k).conclude w o)).afterResult task .carryOn)

/-- Executes an instruction on a thread that has passed the gate. -/
def perform (m : Machine) (task : Task) : Machine × Option Thread :=
  let (cpu, outcome) := m.cpu.cycle
  let m := { m with cpu }
  match outcome with
  | .halted => goOn (m.afterResult task .halted)
  | .fatal => goOn (m.afterResult task .fatal)
  | .raised e => (m.afterRaise task e, none)
  | .done w o =>
    if cpu.isSuspended then m.awaitKey task w o
    else goOn ((m.withCpu (cpu.conclude w o)).afterResult task .carryOn)

/-- Moves a thread that can go on. The answer is the thread, unless it has ended. -/
def moveThread (m : Machine) (t : Thread) : Machine × Option Thread :=
  match t.place with
  | .ready =>
    if t.task = .clock false then (m, none)
    else
      let (gate, stays) := m.cpu.gate.arrive
      let m := { m with cpu := { m.cpu with gate } }
      if stays then (m, some ⟨t.task, .gate⟩) else m.perform t.task
  | .released => m.perform t.task
  | .woken w o => m.awaitKey t.task w o
  | .gate | .key .. => (m, some t)

/-- Moves the first thread that can go on, if there is one. -/
def turn (m : Machine) : Option Machine :=
  match m.threads.span (!·.place.isRunnable) with
  | (_, []) => none
  | (stopped, t :: others) =>
    let (m, t) := { m with threads := stopped ++ others, onThread := true }.moveThread t
    some { m with
      threads := stopped ++ t.toList ++ m.threads.drop stopped.length, onThread := false }

/-- Moves the threads until each has ended or stopped, at most `fuel` times. -/
def settleWith : (fuel : Nat) → Machine → Machine
  | 0, m => m
  | fuel + 1, m =>
    match m.turn with
    | some m => settleWith fuel m
    | none => m

/-- More instructions than a run is given to end or stop. -/
def patience : Nat := 100000000

/-- Moves the threads until each has ended or stopped. -/
def settle (m : Machine) : Machine := settleWith patience m

/-- Whether every thread has stopped. -/
def IsSettled (m : Machine) : Prop := ∀ t ∈ m.threads, t.place.isRunnable = false

/-- Adds a thread. -/
def spawn (m : Machine) (task : Task) : Machine :=
  { m with threads := m.threads ++ [⟨task, .ready⟩] }

/-- Opens the gate for the threads that stopped at it. -/
def openGate (m : Machine) : Machine :=
  let (gate, _) := m.cpu.gate.release
  { m with
    cpu := { m.cpu with gate }
    threads := m.threads.map fun t => { t with place := t.place.release } }

/-! ## Runs -/

/-- Opens a run, unless one is going on. The timer clock ticks at once. Without a period for one of
the clocks no run is opened, but the last one is forgotten; if only the timers lack theirs, the clock
of instructions has been made and stands still. -/
def start (m : Machine) : Machine × Option ClockError :=
  if m.isRunning then (m, none)
  else
    let m := { m with outcome := none, finished := false }
    if m.cpuHz.period?.isNone then (m, some .noPeriod)
    else if m.timerHz.period?.isNone then ({ m with clocked := true }, some .noPeriod)
    else
      let m := { m with clocked := true, timer := true, sinceTick := 0 }
      ({ { m with onThread := true }.tick with onThread := false }.spawn (.clock true), none)

/-- Ends the run. A thread at the gate executes the instruction that it was about to, and a thread
in a key wait stays, unwanted by any clock. -/
def stop (m : Machine) : Machine :=
  if !m.clocked then m
  else
    let m := { m with timer := false, threads := m.threads.map Thread.cancel }
    let m := (m.setPolicy false).openGate.settle
    let m := m.withCpu (m.cpu.requestTone false)
    { m with clocked := false }

/-- Closes the gate, so that the machine stops before its next instruction. -/
def pause (m : Machine) : Machine := m.setPolicy true

/-- Opens the gate, so that the machine goes on. -/
def resume (m : Machine) : Machine := (m.setPolicy false).openGate

/-- Whether a thread stopped at the gate. -/
def isPaused (m : Machine) : Bool := m.cpu.gate.isWaiting

/-- Whether a thread stopped inside an instruction that waits for a key. -/
def awaitsKey (m : Machine) : Bool := m.threads.any (·.place.isKeyWait)

/-- Lets a thread at the gate execute one instruction. The answer tells whether there was one. -/
def stepPaused (m : Machine) : Machine × Bool :=
  if m.isPaused then (m.openGate, true) else (m, false)

/-- Changes the frequency of the instruction clock. A frequency without a period is kept, but refused
all the same if the clock was started and not stopped since. -/
def setCpuHz (m : Machine) (hz : Frequency) : Machine × Option ClockError :=
  if hz.isRefused then (m, some (.badFrequency hz))
  else
    ({ m with cpuHz := hz }, if m.clocked && hz.period?.isNone then some .noPeriod else none)

/-- Changes the volume of the speaker, if there is one. -/
def setVolume (m : Machine) (v : Binary64) : Machine :=
  { m with cpu := { m.cpu with speaker := m.cpu.speaker.map (·.setVolume v) } }

/-! ## Programs -/

/-- Resets the processor. -/
def reset (m : Machine) : Machine × Option Bus.Error :=
  let (cpu, told, error) := m.cpu.reset
  (m.withCpu (cpu, told), error)

/-- Loads a program. -/
def loadProgram (m : Machine) (data : List UInt8) : Machine × Option Cpu.LoadError :=
  let (cpu, told, error) := m.cpu.loadProgram data
  (m.withCpu (cpu, told), error)

/-- Loads a program from a file. -/
def loadRom (m : Machine) (files : FileNode) (path : Text) :
    Machine × Option Cpu.LoadError :=
  let (cpu, told, error) := m.cpu.loadRom files path
  (m.withCpu (cpu, told), error)

/-- Why a program is not run. -/
inductive RunError where
  | load (error : Cpu.LoadError)
  | clock (error : ClockError)

/-- The kind of a refusal. -/
def RunError.kind : RunError → ErrorKind
  | .load e => e.kind
  | .clock e => e.kind

/-- The text of a refusal. -/
def RunError.message : RunError → Text
  | .load e => e.message
  | .clock e => e.message

instance : Failure RunError := ⟨RunError.kind, RunError.message⟩

/-- Ends the run, loads a program from a file and opens a run with it. -/
def loadAndRun (m : Machine) (files : FileNode) (path : Text) : Machine × Option RunError :=
  match m.stop.loadRom files path with
  | (m, some e) => (m, some (.load e))
  | (m, none) =>
    let (m, e) := m.start
    (m, e.map .clock)

/-! ## Keys -/

/-- A key goes down. Threads that wait for a key wake up. -/
def press (m : Machine) (k : Key) : Machine :=
  let (keypad, _) := m.cpu.keypad.press k
  { m with
    cpu := { m.cpu with keypad }
    threads := m.threads.map fun t => { t with place := t.place.wake } }

/-- A key goes up. -/
def release (m : Machine) (k : Key) : Machine :=
  { m with cpu := { m.cpu with keypad := m.cpu.keypad.release k } }

/-- All keys go up. -/
def releaseAll (m : Machine) : Machine :=
  { m with cpu := { m.cpu with keypad := m.cpu.keypad.releaseAll } }

/-- A host key goes down. The answer tells whether it is mapped. -/
def pressNamed (m : Machine) (name : Text) : Machine × Bool :=
  match m.cpu.keypad.named? name with
  | some k => (m.press k, true)
  | none => (m, false)

/-- A host key goes up. The answer tells whether it is mapped. -/
def releaseNamed (m : Machine) (name : Text) : Machine × Bool :=
  match m.cpu.keypad.named? name with
  | some k => (m.release k, true)
  | none => (m, false)

/-! ## Stepping by hand -/

/-- A caller executes up to `n` instructions on a thread of its own. -/
def step (m : Machine) (n : Nat) : Machine := if n = 0 then m else m.spawn (.steps n)

/-- The debugger executes instructions until a breakpoint is hit, the program ends, or `limit`
instructions are done. A listener may end the run at a snapshot. -/
def debugRun (m : Machine) (limit : Option Int) (stopAfter : Option Nat) : Machine :=
  let m := { m with debugger := { m.debugger with running := true, hit := none }, stopAfter }
  (m.setPolicy false).spawn (.run limit 0)

/-- The debugger executes one instruction: it lets a thread at the gate go on, or executes the
instruction on a thread of its own with the gate open. -/
def debugStep (m : Machine) : Machine :=
  if m.isPaused then m.openGate
  else (m.setPolicy false).spawn (.single m.cpu.gate.shouldWait)

/-- The debugger forgets the hit and lets the machine go on. -/
def debugResume (m : Machine) : Machine :=
  { m with debugger := { m.debugger with hit := none } }.resume

/-! ## Inspection -/

/-- The record of this moment. The access log goes with it. -/
def snapshot (m : Machine) : Machine × Moment :=
  let (cpu, moment) := m.cpu.snapshot none none
  ({ m with cpu }, moment)

end Machine

end Hexscope
