import Hexscope.Proofs.Machine.Conclude
import Hexscope.Proofs.Machine.Report

/-!
# Breakpoints at an address

A breakpoint at an address closes the gate when an instruction is reported that leaves the program counter
there. So whoever arrives at the gate afterwards stops before the instruction at the address. A reset and a
load are told as well, but are not compared with the breakpoints: they leave the gate as it is.

* `Machine.breakpoints_after`: the breakpoints stay along every run;
* `Machine.closed_of_hits`: a breakpoint that is hit closes the gate;
* `Machine.closed_of_watched`: the report of an instruction that leaves the program counter at the
  address closes the gate;
* `Machine.parks_after`: who arrives at a closed gate stops there, until somebody opens it;
* `Machine.parks_at_breakpoint`: both together, for every run;
* `Machine.entry_passed`: the first instruction of a program is executed in spite of a breakpoint.
-/

namespace Hexscope

namespace Breakpoint

/-- Whether the condition is an enabled one and looks for an address in the program counter. -/
def watches (b : Breakpoint) (a : Int) : Bool :=
  b.trigger = .pcMatch && b.enabled.isTruthy && b.value.isSame (.int a)

theorem fires_of_watches {b : Breakpoint} {moment : Moment} (h : b.watches moment.state.pc = true)
    (before : Option Registers) : b.fires before moment = true := by
  simp only [watches, Bool.and_eq_true, decide_eq_true_eq] at h
  obtain ⟨⟨trigger, enabled⟩, same⟩ := h
  simp only [fires, enabled, Bool.true_and, isMet, trigger]
  exact same

end Breakpoint

/-- Snapshots leave the breakpoints as they are. -/
theorem Debugger.breakpoints_foldl_see (d : Debugger) (told : List Moment) :
    (told.foldl see d).breakpoints = d.breakpoints := by
  induction told generalizing d with
  | nil => rfl
  | cons moment told ih => exact (ih (d.see moment)).trans (breakpoints_observe d moment)

namespace Machine

variable {m : Machine} {a : Action} {k : Nat} {b : Breakpoint} {pc : Int}

theorem Tells.breakpoints {n : Machine} {c : Cpu} {told : List Moment} (h : Tells c m n told) :
    n.debugger.breakpoints = m.debugger.breakpoints := by
  calc n.debugger.breakpoints = n.debugger.record.breakpoints := rfl
    _ = (told.foldl Debugger.see m.debugger.record).breakpoints := by rw [h.record]
    _ = m.debugger.record.breakpoints := Debugger.breakpoints_foldl_see _ told
    _ = m.debugger.breakpoints := rfl

/-- The breakpoints stay along every run. -/
theorem breakpoints_after (m : Machine) (as : List Action) :
    (m.after as).debugger.breakpoints = m.debugger.breakpoints := by
  induction as generalizing m with
  | nil => rfl
  | cons a as ih =>
    obtain ⟨c, told, tells, -⟩ := reporting_act m a
    exact (ih (m.act a)).trans tells.breakpoints

/-! ## Hits -/

/-- The move reports an instruction, and the snapshot meets an enabled breakpoint. -/
def Hits (m : Machine) (k : Nat) : Prop := ∃ t w o c, m.threads[k]? = some t ∧ Ready m.cpu t w o c ∧
  ∃ b ∈ m.debugger.breakpoints, b.fires m.debugger.before (c.closing w o) = true

theorem Hits.concludes (hits : m.Hits k) : m.concludes (.move k) = true := by
  obtain ⟨t, w, o, c, ht, ready, -⟩ := hits
  rw [Machine.concludes, ht, Option.any_some]
  exact concludes_iff.mpr ⟨w, o, c, ready⟩

/-- A move that reports an instruction leaves the processor as the report and its task do. -/
theorem cpu_act_of_ready {t : Thread} {w : Fetched} {o : Operation} {c : Cpu}
    (ht : m.threads[k]? = some t) (ready : Ready m.cpu t w o c) : (m.act (.move k)).cpu =
      ((withCpu { m with threads := m.threads.eraseIdx k, onThread := true }
        (c.conclude w o)).afterResult t.task .carryOn).1.cpu := by
  have reported := moveThread_of_ready
    (m := { m with threads := m.threads.eraseIdx k, onThread := true }) ready
  rw [act, move_eq ht (isRunnable_of_ready ready), reported]
  rfl

/-- A breakpoint that is hit closes the gate. -/
theorem closed_of_hits (hits : m.Hits k) : (m.act (.move k)).cpu.gate.shouldWait = true := by
  obtain ⟨t, w, o, c, ht, ready, b, listed, fires⟩ := hits
  rw [cpu_act_of_ready ht ready]
  refine closed_afterResult t.task .carryOn ?_
  rw [shouldWait_conclude, Bool.or_eq_true]
  exact .inr (List.any_eq_true.mpr ⟨b, listed, fires⟩)

/-- The report of an instruction that leaves the program counter at a watched address closes the
gate. -/
theorem closed_of_watched (watched : b ∈ m.debugger.breakpoints)
    (concludes : m.concludes (.move k) = true)
    (arrived : b.watches (m.act (.move k)).cpu.state.pc = true) :
    (m.act (.move k)).cpu.gate.shouldWait = true := by
  obtain ⟨t, w, o, c, ht, ready⟩ := exists_ready_of_concludes concludes
  have pc : (m.act (.move k)).cpu.state.pc = (c.closing w o).state.pc := by
    obtain ⟨reports, -⟩ := reports_afterResult
      { m with threads := m.threads.eraseIdx k, onThread := true } c t.task w o
    rw [cpu_act_of_ready ht ready]
    exact reports.rests.pc
  rw [pc] at arrived
  exact closed_of_hits ⟨t, w, o, c, ht, ready, b, watched, Breakpoint.fires_of_watches arrived _⟩

/-! ## Arriving at a closed gate -/

/-- What a thread does that arrives at the gate: it begins no instruction and leaves the registers
alone, and unless its clock does not want it any more it stays at the gate. -/
structure Parks (m : Machine) (j : Nat) (task : Task) : Prop where
  idle : m.begins (.move j) = false
  state : (m.act (.move j)).cpu.state = m.cpu.state
  stays : task ≠ .clock false → (m.act (.move j)).threads[j]? = some ⟨task, .gate⟩

/-- Who arrives at a closed gate stops there. -/
theorem parks_of_closed {j : Nat} {task : Task} (closed : m.cpu.gate.shouldWait = true)
    (ht : m.threads[j]? = some ⟨task, .ready⟩) : m.Parks j task := by
  have lt : j < m.threads.length := (List.getElem?_eq_some_iff.mp ht).1
  have idle : m.begins (.move j) = false := by
    simp [begins, ht, Thread.enters, closed]
  have moved := move_eq ht rfl
  by_cases wanted : task = .clock false
  · simp only [moveThread, if_pos wanted] at moved
    refine ⟨idle, ?_, fun h => absurd wanted h⟩
    rw [act, moved]
  · rw [moveThread_of_closed (m := { m with threads := m.threads.eraseIdx j, onThread := true })
      rfl wanted closed] at moved
    refine ⟨idle, ?_, fun _ => ?_⟩
    · rw [act, moved]
    · have front : (m.threads.take j).length = j := by
        rw [List.length_take, Nat.min_eq_left (by omega)]
      simp only [act, moved, Option.toList_some, List.append_assoc]
      rw [List.getElem?_append_right (by omega), front, Nat.sub_self]
      rfl

/-- Who arrives at a gate that was closed stops there, until somebody opens it. -/
theorem parks_after {later : List Action} {j : Nat} {task : Task}
    (closed : m.cpu.gate.shouldWait = true) (shut : ∀ x ∈ later, x.opens = false)
    (ht : (m.after later).threads[j]? = some ⟨task, .ready⟩) : (m.after later).Parks j task :=
  parks_of_closed (closed_after closed shut) ht

/-! ## Breakpoints along a run -/

/-- A reset and a load leave the gate as it is. -/
theorem gate_of_not_keepsProgram (h : a.keepsProgram = false) : (m.act a).cpu.gate = m.cpu.gate := by
  have announced {ε : Type} {r : Cpu × List Notice × Option ε} (told : Cpu.Announced r) :
      (m.withCpu (r.1, r.2.1)).cpu = r.1 := by
    obtain ⟨moment, blank, told⟩ := told
    refine cpu_tellAll_of_blank _ fun x hx => ?_
    rw [told] at hx
    split at hx
    · rw [List.mem_singleton.mp hx, blank]
    · cases hx
  cases a with
  | reset =>
    have cpu : (m.act .reset).cpu = m.cpu.reset.1 := announced (Cpu.announced_reset m.cpu)
    rw [cpu, Cpu.gate_reset]
  | load data =>
    have cpu : (m.act (.load data)).cpu = (m.cpu.loadProgram data).1 :=
      announced (Cpu.announced_loadProgram m.cpu data)
    rw [cpu, Cpu.gate_loadProgram]
  | _ => cases h

/-- Along every run, each report of an instruction that leaves the program counter at a watched address
closes the gate, and until somebody opens it, who arrives there stops before the next instruction. A reset
and a load leave the gate as it is. -/
theorem parks_at_breakpoint (watched : b ∈ m.debugger.breakpoints) (as : List Action) :
    (∀ k, (m.after as).concludes (.move k) = true →
      b.watches ((m.after as).act (.move k)).cpu.state.pc = true →
      ((m.after as).act (.move k)).cpu.gate.shouldWait = true ∧
      ∀ later, (∀ x ∈ later, x.opens = false) → ∀ j task,
        (((m.after as).act (.move k)).after later).threads[j]? = some ⟨task, .ready⟩ →
        (((m.after as).act (.move k)).after later).Parks j task) ∧
    ∀ a, a.keepsProgram = false → ((m.after as).act a).cpu.gate = (m.after as).cpu.gate := by
  have kept : b ∈ (m.after as).debugger.breakpoints := by
    rw [breakpoints_after]
    exact watched
  refine ⟨fun k concludes arrived => ?_, fun a h => gate_of_not_keepsProgram h⟩
  have closed := closed_of_watched kept concludes arrived
  exact ⟨closed, fun later shut j task ht => parks_after closed shut ht⟩

/-- A breakpoint at an address. -/
def breakpointAt (pc : Int) : Breakpoint := ⟨.pcMatch, .int pc, .null, .null, .bool true⟩

/-- A machine with a breakpoint at an address, which is given a program of two instructions, and a caller
that executes both. -/
def halting (pc : Int) : Machine :=
  { (default : Machine) with debugger := (default : Machine).debugger.add (breakpointAt pc) }.after
    [.load [0x60, 0x05, 0x61, 0x06], .step 2]

/-- The first instruction leaves the program counter at the second one, and the caller stops there. -/
theorem parks_at_second : breakpointAt 0x202 ∈ (halting 0x202).debugger.breakpoints ∧
    ((halting 0x202).act (.move 0)).cpu.gate.shouldWait = true ∧
    ((halting 0x202).act (.move 0)).Parks 0 (.steps 1) := by
  have watched : breakpointAt 0x202 ∈ (halting 0x202).debugger.breakpoints := by
    rw [halting, breakpoints_after]
    exact List.mem_singleton_self _
  have facts : (halting 0x202).concludes (.move 0) = true ∧
      (breakpointAt 0x202).watches ((halting 0x202).act (.move 0)).cpu.state.pc = true ∧
      ((halting 0x202).act (.move 0)).threads[0]? = some ⟨.steps 1, .ready⟩ := by
    decide +kernel
  obtain ⟨concludes, arrived, waiting⟩ := facts
  obtain ⟨closed, parks⟩ := (parks_at_breakpoint watched []).1 0 concludes arrived
  exact ⟨watched, closed, parks [] (List.forall_mem_nil _) 0 (.steps 1) waiting⟩

/-- After the load the program counter stands at the breakpoint, but the gate is open, and the caller
executes the first instruction. -/
theorem entry_passed :
    (breakpointAt 0x200).watches (halting 0x200).cpu.state.pc = true ∧
    (halting 0x200).cpu.gate.shouldWait = false ∧
    (halting 0x200).begins (.move 0) = true ∧
    ((halting 0x200).act (.move 0)).cpu.state.pc = 0x202 ∧
    ((halting 0x200).act (.move 0)).reported.map Operation.text = ["LD V0, #$05"] := by
  decide +kernel

end Machine

end Hexscope
