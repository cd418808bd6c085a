import Hexscope.Proofs.Machine.Breakpoint
import Hexscope.Proofs.Machine.Hit
import Hexscope.Proofs.Machine.Stepping

/-!
# The run of the debugger

The debugger runs instructions on the thread of its caller, whatever was hit before and whether the gate was
open or closed. It stops with the first step that ends the program or fails, that hits a breakpoint, or that
reaches the limit (`Machine.Stops`). What the steps are depends on the processor alone (`Cpu.steps`).

* `Machine.Runs`, `Machine.Returned`: what is there while the run goes on, and after its last step;
* `Machine.Runs.next`, `Machine.Runs.last`: a step that does not stop the run, and the one that does;
* `Machine.run_cases`: a run after any number of moves;
* `Machine.debugRun_returns`: the run returns with the first step that stops it.
-/

namespace Hexscope

namespace Cpu

/-- The processor after a number of steps. -/
def steps (c : Cpu) : Nat → Cpu
  | 0 => c
  | j + 1 => (c.steps j).step.1.1

theorem Law.steps {P : Cpu → Prop} (law : Law P) {c : Cpu} (h : P c) (j : Nat) : P (c.steps j) := by
  induction j with
  | zero => exact h
  | succ j ih => exact law.step ih

/-- A step on the standard machine has a result. -/
theorem Within.exists_result {c : Cpu} (within : c.Within .standard) : ∃ r, c.step.2 = .ok r := by
  cases outcome : c.cycle.2 with
  | halted | fatal => exact ⟨_, congrArg Prod.snd (step_of_stop (congrArg Outcome.stop? outcome))⟩
  | raised e => exact absurd outcome (within.staysInside.noRaise e)
  | done w o => exact ⟨_, congrArg Prod.snd (step_of_done outcome)⟩

end Cpu

namespace Machine

variable {m n : Machine} {limit : Option Int} {j k : Nat}

/-! ## The steps -/

/-- The registers with which the debugger compares after a number of steps. -/
def priorTo (m : Machine) : Nat → Option Registers
  | 0 => m.debugger.before
  | j + 1 => some (m.cpu.steps (j + 1)).state.toRegisters

/-- Whether the step after `j` steps hits an enabled breakpoint. -/
def hitsAt (m : Machine) (j : Nat) : Bool :=
  (m.cpu.steps j).moments.any fun now => m.debugger.breakpoints.any (·.fires (m.priorTo j) now)

/-- Whether the step after `j` steps ends the run: the program ends or fails with it, a breakpoint is hit, or
the limit is reached. -/
def Stops (m : Machine) (limit : Option Int) (j : Nat) : Prop :=
  (m.cpu.steps j).step.2 ≠ .ok .carryOn ∨ m.hitsAt j = true ∨ ∃ most ∈ limit, most ≤ j + 1

/-- The run goes on after a number of steps. -/
structure Runs (m : Machine) (limit : Option Int) (j : Nat) (n : Machine) : Prop where
  threads : n.threads = [⟨.run limit j, .ready⟩]
  cpu : n.cpu = (m.cpu.steps j).withGate (m.cpu.gate.setPolicy false)
  breakpoints : n.debugger.breakpoints = m.debugger.breakpoints
  before : n.debugger.before = m.priorTo j
  hit : n.debugger.hit = none
  running : n.debugger.running = true
  unlimited : n.stopAfter = none
  results : n.results = m.results

/-- The run has ended with the step after `j` steps, and its caller hears the result of this step, or that it
was refused an access. The gate is closed exactly if this step has hit, and there is a hit exactly then. -/
structure Returned (m : Machine) (j : Nat) (n : Machine) : Prop where
  threads : n.threads = []
  cpu : n.cpu = (m.cpu.steps (j + 1)).withGate (m.cpu.gate.setPolicy (m.hitsAt j))
  hit : n.debugger.hit.isSome = m.hitsAt j
  result : ∀ r, (m.cpu.steps j).step.2 = .ok r → n.results = m.results ++ [r]
  raised : ∀ e, (m.cpu.steps j).step.2 = .error e →
    n.heard.head? = some ⟨.raised e, true⟩ ∧ n.results = m.results

theorem Runs.start (idle : m.threads = []) : m.Runs limit 0 (m.act (.debugRun limit none)) where
  threads := by
    rw [act, debugRun, spawn]
    exact congrArg (· ++ _) idle
  cpu := rfl
  breakpoints := rfl
  before := rfl
  hit := rfl
  running := rfl
  unlimited := rfl
  results := results_of_heard rfl

/-- The gate is open for the next step. -/
theorem Runs.begins (h : m.Runs limit j n) : n.begins (.move 0) = true := by
  rw [Machine.begins, h.threads, h.cpu]
  rfl

theorem Runs.step (h : m.Runs limit j n) : n.cpu.step =
    (((m.cpu.steps (j + 1)).withGate (m.cpu.gate.setPolicy false), (m.cpu.steps j).step.1.2),
      (m.cpu.steps j).step.2) := by
  rw [h.cpu, Cpu.step_withGate]
  rfl

theorem Runs.hits (h : m.Runs limit j n) : n.hits = m.hitsAt j := by
  rw [Machine.hits, h.cpu, Cpu.moments_withGate, h.breakpoints, h.before]
  rfl

/-- What the debugger knows after the next step. -/
theorem Runs.sees (h : m.Runs limit j n) : n.noted.breakpoints = m.debugger.breakpoints ∧
    n.noted.running = true ∧ n.noted.hit.isSome = m.hitsAt j ∧
    ((m.cpu.steps j).step.2 = .ok .carryOn → n.noted.before = m.priorTo (j + 1)) := by
  obtain ⟨breakpoints, running, hit, before⟩ := sees_noted n
  refine ⟨breakpoints.trans h.breakpoints, running.trans h.running, ?_, fun goes => ?_⟩
  · rw [hit, h.hits, h.hit, Option.isSome_none, Bool.or_false]
  · rw [h.step] at before
    exact before goes

/-- What the next step leaves before the task has heard its result. -/
theorem Runs.told (h : m.Runs limit j n) : ∃ heard,
    (n.around 0).withCpu n.cpu.step.1 = (n.around 0).afterStep heard ∧
    ((n.around 0).afterStep heard).results = m.results ∧
    ((n.around 0).afterStep heard).cpu =
      (m.cpu.steps (j + 1)).withGate (m.cpu.gate.setPolicy (m.hitsAt j)) := by
  obtain ⟨heard, told⟩ := withCpu_step_of_none (m := n.around 0) h.unlimited
  refine ⟨heard, told, ?_, ?_⟩
  · rw [← told, results_withCpu]
    exact (results_of_heard rfl).trans h.results
  · have left : ((n.around 0).afterStep heard).cpu =
        n.cpu.step.1.1.withGate (n.cpu.gate.setPolicy (n.cpu.gate.shouldWait || n.hits)) := rfl
    rw [left, h.step, h.hits, h.cpu]
    rfl

/-- The run ends after the next step exactly if this step stops it. -/
theorem Runs.ends_iff (h : m.Runs limit j n) {r : StepResult} (result : (m.cpu.steps j).step.2 = .ok r)
    {heard : List Report} :
    ((n.around 0).afterStep heard).runEnds limit (j + 1) r = true ↔ m.Stops limit j := by
  obtain ⟨-, running, hit, -⟩ := h.sees
  have debugger : ((n.around 0).afterStep heard).debugger = n.noted := rfl
  unfold runEnds Stops
  rw [result, debugger, hit, running]
  cases limit with
  | none => simp
  | some most => simp [or_assoc]

/-- What the next step leaves. -/
theorem Runs.moved (h : m.Runs limit j n) (free : ¬ (m.cpu.steps j).Blocks) {heard : List Report}
    (told : (n.around 0).withCpu n.cpu.step.1 = (n.around 0).afterStep heard) :
    n.act (.move 0) =
      let left := ((n.around 0).afterStep heard).ended (.run limit j) (m.cpu.steps j).step.2
      { left.1 with threads := left.2.toList, onThread := false } := by
  have ht : n.threads[0]? = some ⟨.run limit j, .ready⟩ := by rw [h.threads]; rfl
  have enters : Thread.enters ⟨.run limit j, .ready⟩ n.cpu.gate = true := by rw [h.cpu]; rfl
  have moved := act_of_enters ht enters (by rwa [h.cpu, Cpu.blocks_withGate])
  rw [told, h.step, h.threads] at moved
  rw [moved]
  simp

/-- A step that does not stop the run. -/
theorem Runs.next (h : m.Runs limit j n) (free : ¬ (m.cpu.steps j).Blocks) (goes : ¬ m.Stops limit j) :
    m.Runs limit (j + 1) (n.act (.move 0)) := by
  obtain ⟨heard, told, results, cpu⟩ := h.told
  obtain ⟨breakpoints, running, hit, before⟩ := h.sees
  have carryOn : (m.cpu.steps j).step.2 = .ok .carryOn := not_not.mp fun ends => goes (.inl ends)
  have missed : m.hitsAt j = false := Bool.eq_false_iff.mpr fun hits => goes (.inr (.inl hits))
  have on : ¬ ((n.around 0).afterStep heard).runEnds limit (j + 1) .carryOn = true :=
    goes ∘ (h.ends_iff carryOn).mp
  have moved := h.moved free told
  rw [carryOn, ended, afterResult, if_neg on] at moved
  rw [moved]
  exact {
    threads := rfl
    cpu := by rw [← missed]; exact cpu
    breakpoints := breakpoints
    before := before carryOn
    hit := Option.isNone_iff_eq_none.mp (Option.isSome_eq_false_iff.mp (hit.trans missed))
    running := running
    unlimited := h.unlimited
    results := (results_of_heard rfl).trans results }

/-- The step that stops the run. -/
theorem Runs.last (h : m.Runs limit j n) (free : ¬ (m.cpu.steps j).Blocks) (stops : m.Stops limit j) :
    m.Returned j (n.act (.move 0)) := by
  obtain ⟨heard, told, results, cpu⟩ := h.told
  obtain ⟨-, -, hit, -⟩ := h.sees
  have moved := h.moved free told
  cases result : (m.cpu.steps j).step.2 with
  | error e =>
    rw [result, ended, afterRaise] at moved
    rw [moved]
    refine ⟨rfl, cpu, hit, fun r ok => ?_, fun e' error => ?_⟩
    · rw [result] at ok
      cases ok
    · cases result.symm.trans error
      refine ⟨rfl, (results_of_heard rfl).trans ((results_hear _ (.raised e) rfl).trans ?_)⟩
      exact (List.append_nil _).trans ((results_of_heard rfl).trans results)
  | ok r =>
    rw [result, ended, afterResult, if_pos ((h.ends_iff result).mpr stops)] at moved
    rw [moved]
    refine ⟨rfl, cpu, hit, fun r' ok => ?_, fun e error => ?_⟩
    · cases result.symm.trans ok
      have heard := results_hear ((n.around 0).afterStep heard).endRun
        (resultEvent ((n.around 0).afterStep heard).endRun r) rfl
      exact (results_of_heard rfl).trans
        (heard.trans (congrArg (· ++ [r]) ((results_of_heard rfl).trans results)))
    · rw [result] at error
      cases error

/-! ## The whole run -/

/-- A run of the debugger, with a number of moves of its thread. -/
def debugRunning (limit : Option Int) (k : Nat) : List Action :=
  .debugRun limit none :: List.replicate k (.move 0)

theorem debugRunning_succ (limit : Option Int) (k : Nat) :
    debugRunning limit (k + 1) = debugRunning limit k ++ [.move 0] := by
  rw [debugRunning, List.replicate_succ', ← List.cons_append]
  rfl

theorem begun_concat (m : Machine) (as : List Action) (a : Action) :
    m.begun (as ++ [a]) = m.begun as + ((m.after as).begins a).toNat := by
  induction as generalizing m with
  | nil => exact Nat.add_comm ..
  | cons b as ih =>
    rw [List.cons_append, begun, ih, begun, Nat.add_assoc]
    rfl

/-- Where no thread is, none moves. -/
theorem Returned.rest (h : m.Returned j n) : n.act (.move 0) = n ∧ n.begins (.move 0) = false := by
  have none : n.threads[0]? = none := by
    rw [h.threads]
    rfl
  refine ⟨move_of_stopped fun t ht => ?_, ?_⟩
  · rw [none] at ht
    cases ht
  · rw [begins, none]
    rfl

/-- After a number of moves the run goes on, or has returned with the first step that stops it. -/
theorem run_cases (idle : m.threads = [])
    (free : ∀ j, (∀ i < j, ¬ m.Stops limit i) → ¬ (m.cpu.steps j).Blocks) (k : Nat) :
    let as := debugRunning limit k
    ((∀ j < k, ¬ m.Stops limit j) ∧ m.Runs limit k (m.after as) ∧ m.begun as = k) ∨
    ∃ j < k, m.Stops limit j ∧ (∀ i < j, ¬ m.Stops limit i) ∧ m.Returned j (m.after as) ∧
      m.begun as = j + 1 := by
  induction k with
  | zero => exact .inl ⟨fun j lt => absurd lt (Nat.not_lt_zero j), .start idle, rfl⟩
  | succ k ih =>
    dsimp only at ih ⊢
    rw [debugRunning_succ, after_append, begun_concat]
    rcases ih with ⟨before, runs, begun⟩ | ⟨j, lt, stops, before, returned, begun⟩
    · rw [runs.begins, begun]
      by_cases stops : m.Stops limit k
      · exact .inr ⟨k, Nat.lt_succ_self k, stops, before, runs.last (free k before) stops, rfl⟩
      · refine .inl ⟨fun j lt => ?_, runs.next (free k before) stops, rfl⟩
        rcases Nat.lt_succ_iff_lt_or_eq.mp lt with earlier | rfl
        · exact before j earlier
        · exact stops
    · obtain ⟨same, idle⟩ := returned.rest
      rw [idle, begun]
      refine .inr ⟨j, Nat.lt_succ_of_lt lt, stops, before, ?_, rfl⟩
      have same : (m.after (debugRunning limit k)).after [.move 0] = m.after (debugRunning limit k) := same
      rw [same]
      exact returned

/-- The run of the debugger, when no thread is there, whatever was hit before and whether the gate was open or
closed. No instruction up to the one that stops it has to wait for a key. The run ends exactly if a step stops
it. If so, then it has executed this step and those before it and no other, its result is that of this step,
and the gate is closed exactly if this step has hit. Nobody ever stops at the gate. On the standard machine
every step has a result. -/
theorem debugRun_returns (idle : m.threads = [])
    (free : ∀ j, (∀ i < j, ¬ m.Stops limit i) → ¬ (m.cpu.steps j).Blocks) (k : Nat) :
    let as := debugRunning limit k
    let n := m.after as
    (n.threads = [] ↔ ∃ j < k, m.Stops limit j) ∧
    (∀ j < k, m.Stops limit j → (∀ i < j, ¬ m.Stops limit i) →
      m.Returned j n ∧ m.begun as = j + 1 ∧ n.cpu.gate.shouldWait = m.hitsAt j) ∧
    ((∀ j < k, ¬ m.Stops limit j) → m.Runs limit k n ∧ m.begun as = k) ∧
    (n.isPaused = m.isPaused ∧ ∀ t ∈ n.threads, t.place ≠ .gate) ∧
    (m.cpu.Within .standard → ∀ j, ∃ r, (m.cpu.steps j).step.2 = .ok r) := by
  have standard (within : m.cpu.Within .standard) (j : Nat) : ∃ r, (m.cpu.steps j).step.2 = .ok r :=
    ((Cpu.within_law .standard).steps within j).exists_result
  intro as n
  rcases run_cases idle free k with ⟨none, runs, begun⟩ | ⟨j, lt, stops, before, returned, begun⟩
  · have threads : n.threads = [⟨.run limit k, .ready⟩] := runs.threads
    have cpu : n.cpu = _ := runs.cpu
    refine ⟨iff_of_false ?_ fun ⟨j, lt, stops⟩ => none j lt stops,
      fun j lt stops _ => absurd stops (none j lt), fun _ => ⟨runs, begun⟩, ⟨?_, ?_⟩, standard⟩
    · rw [threads]
      exact List.cons_ne_nil _ _
    · rw [isPaused, cpu]
      rfl
    · rw [threads]
      exact List.forall_mem_singleton.mpr (by simp)
  · have threads : n.threads = [] := returned.threads
    have cpu : n.cpu = _ := returned.cpu
    refine ⟨iff_of_true threads ⟨j, lt, stops⟩, fun i _ stops' before' => ?_,
      fun none => absurd stops (none j lt), ⟨?_, ?_⟩, standard⟩
    · have same : i = j := by
        rcases Nat.lt_trichotomy i j with less | same | greater
        · exact absurd stops' (before i less)
        · exact same
        · exact absurd stops (before' j greater)
      subst same
      refine ⟨returned, begun, ?_⟩
      rw [cpu]
      rfl
    · rw [isPaused, cpu]
      rfl
    · rw [threads]
      exact List.forall_mem_nil _

/-- A program of three instructions, with a breakpoint at the third one, a closed gate, and a hit that is long
past. -/
def thirdWatched : Machine :=
  let m := (default : Machine).after [.load [0x60, 0x05, 0x61, 0x06, 0x62, 0x07], .pause]
  { m with debugger := { m.debugger.add (breakpointAt 0x204) with hit := some (breakpointAt 0x200) } }

/-- The run has five steps at the most. It executes two instructions and then hits. -/
theorem returns_thirdWatched :
    let n := thirdWatched.after (debugRunning (some 5) 3)
    thirdWatched.cpu.Within .standard ∧ thirdWatched.Returned 1 n ∧ n.cpu.gate.shouldWait = true ∧
      thirdWatched.begun (debugRunning (some 5) 3) = 2 := by
  have assembled : assemble (.assemble .standard default none default Rom.standardLimit)
      standardCpuHz standardTimerHz Debugger.standardLimit = .ok default := rfl
  have within : thirdWatched.cpu.Within .standard :=
    within_after assembled [.load [0x60, 0x05, 0x61, 0x06, 0x62, 0x07], .pause]
  obtain ⟨idle, missed, hits, unblocked, unblocked', carriesOn⟩ : thirdWatched.threads = [] ∧
      thirdWatched.hitsAt 0 = false ∧ thirdWatched.hitsAt 1 = true ∧
      ¬ (thirdWatched.cpu.steps 0).Blocks ∧ ¬ (thirdWatched.cpu.steps 1).Blocks ∧
      (thirdWatched.cpu.steps 0).step.2 = .ok .carryOn := by
    decide +kernel
  have goes : ¬ thirdWatched.Stops (some 5) 0 := by
    rintro (ends | hit | ⟨most, ⟨⟩, reached⟩)
    · exact ends carriesOn
    · rw [missed] at hit
      cases hit
    · omega
  have stops : thirdWatched.Stops (some 5) 1 := .inr (.inl hits)
  have before : ∀ i < 1, ¬ thirdWatched.Stops (some 5) i := fun i lt => by
    rw [Nat.lt_one_iff.mp lt]
    exact goes
  have free (j : Nat) (early : ∀ i < j, ¬ thirdWatched.Stops (some 5) i) :
      ¬ (thirdWatched.cpu.steps j).Blocks := by
    match j with
    | 0 => exact unblocked
    | 1 => exact unblocked'
    | j + 2 => exact absurd stops (early 1 (by omega))
  obtain ⟨-, returns, -⟩ := debugRun_returns idle free 3
  obtain ⟨returned, begun, closed⟩ := returns 1 (by decide) stops before
  exact ⟨within, returned, closed.trans hits, begun⟩

end Machine

end Hexscope
