import Hexscope.Proofs.Machine.Tone

/-!
# The end of a run and the last tick

The clock of instructions and that of the timers run side by side. A tick has two parts, the count under
the lock of the processor and the request to the speaker after it, and the end of a run has two parts too: it
cancels the timer clock, and then it asks for silence. `Race` is the processor with both clocks between their
parts, and a turn lets one of them do its next part. A cancelled clock still finishes the tick that it has
begun, so its request may reach the speaker after the one for silence.

* `Race.after_of_due`, `Race.after_of_stop`: with nothing in between, the parts are the tick of a machine and
  the last step of its clock;
* `Race.bound_turn`: once the run has ended, what becomes of the speaker is decided;
* `Race.beeps_iff_pending`: when both clocks have ended the speaker beeps exactly if a tick that asks for a
  tone was under way when silence was asked for.
-/

namespace Hexscope

/-- Where the clock of instructions is. -/
inductive Race.Runner where
  /-- Before an instruction. -/
  | ready
  /-- Before the report of an executed instruction, for which a key may be missing. -/
  | inside (word : Fetched) (operation : Operation)
  /-- A step had a result that ends the run. -/
  | stopped (result : StepResult)
  /-- The timer clock is cancelled, and the speaker may still beep. -/
  | cancelled (result : StepResult)
  /-- Silence was asked for. -/
  | ended (result : StepResult)
  /-- An access was refused. The run does not end by this. -/
  | crashed
deriving DecidableEq

/-- Where the timer clock is. -/
inductive Race.Ticker where
  /-- About to look whether it is cancelled. -/
  | looking
  /-- Before the count of a tick. -/
  | due
  /-- After the count, with a request for the speaker. -/
  | carrying (beeping : Bool)
  | ended
deriving DecidableEq

/-- A processor with its two clocks. -/
structure Race where
  cpu : Cpu
  runner : Race.Runner
  ticker : Race.Ticker

/-- What happens next: one of the clocks does its next part, or a key goes down or up. -/
inductive Race.Turn where
  | runner
  | ticker
  | press (k : Key)
  | release (k : Key)

namespace Race

/-- Both clocks were just started. -/
def start (c : Cpu) : Race := ⟨c, .ready, .looking⟩

/-- Whether the run has come to its end and has cancelled the timer clock. -/
def isCancelled (s : Race) : Bool :=
  match s.runner with
  | .cancelled _ | .ended _ => true
  | _ => false

/-- The clock of instructions does its next part. -/
def run (s : Race) : Race :=
  match s.runner with
  | .ready =>
    match s.cpu.cycle with
    | (cpu, .done w o) => { s with cpu, runner := .inside w o }
    | (cpu, .halted) => { s with cpu, runner := .stopped .halted }
    | (cpu, .fatal) => { s with cpu, runner := .stopped .fatal }
    | (cpu, .raised _) => { s with cpu, runner := .crashed }
  | .inside w o =>
    if s.cpu.isSuspended then
      match s.cpu.keypad.await with
      | (keypad, some k) => { s with cpu := { s.cpu with keypad }.deliver k }
      | (keypad, none) => { s with cpu := { s.cpu with keypad } }
    else { s with cpu := (s.cpu.conclude w o).1, runner := .ready }
  | .stopped r => { s with runner := .cancelled r }
  | .cancelled r => { s with cpu := (s.cpu.requestTone false).1, runner := .ended r }
  | .ended _ | .crashed => s

/-- The timer clock does its next part. -/
def tick (s : Race) : Race :=
  match s.ticker with
  | .looking => { s with ticker := if s.isCancelled then .ended else .due }
  | .due => { s with cpu := s.cpu.countDown.1, ticker := .carrying s.cpu.countDown.2 }
  | .carrying beeping => { s with cpu := (s.cpu.requestTone beeping).1, ticker := .looking }
  | .ended => s

/-- One thing happens. -/
def turn (s : Race) : Turn → Race
  | .runner => s.run
  | .ticker => s.tick
  | .press k => { s with cpu := { s.cpu with keypad := (s.cpu.keypad.press k).1 } }
  | .release k => { s with cpu := { s.cpu with keypad := s.cpu.keypad.release k } }

/-- Several things happen in order. -/
def after (s : Race) (turns : List Turn) : Race := turns.foldl turn s

/-- What the tick that is under way asks for or will ask for, if there is one. -/
def pending? (s : Race) : Option Bool :=
  match s.ticker with
  | .looking | .ended => none
  | .due => some s.cpu.countDown.2
  | .carrying beeping => some beeping

/-- Whether a tick is under way that asks for a tone. -/
def pending (s : Race) : Bool := s.pending?.getD false

/-- Whether the speaker beeps when the tick that is under way is through. -/
def bound (s : Race) : Bool := s.pending?.getD s.cpu.beeps

variable {s : Race} {m : Machine} {r : StepResult}

theorem after_append (s : Race) (first rest : List Turn) :
    s.after (first ++ rest) = (s.after first).after rest :=
  List.foldl_append

theorem after_concat (s : Race) (turns : List Turn) (a : Turn) :
    s.after (turns ++ [a]) = (s.after turns).turn a :=
  after_append s turns [a]

/-! ## The parts together -/

theorem cpu_withCpu_requestTone (m : Machine) (c : Cpu) (beeping : Bool) :
    (m.withCpu (c.requestTone beeping)).cpu = (c.requestTone beeping).1 :=
  Machine.cpu_tellAll_of_blank { m with cpu := (c.requestTone beeping).1 } (by
    intro moment told
    rw [Cpu.moments_requestTone] at told
    cases told)

/-- The parts of a tick are the tick of a machine. -/
theorem after_of_due (due : s.ticker = .due) (same : s.cpu = m.cpu) :
    s.after [.ticker, .ticker] = { s with cpu := m.tick.cpu, ticker := .looking } := by
  have ticked : m.tick.cpu = (m.cpu.countDown.1.requestTone m.cpu.countDown.2).1 :=
    cpu_withCpu_requestTone m m.cpu.countDown.1 m.cpu.countDown.2
  have counted : s.turn .ticker =
      { s with cpu := m.cpu.countDown.1, ticker := .carrying m.cpu.countDown.2 } := by
    rw [turn, tick, due, same]
  rw [after, List.foldl_cons, counted, ticked]
  rfl

/-- The parts of the last step of a run are what the thread of a machine's clock does. -/
theorem after_of_stop (ready : s.runner = .ready) (same : s.cpu = m.cpu)
    (stop : m.cpu.cycle.2.stop? = some r) (live : Bool) : s.after [.runner, .runner, .runner] =
      { s with cpu := (m.perform (.clock live)).1.cpu, runner := .ended r } := by
  have stopped : s.turn .runner = { s with cpu := m.cpu.cycle.1, runner := .stopped r } := by
    rw [turn, run, ready, same]
    generalize m.cpu.cycle = cycled at stop ⊢
    obtain ⟨c, outcome⟩ := cycled
    cases outcome <;> cases stop <;> rfl
  let cycled := { m with cpu := m.cpu.cycle.1 }
  have finished : (m.perform (.clock live)).1.cpu = (m.cpu.cycle.1.requestTone false).1 := by
    rw [Machine.perform_of_stop stop,
      Machine.afterResult_of_clock rfl (Machine.ne_carryOn_of_stop stop)]
    exact cpu_withCpu_requestTone { cycled with outcome := some r, timer := false } _ false
  rw [after, List.foldl_cons, stopped, finished]
  rfl

/-! ## The speaker -/

theorem beeps_requestTone {c : Cpu} (present : c.speaker.isSome = true) (beeping : Bool) :
    (c.requestTone beeping).1.beeps = beeping :=
  (Cpu.voices_requestTone c beeping).beeps present

theorem present_run (s : Race) : s.run.cpu.speaker.isSome = s.cpu.speaker.isSome := by
  unfold run
  split
  · have cycled := Cpu.speaker_cycle s.cpu
    split <;> rename_i outcome <;> rw [outcome] at cycled <;> exact congrArg Option.isSome cycled
  · split
    · split
      · exact congrArg Option.isSome (Cpu.speaker_deliver _ _)
      · rfl
    · rename_i w o _ _
      exact congrArg Option.isSome (Cpu.speaker_notify (some o) w.next false s.cpu)
  · rfl
  · exact (Cpu.voices_requestTone s.cpu false).present
  · rfl
  · rfl

theorem present_tick (s : Race) : s.tick.cpu.speaker.isSome = s.cpu.speaker.isSome := by
  unfold tick
  split
  · rfl
  · rfl
  · exact (Cpu.voices_requestTone s.cpu _).present
  · rfl

theorem present_turn (s : Race) (a : Turn) :
    (s.turn a).cpu.speaker.isSome = s.cpu.speaker.isSome := by
  cases a with
  | runner => exact present_run s
  | ticker => exact present_tick s
  | press k | release k => rfl

theorem present_after (s : Race) (turns : List Turn) :
    (s.after turns).cpu.speaker.isSome = s.cpu.speaker.isSome := by
  induction turns generalizing s with
  | nil => rfl
  | cons a turns ih => exact (ih (s.turn a)).trans (present_turn s a)

/-! ## After the end of the run -/

theorem runner_turn_of_ended (ended : s.runner = .ended r) (a : Turn) :
    (s.turn a).runner = .ended r := by
  cases a with
  | runner => rw [turn, run, ended]; exact ended
  | ticker => rw [turn, tick]; split <;> exact ended
  | press k | release k => exact ended

/-- Once the run has ended, the timer clock begins no tick, and nobody else asks the speaker for anything. -/
theorem bound_turn (present : s.cpu.speaker.isSome = true) (ended : s.runner = .ended r) (a : Turn) :
    (s.turn a).bound = s.bound := by
  have cancelled : s.isCancelled = true := by rw [isCancelled, ended]
  cases a with
  | runner => rw [turn, run, ended]
  | ticker =>
    cases under : s.ticker with
    | looking =>
      rw [turn, tick, under, cancelled, if_pos rfl, bound, pending?, bound, pending?, under]
    | due => rw [turn, tick, under, bound, pending?, bound, pending?, under]; rfl
    | carrying beeping =>
      have asked : (s.turn .ticker).bound = (s.cpu.requestTone beeping).1.beeps := by
        rw [turn, tick, under]; rfl
      rw [asked, beeps_requestTone present, bound, pending?, under]
      rfl
    | ended => rw [turn, tick, under]
  | press k | release k => rfl

theorem bound_after (present : s.cpu.speaker.isSome = true) (ended : s.runner = .ended r)
    (turns : List Turn) : (s.after turns).bound = s.bound := by
  induction turns generalizing s with
  | nil => rfl
  | cons a turns ih =>
    exact (ih ((present_turn s a).trans present) (runner_turn_of_ended ended a)).trans
      (bound_turn present ended a)

/-- A run ends by asking for silence. -/
theorem cancelled_of_ended {a : Turn} (ended : (s.turn a).runner = .ended r)
    (before : ∀ q, s.runner ≠ .ended q) : a = .runner ∧ s.runner = .cancelled r := by
  cases a with
  | runner =>
    refine ⟨rfl, ?_⟩
    rw [turn, run] at ended
    split at ended
    · split at ended <;> cases ended
    · rename_i inside
      split at ended
      · split at ended <;> exact absurd ended (before r)
      · cases ended
    · cases ended
    · rename_i q cancelled
      cases ended
      exact cancelled
    · rename_i q already
      exact absurd already (before q)
    · exact absurd ended (before r)
  | ticker =>
    rw [turn, tick] at ended
    split at ended <;> exact absurd ended (before r)
  | press k | release k => exact absurd ended (before r)

/-- Where a run has ended, there was a moment at which silence was asked for. -/
theorem exists_cancelled {turns : List Turn} (before : ∀ q, s.runner ≠ .ended q)
    (ended : (s.after turns).runner = .ended r) :
    ∃ first rest, turns = first ++ .runner :: rest ∧ (s.after first).runner = .cancelled r := by
  induction turns using List.reverseRecOn with
  | nil => exact absurd ended (before r)
  | append_singleton turns a ih =>
    rw [after_concat] at ended
    by_cases earlier : ∀ q, (s.after turns).runner ≠ .ended q
    · obtain ⟨rfl, cancelled⟩ := cancelled_of_ended ended earlier
      exact ⟨turns, [], rfl, cancelled⟩
    · obtain ⟨q, already⟩ := not_forall_not.mp earlier
      obtain rfl : q = r := by
        rw [runner_turn_of_ended already a] at ended
        cases ended
        rfl
      obtain ⟨first, rest, rfl, cancelled⟩ := ih already
      exact ⟨first, rest ++ [a], by rw [List.append_assoc]; rfl, cancelled⟩

theorem turn_of_cancelled (cancelled : s.runner = .cancelled r) : s.turn .runner =
    { s with cpu := (s.cpu.requestTone false).1, runner := .ended r } := by
  rw [turn, run, cancelled]

/-- When silence is asked for, only the tick that is under way can make the speaker beep again. -/
theorem bound_of_cancelled (present : s.cpu.speaker.isSome = true) (cancelled : s.runner = .cancelled r) :
    (s.turn .runner).bound = s.pending := by
  have counted : (s.cpu.requestTone false).1.countDown.2 = s.cpu.countDown.2 := by
    rw [Cpu.countDown, Cpu.state_requestTone]
    rfl
  rw [turn_of_cancelled cancelled, bound, beeps_requestTone present, pending]
  cases under : s.ticker with
  | due => simp only [pending?, under, counted]
  | looking | carrying beeping | ended => simp only [pending?, under]

/-- When both clocks have ended without a new start, the run has asked for silence at some moment, and the
speaker beeps exactly if a tick was under way at that moment that asked for a tone, be it before its
count or after it. So a machine that has finished is silent if no tick is under way when its run ends, as
when the timer clock has ended by then. -/
theorem beeps_iff_pending (c : Cpu) (turns : List Turn) {result : StepResult}
    (runner : ((start c).after turns).runner = .ended result)
    (ticker : ((start c).after turns).ticker = .ended) :
    ∃ first rest, turns = first ++ .runner :: rest ∧
      ((start c).after first).runner = .cancelled result ∧
      (((start c).after turns).cpu.beeps = true ↔
        c.speaker.isSome = true ∧ ((start c).after first).pending = true) := by
  have running : ∀ q, (start c).runner ≠ .ended q := fun _ => Runner.noConfusion
  obtain ⟨first, rest, rfl, cancelled⟩ := exists_cancelled running runner
  refine ⟨first, rest, rfl, cancelled, ?_⟩
  generalize hp : (start c).after first = p at cancelled
  have present : p.cpu.speaker.isSome = c.speaker.isSome := by
    rw [← hp]
    exact present_after (start c) first
  have later : (start c).after (first ++ .runner :: rest) = (p.turn .runner).after rest := by
    rw [after_append, hp]
    rfl
  rw [later] at ticker ⊢
  cases some : c.speaker.isSome with
  | true =>
    rw [some] at present
    have through : ((p.turn .runner).after rest).bound = p.pending := by
      have ended : (p.turn .runner).runner = .ended result := by rw [turn_of_cancelled cancelled]
      rw [bound_after ((present_turn p .runner).trans present) ended,
        bound_of_cancelled present cancelled]
    rw [bound, pending?, ticker, Option.getD_none] at through
    rw [through, eq_self, true_and]
  | false =>
    have absent : ((p.turn .runner).after rest).cpu.speaker = none := by
      rw [← Option.not_isSome_iff_eq_none, present_after, present_turn, present, some]
      exact Bool.false_ne_true
    rw [Cpu.beeps, absent]
    simp

/-- A processor with a speaker has loaded a program that sets the sound timer to five and ends. -/
def wound : Race :=
  start (Machine.chiming.act (.load [0x60, 0x05, 0xF0, 0x18, 0x00, 0x00])).cpu

/-- The program runs to its end. A tick is begun before its last instruction, and is carried out when the
speaker has been asked for silence. -/
def ringing : List Turn :=
  [.runner, .runner, .runner, .runner, .ticker, .runner, .runner, .runner, .ticker, .ticker, .ticker]

/-- Both clocks have ended then, and the speaker beeps. -/
theorem rings_wound : (wound.after ringing).runner = .ended .halted ∧
    (wound.after ringing).ticker = .ended ∧ (wound.after ringing).cpu.beeps = true := by
  decide +kernel

/-- When silence was asked for, a tick was under way that asks for a tone. -/
theorem pending_wound : ((wound.after ringing).runner = .ended .halted ∧
      (wound.after ringing).ticker = .ended) ∧
    ∃ first rest, ringing = first ++ .runner :: rest ∧
      (wound.after first).runner = .cancelled .halted ∧ (wound.after first).pending = true := by
  have runner : (wound.after ringing).runner = .ended .halted := by decide +kernel
  have ticker : (wound.after ringing).ticker = .ended := by decide +kernel
  obtain ⟨first, rest, split, cancelled, rings⟩ := beeps_iff_pending _ ringing runner ticker
  exact ⟨⟨runner, ticker⟩, first, rest, split, cancelled, (rings.mp (by decide +kernel)).2⟩

end Race

end Hexscope
