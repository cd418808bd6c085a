import Mathlib.Data.List.Chain
import Hexscope.Proofs.Instruction.Footprint
import Hexscope.Proofs.Machine.Conclude
import Hexscope.Proofs.Machine.Range

/-!
# Timers and tone

A tick asks for a tone while the sound timer runs, and for silence when it has run down. The end of a clock's
run, a stop, a reset and a load ask for silence too, and nothing else asks for anything. So each action asks
at most once (`Machine.asked?`), and the listeners are told what changes by it (`Machine.Voiced`).

* `Machine.voiced_act`: what an action asks for, and what comes of it;
* `Machine.timers_of_ticks`: a tick counts both timers down;
* `Machine.sound_act`: the sound timer changes by ticks, resets, loads and one instruction only;
* `Machine.tuned_after`: tones start and end in turn along every run;
* `Machine.tones_of_keepsTone`: the tones while a sound timer runs down;
* `Machine.tones_follow_timer`: all of it together.
-/

namespace Hexscope

/-- The tone that a notice tells, if it tells one. -/
def Notice.tone? : Notice → Option Bool
  | .tone beeping => some beeping
  | .frame _ | .snapshot _ => none

/-- The tone that an event tells, if it tells one. -/
def Event.tone? : Event → Option Bool
  | .notice n => n.tone?
  | _ => none

/-- The delay timer and the sound timer after one count. They stand at zero. -/
def Registers.counted (r : Registers) : Int × Int := (max (r.delay - 1) 0, max (r.sound - 1) 0)

theorem Registers.counted_of_timers {q r : Registers} (h : q.timers = r.timers) :
    q.counted = r.counted := by
  simp only [timers, Prod.mk.injEq] at h
  rw [counted, h.1, h.2, counted]

/-- Whether an opcode sets the sound timer. -/
def Opcode.setsSound (w : Opcode) : Bool := w.reach?.any (·.sound)

/-! ## The processor -/

namespace Cpu

variable {c d e : Cpu} {r : Outcome Fetched}

/-- Whether the speaker beeps. -/
def beeps (c : Cpu) : Bool := c.speaker.any (·.beeping)

/-- Both timers count down, and stand at zero. -/
theorem state_countDown (h : 0 ≤ c.state.delay ∧ 0 ≤ c.state.sound) : c.countDown.1.state =
    { c.state with delay := max (c.state.delay - 1) 0, sound := max (c.state.sound - 1) 0 } := by
  have down {t : Int} (ht : 0 ≤ t) : (if 0 < t then t - 1 else t) = max (t - 1) 0 := by
    split <;> omega
  simp only [countDown, down h.1, down h.2]

theorem state_tick (c : Cpu) : c.tick.1.state = c.countDown.1.state :=
  state_requestTone _ _

/-- A tick leaves everything but the timers and the speaker alone. -/
theorem exists_tick (c : Cpu) : ∃ speaker, c.tick.1 = { c.countDown.1 with speaker } := by
  simp only [tick, requestTone]
  split <;> exact ⟨_, rfl⟩

@[simp] theorem speaker_cycle (c : Cpu) : c.cycle.1.speaker = c.speaker := by
  have ends := ends_cycle c
  generalize c.cycle.1 = d, c.cycle.2 = r at ends ⊢
  cases ends <;> rfl

@[simp] theorem speaker_deliver (c : Cpu) (k : Key) : (c.deliver k).speaker = c.speaker := by
  unfold deliver
  split <;> rfl

@[simp] theorem speaker_notify (operation : Option Operation) (next : Option Opcode)
    (always : Bool) (c : Cpu) : (c.notify operation next always).1.speaker = c.speaker := by
  unfold notify snapshot takeFrame
  dsimp only
  split <;> rfl

/-- A moment is told without a tone. -/
theorem toneless_notify (operation : Option Operation) (next : Option Opcode) (always : Bool)
    (c : Cpu) : (c.notify operation next always).2.filterMap Notice.tone? = [] := by
  unfold notify takeFrame
  dsimp only
  split <;> rfl

/-- From one moment of a processor to another, its speaker was asked for a tone or for silence, or for
neither, and the change is told, if there is one. -/
structure Voices (c : Cpu) (r : Cpu × List Notice) (asked : Option Bool) : Prop where
  present : r.1.speaker.isSome = c.speaker.isSome
  beeps : c.speaker.isSome = true → r.1.beeps = asked.getD c.beeps
  tones : c.speaker.isSome = true →
    r.2.filterMap Notice.tone? = (asked.filter (· != c.beeps)).toList

variable {told more : List Notice} {asked : Option Bool} {n : Cpu × List Notice}

theorem Voices.of_speaker (speaker : n.1.speaker = c.speaker)
    (toneless : n.2.filterMap Notice.tone? = []) : c.Voices n none where
  present := by rw [speaker]
  beeps _ := by rw [Cpu.beeps, speaker, Option.getD_none, Cpu.beeps]
  tones _ := toneless

/-- What follows in silence. -/
theorem Voices.append (h : c.Voices (d, told) asked) (h' : d.Voices (e, more) none) :
    c.Voices (e, told ++ more) asked where
  present := h'.present.trans h.present
  beeps some := (h'.beeps (h.present.trans some)).trans (h.beeps some)
  tones some := by
    rw [List.filterMap_append, h.tones some, h'.tones (h.present.trans some)]
    exact List.append_nil _

/-- A change that does not concern the speaker. -/
theorem Voices.change (h : c.Voices (d, told) asked) (speaker : e.speaker = d.speaker) :
    c.Voices (e, told) asked := by
  have silent := h.append (.of_speaker (n := (e, [])) speaker rfl)
  rwa [List.append_nil] at silent

theorem voices_notify (operation : Option Operation) (next : Option Opcode) (always : Bool)
    (c : Cpu) : c.Voices (c.notify operation next always) none :=
  .of_speaker (speaker_notify operation next always c) (toneless_notify operation next always c)

theorem voices_requestTone (c : Cpu) (beeping : Bool) :
    c.Voices (c.requestTone beeping) (some beeping) := by
  unfold requestTone
  split
  · rename_i none
    exact ⟨rfl, fun some => by simp [none] at some, fun some => by simp [none] at some⟩
  · rename_i s hs
    have same : c.beeps = s.beeping := by rw [beeps, hs, Option.any_some]
    refine ⟨by rw [hs]; rfl, fun _ => Speaker.beeping_request s beeping, fun _ => ?_⟩
    rw [same]
    unfold Speaker.request
    by_cases still : s.beeping = beeping
    · rw [if_pos still, still, Option.filter_some, if_neg (by simp)]
      rfl
    · have changes : (beeping != s.beeping) = true := bne_iff_ne.mpr (Ne.symm still)
      rw [if_neg still, Option.filter_some, if_pos changes]
      rfl

theorem voices_tick (c : Cpu) : c.Voices c.tick (some (decide (0 < c.tick.1.state.sound))) := by
  rw [state_tick]
  obtain ⟨present, beeps, tones⟩ := voices_requestTone c.countDown.1 c.countDown.2
  exact ⟨present, beeps, tones⟩

/-- Blanking asks for silence, unless the memory has no room for the font. -/
theorem voices_blank (c : Cpu) : c.Voices (c.blank.1, c.blank.2.1)
    (if c.blank.2.2.isNone then some false else none) := by
  unfold blank
  rcases c.bus.clear.load 0 Font.bytes with ⟨bus, _ | e⟩
  · obtain ⟨present, beeps, tones⟩ := voices_requestTone
      { c with state := .initial, cycles := 0, fault := none, bus } false
    exact ⟨present, beeps, tones⟩
  · exact .of_speaker rfl rfl

theorem voices_reset (c : Cpu) : c.Voices (c.reset.1, c.reset.2.1)
    (if c.blank.2.2.isNone then some false else none) := by
  have blank := voices_blank c
  unfold reset
  generalize c.blank = r at blank ⊢
  obtain ⟨d, told, _ | e⟩ := r
  · exact blank.append (voices_notify none none true d)
  · exact blank

theorem voices_loadProgram {data : List UInt8}
    (fits : (Rom.checkSize c.romLimit data.length none).toBool = true) :
    c.Voices ((c.loadProgram data).1, (c.loadProgram data).2.1)
      (if c.blank.2.2.isNone then some false else none) := by
  have blank := voices_blank c
  unfold loadProgram
  cases checked : Rom.checkSize c.romLimit data.length none with
  | error e =>
    rw [checked] at fits
    cases fits
  | ok u =>
    generalize c.blank = r at blank ⊢
    obtain ⟨d, told, _ | e⟩ := r
    · have loaded (bus : Bus) : c.Voices ({ d with bus }, told) (some false) := blank.change rfl
      dsimp only
      rcases d.bus.load programStart data with ⟨bus, _ | e⟩
      · exact (loaded bus).append (voices_notify none none true { d with bus })
      · exact loaded bus
    · exact blank

/-- The sound timer stays as it is in a cycle, unless the cycle executes an instruction that sets it. -/
theorem Ends.sound (h : c.Ends d r) (unset : ∀ w ∈ r.word?, w.opcode.setsSound = false) :
    d.state.sound = c.state.sound := by
  have kept {bus : Bus} {i : Instruction} {b : Board} {t : Option Trap}
      (free : i.reach.sound = false) (he : i.effect c.keypad (c.ready bus) = (b, t)) :
      b.state.sound = c.state.sound := by
    have spares := (i.sparesTimers_effect c.keypad (c.ready bus)).sound free
    rw [he] at spares
    exact spares
  -- Who sets the sound timer is not stopped short.
  have spared {bus : Bus} {i : Instruction} {b : Board} {t : Trap}
      (he : i.effect c.keypad (c.ready bus) = (b, some t)) : i.reach.sound = false := by
    cases i with
    | setSound x => cases he
    | _ => rfl
  cases h with
  | outside | unreadable | stopped | unknown => rfl
  | faulted _ _ _ _ he | refused _ _ _ _ he => exact kept (spared he) he
  | @done bus w i b _ _ _ hi he =>
    have free := unset w rfl
    rw [Opcode.setsSound, Opcode.reach?_eq, hi, Option.map_some, Option.any_some] at free
    exact kept free he

end Cpu

/-- How a thread that moves ends the run of its clock, if it does. -/
def Thread.ending? (t : Thread) (c : Cpu) : Option StepResult :=
  if t.task.isClock && t.enters c.gate then c.cycle.2.stop? else none

namespace Machine

variable {m n l : Machine} {a : Action} {k : Nat} {t : Thread} {asked : Option Bool}
  {told : Cpu × List Notice} {ns : List Notice}

/-- The tones that the listeners were told and nobody has taken yet, oldest first. -/
def tones (m : Machine) : List Bool := m.events.filterMap Event.tone?

/-- How an action ends the run of a clock, if it does. -/
def ending? (m : Machine) : Action → Option StepResult
  | .move k => (m.threads[k]?).bind (·.ending? m.cpu)
  | _ => none

/-- Whether an action asks for silence: the run of a clock ends, a stop ends, or registers and memory are
blanked. -/
def hushes (m : Machine) : Action → Bool
  | .move k => (m.ending? (.move k)).isSome
  | .silence => true
  | .reset => m.cpu.blank.2.2.isNone
  | .load data => m.restarts (.load data) && m.cpu.blank.2.2.isNone
  | _ => false

/-- What an action asks of the speaker, if anything. -/
def asked? (m : Machine) (a : Action) : Option Bool :=
  if m.hushes a then some false
  else if m.ticks a then some (decide (0 < (m.act a).cpu.state.sound)) else none

/-- From one moment of a machine to another, its speaker was asked for a tone or for silence, or for
neither, and the change is told, if there is one. -/
structure Voiced (m n : Machine) (asked : Option Bool) : Prop where
  present : n.cpu.speaker.isSome = m.cpu.speaker.isSome
  beeps : m.cpu.speaker.isSome = true → n.cpu.beeps = asked.getD m.cpu.beeps
  tones : m.cpu.speaker.isSome = true →
    n.tones = m.tones ++ (asked.filter (· != m.cpu.beeps)).toList

/-! ## What is told -/

/-- Tones are told to one listener. -/
theorem Told.tones (h : m.Told n ns) : n.tones = m.tones ++ ns.filterMap Notice.tone? := by
  have once (ns : List Notice) : (ns.flatMap fun notice =>
      List.replicate (m.listeners (.notice notice)) (Event.notice notice)).filterMap Event.tone? =
        ns.filterMap Notice.tone? := by
    induction ns with
    | nil => rfl
    | cons notice ns ih =>
      rw [List.flatMap_cons, List.filterMap_append, ih, List.filterMap_replicate]
      cases notice <;> rfl
  rw [Machine.tones, h.events, List.filterMap_append, once, Machine.tones]

theorem tones_of_heard (h : n.heard = m.heard) : n.tones = m.tones := by
  rw [tones, events_of_heard h, tones]

theorem tones_hear {e : Event} (toneless : e.tone? = none) (m : Machine) :
    (m.hear e).tones = m.tones := by
  rw [tones, events_hear, List.filterMap_append, List.filterMap_replicate, toneless, tones]
  exact List.append_nil _

namespace Voiced

theorem of_same (speaker : n.cpu.speaker = m.cpu.speaker) (tones : n.tones = m.tones) :
    m.Voiced n none where
  present := by rw [speaker]
  beeps _ := by rw [Cpu.beeps, speaker, Option.getD_none, Cpu.beeps]
  tones _ := tones.trans (List.append_nil _).symm

/-- Neither the speaker nor what was heard has changed. -/
theorem of_heard (speaker : n.cpu.speaker = m.cpu.speaker) (heard : n.heard = m.heard) :
    m.Voiced n none :=
  .of_same speaker (tones_of_heard heard)

theorem refl (m : Machine) : m.Voiced m none := .of_heard rfl rfl

theorem after (h : m.Voiced n none) (h' : n.Voiced l asked) : m.Voiced l asked where
  present := h'.present.trans h.present
  beeps some := by
    rw [h'.beeps (h.present.trans some), h.beeps some, Option.getD_none]
  tones some := by
    rw [h'.tones (h.present.trans some), h.tones some, h.beeps some]
    exact congrArg (· ++ _) (List.append_nil _)

theorem before (h : m.Voiced n asked) (h' : n.Voiced l none) : m.Voiced l asked where
  present := h'.present.trans h.present
  beeps some := (h'.beeps (h.present.trans some)).trans (h.beeps some)
  tones some := by
    rw [h'.tones (h.present.trans some), h.tones some]
    exact List.append_nil _

theorem hear {e : Event} (h : m.Voiced n asked) (toneless : e.tone? = none) :
    m.Voiced (n.hear e) asked :=
  h.before (.of_same rfl (tones_hear toneless n))

end Voiced

theorem Told.speaker (h : m.Told n ns) : n.cpu.speaker = m.cpu.speaker := by
  obtain ⟨hit, closes, -⟩ := h.gate
  rw [ClosesAtMost] at closes
  rw [closes]

/-- What an operation of the processor asks for is asked for by a machine that carries it out. -/
theorem voiced_withCpu (h : m.cpu.Voices told asked) : m.Voiced (m.withCpu told) asked := by
  have tells := told_withCpu m told
  refine ⟨?_, fun some => ?_, fun some => ?_⟩
  · rw [tells.speaker]
    exact h.present
  · rw [Cpu.beeps, tells.speaker]
    exact h.beeps some
  · rw [tells.tones, h.tones some]
    rfl

theorem voiced_requestTone (m : Machine) (beeping : Bool) :
    m.Voiced (m.withCpu (m.cpu.requestTone beeping)) (some beeping) :=
  voiced_withCpu (Cpu.voices_requestTone m.cpu beeping)

theorem state_tick (m : Machine) : m.tick.cpu.state = m.cpu.countDown.1.state :=
  (told_withCpu m m.cpu.tick).state.trans (Cpu.state_tick m.cpu)

theorem voiced_tick (m : Machine) : m.Voiced m.tick (some (decide (0 < m.tick.cpu.state.sound))) := by
  have voices := Cpu.voices_tick m.cpu
  rw [Cpu.state_tick, ← state_tick] at voices
  exact voiced_withCpu voices

theorem voiced_finish (m : Machine) (r : StepResult) : m.Voiced (m.finish r) (some false) := by
  let ended := { m with outcome := some r, timer := false }
  have silent : m.Voiced (ended.withCpu (m.cpu.requestTone false)) (some false) :=
    Voiced.after (n := ended) (.of_heard rfl rfl) (voiced_requestTone ended false)
  have told : m.Voiced { ended.withCpu (m.cpu.requestTone false) with finished := true }
      (some false) := silent.before (.of_heard rfl rfl)
  exact told.hear (e := .finish r) rfl

/-! ## One action -/

/-- Whose task is not that of a clock leaves the speaker alone. -/
theorem voiced_afterResult_of_hand {task : Task} (hand : task.isClock = false) (r : StepResult) :
    m.Voiced (m.afterResult task r).1 none := by
  have result (n : Machine) : (n.resultEvent r).tone? = none := rfl
  cases task with
  | steps left => exact (Voiced.refl m).hear (result m)
  | run limit taken =>
    simp only [afterResult]
    split
    · exact Voiced.hear (n := m.endRun) (.of_heard rfl rfl) (result m.endRun)
    · exact .refl m
  | single armed =>
    simp only [afterResult]
    split
    · exact Voiced.hear (n := m.setPolicy true) (.of_heard rfl rfl) rfl
    · exact (Voiced.refl m).hear (result m)
  | clock live => cases hand

/-- A clock lets the timers tick when they are due. -/
theorem voiced_afterResult_of_clock {task : Task} (clock : task.isClock = true) :
    m.Voiced (m.afterResult task .carryOn).1 (if m.tickDue then
      some (decide (0 < (m.afterResult task .carryOn).1.cpu.state.sound)) else none) := by
  cases task with
  | clock live =>
    have ticks : (m.afterResult (.clock live) .carryOn).1 = m.tickIfDue := rfl
    rw [ticks]
    by_cases due : m.tickDue = true
    · rw [if_pos due, tickIfDue_of_due due]
      exact Voiced.after (n := { m with sinceTick := 0 }) (.of_heard rfl rfl) (voiced_tick _)
    · rw [if_neg due]
      obtain ⟨sinceTick, counted⟩ := tickIfDue_of_not_due (Bool.eq_false_iff.mpr due)
      rw [counted]
      exact .of_heard rfl rfl
  | steps | run | single => cases clock

theorem afterResult_of_clock {task : Task} (clock : task.isClock = true) {r : StepResult}
    (ends : r ≠ .carryOn) (m : Machine) : m.afterResult task r = (m.finish r, none) := by
  cases task with
  | clock live => rw [afterResult, if_neg ends]
  | steps | run | single => cases clock

theorem voiced_afterRaise (m : Machine) (task : Task) (e : AccessError) :
    m.Voiced (m.afterRaise task e) none := by
  cases task with
  | steps left => exact (Voiced.refl m).hear rfl
  | run limit taken =>
    exact Voiced.hear (n := { m with stopAfter := none }) (.of_heard rfl rfl) rfl
  | single armed =>
    simp only [afterRaise]
    split
    · exact Voiced.hear (n := m.setPolicy true) (.of_heard rfl rfl) rfl
    · exact (Voiced.refl m).hear rfl
  | clock live => exact .refl m

theorem Asks.speaker {d c : Cpu} {w : Fetched} {o : Operation} (h : Asks d t w o c) :
    c.speaker = d.speaker := by
  cases h with
  | begins _ _ _ => exact Cpu.speaker_cycle d
  | woken _ => rfl

theorem Ready.speaker {d c : Cpu} {w : Fetched} {o : Operation} (h : Ready d t w o c) :
    c.speaker = d.speaker := by
  cases h with
  | free _ _ _ => exact Cpu.speaker_cycle d
  | served asks _ => exact (Cpu.speaker_deliver _ _).trans asks.speaker

theorem ne_carryOn_of_stop {c : Cpu} {r : StepResult} (h : c.cycle.2.stop? = some r) :
    r ≠ .carryOn := by
  rintro rfl
  cases outcome : c.cycle.2 <;> rw [outcome] at h <;> cases h

/-- Only a cycle that has a result ends the run of a clock. -/
theorem ending?_of_stop {c : Cpu} {r : StepResult} (enters : t.enters c.gate = true)
    (stop : c.cycle.2.stop? = some r) :
    t.ending? c = if t.task.isClock then some r else none := by
  rw [Thread.ending?, enters, Bool.and_true, stop]

theorem ending?_of_unstopped {c : Cpu} (h : t.enters c.gate = true → c.cycle.2.stop? = none) :
    t.ending? c = none := by
  unfold Thread.ending?
  split
  · rename_i both
    exact h (Bool.and_eq_true_iff.mp both).2
  · rfl

theorem ending?_of_asks {d c : Cpu} {w : Fetched} {o : Operation} (h : Asks d t w o c) :
    t.ending? d = none := by
  refine ending?_of_unstopped fun enters => ?_
  cases h with
  | begins _ done _ => rw [done]; rfl
  | woken inside => rw [Thread.enters, inside] at enters; cases enters

theorem ending?_of_ready {d c : Cpu} {w : Fetched} {o : Operation} (h : Ready d t w o c) :
    t.ending? d = none := by
  cases h with
  | free _ done _ => exact ending?_of_unstopped fun _ => by rw [done]; rfl
  | served asks _ => exact ending?_of_asks asks

/-- What a move of a thread asks of the speaker, and what comes of it. -/
theorem voiced_of_proceeds {r : Machine × Option Thread} (h : Proceeds m t r) : m.Voiced r.1
    (if (t.ending? m.cpu).isSome then some false
      else if t.concludes m.cpu && m.tickDue && t.task.isClock then
        some (decide (0 < r.1.cpu.state.sound)) else none) := by
  have idle (ending : t.ending? m.cpu = none) (unready : t.concludes m.cpu = false) {n : Machine}
      (voiced : m.Voiced n none) : m.Voiced n (if (t.ending? m.cpu).isSome then some false
        else if t.concludes m.cpu && m.tickDue && t.task.isClock then
          some (decide (0 < n.cpu.state.sound)) else none) := by
    rw [ending, unready]
    exact voiced
  cases h with
  | ends ready unwanted =>
    have still : t.enters m.cpu.gate = false := by simp [Thread.enters, ready, unwanted]
    exact idle (ending?_of_unstopped fun enters => absurd (still.symm.trans enters) (by decide))
      (concludes_of_idle still (by rw [ready]; rfl)) (.refl m)
  | parks ready _ closed =>
    have still : t.enters m.cpu.gate = false := by simp [Thread.enters, ready, closed]
    exact idle (ending?_of_unstopped fun enters => absurd (still.symm.trans enters) (by decide))
      (concludes_of_idle still (by rw [ready]; rfl)) (.of_heard rfl rfl)
  | @stops result enters stop =>
    have cycled : m.Voiced { m with cpu := m.cpu.cycle.1 } none :=
      .of_heard (Cpu.speaker_cycle m.cpu) rfl
    have unfinished : m.cpu.cycle.2.word? = none := by
      cases outcome : m.cpu.cycle.2 <;> rw [outcome] at stop <;> first | rfl | cases stop
    rw [ending?_of_stop enters stop, concludes_of_unfinished enters unfinished]
    cases clock : t.task.isClock with
    | true =>
      rw [goOn, afterResult_of_clock clock (ne_carryOn_of_stop stop)]
      exact cycled.after (voiced_finish _ result)
    | false => exact cycled.after (voiced_afterResult_of_hand clock result)
  | @raises e enters raised =>
    have cycled : m.Voiced { m with cpu := m.cpu.cycle.1 } none :=
      .of_heard (Cpu.speaker_cycle m.cpu) rfl
    exact idle (ending?_of_unstopped fun _ => by rw [raised]; rfl)
      (concludes_of_unfinished enters (by rw [raised]; rfl))
      (cycled.after (voiced_afterRaise _ t.task e))
  | @reports c w o ready =>
    have told : m.Voiced (m.withCpu (c.conclude w o)) none := by
      refine voiced_withCpu (.of_speaker ?_ (Cpu.toneless_notify _ _ _ c))
      exact (Cpu.speaker_notify _ _ _ c).trans ready.speaker
    rw [ending?_of_ready ready, concludes_iff.mpr ⟨w, o, c, ready⟩]
    cases clock : t.task.isClock with
    | true =>
      have after := told.after (voiced_afterResult_of_clock clock)
      have due : (m.withCpu (c.conclude w o)).tickDue = m.tickDue :=
        (told_withCpu m (c.conclude w o)).tickDue
      rw [due] at after
      rw [Bool.true_and, Bool.and_true]
      exact after
    | false =>
      rw [Bool.and_false]
      exact told.after (voiced_afterResult_of_hand clock .carryOn)
  | @waits c w o asks up =>
    exact idle (ending?_of_asks asks) (concludes_of_up asks up) (.of_heard asks.speaker rfl)

theorem not_ending_of_stopped (h : ∀ t ∈ m.threads[k]?, t.place.isRunnable = false) :
    m.ending? (.move k) = none := by
  cases ht : m.threads[k]? with
  | none => rw [ending?, ht, Option.bind_none]
  | some t =>
    rw [ending?, ht, Option.bind_some]
    refine ending?_of_unstopped fun enters => ?_
    have runs := isRunnable_of_enters enters
    rw [h t ht] at runs
    cases runs

/-- What an action asks of the speaker, and what comes of it. -/
theorem voiced_act (m : Machine) (a : Action) : m.Voiced (m.act a) (m.asked? a) := by
  cases a with
  | move k =>
    rcases stopped_or_proceeds m k with stopped | ⟨t, r, ht, -, proceeds, moved⟩
    · have silent : m.asked? (.move k) = none := by
        simp only [asked?, hushes, not_ending_of_stopped stopped, ticks,
          not_concludes_of_stopped stopped, Option.isSome_none, Bool.false_and, Bool.false_eq_true,
          if_false]
      rw [silent, act, move_of_stopped stopped]
      exact .refl m
    · have ending : m.hushes (.move k) = (t.ending? m.cpu).isSome := by
        rw [hushes, ending?, ht, Option.bind_some]
      obtain ⟨present, beeps, tones⟩ := voiced_of_proceeds proceeds
      rw [asked?, ending, ticks_move ht, act, moved]
      exact ⟨present, beeps, tones⟩
  | start =>
    by_cases ticks : m.ticks .start = true
    · have ticked : m.Voiced m.opening.tick (some (decide (0 < m.opening.tick.cpu.state.sound))) :=
        Voiced.after (n := m.opening) (.of_heard rfl rfl) (voiced_tick m.opening)
      obtain ⟨present, beeps, tones⟩ := ticked
      rw [asked?, ticks, act, start_of_ticks ticks]
      exact ⟨present, beeps, tones⟩
    · obtain ⟨outcome, finished, clocked, same⟩ :=
        start_of_not_ticks (Bool.eq_false_iff.mpr ticks)
      rw [asked?, if_neg ticks, act, same]
      exact .of_heard rfl rfl
  | silence =>
    obtain ⟨present, beeps, tones⟩ := voiced_requestTone m false
    exact ⟨present, beeps, tones⟩
  | reset => exact voiced_withCpu (Cpu.voices_reset m.cpu)
  | load data =>
    by_cases kept : m.restarts (.load data) = true
    · have voiced : m.Voiced (m.act (.load data)) _ := voiced_withCpu (Cpu.voices_loadProgram kept)
      rw [asked?, hushes, kept]
      exact voiced
    · rw [Bool.not_eq_true] at kept
      rw [asked?, hushes, kept, load_of_not_restarts kept]
      exact .refl m
  | tick => exact voiced_tick m
  | cancel =>
    simp only [act, cancel]
    split <;> exact .of_heard rfl rfl
  | stepPaused =>
    simp only [act, stepPaused]
    split <;> exact .of_heard rfl rfl
  | step j =>
    simp only [act, step]
    split <;> exact .of_heard rfl rfl
  | debugStep =>
    simp only [act, debugStep]
    split <;> exact .of_heard rfl rfl
  | pause | resume | press | release | releaseAll | debugRun | debugResume => exact .of_heard rfl rfl

/-! ## The timers -/

/-- The processor when an action has begun an instruction, if it begins one. -/
def executing (m : Machine) (a : Action) : Cpu := if m.begins a then m.cpu.cycle.1 else m.cpu

/-- Whether an action sets the sound timer: it blanks the registers, or executes the instruction that
does. -/
def setsSound (m : Machine) (a : Action) : Bool :=
  m.restarts a || (m.executed? a).any (·.opcode.setsSound)

theorem nonneg_executing {bus : Bus} (h : m.cpu.Within bus) (a : Action) :
    0 ≤ (m.executing a).state.timers.1 ∧ 0 ≤ (m.executing a).state.timers.2 := by
  have within : (m.executing a).Within bus := by
    unfold executing
    split
    · exact (Cpu.within_law bus).cycle h
    · exact h
  exact ⟨within.inRange.delay_nonneg, within.inRange.sound_nonneg⟩

theorem timers_tick (h : 0 ≤ m.cpu.state.timers.1 ∧ 0 ≤ m.cpu.state.timers.2) :
    m.tick.cpu.state.timers = m.cpu.state.counted := by
  rw [state_tick, Cpu.state_countDown h]
  rfl

/-- A tick counts both timers down. That of a clock comes behind the instruction that the same move
executes. -/
theorem timers_of_ticks {bus : Bus} (h : m.cpu.Within bus) (ticks : m.ticks a = true) :
    (m.act a).cpu.state.timers = (m.executing a).state.counted := by
  have nonneg := nonneg_executing h a
  cases a with
  | tick => exact timers_tick nonneg
  | start =>
    have opens : m.act .start = _ := congrArg Prod.fst (start_of_ticks ticks)
    rw [opens]
    exact timers_tick (m := m.opening) nonneg
  | move k =>
    have parts : m.concludes (.move k) = true ∧ m.tickDue = true ∧
        (m.threads[k]?).any (·.task.isClock) = true := by
      simpa only [Machine.ticks, Bool.and_eq_true, and_assoc] using ticks
    obtain ⟨concludes, due, clock⟩ := parts
    obtain ⟨t, w, o, c, ht, ready⟩ := exists_ready_of_concludes concludes
    rw [ht, Option.any_some] at clock
    let moving := { m with threads := m.threads.eraseIdx k, onThread := true }
    let reported := moving.withCpu (c.conclude w o)
    have told := told_withCpu moving (c.conclude w o)
    have timers : reported.cpu.state.timers = (m.executing (.move k)).state.timers := by
      rw [told.state, executing, begins, ht, Option.any_some]
      exact (Cpu.timers_conclude c w o).trans (timers_of_ready ready)
    have ticked : (reported.afterResult t.task .carryOn).1 = { reported with sinceTick := 0 }.tick := by
      obtain ⟨task, place⟩ := t
      cases task with
      | clock live => exact tickIfDue_of_due (told.tickDue.trans due)
      | steps | run | single => cases clock
    have moved := move_eq ht (isRunnable_of_ready ready)
    rw [moveThread_of_ready (m := moving) ready, goOn, ticked] at moved
    rw [act, moved]
    refine (timers_tick (m := { reported with sinceTick := 0 }) ?_).trans
      (Registers.counted_of_timers timers)
    rw [timers]
    exact nonneg
  | _ => cases ticks

/-- The sound timer runs down with each tick. Nothing else changes it but a reset, a load, and the
instruction that sets it. -/
theorem sound_act {bus : Bus} (h : m.cpu.Within bus) (unset : m.setsSound a = false) :
    (m.act a).cpu.state.sound = max (m.cpu.state.sound - (m.ticks a).toNat) 0 := by
  simp only [setsSound, Bool.or_eq_false_iff] at unset
  obtain ⟨kept, unset⟩ := unset
  have same : (m.executing a).state.sound = m.cpu.state.sound := by
    unfold executing
    split
    · rename_i begins
      refine (Cpu.ends_cycle m.cpu).sound fun w hw => ?_
      rw [executed?, if_pos begins, Option.mem_def.mp hw, Option.any_some] at unset
      exact unset
    · rfl
  have nonneg := h.inRange.sound_nonneg
  by_cases ticks : m.ticks a = true
  · have counted := congrArg Prod.snd (timers_of_ticks h ticks)
    rw [ticks, Bool.toNat_true, ← same]
    exact counted
  · rw [Bool.not_eq_true] at ticks
    have still := congrArg Prod.snd (still_act kept ticks)
    have stands : (m.act a).cpu.state.sound = m.cpu.state.sound := still.trans same
    rw [ticks, Bool.toNat_false, stands]
    omega

/-! ## Along a run -/

/-- Tones started and ended in turn, the first one from silence, and the speaker does what was told
last. -/
structure Tuned (m : Machine) : Prop where
  present : m.cpu.speaker.isSome = true
  alternates : (false :: m.tones).IsChain (· ≠ ·)
  last : m.cpu.beeps = m.tones.getLast?.getD false

theorem Tuned.voiced (h : m.Tuned) (voiced : m.Voiced n asked) : n.Tuned := by
  have present := voiced.present.trans h.present
  have beeps := voiced.beeps h.present
  have tones := voiced.tones h.present
  by_cases changes : ∃ b, asked = some b ∧ b ≠ m.cpu.beeps
  · obtain ⟨b, rfl, other⟩ := changes
    rw [Option.filter_some, if_pos (bne_iff_ne.mpr other), Option.toList_some] at tones
    refine ⟨present, ?_, by rw [beeps, tones, List.getLast?_concat]; rfl⟩
    rw [tones, ← List.cons_append, List.isChain_append]
    refine ⟨h.alternates, List.isChain_singleton b, ?_⟩
    intro x hx y hy
    rw [List.getLast?_cons, Option.mem_some_iff] at hx
    rw [List.head?_cons, Option.mem_some_iff] at hy
    rw [← hx, ← hy, ← h.last]
    exact other.symm
  · have still : asked.filter (· != m.cpu.beeps) = none ∧ asked.getD m.cpu.beeps = m.cpu.beeps := by
      cases asked with
      | none => exact ⟨rfl, rfl⟩
      | some b =>
        have same : b = m.cpu.beeps := by
          by_contra other
          exact changes ⟨b, rfl, other⟩
        rw [same]
        simp
    rw [still.1, Option.toList_none, List.append_nil] at tones
    rw [still.2] at beeps
    exact ⟨present, by rw [tones]; exact h.alternates, by rw [beeps, tones, h.last]⟩

theorem tuned_after (h : m.Tuned) (as : List Action) : (m.after as).Tuned := by
  induction as generalizing m with
  | nil => exact h
  | cons a as ih => exact ih (h.voiced (voiced_act m a))

/-- What an action does to the timers and to the tone. -/
structure Sounds (m : Machine) (a : Action) : Prop where
  /-- A tick counts both timers down, behind the instruction that the same move executes. -/
  counts : m.ticks a = true → (m.act a).cpu.state.timers = (m.executing a).state.counted
  /-- After a tick the speaker beeps exactly if the sound timer still runs. -/
  follows : m.ticks a = true →
    ((m.act a).cpu.beeps = true ↔ 0 < (m.act a).cpu.state.sound)
  /-- The end of a clock's run, a stop, a reset and a load silence the speaker. -/
  hushed : m.hushes a = true → (m.act a).cpu.beeps = false
  /-- Nothing else starts or ends a tone. -/
  untouched : m.ticks a = false → m.hushes a = false →
    (m.act a).tones = m.tones ∧ (m.act a).cpu.beeps = m.cpu.beeps

/-- No action both ticks and asks for silence. -/
theorem not_hushes_of_ticks (ticks : m.ticks a = true) : m.hushes a = false := by
  cases a with
  | move k =>
    simp only [Machine.ticks, Bool.and_eq_true] at ticks
    obtain ⟨t, w, o, c, ht, ready⟩ := exists_ready_of_concludes ticks.1.1
    rw [hushes, Machine.ending?, ht, Option.bind_some, ending?_of_ready ready, Option.isSome_none]
  | start | tick => rfl
  | _ => cases ticks

theorem sounds_act {bus : Bus} (within : m.cpu.Within bus) (present : m.cpu.speaker.isSome = true)
    (a : Action) : m.Sounds a := by
  have voiced := voiced_act m a
  have beeps := voiced.beeps present
  have tones := voiced.tones present
  refine ⟨timers_of_ticks within, fun ticks => ?_, fun hushes => ?_, fun still quiet => ?_⟩
  · rw [asked?, not_hushes_of_ticks ticks, if_neg Bool.false_ne_true, if_pos ticks] at beeps
    rw [beeps, Option.getD_some, decide_eq_true_iff]
  · rw [asked?, if_pos hushes] at beeps
    exact beeps
  · have nothing : m.asked? a = none := by
      rw [asked?, quiet, still, if_neg Bool.false_ne_true, if_neg Bool.false_ne_true]
    rw [nothing] at beeps tones
    exact ⟨tones.trans (List.append_nil _), beeps⟩

/-- The number of ticks along a run. -/
def ticked (m : Machine) : List Action → Nat
  | [] => 0
  | a :: as => (m.ticks a).toNat + (m.act a).ticked as

/-- Whether along a run nobody sets the sound timer, and nobody asks for silence. -/
def keepsTone (m : Machine) : List Action → Bool
  | [] => true
  | a :: as => !m.setsSound a && !m.hushes a && (m.act a).keepsTone as

/-- The tones that some ticks bring about while the sound timer runs down. One starts with the first tick
if the timer still runs then, and it ends with the tick that brings the timer to zero. One that has
started before ends with that tick too, or with the first one. -/
def ringing (beeps : Bool) (sound : Int) (ticks : Nat) : List Bool :=
  (if beeps = false ∧ 1 < sound ∧ 0 < ticks then [true] else []) ++
    if (beeps = true ∨ 1 < sound) ∧ 0 < ticks ∧ sound ≤ ticks then [false] else []

theorem ringing_zero (beeps : Bool) (sound : Int) : ringing beeps sound 0 = [] := by
  simp [ringing]

/-- The first tick, and those behind it. -/
theorem ringing_succ (beeps : Bool) {sound : Int} (nonneg : 0 ≤ sound) (ticks : Nat) :
    ringing beeps sound (ticks + 1) =
      ((some (decide (1 < sound))).filter (· != beeps)).toList ++
        ringing (decide (1 < sound)) (max (sound - 1) 0) ticks := by
  have some : 0 < ticks + 1 := by omega
  by_cases long : 1 < sound
  · have left : max (sound - 1) 0 = sound - 1 := by omega
    have last : sound ≤ (ticks + 1 : Nat) ↔ 0 < ticks ∧ sound - 1 ≤ ticks := by omega
    rw [ringing, ringing, left, decide_eq_true long]
    cases beeps <;>
      simp only [long, last, some, Option.filter_some, Option.toList_some, Option.toList_none, true_and,
        and_true, or_true, true_or, or_self, if_true, if_false, Bool.true_eq_false, Bool.false_eq_true,
        false_and, List.nil_append, bne_self_eq_false, Bool.bne_false]
  · have gone : max (sound - 1) 0 = 0 ∧ sound ≤ (ticks + 1 : Nat) := by omega
    rw [ringing, ringing, gone.1, decide_eq_false long]
    cases beeps <;>
      simp only [long, gone.2, some, Option.filter_some, Option.toList_some, Option.toList_none, and_true,
        or_self, if_true, if_false, Bool.true_eq_false, Bool.false_eq_true, false_and, and_false, or_false,
        List.nil_append, List.append_nil, bne_self_eq_false, Bool.bne_true, Bool.not_false, Int.reduceLT]

/-- The tones while the sound timer runs down. -/
theorem tones_of_keepsTone {bus : Bus} (within : m.cpu.Within bus)
    (present : m.cpu.speaker.isSome = true) {as : List Action} (keeps : m.keepsTone as = true) :
    (m.after as).cpu.state.sound = max (m.cpu.state.sound - m.ticked as) 0 ∧
    (m.after as).tones = m.tones ++ ringing m.cpu.beeps m.cpu.state.sound (m.ticked as) := by
  have nonneg := within.inRange.sound_nonneg
  induction as generalizing m with
  | nil =>
    rw [ticked, ringing_zero, List.append_nil]
    refine ⟨?_, rfl⟩
    rw [after, List.foldl_nil]
    omega
  | cons a as ih =>
    simp only [keepsTone, Bool.and_eq_true, Bool.not_eq_true'] at keeps
    obtain ⟨⟨unset, quiet⟩, keeps⟩ := keeps
    have first := sound_act within unset
    have voiced := voiced_act m a
    obtain ⟨sound, tones⟩ := ih (law_act (Cpu.within_law bus) within a)
      (voiced.present.trans present) keeps (by omega)
    refine ⟨by rw [after_cons, sound, first, ticked]; omega, ?_⟩
    rw [after_cons, tones, voiced.tones present, voiced.beeps present, first, ticked, asked?, quiet,
      if_neg Bool.false_ne_true, List.append_assoc]
    congr 1
    by_cases ticks : m.ticks a = true
    · have runs : decide (0 < (m.act a).cpu.state.sound) = decide (1 < m.cpu.state.sound) := by
        rw [first, ticks, Bool.toNat_true, decide_eq_decide]
        omega
      rw [if_pos ticks, runs, ticks, Bool.toNat_true, Option.getD_some, Nat.add_comm,
        ringing_succ m.cpu.beeps nonneg]
      rfl
    · rw [Bool.not_eq_true] at ticks
      have still : max (m.cpu.state.sound - ((0 : Nat) : Int)) 0 = m.cpu.state.sound := by omega
      rw [ticks, if_neg Bool.false_ne_true, Bool.toNat_false, Nat.zero_add, still]
      rfl

/-! ## All of it -/

variable {bus : Bus} {keypad : Keypad} {volume : Binary64} {random : Random} {romLimit : Number}
  {cpuHz timerHz : Frequency} {historyLimit : Nat}

theorem present_after (present : m.cpu.speaker.isSome = true) (as : List Action) :
    (m.after as).cpu.speaker.isSome = true := by
  induction as generalizing m with
  | nil => exact present
  | cons a as ih => exact ih ((voiced_act m a).present.trans present)

/-- A stop silences the speaker, if the clocks were started. -/
theorem silent_of_stop (present : m.cpu.speaker.isSome = true) (clocked : m.clocked = true) :
    m.stop.cpu.beeps = false := by
  obtain ⟨ks, stops⟩ := stop_eq_after m clocked
  rw [stops, after_append]
  exact (voiced_act _ .silence).beeps (present_after present _)

theorem of_assemble_tone
    (assembled : assemble (.assemble bus keypad (some (.ofVolume volume)) random romLimit) cpuHz
      timerHz historyLimit = .ok m) : m.Tuned := by
  have cpu := (of_assemble assembled).1
  have heard : m.heard = [] := by
    unfold assemble at assembled
    split at assembled
    · cases assembled
    · cases assembled
      rfl
  have silent : m.tones = [] := by rw [tones, events, reports, heard]; rfl
  refine ⟨by rw [cpu]; rfl, ?_, ?_⟩
  · rw [silent]
    exact List.isChain_singleton false
  · rw [silent, Cpu.beeps, cpu]
    rfl

/-- Whatever happens to a machine with a speaker, the tones that its listeners hear start and end in turn,
the first one from silence, and the speaker does what they heard last. A tick replaces both timers by what
is left of them and nothing else in the state, and after it the speaker beeps exactly if the sound timer
still runs. After the end of a clock's run, a stop, a reset and a load the speaker is silent. No step by hand
starts or ends a tone, and nothing else does. And while the sound timer runs down, with nobody setting it and
nobody asking for silence, it rings as long as it should. -/
theorem tones_follow_timer
    (assembled : assemble (.assemble bus keypad (some (.ofVolume volume)) random romLimit) cpuHz
      timerHz historyLimit = .ok m) (as : List Action) :
    (false :: (m.after as).tones).IsChain (· ≠ ·) ∧
    (m.after as).cpu.beeps = (m.after as).tones.getLast?.getD false ∧
    (∃ speaker, ((m.after as).act .tick).cpu = { (m.after as).cpu with
      state := { (m.after as).cpu.state with
        delay := max ((m.after as).cpu.state.delay - 1) 0
        sound := max ((m.after as).cpu.state.sound - 1) 0 }
      speaker }) ∧
    (∀ a, (m.after as).Sounds a) ∧
    ((m.after as).clocked = true → (m.after as).stop.cpu.beeps = false) ∧
    (∀ k t, (m.after as).threads[k]? = some t → t.task.isClock = false →
      ((m.after as).act (.move k)).tones = (m.after as).tones) ∧
    ∀ bs, (m.after as).keepsTone bs = true →
      (m.after (as ++ bs)).cpu.state.sound =
        max ((m.after as).cpu.state.sound - (m.after as).ticked bs) 0 ∧
      (m.after (as ++ bs)).tones = (m.after as).tones ++
        ringing (m.after as).cpu.beeps (m.after as).cpu.state.sound ((m.after as).ticked bs) := by
  have within := within_after assembled as
  have tuned := tuned_after (of_assemble_tone assembled) as
  generalize hn : m.after as = n at within tuned ⊢
  refine ⟨tuned.alternates, tuned.last, ?_, sounds_act within tuned.present,
    silent_of_stop tuned.present, fun k t ht hand => ?_, fun bs keeps => ?_⟩
  · obtain ⟨speaker, ticked⟩ := Cpu.exists_tick n.cpu
    have told : (n.act .tick).cpu = n.cpu.tick.1 :=
      cpu_tellAll_of_blank { n with cpu := n.cpu.tick.1 } (by
        intro moment told
        rw [Cpu.tick, Cpu.moments_requestTone] at told
        cases told)
    refine ⟨speaker, ?_⟩
    rw [told, ticked, ← Cpu.state_countDown
      ⟨within.inRange.delay_nonneg, within.inRange.sound_nonneg⟩]
    rfl
  · have still : n.ticks (.move k) = false := by rw [ticks_move ht, hand, Bool.and_false]
    have quiet : n.hushes (.move k) = false := by
      rw [hushes, Machine.ending?, ht, Option.bind_some, Thread.ending?, hand]
      rfl
    exact ((sounds_act within tuned.present (.move k)).untouched still quiet).1
  · rw [after_append, hn]
    exact tones_of_keepsTone within tuned.present keeps

/-- A machine with a speaker. -/
def chiming : Machine :=
  { (default : Machine) with cpu := { (default : Machine).cpu with speaker := some default } }

/-- A program sets the sound timer to three. -/
def wound : List Action := [.load [0x60, 0x03, 0xF0, 0x18], .step 2, .move 0, .move 0]

/-- It rings from the first tick to the third one. -/
theorem chimes_three :
    (chiming.after (wound ++ [.tick, .tick, .tick, .tick])).tones = [true, false] := by
  have assembled : assemble (.assemble .standard default (some (.ofVolume Speaker.standardVolume))
      default Rom.standardLimit) standardCpuHz standardTimerHz Debugger.standardLimit =
      .ok chiming := rfl
  have facts : (chiming.after wound).keepsTone [.tick, .tick, .tick, .tick] = true ∧
      (chiming.after wound).ticked [.tick, .tick, .tick, .tick] = 4 ∧
      (chiming.after wound).tones = [] ∧ (chiming.after wound).cpu.beeps = false ∧
      (chiming.after wound).cpu.state.sound = 3 := by
    decide +kernel
  obtain ⟨keeps, four, nothing, silent, three⟩ := facts
  obtain ⟨-, -, -, -, -, -, runs⟩ := tones_follow_timer assembled wound
  rw [(runs _ keeps).2, nothing, silent, three, four]
  rfl

/-- A program sets the sound timer to five, and after a tick to one. -/
def rewound : List Action :=
  [.load [0x60, 0x05, 0xF0, 0x18, 0x61, 0x01, 0xF1, 0x18], .step 2, .move 0, .move 0, .tick, .step 2,
    .move 0, .move 0]

/-- A sound timer of one is heard if the speaker beeps when it is set: the next tick ends the tone. -/
theorem chimes_one : (chiming.after rewound).cpu.state.sound = 1 ∧
    (chiming.after rewound).keepsTone [.tick] = true ∧
    ((chiming.after rewound).act .tick).tones = (chiming.after rewound).tones ++ [false] := by
  decide +kernel

end Machine

end Hexscope
