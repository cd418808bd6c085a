import Hexscope.Proofs.Machine.Range
import Hexscope.Proofs.Machine.Timed

/-!
# The life of a run

A machine with its timer clocks beside it goes through a session, in which threads move, clocks do the parts of their
ticks, and requests come from outside. What becomes of the runs along a session, `Timed.milestones` tells.

* `Timed.Ordered.act`: what an action of a session keeps, by what became of the last run;
* `Timed.Ordered.after`: what holds along a session;
* `Timed.Ordered.rests_after`: behind the end of a run the clocks do the parts of ticks that they have left, and
  unless one of these asks for a tone, the speaker is silent;
* `Timed.lifecycle_after`: runs open when they should, end at most once, and leave nothing behind but threads that wait
  for keys, and ticks that were under way.
-/

namespace Hexscope

namespace Machine

variable {m n : Machine} {a : Action} {stopping : Bool} {r : StepResult} {asked : Option Bool}

/-! ## Tone and timers after the end of a run -/

/-- A speaker that is asked for nothing goes on as it is. -/
theorem Voiced.silent (h : m.Voiced n asked) (quiet : asked.getD m.cpu.beeps = false) : n.cpu.beeps = false := by
  by_cases present : m.cpu.speaker.isSome = true
  · exact (h.beeps present).trans quiet
  · have absent : n.cpu.speaker = none := by
      rw [← Option.not_isSome_iff_eq_none, h.present]
      exact present
    rw [Cpu.beeps, absent]
    rfl

/-- A speaker that does not beep goes on so until the timers tick. -/
theorem beeps_of_not_ticks (still : m.ticks a = false)
    (silent : m.cpu.beeps = false ∨ m.hushes a = true) : (m.act a).cpu.beeps = false := by
  refine (voiced_act m a).silent ?_
  rw [asked?, still, if_neg Bool.false_ne_true]
  rcases silent with silent | hushes
  · split
    · rfl
    · exact silent
  · rw [if_pos hushes]
    rfl

theorem hushes_of_ending? (h : m.ending? a = some r) : m.hushes a = true := by
  cases a with
  | move k => rw [hushes, h, Option.isSome_some]
  | _ => cases h

/-- Without its schedule, only the opening of a run lets the timers of a machine tick. -/
theorem not_ticks_of_unscheduled (unscheduled : m.timer = false) (permits : m.permits stopping a = true)
    (h : m.milestone? a ≠ some .opened) : m.ticks a = false := by
  cases a with
  | start => exact Bool.eq_false_iff.mpr fun ticks => h (milestone?_of_start ticks)
  | tick => cases permits
  | move k => rw [ticks, tickDue, unscheduled, Bool.false_and, Bool.and_false]; rfl
  | _ => rfl

/-! ## Parts of ticks -/

/-- A part of a tick is about nothing but timers and tone. -/
theorem doPart_rests (m : Machine) (p : TickPart) : (m.doPart p).threads = m.threads ∧
    (m.doPart p).course = m.course ∧ m.cpu.Rests (m.doPart p).cpu := by
  cases p with
  | count => exact ⟨rfl, rfl, Cpu.rests_countDown m.cpu⟩
  | ask beeping =>
    let n : Machine := { m with onThread := true }
    have told := told_withCpu n (m.cpu.requestTone beeping)
    exact ⟨told.threads, told.course, (says_requestTone n beeping).quiet.rests⟩

/-- Only a request for a tone makes a silent speaker beep. -/
theorem beeps_doPart {p : TickPart} (silent : m.cpu.beeps = false) (toneless : p ≠ .ask true) :
    (m.doPart p).cpu.beeps = false := by
  cases p with
  | count => exact silent
  | ask beeping =>
    cases beeping with
    | true => exact absurd rfl toneless
    | false => exact (voiced_requestTone { m with onThread := true } false).silent rfl

end Machine

namespace Timed

variable {s s' : Timed} {a : Timed.Action} {as bs : List Timed.Action} {stopping : Bool}
  {last : Option Milestone} {k : Nat} {r : StepResult}

/-- What holds between the actions of a session, by what became of the last run. -/
structure Ordered (s : Timed) (stopping : Bool) (last : Option Milestone) : Prop
    extends s.machine.Staffed stopping where
  periods : s.machine.course.HasPeriods
  within : s.machine.cpu.Within .standard
  unscheduled : s.machine.timer = false
  /-- Only a thread of an open run may begin an instruction. -/
  owned : 0 < s.machine.threads.countP Thread.isActive → last = some .opened
  outcome : s.machine.outcome = last.bind Milestone.result?
  former : ∀ c ∈ s.clocks.tail, c.cancelled = true
  /-- The clock of the last run is cancelled too if nobody wants the run's thread any more. -/
  deserted : s.machine.threads.any Thread.isLiveClock = false → ∀ c ∈ s.clocks, c.cancelled = true

/-! ## Clocks -/

/-- A part of a tick leaves it to the others to cancel clocks. -/
theorem mem_modify_turn {cs : List TimerClock} {i : Nat} {cpu : Cpu} {c : TimerClock}
    (h : c ∈ cs.modify i (·.turn cpu)) : ∃ d ∈ cs, c.cancelled = d.cancelled := by
  obtain ⟨j, here⟩ := List.mem_iff_getElem?.mp h
  rw [List.getElem?_modify] at here
  obtain ⟨d, hd, same⟩ := Option.map_eq_some_iff.mp here
  refine ⟨d, List.mem_of_getElem? hd, ?_⟩
  rw [← same]
  split
  · exact TimerClock.cancelled_turn d cpu
  · rfl

theorem mem_tail_modify_turn {cs : List TimerClock} {i : Nat} {cpu : Cpu} {c : TimerClock}
    (h : c ∈ (cs.modify i (·.turn cpu)).tail) : ∃ d ∈ cs.tail, c.cancelled = d.cancelled := by
  cases cs with
  | nil => cases i <;> cases h
  | cons d cs =>
    cases i with
    | zero => exact ⟨c, h, rfl⟩
    | succ i => exact mem_modify_turn h

theorem mem_modifyHead_cancel {cs : List TimerClock} {c : TimerClock} (former : ∀ c ∈ cs.tail, c.cancelled = true)
    (h : c ∈ cs.modifyHead TimerClock.cancel) : c.cancelled = true := by
  cases cs with
  | nil => cases h
  | cons d cs =>
    rcases List.mem_cons.mp h with rfl | h
    · rfl
    · exact former c h

/-- Cancelled clocks do the parts that they have left. -/
theorem left_modify {cs : List TimerClock} (cancelled : ∀ c ∈ cs, c.cancelled = true) (i : Nat) (cpu : Cpu) :
    (cs[i]?.bind TimerClock.part?).toList.length + ((cs.modify i (·.turn cpu)).map TimerClock.left).sum =
      (cs.map TimerClock.left).sum := by
  induction cs generalizing i with
  | nil => cases i <;> rfl
  | cons c cs ih =>
    have first := TimerClock.left_turn (cancelled c List.mem_cons_self) cpu
    cases i with
    | zero =>
      rw [List.getElem?_cons_zero, Option.bind_some, List.modify_zero_cons, List.map_cons, List.sum_cons, List.map_cons,
        List.sum_cons]
      omega
    | succ i =>
      have rest := ih (fun d hd => cancelled d (List.mem_cons_of_mem c hd)) i
      rw [List.getElem?_cons_succ, List.modify_succ_cons, List.map_cons, List.sum_cons, List.map_cons, List.sum_cons]
      omega

theorem left_modifyHead_cancel (cs : List TimerClock) :
    ((cs.modifyHead TimerClock.cancel).map TimerClock.left).sum = (cs.map TimerClock.left).sum := by
  cases cs <;> rfl

/-! ## One action -/

theorem Ordered.within_act (h : s.Ordered stopping last) (a : Machine.Action) :
    (s.machine.act a).cpu.Within .standard :=
  Machine.law_act (Cpu.within_law .standard) h.within a

/-- Nothing is heard of runs. -/
theorem Ordered.keep (h : s.Ordered stopping last) (keeps : s.machine.Keeps s'.machine)
    (course : s'.machine.course = s.machine.course) (within : s'.machine.cpu.Within .standard)
    (former : ∀ c ∈ s'.clocks.tail, c.cancelled = true)
    (deserted : s'.machine.threads.any Thread.isLiveClock = false → ∀ c ∈ s'.clocks, c.cancelled = true) :
    s'.Ordered stopping last where
  toStaffed := h.toStaffed.keep keeps (congrArg Course.clocked course)
  periods := course ▸ h.periods
  within := within
  unscheduled := (congrArg Course.timer course).trans h.unscheduled
  owned active := h.owned (active.trans_le keeps.count)
  outcome := (congrArg Course.outcome course).trans h.outcome
  former := former
  deserted := deserted

theorem Ordered.tick (h : s.Ordered stopping last) (i : Nat) : (s.act (.tick i)).Ordered stopping last := by
  have same : (s.act (.tick i)).machine.threads = s.machine.threads ∧
      (s.act (.tick i)).machine.course = s.machine.course ∧ (s.act (.tick i)).machine.cpu.Within .standard := by
    rw [act]
    cases s.part? (.tick i) with
    | none => exact ⟨rfl, rfl, h.within⟩
    | some p =>
      obtain ⟨threads, course, rests⟩ := s.machine.doPart_rests p
      exact ⟨threads, course, (Cpu.within_law .standard).rests rests h.within⟩
  obtain ⟨threads, course, within⟩ := same
  refine h.keep (.of_threads threads) course within (fun c hc => ?_) fun dead c hc => ?_
  · obtain ⟨d, hd, same⟩ := mem_tail_modify_turn hc
    exact same.trans (h.former d hd)
  · obtain ⟨d, hd, same⟩ := mem_modify_turn hc
    rw [threads] at dead
    exact same.trans (h.deserted dead d hd)

theorem Ordered.move (h : s.Ordered stopping last) (k : Nat) :
    (s.act (.act (.move k))).Ordered stopping ((s.milestone? (.act (.move k))).or last) := by
  have keeps := Machine.keeps_move h.clocks k
  have course := Machine.course_move s.machine k
  have within := h.within_act (.move k)
  have reached : s.act (.act (.move k)) = ⟨s.machine.move k,
      if (s.machine.ending? (.move k)).isSome then s.clocks.modifyHead TimerClock.cancel else s.clocks⟩ := rfl
  cases ending : s.machine.ending? (.move k) with
  | none =>
    have nothing : s.milestone? (.act (.move k)) = none := congrArg (Option.map _) ending
    rw [ending] at course
    rw [nothing, Option.none_or, reached, ending]
    refine h.keep keeps course within h.former fun dead => h.deserted ?_
    exact Bool.eq_false_iff.mpr fun live => by
      rw [Machine.live_move h.within.staysInside.noRaise ending live] at dead
      cases dead
  | some r =>
    have milestone : s.milestone? (.act (.move k)) = some (.ended r) := congrArg (Option.map _) ending
    have counted := Machine.countP_of_ending? h.clocks ending
    have alone := h.alone
    have none : (s.machine.move k).threads.countP Thread.isActive = 0 := by omega
    have cancelled : ∀ c ∈ s.clocks.modifyHead TimerClock.cancel, c.cancelled = true :=
      fun c hc => mem_modifyHead_cancel h.former hc
    rw [ending] at course
    rw [milestone, Option.some_or, reached, ending]
    exact {
      toStaffed := h.toStaffed.keep keeps (congrArg Course.clocked course)
      periods := course ▸ h.periods
      within := within
      unscheduled := congrArg Course.timer course
      owned := fun active => absurd none (Nat.ne_of_gt active)
      outcome := congrArg Course.outcome course
      former := fun c hc => cancelled c (List.mem_of_mem_tail hc)
      deserted := fun _ => cancelled }

theorem Ordered.start (h : s.Ordered false last) :
    (s.act (.act .start)).Ordered false ((s.milestone? (.act .start)).or last) := by
  cases running : s.machine.isRunning with
  | true =>
    have still : s.machine.ticks .start = false := by
      rw [Machine.ticks, running]
      rfl
    have nothing : s.milestone? (.act .start) = none := by
      rw [milestone?, Machine.milestone?, still]
      rfl
    rw [nothing, Option.none_or, act_start_of_not_ticks still, Machine.start_of_isRunning running]
    exact h
  | false =>
    have ticks := Machine.ticks_start_of_periods h.periods running
    obtain ⟨dead, -⟩ := h.countP_of_idle running
    have milestone : s.milestone? (.act .start) = some .opened := Machine.milestone?_of_start ticks
    rw [milestone, Option.some_or, act_start_of_ticks ticks]
    exact {
      toStaffed := h.toStaffed.opened running
      periods := h.periods
      within := h.within
      unscheduled := h.unscheduled
      owned := fun _ => rfl
      outcome := rfl
      former := h.deserted dead
      deserted := fun dead => by
        have live : s.machine.opened.threads.any Thread.isLiveClock = true := by
          rw [Machine.opened, Machine.spawn, List.any_append]
          exact Bool.or_true _
        exact absurd (dead.symm.trans live) Bool.false_ne_true }

/-- Who cancels the clocks wants none of their threads any more. -/
theorem Ordered.cancel (h : s.Ordered stopping last) (clocked : s.machine.clocked = true) :
    (s.act (.act .cancel)).Ordered true last := by
  obtain ⟨staffed, fewer⟩ := h.toStaffed.cancel clocked
  have reached : s.act (.act .cancel) = ⟨s.machine.cancel,
      if s.machine.clocked then s.clocks.modifyHead TimerClock.cancel else s.clocks⟩ := rfl
  have machine : s.machine.cancel = (({ s.machine with
      timer := false, threads := s.machine.threads.map Thread.cancel } : Machine).setPolicy false).openGate := by
    rw [Machine.cancel, if_pos clocked]
  have cancelled : ∀ c ∈ s.clocks.modifyHead TimerClock.cancel, c.cancelled = true :=
    fun c hc => mem_modifyHead_cancel h.former hc
  have course : s.machine.cancel.course = { s.machine.course with timer := false } := by rw [machine]; rfl
  rw [reached, if_pos clocked]
  exact {
    toStaffed := staffed
    periods := by rw [course]; exact h.periods
    within := h.within_act .cancel
    unscheduled := congrArg Course.timer course
    owned := fun active => h.owned (active.trans_le fewer)
    outcome := (congrArg Course.outcome course).trans h.outcome
    former := fun c hc => cancelled c (List.mem_of_mem_tail hc)
    deserted := fun _ => cancelled }

/-- When all threads have gone or wait for keys, a stop ends. -/
theorem Ordered.silence (h : s.Ordered true last)
    (inside : s.machine.threads.all (·.place.inside?.isSome) = true) :
    (s.act (.act .silence)).Ordered false last := by
  have reached : s.act (.act .silence) = ⟨s.machine.silence, s.clocks⟩ := rfl
  have told := Machine.told_withCpu s.machine (s.machine.cpu.requestTone false)
  have threads : s.machine.silence.threads = s.machine.threads := told.threads
  have course : s.machine.silence.course = { s.machine.course with clocked := false } :=
    congrArg (fun c : Course => { c with clocked := false }) told.course
  have dead : s.machine.threads.any Thread.isLiveClock = false :=
    List.any_eq_false.mpr fun t ht => Bool.eq_false_iff.mp (h.unwanted rfl t ht)
  rw [reached]
  exact {
    toStaffed := h.toStaffed.silence inside
    periods := by rw [course]; exact h.periods
    within := h.within_act .silence
    unscheduled := (congrArg Course.timer course).trans h.unscheduled
    owned := fun active => h.owned (threads ▸ active)
    outcome := (congrArg Course.outcome course).trans h.outcome
    former := h.former
    deserted := fun _ => h.deserted dead }

theorem Ordered.pass {a : Machine.Action} (h : s.Ordered stopping last) (passes : a.passes = true)
    (permits : s.machine.permits stopping a = true) : (s.act (.act a)).Ordered (a.stops stopping)
      ((s.milestone? (.act a)).or last) := by
  obtain ⟨reached, -, idle⟩ := act_of_passes passes s
  have nothing : s.milestone? (.act a) = none := by
    cases a with
    | move | start => cases passes
    | _ => rfl
  rw [reached, idle, nothing, Option.none_or]
  refine h.keep (Machine.keeps_of_passes passes permits) (Machine.course_of_passes passes) (h.within_act a) h.former
    fun dead => h.deserted ?_
  exact (Machine.live_of_passes passes permits).symm.trans dead

/-- One action of a session. -/
theorem Ordered.act (h : s.Ordered stopping last) (permits : s.permits stopping a = true) :
    (s.act a).Ordered (a.stops stopping) ((s.milestone? a).or last) := by
  cases a with
  | tick i => exact h.tick i
  | act a =>
    cases a with
    | move k => exact h.move k
    | start =>
      have idle : stopping = false := by simpa [Timed.permits, Machine.permits] using permits
      subst idle
      exact h.start
    | cancel => exact h.cancel permits
    | silence =>
      obtain ⟨permits, -⟩ := Bool.and_eq_true_iff.mp permits
      obtain ⟨stops, inside⟩ := Bool.and_eq_true_iff.mp permits
      subst stops
      exact h.silence inside
    | _ => exact h.pass rfl permits

/-! ## Along a session -/

theorem Ordered.after (h : s.Ordered stopping last) (session : s.isSession stopping as = true) :
    (s.after as).Ordered (stoppingAfter stopping as) ((s.milestones as).getLast?.or last) := by
  induction as generalizing s stopping last with
  | nil => exact h
  | cons a as ih =>
    obtain ⟨permits, rest⟩ := Bool.and_eq_true_iff.mp session
    have later := ih (h.act permits) rest
    have last : (s.milestones (a :: as)).getLast?.or last =
        ((s.act a).milestones as).getLast?.or ((s.milestone? a).or last) := by
      rw [milestones, List.getLast?_append, Option.or_assoc]
      cases s.milestone? a <;> rfl
    rw [last]
    exact later

/-- What the listeners hear of runs is how they ended. -/
theorem finishes_act (s : Timed) (a : Timed.Action) : (s.act a).machine.finishes =
    s.machine.finishes ++ (s.milestone? a).toList.filterMap Milestone.result? := by
  have same {m : Machine} (h : m.course = s.machine.course) : m.finishes = s.machine.finishes ++ [] :=
    (congrArg Course.finishes h).trans (List.append_nil _).symm
  cases a with
  | tick i =>
    refine same ?_
    rw [act]
    cases s.part? (.tick i) with
    | none => rfl
    | some p => exact (s.machine.doPart_rests p).2.1
  | act a =>
    cases a with
    | move k =>
      have course := Machine.course_move s.machine k
      rw [milestone?, Machine.milestone?]
      cases ending : s.machine.ending? (.move k) with
      | none => rw [ending] at course; exact same course
      | some r => rw [ending] at course; exact congrArg Course.finishes course
    | start =>
      cases ticks : s.machine.ticks .start with
      | true =>
        rw [milestone?, Machine.milestone?_of_start ticks, act_start_of_ticks ticks]
        exact (List.append_nil _).symm
      | false =>
        obtain ⟨outcome, finished, clocked, stands⟩ := Machine.start_of_not_ticks ticks
        rw [milestone?, Machine.milestone?, ticks, act_start_of_not_ticks ticks, stands]
        exact (List.append_nil _).symm
    | cancel =>
      have cancels : s.machine.cancel.finishes = s.machine.finishes := by
        rw [Machine.cancel]
        split <;> rfl
      exact cancels.trans (List.append_nil _).symm
    | silence => exact (congrArg Course.finishes (Machine.course_withCpu s.machine _)).trans (List.append_nil _).symm
    | _ => exact same (Machine.course_of_passes rfl)

theorem finishes_after (s : Timed) (as : List Timed.Action) : (s.after as).machine.finishes =
    s.machine.finishes ++ (s.milestones as).filterMap Milestone.result? := by
  induction as generalizing s with
  | nil => exact (List.append_nil _).symm
  | cons a as ih =>
    rw [after_cons, ih, finishes_act, milestones, List.filterMap_append, List.append_assoc]

/-! ## Behind the end of a run -/

/-- What is true of some actions behind the end of a run. -/
structure Rests (s : Timed) (as : List Timed.Action) : Prop where
  stands : (s.after as).machine.isRunning = false
  /-- No clock begins a tick. -/
  cancelled : ∀ c ∈ (s.after as).clocks, c.cancelled = true
  /-- The parts that are done were left at the beginning. -/
  parts : (s.parts as).length + (s.after as).left = s.left
  silent : .ask true ∉ s.parts as → (s.after as).machine.cpu.beeps = false

/-- A machine without an open run stands, and its clocks are cancelled. -/
theorem Ordered.stands (h : s.Ordered stopping last) (closed : last ≠ some .opened) :
    s.machine.isRunning = false ∧ ∀ c ∈ s.clocks, c.cancelled = true := by
  have dead : s.machine.threads.any Thread.isLiveClock = false := by
    refine Bool.eq_false_iff.mpr fun live => closed (h.owned ?_)
    obtain ⟨t, ht, live⟩ := List.any_eq_true.mp live
    refine List.countP_pos_iff.mpr ⟨t, ht, ?_⟩
    rw [Thread.isActive, live, Bool.true_or]
  exact ⟨by rw [Machine.isRunning, dead, Bool.and_false], h.deserted dead⟩

/-- As long as no run is opened, a machine acts as it does by itself. -/
theorem machine_act {a : Machine.Action} (unopened : s.milestone? (.act a) ≠ some .opened) :
    (s.act (.act a)).machine = s.machine.act a := by
  cases a with
  | start =>
    have still : s.machine.ticks .start = false :=
      Bool.eq_false_iff.mpr fun ticks => unopened (Machine.milestone?_of_start ticks)
    rw [act_start_of_not_ticks still]
    rfl
  | _ => rfl

theorem Ordered.left_act (h : s.Ordered stopping last) (closed : last ≠ some .opened)
    (unopened : s.milestone? a ≠ some .opened) : (s.part? a).toList.length + (s.act a).left = s.left := by
  cases a with
  | tick i => exact left_modify (h.stands closed).2 i s.machine.cpu
  | act a =>
    have same : (s.act (.act a)).left = s.left := by
      cases a with
      | start =>
        have still : s.machine.ticks .start = false :=
          Bool.eq_false_iff.mpr fun ticks => unopened (Machine.milestone?_of_start ticks)
        rw [act_start_of_not_ticks still]
        rfl
      | move k =>
        cases ending : s.machine.cancelsTimer (.move k) with
        | true => rw [left, Timed.act, ending, if_pos rfl, left_modifyHead_cancel, left]; rintro ⟨⟩
        | false => rw [left, Timed.act, ending, if_neg Bool.false_ne_true, left]; rintro ⟨⟩
      | cancel =>
        cases clocked : s.machine.cancelsTimer .cancel with
        | true => rw [left, Timed.act, clocked, if_pos rfl, left_modifyHead_cancel, left]; rintro ⟨⟩
        | false => rw [left, Timed.act, clocked, if_neg Bool.false_ne_true, left]; rintro ⟨⟩
      | _ => rfl
    exact (Nat.zero_add _).trans same

theorem Ordered.silent_act (h : s.Ordered stopping last) (permits : s.permits stopping a = true)
    (unopened : s.milestone? a ≠ some .opened) (toneless : s.part? a ≠ some (.ask true))
    (silent : s.machine.cpu.beeps = false) : (s.act a).machine.cpu.beeps = false := by
  cases a with
  | tick i =>
    rw [Timed.act]
    cases part : s.part? (.tick i) with
    | none => exact silent
    | some p => exact Machine.beeps_doPart silent fun asks => toneless (part.trans (congrArg some asks))
  | act a =>
    have permitted : s.machine.permits stopping a = true := by
      cases a with
      | silence => exact (Bool.and_eq_true_iff.mp permits).1
      | _ => exact permits
    rw [machine_act unopened]
    exact Machine.beeps_of_not_ticks (Machine.not_ticks_of_unscheduled h.unscheduled permitted unopened) (.inl silent)

theorem closed_of_unopened {past : List Milestone} (closed : last ≠ some .opened) (unopened : .opened ∉ past) :
    past.getLast?.or last ≠ some .opened := by
  cases milestone : past.getLast? with
  | none => exact closed
  | some x =>
    intro same
    cases same
    exact unopened (List.mem_of_getLast? milestone)

theorem Ordered.parts_after (h : s.Ordered stopping last) (closed : last ≠ some .opened)
    (session : s.isSession stopping as = true) (unopened : .opened ∉ s.milestones as) :
    (s.parts as).length + (s.after as).left = s.left := by
  induction as generalizing s stopping last with
  | nil => exact Nat.zero_add _
  | cons a as ih =>
    obtain ⟨permits, session⟩ := Bool.and_eq_true_iff.mp session
    rw [milestones, List.mem_append, not_or] at unopened
    have closed' : (s.milestone? a).or last ≠ some .opened := by
      have closed' := closed_of_unopened closed unopened.1
      have same (x : Option Milestone) : x.toList.getLast? = x := by cases x <;> rfl
      rwa [same] at closed'
    have first := h.left_act closed fun opened => unopened.1 (Option.mem_toList.mpr opened)
    have rest := ih (h.act permits) closed' session unopened.2
    rw [parts, List.length_append, after_cons]
    omega

theorem Ordered.silent_after (h : s.Ordered stopping last) (silent : s.machine.cpu.beeps = false)
    (session : s.isSession stopping as = true) (unopened : .opened ∉ s.milestones as)
    (toneless : .ask true ∉ s.parts as) : (s.after as).machine.cpu.beeps = false := by
  induction as generalizing s stopping last with
  | nil => exact silent
  | cons a as ih =>
    obtain ⟨permits, session⟩ := Bool.and_eq_true_iff.mp session
    rw [milestones, List.mem_append, Option.mem_toList, not_or] at unopened
    rw [parts, List.mem_append, Option.mem_toList, not_or] at toneless
    exact ih (h.act permits) (h.silent_act permits unopened.1 toneless.1 silent) session unopened.2 toneless.2

/-- As long as no run is opened behind the end of one, the cancelled clocks do the parts that they have left, and the
speaker is silent unless one of them asks for a tone. -/
theorem Ordered.rests_after (h : s.Ordered stopping last) (closed : last ≠ some .opened)
    (silent : s.machine.cpu.beeps = false) (session : s.isSession stopping as = true)
    (unopened : .opened ∉ s.milestones as) : s.Rests as := by
  obtain ⟨stands, cancelled⟩ := (h.after session).stands (closed_of_unopened closed unopened)
  exact ⟨stands, cancelled, h.parts_after closed session unopened, h.silent_after silent session unopened⟩

/-- The end of a run asks for silence. -/
theorem Ordered.silent_of_ended (h : s.Ordered stopping last) (permits : s.permits stopping a = true)
    (ended : s.milestone? a = some (.ended r)) : (s.act a).machine.cpu.beeps = false := by
  cases a with
  | tick i => cases ended
  | act a =>
    have unopened : s.milestone? (.act a) ≠ some .opened := by
      rw [ended]
      nofun
    have ending := Machine.ending?_of_milestone? ended
    have permitted : s.machine.permits stopping a = true := by
      cases a with
      | silence => cases ended
      | _ => exact permits
    rw [machine_act unopened]
    exact Machine.beeps_of_not_ticks (Machine.not_ticks_of_unscheduled h.unscheduled permitted unopened)
      (.inr (Machine.hushes_of_ending? ending))

/-! ## The life of a run -/

/-- What is true of a machine and its clocks after a session, by what became of the runs. -/
structure Lifecycle (s : Timed) (stopping : Bool) (past : List Milestone) : Prop where
  /-- The listeners heard how every run ended that has ended, each once, in order. -/
  finishes : s.machine.finishes = past.filterMap Milestone.result?
  /-- The result is that of the last run when it has ended, and none while the run is open. -/
  outcome : s.machine.outcome = past.getLast?.bind Milestone.result?
  /-- A run ends with the instruction of a clock's thread that halts or fails, and with nothing else. -/
  ends : ∀ a r, s.milestone? a = some (.ended r) ↔ ∃ k t, a = .act (.move k) ∧
    s.machine.threads[k]? = some t ∧ t.task.isClock = true ∧ t.enters s.machine.cpu.gate = true ∧
    s.machine.cpu.cycle.2.stop? = some r
  /-- This thread is the only one that may begin an instruction, and the run is open. So a run ends at
  most once. -/
  open_of_ends : ∀ a r, s.milestone? a = some (.ended r) → past.getLast? = some .opened ∧
    (s.act a).machine.threads.countP Thread.isActive = 0
  /-- Who starts a machine that stands opens a run, with one thread that its clock wants, and a timer clock of its
  own. -/
  opens : stopping = false → s.machine.isRunning = false → s.milestone? (.act .start) = some .opened ∧
    s.machine.start.2 = none ∧ (s.act (.act .start)).machine.isRunning = true ∧
    (s.act (.act .start)).machine.threads = s.machine.threads ++ [⟨.clock true, .ready⟩] ∧
    (s.act (.act .start)).clocks = .fresh :: s.clocks
  /-- Who starts one that runs does nothing. -/
  runs : s.machine.isRunning = true → s.act (.act .start) = s ∧ past.getLast? = some .opened
  /-- When the last run has ended the machine stands, and the timer clocks are cancelled. -/
  stands : ∀ r, past.getLast? = some (.ended r) →
    s.machine.isRunning = false ∧ ∀ c ∈ s.clocks, c.cancelled = true
  /-- From the end of a run on until one is opened, the clocks do the parts that are left of the ticks under way at the
  end, and begin no tick. Unless one of these parts asks for a tone, the speaker is silent. -/
  rests : ∀ a r bs, s.permits stopping a = true → s.milestone? a = some (.ended r) →
    (s.act a).isSession (a.stops stopping) bs = true → .opened ∉ (s.act a).milestones bs → (s.act a).Rests bs
  /-- Outside of a stop, a thread that its clock does not want was left by one, and waits for a key. -/
  left : stopping = false → ∀ t ∈ s.machine.threads, t.isLiveClock = true ∨ t.isActive = false
  /-- Such a thread begins no instruction and ends no run, and nothing else comes of it. -/
  leftovers : ∀ k t, s.machine.threads[k]? = some t → t.isActive = false →
    s.machine.begins (.move k) = false ∧ s.milestone? (.act (.move k)) = none ∧
    ∃ u : Option Thread, (∀ v ∈ u, v.isActive = false) ∧ (s.act (.act (.move k))).machine.threads =
      s.machine.threads.take k ++ u.toList ++ s.machine.threads.drop (k + 1)
  /-- At most one thread may begin an instruction. -/
  alone : s.machine.threads.countP Thread.isActive ≤ 1
  /-- What is asked of a machine that goes by its schedule is part of the session, if all threads then settle. -/
  requests : ∀ m, s.Shadows false m → stopping = false → m.threads.length ≤ Machine.patience →
    ∀ q, s.LeadsTo false false (m.request q).settle

theorem milestone?_eq_ended : s.milestone? a = some (.ended r) ↔
    ∃ k t, a = .act (.move k) ∧ s.machine.threads[k]? = some t ∧ t.task.isClock = true ∧
      t.enters s.machine.cpu.gate = true ∧ s.machine.cpu.cycle.2.stop? = some r := by
  cases a with
  | tick i => exact ⟨nofun, nofun⟩
  | act a =>
    refine Machine.milestone?_eq_ended.trans ⟨?_, ?_⟩
    · rintro ⟨k, t, rfl, rest⟩
      exact ⟨k, t, rfl, rest⟩
    · rintro ⟨k, t, same, rest⟩
      cases same
      exact ⟨k, t, rfl, rest⟩

theorem Ordered.lifecycle {past : List Milestone} (h : s.Ordered stopping past.getLast?)
    (finishes : s.machine.finishes = past.filterMap Milestone.result?) : s.Lifecycle stopping past where
  finishes := finishes
  outcome := h.outcome
  ends _ _ := milestone?_eq_ended
  open_of_ends a r ended := by
    obtain ⟨k, t, rfl, -⟩ := milestone?_eq_ended.mp ended
    have counted := Machine.countP_of_ending? h.clocks (Machine.ending?_of_milestone? ended)
    have alone := h.alone
    have reached : (s.act (.act (.move k))).machine = s.machine.move k := rfl
    refine ⟨h.owned (by omega), ?_⟩
    rw [reached]
    omega
  opens idle stands := by
    subst idle
    have ticks := Machine.ticks_start_of_periods h.periods stands
    refine ⟨Machine.milestone?_of_start ticks, by rw [Machine.start_of_ticks ticks], ?_⟩
    rw [act_start_of_ticks ticks]
    refine ⟨?_, rfl, rfl⟩
    rw [Machine.isRunning, Machine.opened, Machine.spawn, List.any_append]
    exact Bool.or_true _
  runs running := by
    have still : s.machine.ticks .start = false := by
      rw [Machine.ticks, running]
      rfl
    rw [act_start_of_not_ticks still, Machine.start_of_isRunning running]
    refine ⟨rfl, h.owned ?_⟩
    obtain ⟨t, ht, live⟩ := List.any_eq_true.mp (Bool.and_eq_true_iff.mp running).2
    refine List.countP_pos_iff.mpr ⟨t, ht, ?_⟩
    rw [Thread.isActive, live, Bool.true_or]
  stands r ended := h.stands (by rw [ended]; rintro ⟨⟩)
  rests a r bs permits ended session unopened := by
    have after := h.act permits
    rw [ended, Option.some_or] at after
    exact after.rests_after (by rintro ⟨⟩) (h.silent_of_ended permits ended) session unopened
  left idle t ht := by
    by_cases live : t.isLiveClock = true
    · exact .inl live
    · have inside := (h.left idle t ht).resolve_left live
      exact .inr (Thread.isActive_eq_false.mpr ⟨Bool.eq_false_iff.mpr live, inside⟩)
  leftovers k t ht idle := by
    have still := Machine.not_enters_of_inside (g := s.machine.cpu.gate) (Thread.isActive_eq_false.mp idle).2
    refine ⟨by rw [Machine.begins, ht, Option.any_some, still], ?_, Machine.exists_left h.clocks ht idle⟩
    rw [milestone?, Machine.milestone?, Machine.ending?, ht, Option.bind_some, Thread.ending?, still, Bool.and_false]
    rfl
  alone := h.alone
  requests m shadows idle few q := by
    subst idle
    have threads : m.threads = s.machine.threads := by rw [shadows.machine]; rfl
    have clocked : m.clocked = s.machine.clocked := by rw [shadows.machine]; rfl
    exact shadows.request (h.toStaffed.keep (.of_threads threads) clocked) few q

/-- A machine that was just put together. -/
def fresh (m : Machine) : Timed := ⟨m, []⟩

section

variable {keypad : Keypad} {speaker : Option Speaker} {random : Random} {romLimit : Number}
  {cpuHz timerHz : Frequency} {historyLimit : Nat} {m : Machine}

/-- The life of the runs of a machine with the standard memory, whatever its clocks do and whatever is asked of it. At
the beginning the machine goes by its schedule as well as by its clocks. -/
theorem lifecycle_after
    (assembled : Machine.assemble (.assemble .standard keypad speaker random romLimit) cpuHz timerHz
      historyLimit = .ok m) (cpuPeriod : cpuHz.period?.isSome = true)
    (timerPeriod : timerHz.period?.isSome = true) (session : (fresh m).isSession false as = true) :
    (fresh m).Shadows false m ∧
      ((fresh m).after as).Lifecycle (stoppingAfter false as) ((fresh m).milestones as) := by
  have within := Machine.within_after assembled []
  have facts : (fresh m).Shadows false m ∧ (fresh m).Ordered false none ∧ m.finishes = [] := by
    unfold Machine.assemble at assembled
    split at assembled
    · cases assembled
    · cases assembled
      refine ⟨⟨rfl, nofun, nofun, fun _ => nofun⟩, ?_, rfl⟩
      exact {
        clocks := nofun
        alone := Nat.zero_le 1
        left := fun _ => nofun
        unwanted := fun _ => nofun
        clocked := nofun
        periods := ⟨cpuPeriod, timerPeriod⟩
        within := within
        unscheduled := rfl
        owned := nofun
        outcome := rfl
        former := nofun
        deserted := fun _ => nofun }
  obtain ⟨shadows, ordered, nothing⟩ := facts
  have after := ordered.after session
  rw [Option.or_none] at after
  refine ⟨shadows, after.lifecycle ?_⟩
  rw [finishes_after]
  exact congrArg (· ++ _) nothing

end

/-- A run that is stopped in a key wait, and another one that halts while its timer clock ticks. The first one's thread
gets its key at last. -/
def twoRuns : List Timed.Action :=
  [.act (.load [0xF0, 0x0A]), .act .start, .act (.move 0), .act .cancel, .tick 0, .act .silence, .act .start,
   .tick 0, .act (.move 1), .act (.press 5), .act (.move 0), .tick 0]

/-- The second run ends, and nothing is heard of the first one. -/
theorem lifecycle_twoRuns :
    (fresh default).milestones twoRuns = [.opened, .opened, .ended .halted] ∧
    ((fresh default).after twoRuns).machine.finishes = [.halted] ∧
    ((fresh default).after twoRuns).machine.outcome = some .halted ∧
    ((fresh default).after twoRuns).machine.isRunning = false := by
  have assembled : Machine.assemble (.assemble .standard default none default Rom.standardLimit)
      Machine.standardCpuHz Machine.standardTimerHz Debugger.standardLimit = .ok default := rfl
  have facts : Frequency.period? Machine.standardCpuHz ≠ none ∧ Frequency.period? Machine.standardTimerHz ≠ none ∧
      (fresh default).isSession false twoRuns = true ∧
      (fresh default).milestones twoRuns = [.opened, .opened, .ended .halted] := by
    decide +kernel
  obtain ⟨cpuPeriod, timerPeriod, session, past⟩ := facts
  obtain ⟨-, life⟩ := lifecycle_after assembled (Option.isSome_iff_ne_none.mpr cpuPeriod)
    (Option.isSome_iff_ne_none.mpr timerPeriod) session
  rw [past] at life
  exact ⟨past, life.finishes, life.outcome, (life.stands .halted rfl).1⟩

/-- A program sets the delay timer to five and ends, while a tick is under way. -/
def late : List Timed.Action :=
  [.act (.load [0x60, 0x05, 0xF0, 0x15, 0x00, 0x00]), .act .start, .act (.move 0), .act (.move 0), .tick 0,
   .act (.move 0)]

/-- The run has ended, and then the tick counts. -/
theorem counts_late : (fresh default).isSession false (late ++ [.tick 0]) = true ∧
    (fresh default).milestones (late ++ [.tick 0]) = [.opened, .ended .halted] ∧
    ((fresh default).after late).machine.finishes = [.halted] ∧
    ((fresh default).after late).machine.isRunning = false ∧
    ((fresh default).after late).machine.cpu.state.delay = 5 ∧
    ((fresh default).after (late ++ [.tick 0])).machine.cpu.state.delay = 4 := by
  decide +kernel

end Timed

end Hexscope
