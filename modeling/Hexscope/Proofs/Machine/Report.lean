import Hexscope.Proofs.Machine.Step

/-!
# What is reported after a reset

An instruction that waits for a key is reported once it has got one. A reset in between takes the register
away for which it waits, but neither ends the instruction nor its report. So a reset that comes while an
instruction is open is followed by the report of an instruction that began before it.

* `Machine.count_reported_after`: along every run, what has been reported and what is still open is what
  was open before and what was executed, each as often;
* `Machine.history_after`: the history of the debugger holds nothing else;
* `Machine.reports_fresh_iff`: after a reset only later instructions are reported exactly if no
  instruction was open;
* `Machine.stale_report`: a reset in a key wait, and the report that follows it.
-/

namespace Hexscope

/-- The operation that was executed, if one was. -/
def Outcome.operation? {ω : Type} : Outcome ω → Option Operation
  | .done _ o => some o
  | .halted | .fatal | .raised _ => none

theorem Outcome.operation?_of_unfinished {ω : Type} {r : Outcome ω} (h : ∀ w o, r ≠ .done w o) :
    r.operation? = none := by
  cases r with
  | done w o => exact absurd rfl (h w o)
  | _ => rfl

theorem History.mem_toList_push {α : Type} {h : History α} {x y : α} (hx : x ∈ (h.push y).toList) :
    x ∈ h.toList ∨ x = y := by
  rw [History.toList_push] at hx
  simpa using List.mem_of_mem_drop hx

theorem Debugger.history_see (d : Debugger) (moment : Moment) : (d.see moment).history =
    if moment.operation.isNone then d.history.clear else d.history.push moment := by
  unfold see observe
  split <;> rfl

/-! ## What a reset tells -/

namespace Cpu

/-- What an operation tells that shows the processor at its end: a snapshot without an operation if it
is not refused, and no other. -/
def Announced {ε : Type} (r : Cpu × List Notice × Option ε) : Prop :=
  ∃ moment : Moment, moment.operation = none ∧
    r.2.1.filterMap Notice.moment? = if r.2.2.isNone then [moment] else []

/-- The snapshot of an instruction carries its operation. -/
theorem operation_closing (c : Cpu) (w : Fetched) (o : Operation) :
    (c.closing w o).operation = some o := rfl

theorem moments_blank (c : Cpu) : c.blank.2.1.filterMap Notice.moment? = [] := by
  unfold blank
  rcases c.bus.clear.load 0 Font.bytes with ⟨bus, _ | e⟩
  · exact moments_requestTone _ false
  · rfl

theorem announced_reset (c : Cpu) : Announced c.reset := by
  have blank := moments_blank c
  unfold reset
  generalize c.blank = r at blank ⊢
  obtain ⟨d, told, _ | e⟩ := r
  · refine ⟨(d.snapshot none none).2, rfl, ?_⟩
    simp only [List.filterMap_append, moments_notify, Option.isNone_none, if_true]
    exact congrArg (· ++ _) blank
  · exact ⟨(d.snapshot none none).2, rfl, blank⟩

theorem announced_loadProgram (c : Cpu) (data : List UInt8) : Announced (c.loadProgram data) := by
  have blank := moments_blank c
  unfold loadProgram
  cases Rom.checkSize c.romLimit data.length none with
  | error e => exact ⟨(c.snapshot none none).2, rfl, rfl⟩
  | ok u =>
    generalize c.blank = r at blank ⊢
    obtain ⟨d, told, _ | e⟩ := r
    · dsimp only
      rcases d.bus.load programStart data with ⟨bus, _ | e⟩
      · refine ⟨(snapshot none none { d with bus }).2, rfl, ?_⟩
        simp only [List.filterMap_append, moments_notify, Option.isNone_none, if_true]
        exact congrArg (· ++ _) blank
      · exact ⟨(d.snapshot none none).2, rfl, blank⟩
    · exact ⟨(d.snapshot none none).2, rfl, blank⟩

end Cpu

namespace Machine

/-- The operation of the instruction that an action begins, unless it fails. -/
def operation? (m : Machine) (a : Action) : Option Operation :=
  if m.begins a then m.cpu.cycle.2.operation? else none

/-- The operations of the instructions that are executed along a run, in order. -/
def performed (m : Machine) : List Action → List Operation
  | [] => []
  | a :: as => (m.operation? a).toList ++ (m.act a).performed as

/-- The operations in the snapshots that the listeners were told, newest first. -/
def reported (m : Machine) : List Operation := m.moments.filterMap (·.operation)

/-- The operations of the instructions in which threads are stopped. -/
def unreported (m : Machine) : List Operation := m.inside.map (·.2)

/-- Whether an action resets the processor and tells so. -/
def announces (m : Machine) : Action → Bool
  | .reset => m.cpu.reset.2.2.isNone
  | .load data => (m.cpu.loadProgram data).2.2.isNone
  | _ => false

variable {m n : Machine} {a : Action} {c : Cpu} {told : List Moment} {o : Operation}
  {ops : List Operation}

/-! ## One action -/

theorem count_replicated (L : Nat) (told : List Moment) (o : Operation) :
    ((told.flatMap (List.replicate L)).filterMap (·.operation)).count o =
      L * (told.filterMap (·.operation)).count o := by
  induction told with
  | nil => simp
  | cons moment told ih =>
    rw [List.flatMap_cons, List.filterMap_append, List.filterMap_replicate, List.count_append, ih,
      List.filterMap_cons]
    cases moment.operation with
    | none => simp
    | some p =>
      by_cases h : p = o
      · subst h
        simp [Nat.mul_add, Nat.add_comm]
      · simp [List.count_cons_of_ne h, List.count_replicate, h]

/-- What is told is reported to each listener. -/
theorem Tells.count_reported (h : Tells c m n told) (o : Operation) : n.reported.count o =
    m.reported.count o + m.snapshotListeners * (told.filterMap (·.operation)).count o := by
  have replicated := count_replicated m.snapshotListeners told.reverse o
  rw [List.filterMap_reverse, List.count_reverse] at replicated
  rw [reported, h.moments, List.filterMap_append, List.count_append, replicated, Nat.add_comm,
    reported]

theorem tells_withCpu (m : Machine) (r : Cpu × List Notice) :
    Tells r.1 m (m.withCpu r) (r.2.filterMap Notice.moment?) :=
  Tells.around (says_tellAll { m with cpu := r.1 } r.2).toTells

/-- What an action executes, tells and leaves open. -/
inductive Reporting (m n : Machine) (executed : Option Operation) (told : List Moment) : Prop where
  /-- No instruction is reported, and one that is executed stays open. -/
  | silent : (∀ moment ∈ told, moment.operation = none) →
    n.unreported.Perm (executed.toList ++ m.unreported) → Reporting m n executed told
  /-- An instruction is reported that is executed now or has been open. -/
  | reports {moment : Moment} {o : Operation} : moment.operation = some o → told = [moment] →
    (o :: n.unreported).Perm (executed.toList ++ m.unreported) → Reporting m n executed told

theorem unreported_of_inside (h : n.inside = m.inside) : n.unreported = m.unreported := by
  rw [unreported, h, unreported]

/-- A reset or a load tells no operation, and if it is announced it tells something. The open
instructions stay open. -/
theorem tells_of_not_keepsProgram (h : a.keepsProgram = false) :
    (m.act a).inside = m.inside ∧ ∃ c told, Tells c m (m.act a) told ∧
      (∀ moment ∈ told, moment.operation = none) ∧ (m.announces a = true → told ≠ []) := by
  have shown {ε : Type} {r : Cpu × List Notice × Option ε} (announced : Cpu.Announced r) :
      ∃ c told, Tells c m (m.withCpu (r.1, r.2.1)) told ∧
        (∀ moment ∈ told, moment.operation = none) ∧ (r.2.2.isNone = true → told ≠ []) := by
    obtain ⟨moment, blank, told⟩ := announced
    refine ⟨_, _, tells_withCpu m (r.1, r.2.1), fun x hx => ?_, fun accepted => ?_⟩
    · rw [told] at hx
      split at hx
      · rw [List.mem_singleton.mp hx, blank]
      · cases hx
    · rw [told, if_pos accepted]
      exact List.cons_ne_nil _ _
  cases a with
  | reset =>
    have threads : (m.act .reset).threads = m.threads := (quiet_reset m).threads
    exact ⟨by rw [inside, threads, inside], shown (Cpu.announced_reset m.cpu)⟩
  | load data =>
    have threads : (m.act (.load data)).threads = m.threads := (quiet_loadProgram m data).threads
    exact ⟨by rw [inside, threads, inside], shown (Cpu.announced_loadProgram m.cpu data)⟩
  | _ => cases h

theorem reporting_of_begins (h : m.begins a = true) :
    ∃ c told, Tells c m (m.act a) told ∧ m.Reporting (m.act a) (m.operation? a) told := by
  have executed : m.operation? a = m.cpu.cycle.2.operation? := if_pos h
  rw [executed]
  cases begins_act h with
  | fails failed inside tells =>
    refine ⟨_, [], tells, .silent (List.forall_mem_nil _) ?_⟩
    rw [unreported_of_inside inside, Outcome.operation?_of_unfinished failed]
    exact List.Perm.refl _
  | @reports c w o done _ inside tells =>
    refine ⟨_, _, tells, .reports (Cpu.operation_closing c w o) rfl ?_⟩
    rw [unreported_of_inside inside, done]
    exact List.Perm.refl _
  | @suspends w o xs ys done before after tells =>
    refine ⟨_, [], tells, .silent (List.forall_mem_nil _) ?_⟩
    have opened : (m.act a).unreported = xs.map (·.2) ++ o :: ys.map (·.2) := by
      rw [unreported, after, List.map_append, List.map_cons]
    have closed : m.unreported = xs.map (·.2) ++ ys.map (·.2) := by
      rw [unreported, before, List.map_append]
    rw [opened, closed, done]
    exact List.perm_middle

theorem reporting_of_idle (kept : m.restarts a = false) (h : m.begins a = false) :
    ∃ c told, Tells c m (m.act a) told ∧ m.Reporting (m.act a) (m.operation? a) told := by
  have executed : m.operation? a = none := if_neg (Bool.eq_false_iff.mp h)
  rw [executed]
  cases idles_act kept h with
  | waits inside tells =>
    refine ⟨_, [], tells, .silent (List.forall_mem_nil _) ?_⟩
    rw [unreported_of_inside inside]
    exact List.Perm.refl _
  | @served k w o xs ys before after tells =>
    refine ⟨_, _, tells, .reports (Cpu.operation_closing _ w o) rfl ?_⟩
    have opened : m.unreported = xs.map (·.2) ++ o :: ys.map (·.2) := by
      rw [unreported, before, List.map_append, List.map_cons]
    have closed : (m.act a).unreported = xs.map (·.2) ++ ys.map (·.2) := by
      rw [unreported, after, List.map_append]
    rw [opened, closed]
    exact List.perm_middle.symm

/-- What an action executes is reported at once or stays open, and only what was open is reported
besides. -/
theorem reporting_act (m : Machine) (a : Action) :
    ∃ c told, Tells c m (m.act a) told ∧ m.Reporting (m.act a) (m.operation? a) told := by
  by_cases kept : a.keepsProgram = true
  · by_cases begins : m.begins a = true
    · exact reporting_of_begins begins
    · exact reporting_of_idle (restarts_of_keepsProgram m kept) (Bool.eq_false_iff.mpr begins)
  · have replaced : a.keepsProgram = false := Bool.eq_false_iff.mpr kept
    obtain ⟨inside, c, told, tells, blank, -⟩ := tells_of_not_keepsProgram (m := m) replaced
    have executed : m.operation? a = none := by
      cases a with
      | reset | load data => rfl
      | _ => cases replaced
    refine ⟨c, told, tells, .silent blank ?_⟩
    rw [unreported_of_inside inside, executed]
    exact List.Perm.refl _

/-! ## A run -/

theorem count_reported_act (m : Machine) (a : Action) (o : Operation) :
    (m.act a).reported.count o + m.snapshotListeners * (m.act a).unreported.count o =
      m.reported.count o + m.snapshotListeners *
        ((m.operation? a).toList.count o + m.unreported.count o) := by
  obtain ⟨c, told, tells, reporting⟩ := reporting_act m a
  rw [tells.count_reported o]
  cases reporting with
  | silent blank balance =>
    have count := balance.count_eq o
    have nothing : told.filterMap (·.operation) = [] := List.filterMap_eq_nil_iff.mpr blank
    rw [List.count_append] at count
    rw [nothing, count, List.count_nil, Nat.mul_zero, Nat.add_zero]
  | @reports moment p operation told balance =>
    have count := balance.count_eq o
    have one : [moment].filterMap (·.operation) = [p] := by
      rw [List.filterMap_cons, operation, List.filterMap_nil]
    rw [List.count_append, List.count_cons] at count
    rw [told, one, ← count, List.count_singleton, Nat.add_assoc, ← Nat.mul_add, Nat.add_comm (ite _ _ _)]

theorem listeners_after (m : Machine) (as : List Action) :
    (m.after as).snapshotListeners = m.snapshotListeners := by
  induction as generalizing m with
  | nil => rfl
  | cons a as ih =>
    obtain ⟨c, told, tells, -⟩ := reporting_act m a
    exact (ih (m.act a)).trans tells.listeners

/-- Along every run, the listeners are told of every instruction that was open or is executed, except
for those that stay open at the end, and of each as often as there are listeners. -/
theorem count_reported_after (m : Machine) (as : List Action) (o : Operation) :
    (m.after as).reported.count o + m.snapshotListeners * (m.after as).unreported.count o =
      m.reported.count o + m.snapshotListeners *
        ((m.performed as).count o + m.unreported.count o) := by
  induction as generalizing m with
  | nil =>
    rw [performed, List.count_nil, Nat.zero_add]
    rfl
  | cons a as ih =>
    have first := count_reported_act m a o
    have rest := ih (m.act a)
    have listeners : (m.act a).snapshotListeners = m.snapshotListeners := listeners_after m [a]
    rw [listeners] at rest
    simp only [performed, after_cons, List.count_append, Nat.mul_add] at first rest ⊢
    omega

/-- The instructions in the history of the debugger and the open ones are among some. -/
structure Known (ops : List Operation) (m : Machine) : Prop where
  history : ∀ moment ∈ m.debugger.history.toList, ∃ o ∈ ops, moment.operation = some o
  unreported : ∀ o ∈ m.unreported, o ∈ ops

theorem Tells.history (h : Tells c m n told) :
    n.debugger.history = (told.foldl Debugger.see m.debugger.record).history := by
  rw [← h.record]
  rfl

/-- Snapshots without an operation leave the history as it is, or empty it. -/
theorem history_of_blank {d : Debugger} (blank : ∀ moment ∈ told, moment.operation = none) :
    (told.foldl Debugger.see d).history =
      if told.isEmpty then d.history else d.history.clear := by
  induction told generalizing d with
  | nil => rfl
  | cons moment told ih =>
    have first : (d.see moment).history = d.history.clear := by
      rw [Debugger.history_see, blank moment (List.mem_cons_self ..)]
      rfl
    rw [List.foldl_cons, ih fun x hx => blank x (List.mem_cons_of_mem _ hx), first]
    split <;> rfl

theorem Known.act (h : Known ops m) (a : Action) :
    Known (ops ++ (m.operation? a).toList) (m.act a) := by
  obtain ⟨c, told, tells, reporting⟩ := reporting_act m a
  have before : ∀ moment ∈ m.debugger.history.toList,
      ∃ o ∈ ops ++ (m.operation? a).toList, moment.operation = some o := by
    intro moment hm
    obtain ⟨o, ho, operation⟩ := h.history moment hm
    exact ⟨o, List.mem_append_left _ ho, operation⟩
  have known {o : Operation} (ho : o ∈ (m.operation? a).toList ++ m.unreported) :
      o ∈ ops ++ (m.operation? a).toList := by
    rcases List.mem_append.mp ho with ho | ho
    · exact List.mem_append_right _ ho
    · exact List.mem_append_left _ (h.unreported o ho)
  cases reporting with
  | silent blank balance =>
    refine ⟨fun moment hm => ?_, fun o ho => known (balance.mem_iff.mp ho)⟩
    rw [tells.history, history_of_blank blank] at hm
    split at hm
    · exact before moment hm
    · rw [History.toList_clear] at hm
      cases hm
  | @reports moment o operation told balance =>
    refine ⟨fun x hx => ?_, fun p hp =>
      known (balance.mem_iff.mp (List.mem_cons_of_mem o hp))⟩
    subst told
    rw [tells.history, List.foldl_cons, List.foldl_nil, Debugger.history_see, operation] at hx
    rcases History.mem_toList_push hx with hx | rfl
    · exact before x hx
    · exact ⟨o, known (balance.mem_iff.mp (List.mem_cons_self ..)), operation⟩

/-- Along every run, what is new in the history of the debugger was open before or is executed. -/
theorem history_after (h : Known ops m) (as : List Action) :
    Known (ops ++ m.performed as) (m.after as) := by
  induction as generalizing m ops with
  | nil =>
    rw [performed, List.append_nil]
    exact h
  | cons a as ih =>
    have rest := ih (h.act a)
    rwa [List.append_assoc] at rest

/-! ## After a reset -/

/-- A thread that waits for a key reports its instruction after the next key, and nothing is executed
for that. -/
theorem reported_of_key {w : Fetched} (h : (w, o) ∈ m.inside) :
    ∃ as, m.performed as = [] ∧
      (m.after as).reported.count o = m.reported.count o + m.snapshotListeners := by
  obtain ⟨t, ht, within⟩ := List.mem_filterMap.mp h
  obtain ⟨k, lt, rfl⟩ := List.getElem_of_mem ht
  let n := m.act (.press 0)
  have thread : n.threads[k]? = some { m.threads[k] with place := m.threads[k].place.wake } := by
    simp only [n, act, press, List.getElem?_map, List.getElem?_eq_getElem lt, Option.map_some]
  have woken : m.threads[k].place.wake = .woken w o := by
    generalize m.threads[k].place = place at within
    cases place <;> cases within <;> rfl
  rw [woken] at thread
  obtain ⟨u, turns, -⟩ := turns_move thread rfl
  refine ⟨[.press 0, .move k], ?_, ?_⟩
  · have idle : n.begins (.move k) = false := by
      rw [begins, thread]
      rfl
    simp only [performed, operation?]
    rw [show (m.act (.press 0)).begins (.move k) = false from idle]
    rfl
  · have pressed : n.reported.count o = m.reported.count o := by
      have tells : Tells m.cpu m n [] := tells_act m rfl
      rw [tells.count_reported o]
      rfl
    have down : n.cpu.keypad.first? ≠ none := by
      intro up
      have zero : n.cpu.keypad.isDown 0 = true := by
        simp [n, act, press, Keypad.press, Keypad.isDown]
      exact List.find?_eq_none.mp up 0 (List.mem_finRange 0) zero
    have reports : ∃ c : Cpu, Tells (c.conclude w o).1 n (n.move k) [c.closing w o] := by
      cases turns with
      | rests _ outside _ _ => cases outside
      | performs enters _ _ => cases enters
      | ceases _ within ceases =>
        cases within
        cases ceases with
        | waits up _ => exact absurd up down
        | served _ reports => exact ⟨_, reports.tells⟩
    obtain ⟨c, tells⟩ := reports
    have told := tells.count_reported o
    have one : ([c.closing w o].filterMap (·.operation)).count o = 1 := List.count_singleton_self
    have listeners : n.snapshotListeners = m.snapshotListeners := rfl
    rw [one, pressed, listeners, Nat.mul_one] at told
    exact told

/-- The debugger has forgotten all instructions of before once a reset or a load was announced. -/
theorem history_of_announces (h : m.announces a = true) :
    (m.act a).debugger.history.toList = [] := by
  have replaced : a.keepsProgram = false := by
    cases a with
    | reset | load data => rfl
    | _ => cases h
  obtain ⟨-, c, told, tells, blank, some⟩ := tells_of_not_keepsProgram (m := m) replaced
  rw [tells.history, history_of_blank blank, if_neg, History.toList_clear]
  rw [List.isEmpty_iff]
  exact some h

/-- After a reset or a load was announced, the listeners are told of no instruction more often than it is
executed from then on, whatever happens then, exactly if no instruction was open when it came. In that
case the history of the debugger holds only instructions that were executed afterwards. An instruction is
open while its thread waits for a key: in all other places its execution and its notices are one action. -/
theorem reports_fresh_iff (listened : 0 < m.snapshotListeners) (h : m.announces a = true) :
    ((∀ later o, ((m.act a).after later).reported.count o ≤ (m.act a).reported.count o +
        m.snapshotListeners * ((m.act a).performed later).count o) ↔ m.inside = []) ∧
    (m.inside = [] → ∀ later, ∀ moment ∈ ((m.act a).after later).debugger.history.toList,
      ∃ o ∈ (m.act a).performed later, moment.operation = some o) := by
  have replaced : a.keepsProgram = false := by
    cases a with
    | reset | load data => rfl
    | _ => cases h
  have same : (m.act a).inside = m.inside := (tells_of_not_keepsProgram replaced).1
  have listeners : (m.act a).snapshotListeners = m.snapshotListeners := listeners_after m [a]
  refine ⟨⟨fun fresh => ?_, fun closed later o => ?_⟩, fun closed later => ?_⟩
  · rw [List.eq_nil_iff_forall_not_mem]
    rintro ⟨w, o⟩ opened
    rw [← same] at opened
    obtain ⟨later, nothing, told⟩ := reported_of_key opened
    have bound := fresh later o
    rw [nothing, told, listeners, List.count_nil] at bound
    omega
  · have balance := count_reported_after (m.act a) later o
    have none : (m.act a).unreported = [] := by rw [unreported, same, closed, List.map_nil]
    rw [listeners, none, List.count_nil, Nat.add_zero] at balance
    omega
  · have known : Known [] (m.act a) := by
      refine ⟨fun moment hm => ?_, fun o ho => ?_⟩
      · rw [history_of_announces h] at hm
        cases hm
      · rw [unreported, same, closed] at ho
        cases ho
    exact (history_after known later).history

/-- A machine that has executed one instruction of a program. -/
def closed : Machine :=
  (default : Machine).after [.load [0x60, 0x05], .step 1, .move 0]

/-- Nothing is open after an instruction that waits for no key, so a reset there leaves nothing to be
reported. -/
theorem reports_fresh_closed : 0 < closed.snapshotListeners ∧ closed.announces .reset = true ∧
    ∀ later, ∀ moment ∈ ((closed.act .reset).after later).debugger.history.toList,
      ∃ o ∈ (closed.act .reset).performed later, moment.operation = some o := by
  have facts : 0 < closed.snapshotListeners ∧ closed.announces .reset = true ∧
      closed.inside = [] := by
    decide +kernel
  obtain ⟨listened, announced, inside⟩ := facts
  exact ⟨listened, announced, (reports_fresh_iff listened announced).2 inside⟩

/-- A machine whose program waits for a key. -/
def suspended : Machine := (default : Machine).after [.load [0xF0, 0x0A], .step 1, .move 0]

/-- A machine that got another program while the old one waited for a key. -/
def reloaded : Machine := suspended.act (.load [0x61, 0x05])

/-- The key that comes after the load ends the instruction of the old program. It is reported, and stands
in the history of the debugger, though nothing of the new program has been executed and the key has
changed nothing. -/
theorem stale_report : suspended.announces (.load [0x61, 0x05]) = true ∧
    reloaded.reported = [] ∧ reloaded.performed [.press 5, .move 0] = [] ∧
    (reloaded.after [.press 5, .move 0]).reported.map Operation.text = ["LD V0, K"] ∧
    (reloaded.after [.press 5, .move 0]).debugger.history.toList.map (·.symbol) =
      [some "LD V0, K"] ∧
    (reloaded.after [.press 5, .move 0]).cpu.state = reloaded.cpu.state := by
  decide +kernel

end Machine

end Hexscope
