import Hexscope.Machine
import Hexscope.Proofs.Cpu.Gate

/-!
# What telling does to a machine

Who is told something keeps it. The debugger compares a snapshot with its breakpoints, and closes the gate
if one of them is hit. Nothing else happens to the machine (`Machine.Told`).

* `Machine.told_tellAll`: several notices are told;
* `Machine.shouldWait_conclude`: what the report of an instruction makes of the gate.
-/

namespace Hexscope

theorem Gate.setPolicy_self (g : Gate) : g.setPolicy g.shouldWait = g := rfl

/-- Every notice leaves the breakpoints as they are. -/
@[simp] theorem Debugger.breakpoints_observe (d : Debugger) (moment : Moment) :
    (d.observe moment).1.breakpoints = d.breakpoints := by
  unfold observe
  split <;> rfl

/-- Without a breakpoint nothing is hit. -/
theorem Debugger.observe_of_unwatched {d : Debugger} (h : d.breakpoints = []) (moment : Moment) :
    (d.observe moment).2 = false := by
  unfold observe
  split
  · rfl
  · simp only [firstMatch?, h, List.find?_nil, Option.isSome_none]

/-- The snapshot of a reset is not compared with the breakpoints. -/
theorem Debugger.observe_of_blank {d : Debugger} {moment : Moment} (h : moment.operation = none) :
    d.observe moment = ({ d with
      history := d.history.clear
      before := some moment.state
      last := some moment }, false) := by
  rw [observe, h, Option.isNone_none, if_pos rfl]

/-- The report of an executed instruction is kept, and the first breakpoint that it meets is the hit. -/
theorem Debugger.observe_of_executed {d : Debugger} {moment : Moment} {o : Operation}
    (h : moment.operation = some o) :
    d.observe moment = ({ d with
      history := d.history.push moment
      last := some moment
      before := some moment.state
      hit := (d.firstMatch? moment).or d.hit }, (d.firstMatch? moment).isSome) := by
  rw [observe, h, Option.isNone_some, if_neg Bool.false_ne_true]

/-- The report of an executed instruction hits a breakpoint exactly if one fires. -/
theorem Debugger.observe_of_operation {d : Debugger} {moment : Moment} {o : Operation}
    (h : moment.operation = some o) :
    (d.observe moment).2 = d.breakpoints.any (·.fires d.before moment) := by
  rw [observe_of_executed h, firstMatch?, Bool.eq_iff_iff, List.find?_isSome, List.any_eq_true]

namespace Machine

/-- The copies of a notice that the listeners keep. -/
def copies (m : Machine) (n : Notice) : List Report :=
  List.replicate (m.listeners (.notice n)) ⟨.notice n, m.onThread⟩

/-- The gate may have closed, and not opened. -/
def ClosesAtMost (m n : Machine) (hit : Bool) : Prop :=
  n.cpu = { m.cpu with gate := m.cpu.gate.setPolicy (m.cpu.gate.shouldWait || hit) }

/-- Some notices were told: the listeners kept them, and the gate has closed if a breakpoint was hit.
Besides, only the debugger has changed, and a listener that ends its run. -/
structure Told (m n : Machine) (ns : List Notice) : Prop where
  gate : ∃ hit, m.ClosesAtMost n hit ∧ (m.debugger.breakpoints = [] → hit = false)
  heard : n.heard = ns.reverse.flatMap m.copies ++ m.heard
  breakpoints : n.debugger.breakpoints = m.debugger.breakpoints
  rest : n = { m with
    cpu := n.cpu, debugger := n.debugger, stopAfter := n.stopAfter, heard := n.heard }

variable {m n l : Machine} {ns ms : List Notice} {r : Cpu × List Notice}

namespace Told

theorem refl (m : Machine) : m.Told m [] := by
  refine ⟨⟨false, ?_, fun _ => rfl⟩, rfl, rfl, rfl⟩
  rw [ClosesAtMost, Bool.or_false, Gate.setPolicy_self]

theorem copies (h : m.Told n ns) : n.copies = m.copies := by
  rw [h.rest]
  rfl

theorem trans (h : m.Told n ns) (h' : n.Told l ms) : m.Told l (ns ++ ms) := by
  obtain ⟨hit, closes, unwatched⟩ := h.gate
  obtain ⟨hit', closes', unwatched'⟩ := h'.gate
  refine ⟨⟨hit || hit', ?_, fun none => ?_⟩, ?_, h'.breakpoints.trans h.breakpoints, ?_⟩
  · rw [ClosesAtMost] at closes closes' ⊢
    rw [closes', closes]
    simp only [Gate.setPolicy, Bool.or_assoc]
  · rw [unwatched none, unwatched' (h.breakpoints.trans none), Bool.or_false]
  · rw [h'.heard, h.heard, h.copies, List.reverse_append, List.flatMap_append, List.append_assoc]
  · rw [h'.rest, h.rest]

theorem state (h : m.Told n ns) : n.cpu.state = m.cpu.state := by
  obtain ⟨hit, closes, -⟩ := h.gate
  rw [ClosesAtMost] at closes
  rw [closes]

theorem threads (h : m.Told n ns) : n.threads = m.threads := by rw [h.rest]

/-- What is heard by telling comes behind what was heard before, a copy for each listener. -/
theorem events (h : m.Told n ns) : n.events = m.events ++
    ns.flatMap fun notice => List.replicate (m.listeners (.notice notice)) (.notice notice) := by
  have copied : (fun notice => (m.copies notice).reverse.map (·.event)) = fun notice =>
      List.replicate (m.listeners (.notice notice)) (.notice notice) := by
    funext notice
    rw [Machine.copies, List.reverse_replicate, List.map_replicate]
  rw [Machine.events, reports, h.heard, List.reverse_append, List.map_append, List.reverse_flatMap,
    List.reverse_reverse, List.map_flatMap]
  exact congrArg (m.events ++ ns.flatMap ·) copied

/-- A closed gate stays closed. -/
theorem shouldWait (h : m.Told n ns) (closed : m.cpu.gate.shouldWait = true) :
    n.cpu.gate.shouldWait = true := by
  obtain ⟨hit, closes, -⟩ := h.gate
  rw [ClosesAtMost] at closes
  rw [closes]
  simp only [Gate.setPolicy, closed, Bool.true_or]

/-- Without breakpoints the processor stays as it is. -/
theorem cpu_of_unwatched (h : m.Told n ns) (none : m.debugger.breakpoints = []) : n.cpu = m.cpu := by
  obtain ⟨hit, closes, unwatched⟩ := h.gate
  rw [ClosesAtMost, unwatched none, Bool.or_false, Gate.setPolicy_self] at closes
  exact closes

end Told

theorem events_of_heard (h : n.heard = m.heard) : n.events = m.events := by
  rw [events, reports, h, events, reports]

/-- What is heard comes behind what was heard before. -/
theorem events_hear (m : Machine) (e : Event) :
    (m.hear e).events = m.events ++ List.replicate (m.listeners e) e := by
  rw [events, reports, hear, List.reverse_append, List.map_append, List.reverse_replicate,
    List.map_replicate]
  rfl

/-- A listener that ends the run of the debugger does nothing else. -/
theorem countSnapshot_eq (m : Machine) : ∃ running stopAfter, m.countSnapshot =
    { m with debugger := { m.debugger with running }, stopAfter } := by
  unfold countSnapshot
  split <;> exact ⟨_, _, rfl⟩

/-- A snapshot is shown to the debugger, and then counted by the listener that ends its run. -/
theorem tell_eq_countSnapshot (m : Machine) (moment : Moment) :
    m.tell (.snapshot moment) = countSnapshot { m with
      cpu := { m.cpu with
        gate := m.cpu.gate.setPolicy (m.cpu.gate.shouldWait || (m.debugger.observe moment).2) }
      debugger := (m.debugger.observe moment).1
      heard := m.copies (.snapshot moment) ++ m.heard } := by
  have same : (m.hear (.notice (.snapshot moment))).debugger = m.debugger := rfl
  unfold tell
  dsimp only
  rw [same]
  cases (m.debugger.observe moment).2 with
  | true =>
    rw [if_pos rfl, Bool.or_true]
    rfl
  | false =>
    rw [if_neg Bool.false_ne_true, Bool.or_false, Gate.setPolicy_self]
    rfl

/-- What a snapshot makes of the gate and the debugger. -/
theorem tell_snapshot (m : Machine) (moment : Moment) : ∃ running stopAfter,
    m.tell (.snapshot moment) = { m with
      cpu := { m.cpu with
        gate := m.cpu.gate.setPolicy (m.cpu.gate.shouldWait || (m.debugger.observe moment).2) }
      debugger := { (m.debugger.observe moment).1 with running }
      stopAfter
      heard := m.copies (.snapshot moment) ++ m.heard } := by
  rw [tell_eq_countSnapshot]
  exact countSnapshot_eq _

theorem told_tell (m : Machine) (n : Notice) : m.Told (m.tell n) [n] := by
  cases n with
  | snapshot moment =>
    obtain ⟨running, stopAfter, e⟩ := tell_snapshot m moment
    rw [e]
    refine ⟨⟨_, rfl, fun none => Debugger.observe_of_unwatched none moment⟩, ?_,
      Debugger.breakpoints_observe _ _, rfl⟩
    rw [List.reverse_singleton, List.flatMap_singleton]
  | tone _ | frame _ =>
    refine ⟨(Told.refl m).gate, ?_, rfl, rfl⟩
    rw [List.reverse_singleton, List.flatMap_singleton]
    rfl

theorem told_tellAll (m : Machine) (ns : List Notice) : m.Told (m.tellAll ns) ns := by
  induction ns generalizing m with
  | nil => exact .refl m
  | cons n ns ih => exact (told_tell m n).trans (ih (m.tell n))

/-- An operation of the processor is followed by what it tells. -/
theorem told_withCpu (m : Machine) (r : Cpu × List Notice) :
    Told { m with cpu := r.1 } (m.withCpu r) r.2 :=
  told_tellAll _ _

/-- Snapshots without an operation are not compared with the breakpoints. -/
theorem cpu_tellAll_of_blank (m : Machine)
    (blank : ∀ moment ∈ ns.filterMap Notice.moment?, moment.operation = none) :
    (m.tellAll ns).cpu = m.cpu := by
  induction ns generalizing m with
  | nil => rfl
  | cons n ns ih =>
    cases n with
    | snapshot moment =>
      have none : moment.operation = none := blank moment (List.mem_cons_self ..)
      obtain ⟨running, stopAfter, e⟩ := tell_snapshot m moment
      have told : (m.tell (.snapshot moment)).cpu = m.cpu := by
        rw [e, Debugger.observe_of_blank none, Bool.or_false, Gate.setPolicy_self]
      exact (ih (m.tell (.snapshot moment))
        fun x hx => blank x (List.mem_cons_of_mem _ hx)).trans told
    | tone _ | frame _ => exact ih _ blank

/-- A report is heard as the screen, if it is shown, and then told as a snapshot. -/
theorem withCpu_conclude (m : Machine) (c : Cpu) (w : Fetched) (o : Operation) : ∃ heard,
    m.withCpu (c.conclude w o) =
      { m with cpu := (c.conclude w o).1, heard }.tell (.snapshot (c.closing w o)) := by
  have told : (c.conclude w o).2 = [.snapshot (c.closing w o)] ∨
      ∃ screen, (c.conclude w o).2 = [.frame screen, .snapshot (c.closing w o)] := by
    unfold Cpu.conclude Cpu.notify Cpu.takeFrame
    dsimp only
    split
    · exact .inr ⟨_, rfl⟩
    · exact .inl rfl
  rcases told with told | ⟨screen, told⟩ <;> exact ⟨_, by rw [withCpu, told]; rfl⟩

/-- The report of an instruction closes the gate if a breakpoint fires. -/
theorem shouldWait_conclude (m : Machine) (c : Cpu) (w : Fetched) (o : Operation) :
    (m.withCpu (c.conclude w o)).cpu.gate.shouldWait = (c.gate.shouldWait ||
      m.debugger.breakpoints.any (·.fires m.debugger.before (c.closing w o))) := by
  obtain ⟨heard, told⟩ := m.withCpu_conclude c w o
  obtain ⟨running, stopAfter, left⟩ :=
    tell_snapshot { m with cpu := (c.conclude w o).1, heard } (c.closing w o)
  rw [told, left]
  simp only [Gate.setPolicy, Cpu.gate_conclude]
  rw [Debugger.observe_of_operation (o := o) rfl]

end Machine

end Hexscope
