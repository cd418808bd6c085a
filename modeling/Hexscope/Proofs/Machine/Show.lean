import Hexscope.Proofs.Machine.Run
import Hexscope.Proofs.Machine.Tell

/-!
# What a machine shows

Frames and snapshots are what listeners get to see of a program (`Machine.shown`). What is told comes
behind what was shown before, a copy for each listener, and stays there.

* `Machine.Told.shown`: what is shown by telling;
* `Machine.shown_prefix_after`: what was shown stays, whatever happens.
-/

namespace Hexscope

/-- The frame or the snapshot in an event, if it is one. -/
def Event.shown? : Event → Option Notice
  | .notice (.tone _) => none
  | .notice n => some n
  | _ => none

namespace Machine

/-- The frames and snapshots that the listeners were told and nobody has taken yet, oldest first. -/
def shown (m : Machine) : List Notice := m.events.filterMap Event.shown?

/-- The frames and snapshots among some notices, a copy for each listener. -/
def shows (m : Machine) (ns : List Notice) : List Notice :=
  (ns.filter (!·.isTone)).flatMap fun n => List.replicate (m.listeners (.notice n)) n

variable {m n l : Machine} {ns : List Notice} {r : Machine × Option Thread}

theorem shown_eq (m : Machine) : m.shown = (m.heard.filterMap (·.event.shown?)).reverse := by
  rw [shown, events, reports, List.map_reverse, List.filterMap_reverse, List.filterMap_map]
  rfl

theorem shown_of_heard (h : n.heard = m.heard) : n.shown = m.shown := by
  rw [shown_eq, h, shown_eq]

theorem shown_hear {e : Event} (silent : e.shown? = none) (m : Machine) :
    (m.hear e).shown = m.shown := by
  rw [shown_eq, hear, List.filterMap_append, List.filterMap_replicate, silent, shown_eq]
  rfl

/-- What is shown of the copies that the listeners keep. -/
theorem shows_eq (m : Machine) (ns : List Notice) :
    ((ns.reverse.flatMap m.copies).filterMap (·.event.shown?)).reverse = m.shows ns := by
  induction ns with
  | nil => rfl
  | cons n ns ih =>
    have front : ((m.copies n).filterMap (·.event.shown?)).reverse =
        ([n].filter (!·.isTone)).flatMap fun n => List.replicate (m.listeners (.notice n)) n := by
      rw [copies, List.filterMap_replicate]
      cases n with
      | tone _ => rfl
      | frame _ | snapshot _ => exact List.reverse_replicate.trans (List.flatMap_singleton ..).symm
    rw [List.reverse_cons, List.flatMap_append, List.filterMap_append, List.reverse_append, ih,
      List.flatMap_singleton, front, shows, shows, ← List.flatMap_append, ← List.filter_append]
    rfl

theorem Told.shown (h : m.Told n ns) : n.shown = m.shown ++ m.shows ns := by
  rw [shown_eq, h.heard, List.filterMap_append, List.reverse_append, shows_eq, shown_eq]

theorem shown_withCpu (m : Machine) (told : Cpu × List Notice) :
    (m.withCpu told).shown = m.shown ++ m.shows told.2 :=
  (told_withCpu m told).shown

/-- Nothing but tones is told. -/
theorem shown_withCpu_of_silent {told : Cpu × List Notice}
    (silent : told.2.filter (!·.isTone) = []) : (m.withCpu told).shown = m.shown := by
  rw [shown_withCpu, shows, silent, List.flatMap_nil, List.append_nil]

/-! ## What was heard stays -/

/-- What one machine has heard, another one has heard first. -/
def Outlives (m n : Machine) : Prop := ∃ more, n.heard = more ++ m.heard

namespace Outlives

theorem refl (m : Machine) : m.Outlives m := ⟨[], rfl⟩

theorem of_heard (h : n.heard = m.heard) : m.Outlives n := ⟨[], h⟩

theorem trans (h : m.Outlives n) (h' : n.Outlives l) : m.Outlives l := by
  obtain ⟨more, heard⟩ := h
  obtain ⟨rest, heard'⟩ := h'
  exact ⟨rest ++ more, by rw [heard', heard, List.append_assoc]⟩

theorem hear (h : m.Outlives n) (e : Event) : m.Outlives (n.hear e) := h.trans ⟨_, rfl⟩

theorem withCpu (h : m.Outlives n) (told : Cpu × List Notice) : m.Outlives (n.withCpu told) :=
  h.trans ⟨_, (told_withCpu n told).heard⟩

theorem tick (h : m.Outlives n) : m.Outlives n.tick := h.withCpu n.cpu.tick

theorem finish (h : m.Outlives n) (r : StepResult) : m.Outlives (n.finish r) := by
  let ended := { n with outcome := some r, timer := false }
  have silent := Outlives.withCpu (n := ended) h (n.cpu.requestTone false)
  exact Outlives.hear (n := { ended.withCpu (n.cpu.requestTone false) with finished := true })
    silent (.finish r)

theorem afterResult (h : m.Outlives n) (task : Task) (r : StepResult) :
    m.Outlives (n.afterResult task r).1 := by
  cases task with
  | steps left => exact h.hear _
  | run limit taken =>
    simp only [Machine.afterResult]
    split
    · exact Outlives.hear (n := n.endRun) h _
    · exact h
  | single armed =>
    simp only [Machine.afterResult]
    split
    · exact Outlives.hear (n := n.setPolicy true) h _
    · exact h.hear _
  | clock live =>
    simp only [Machine.afterResult]
    split
    · unfold tickIfDue
      split
      · exact h
      · split
        · exact h
        · exact Outlives.tick (n := { n with sinceTick := 0 }) h
    · exact h.finish r

theorem afterRaise (h : m.Outlives n) (task : Task) (e : AccessError) :
    m.Outlives (n.afterRaise task e) := by
  cases task with
  | steps left => exact h.hear _
  | run limit taken => exact Outlives.hear (n := { n with stopAfter := none }) h _
  | single armed =>
    simp only [Machine.afterRaise]
    split
    · exact Outlives.hear (n := n.setPolicy true) h _
    · exact h.hear _
  | clock live => exact h

theorem proceeds {t : Thread} (h : Proceeds m t r) : m.Outlives r.1 := by
  cases h with
  | ends | parks | waits => exact .of_heard rfl
  | stops => exact afterResult (n := { m with cpu := m.cpu.cycle.1 }) (.of_heard rfl) _ _
  | raises => exact afterRaise (n := { m with cpu := m.cpu.cycle.1 }) (.of_heard rfl) _ _
  | reports => exact ((refl m).withCpu _).afterResult _ _

end Outlives

theorem outlives_act (m : Machine) (a : Action) : m.Outlives (m.act a) := by
  cases a with
  | move k =>
    rcases stopped_or_proceeds m k with stopped | ⟨t, r, -, -, proceeds, moved⟩
    · rw [act, move_of_stopped stopped]
      exact .refl m
    · rw [act, moved]
      have outlives := Outlives.proceeds proceeds
      exact outlives
  | start =>
    simp only [act, start]
    split
    · exact .refl m
    split
    · exact .of_heard rfl
    split
    · exact .of_heard rfl
    · exact Outlives.tick (n := { m with
        outcome := none, finished := false, clocked := true, timer := true, sinceTick := 0
        onThread := true }) (.of_heard rfl)
  | cancel =>
    simp only [act, cancel]
    split <;> exact .of_heard rfl
  | stepPaused =>
    simp only [act, stepPaused]
    split <;> exact .of_heard rfl
  | step n =>
    simp only [act, step]
    split <;> exact .of_heard rfl
  | debugStep =>
    simp only [act, debugStep]
    split <;> exact .of_heard rfl
  | silence | tick | reset | load data =>
    exact (Outlives.refl m).withCpu _
  | pause | resume | press | release | releaseAll | debugRun | debugResume => exact .of_heard rfl

theorem outlives_after (m : Machine) (as : List Action) : m.Outlives (m.after as) := by
  induction as generalizing m with
  | nil => exact .refl m
  | cons a as ih => exact (outlives_act m a).trans (ih (m.act a))

/-- What was shown stays, whatever happens. -/
theorem shown_prefix_after (m : Machine) (as : List Action) : m.shown <+: (m.after as).shown := by
  obtain ⟨more, heard⟩ := outlives_after m as
  rw [shown_eq, shown_eq, heard, List.filterMap_append, List.reverse_append]
  exact List.prefix_append _ _

end Machine

end Hexscope
