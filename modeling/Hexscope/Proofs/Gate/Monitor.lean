import Mathlib.Data.List.Basic
import Hexscope.Gate

/-!
# Workers at a gate

A gate says how many workers stay at it (`Gate`). Here each of them is followed on its own through the sections in
which it holds the lock of the gate (`Monitor`). One flag is both what the workers sleep for and what is told of them,
and a worker that is woken looks at it again, in any order with the others.

A request is done when no worker can go on any more. The workers come to rest in the same state, whatever the order
of their moves, and this state is what the gate tells.

* `Monitor.bound_move`: a move does not change where the workers end;
* `Monitor.exists_rests`: they come to rest;
* `Monitor.Settled.turn`: what a request has done then;
* `Monitor.gate_after`: so it is after all requests, and the gate is told right.
-/

namespace Hexscope

/-- Where a worker is that passes a gate. -/
inductive Stage where
  /-- It is about to look at the policy. -/
  | arriving
  | asleep
  /-- It was woken, and is about to look whether it may go on. -/
  | woken
  /-- It has gone on. The answer tells whether it stayed. -/
  | returned (stayed : Bool)
deriving DecidableEq

namespace Stage

/-- Whether a worker stays where it is if nobody wakes it. -/
def rests : Stage → Bool
  | .arriving | .woken => false
  | .asleep | .returned _ => true

/-- A worker that sleeps is woken. -/
def wake : Stage → Stage
  | .asleep => .woken
  | s => s

/-- A worker that sleeps goes on. -/
def letGo : Stage → Stage
  | .asleep => .returned true
  | s => s

/-- Where a worker ends under a policy, if the flag of the gate is set in the end or not. -/
def goal (shouldWait isWaiting : Bool) : Stage → Stage
  | .arriving => if shouldWait then .asleep else .returned false
  | .woken => if isWaiting then .asleep else .returned true
  | s => s

variable {s : Stage} {shouldWait isWaiting : Bool}

theorem goal_of_rests (h : s.rests = true) : s.goal shouldWait isWaiting = s := by
  cases s <;> first | rfl | cases h

theorem rests_goal : (s.goal shouldWait isWaiting).rests = true := by
  cases s <;> cases shouldWait <;> cases isWaiting <;> rfl

theorem goal_wake_true : s.wake.goal shouldWait true = s.goal shouldWait true := by
  cases s <;> rfl

theorem goal_wake_false (h : s.rests = true) : s.wake.goal shouldWait false = s.letGo := by
  cases s <;> first | rfl | cases h

end Stage

/-- A gate with the workers that have come to it, in the order in which they came. -/
structure Monitor where
  shouldWait : Bool
  isWaiting : Bool
  workers : List Stage

namespace Monitor

/-- Nobody has come yet. -/
def ofPolicy (shouldWait : Bool) : Monitor := ⟨shouldWait, false, []⟩

/-- A worker goes on while it holds the lock. One that has to stay sets the flag, wakes all that sleep, and sleeps.
One that was woken sleeps again if the flag is set. -/
def move (m : Monitor) (k : Nat) : Monitor :=
  match m.workers[k]? with
  | some .arriving =>
    if m.shouldWait then { m with isWaiting := true, workers := (m.workers.map Stage.wake).set k .asleep }
    else { m with workers := m.workers.set k (.returned false) }
  | some .woken => { m with workers := m.workers.set k (if m.isWaiting then .asleep else .returned true) }
  | _ => m

/-- Some workers go on, one after the other. -/
def moves (m : Monitor) (ks : List Nat) : Monitor := ks.foldl move m

/-- Whether no worker can go on. -/
def rests (m : Monitor) : Bool := m.workers.all Stage.rests

/-- What a gate is asked for. -/
inductive Request where
  | setPolicy (shouldWait : Bool)
  /-- A new worker comes. -/
  | wait
  /-- All workers are let through. -/
  | release
  /-- Whether workers stay at the gate. -/
  | ask

/-- What a request does while it holds the lock. -/
def request (m : Monitor) : Request → Monitor
  | .setPolicy shouldWait => { m with shouldWait }
  | .wait => { m with workers := m.workers ++ [.arriving] }
  | .release => if m.isWaiting then { m with isWaiting := false, workers := m.workers.map Stage.wake } else m
  | .ask => m

/-- The answer of who asks: the flag, or if it is not set, the flag a moment later, when some workers have gone on. -/
def answer (m : Monitor) (ks : List Nat) : Bool := m.isWaiting || (m.moves ks).isWaiting

/-- A request, and the workers that go on then. -/
structure Turn where
  request : Request
  moves : List Nat

/-- The gate after a turn. -/
def turn (m : Monitor) (t : Turn) : Monitor := (m.request t.request).moves t.moves

/-- The gate after several turns in order. -/
def after (m : Monitor) (ts : List Turn) : Monitor := ts.foldl turn m

/-- Whether the workers have come to rest at the end of each of several turns. -/
def settles (m : Monitor) : List Turn → Bool
  | [] => true
  | t :: ts => (m.turn t).rests && (m.turn t).settles ts

/-- What is told of a gate. -/
def gate (m : Monitor) : Gate := ⟨m.shouldWait, m.isWaiting, m.workers.count .asleep⟩

/-- What a request has done when the workers have come to rest. -/
def Serves (m n : Monitor) : Request → Prop
  | .setPolicy shouldWait => n = { m with shouldWait }
  | .wait => n.shouldWait = m.shouldWait ∧
    n.workers = m.workers ++ [if m.shouldWait then .asleep else .returned false]
  | .release => n.shouldWait = m.shouldWait ∧ n.workers = m.workers.map Stage.letGo ∧ (Stage.asleep ∉ m.workers → n = m)
  | .ask => n = m

variable {m n : Monitor} {k : Nat} {ks : List Nat} {q : Request} {ts : List Turn}

/-! ## Moves -/

/-- The ways of a move. -/
inductive Goes (m : Monitor) (k : Nat) : Monitor → Prop where
  | stays : (∀ s, m.workers[k]? = some s → s.rests = true) → Goes m k m
  | parks : m.workers[k]? = some .arriving → m.shouldWait = true →
    Goes m k { m with isWaiting := true, workers := (m.workers.map Stage.wake).set k .asleep }
  | passes : m.workers[k]? = some .arriving → m.shouldWait = false →
    Goes m k { m with workers := m.workers.set k (.returned false) }
  | sleepsOn : m.workers[k]? = some .woken → m.isWaiting = true →
    Goes m k { m with workers := m.workers.set k .asleep }
  | goesOn : m.workers[k]? = some .woken → m.isWaiting = false →
    Goes m k { m with workers := m.workers.set k (.returned true) }

theorem goes_move (m : Monitor) (k : Nat) : m.Goes k (m.move k) := by
  unfold move
  split
  · by_cases policy : m.shouldWait = true
    · rw [if_pos policy]
      exact .parks ‹_› policy
    · rw [if_neg policy]
      exact .passes ‹_› (Bool.eq_false_iff.mpr policy)
  · by_cases waits : m.isWaiting = true
    · rw [if_pos waits]
      exact .sleepsOn ‹_› waits
    · rw [if_neg waits]
      exact .goesOn ‹_› (Bool.eq_false_iff.mpr waits)
  · refine .stays fun s here => ?_
    cases s with
    | arriving => exact absurd here ‹_›
    | woken => exact absurd here ‹_›
    | asleep | returned => rfl

theorem map_set_of_eq {f : Stage → Stage} {l : List Stage} {s s' : Stage} (here : l[k]? = some s)
    (same : f s' = f s) : (l.set k s').map f = l.map f := by
  obtain ⟨inside, rfl⟩ := List.getElem?_eq_some_iff.mp here
  have inside' : k < (l.map f).length := by rwa [List.length_map]
  have image : f l[k] = (l.map f)[k] := (List.getElem_map f).symm
  rw [List.map_set, same, image, List.set_getElem_self]

theorem notMem_set {l : List Stage} {s s' : Stage} (ne : s ≠ s') (absent : s ∉ l) : s ∉ l.set k s' := by
  intro mem
  rcases List.mem_or_eq_of_mem_set mem with old | new
  · exact absent old
  · exact ne new

theorem mem_map_wake_arriving {l : List Stage} : Stage.arriving ∈ l.map Stage.wake ↔ Stage.arriving ∈ l := by
  rw [List.mem_map]
  constructor
  · rintro ⟨s, mem, same⟩
    cases s <;> first | exact mem | cases same
  · exact fun mem => ⟨_, mem, rfl⟩

/-! ## Where the workers end -/

/-- The flag when the workers have come to rest. -/
def flag (m : Monitor) : Bool := m.isWaiting || m.shouldWait && m.workers.contains .arriving

/-- The gate when the workers have come to rest. -/
def bound (m : Monitor) : Monitor := ⟨m.shouldWait, m.flag, m.workers.map (Stage.goal m.shouldWait m.flag)⟩

/-- What a woken worker will see is decided: the flag is set, or nobody comes who could set it. -/
def Decided (m : Monitor) : Prop := m.isWaiting = true ∨ Stage.arriving ∉ m.workers ∨ Stage.woken ∉ m.workers

theorem flag_of_isWaiting (h : m.isWaiting = true) : m.flag = true := by
  rw [flag, h, Bool.true_or]

theorem flag_of_notMem (none : Stage.arriving ∉ m.workers) : m.flag = m.isWaiting := by
  have absent : m.workers.contains .arriving = false := by
    rw [List.contains_eq_mem, decide_eq_false_iff_not]
    exact none
  rw [flag, absent, Bool.and_false, Bool.or_false]

theorem notMem_of_rests {s : Stage} (h : m.rests = true) (active : s.rests = false) : s ∉ m.workers := by
  intro mem
  have rests := List.all_eq_true.mp h s mem
  rw [active] at rests
  cases rests

theorem map_goal_of_rests (h : m.rests = true) (shouldWait isWaiting : Bool) :
    m.workers.map (Stage.goal shouldWait isWaiting) = m.workers := by
  refine (List.map_congr_left fun s mem => ?_).trans (List.map_id m.workers)
  exact Stage.goal_of_rests (List.all_eq_true.mp h s mem)

theorem bound_of_rests (h : m.rests = true) : m.bound = m := by
  rw [bound, flag_of_notMem (notMem_of_rests h rfl), map_goal_of_rests h]

theorem rests_bound (m : Monitor) : m.bound.rests = true := by
  simp only [rests, bound, List.all_map, List.all_eq_true]
  exact fun s _ => Stage.rests_goal

/-- Nobody moves who is at rest. -/
theorem move_of_rests (h : m.rests = true) (k : Nat) : m.move k = m := by
  generalize after : m.move k = n
  cases after ▸ goes_move m k with
  | stays => rfl
  | parks here | passes here => exact absurd (List.mem_of_getElem? here) (notMem_of_rests h rfl)
  | sleepsOn here | goesOn here => exact absurd (List.mem_of_getElem? here) (notMem_of_rests h rfl)

theorem moves_eq_self (h : m.rests = true) (ks : List Nat) : m.moves ks = m := by
  induction ks with
  | nil => rfl
  | cons k ks ih =>
    rw [moves, List.foldl_cons, move_of_rests h]
    exact ih

theorem bound_eq (policy : n.shouldWait = m.shouldWait) (flag : n.flag = m.flag)
    (workers : n.workers.map (Stage.goal m.shouldWait m.flag) = m.workers.map (Stage.goal m.shouldWait m.flag)) :
    n.bound = m.bound := by
  rw [bound, policy, flag, workers, bound]

theorem Decided.move (h : m.Decided) (k : Nat) : (m.move k).Decided := by
  have still {s : Stage} (asleep : s ≠ .arriving ∧ s ≠ .woken) :
      Decided { m with workers := m.workers.set k s } :=
    h.imp id (.imp (notMem_set asleep.1.symm) (notMem_set asleep.2.symm))
  generalize after : m.move k = n
  cases after ▸ goes_move m k with
  | stays => exact h
  | parks => exact .inl rfl
  | passes => exact still ⟨nofun, nofun⟩
  | sleepsOn => exact still ⟨nofun, nofun⟩
  | goesOn => exact still ⟨nofun, nofun⟩

/-- A move does not change where the workers end. -/
theorem bound_move (h : m.Decided) (k : Nat) : (m.move k).bound = m.bound := by
  generalize after : m.move k = n
  cases after ▸ goes_move m k with
  | stays => rfl
  | parks here policy =>
    have flag : m.flag = true := by
      rw [Monitor.flag, policy, List.contains_eq_mem, decide_eq_true (List.mem_of_getElem? here)]
      exact Bool.or_true _
    refine bound_eq rfl ((flag_of_isWaiting rfl).trans flag.symm) ?_
    have woken : (m.workers.map Stage.wake)[k]? = some .arriving := by
      rw [List.getElem?_map, here]
      rfl
    -- Who sleeps is woken, but finds the flag set and sleeps again.
    rw [flag, map_set_of_eq woken (by rw [policy]; rfl), List.map_map]
    exact List.map_congr_left fun s _ => Stage.goal_wake_true
  | passes here policy =>
    have flag : m.flag = m.isWaiting := by
      rw [Monitor.flag, policy, Bool.false_and, Bool.or_false]
    refine bound_eq rfl ?_ (map_set_of_eq here (by rw [policy]; rfl))
    rw [flag, Monitor.flag, policy, Bool.false_and, Bool.or_false]
  | sleepsOn here waits =>
    have flag := flag_of_isWaiting waits
    refine bound_eq rfl (Eq.trans (flag_of_isWaiting waits) flag.symm) (map_set_of_eq here ?_)
    rw [flag]
    rfl
  | goesOn here free =>
    -- The flag is not set, and somebody was woken, so nobody comes who could set it.
    have none : Stage.arriving ∉ m.workers := by
      rcases h with waits | none | none
      · rw [free] at waits
        cases waits
      · exact none
      · exact absurd (List.mem_of_getElem? here) none
    have flag := flag_of_notMem none
    refine bound_eq rfl (Eq.trans (flag_of_notMem (notMem_set nofun none)) flag.symm) (map_set_of_eq here ?_)
    rw [flag, free]
    rfl

theorem bound_moves (h : m.Decided) (ks : List Nat) : (m.moves ks).bound = m.bound := by
  induction ks generalizing m with
  | nil => rfl
  | cons k ks ih => exact (ih (h.move k)).trans (bound_move h k)

/-- In whatever order the workers come to rest, they end where they are bound to. -/
theorem moves_of_rests (h : m.Decided) (rests : (m.moves ks).rests = true) : m.moves ks = m.bound :=
  (bound_of_rests rests).symm.trans (bound_moves h ks)

/-! ## Coming to rest -/

/-- A bound for the number of moves until the workers are at rest. Each that comes may wake all others once. -/
def pending (m : Monitor) : Nat := m.workers.count .arriving * (m.workers.length + 1) + m.workers.count .woken

theorem count_set {l : List Stage} {s : Stage} (here : l[k]? = some s) (s' t : Stage) :
    (l.set k s').count t + (if s = t then 1 else 0) = l.count t + if s' = t then 1 else 0 := by
  obtain ⟨inside, rfl⟩ := List.getElem?_eq_some_iff.mp here
  rw [List.count_set inside]
  simp only [beq_iff_eq]
  split
  · have pos : 0 < l.count t := List.count_pos_iff.mpr (‹l[k] = t› ▸ List.getElem_mem inside)
    omega
  · omega

/-- A woken worker that looks at the flag is no longer woken. -/
theorem counts_of_woken {l : List Stage} {s : Stage} (here : l[k]? = some .woken) (arriving : s ≠ .arriving)
    (woken : s ≠ .woken) : (l.set k s).count .arriving = l.count .arriving ∧
      (l.set k s).count .woken < l.count .woken := by
  have same := count_set here s .arriving
  have fewer := count_set here s .woken
  rw [if_neg nofun, if_neg arriving] at same
  rw [if_pos rfl, if_neg woken] at fewer
  exact ⟨same, Nat.lt_of_succ_le (Nat.le_of_eq fewer)⟩

theorem count_arriving_map_wake (l : List Stage) : (l.map Stage.wake).count .arriving = l.count .arriving := by
  induction l with
  | nil => rfl
  | cons s l ih => cases s <;> simp [Stage.wake, ih]

theorem pending_lt (length : n.workers.length = m.workers.length)
    (less : n.workers.count .arriving < m.workers.count .arriving ∨
      n.workers.count .arriving = m.workers.count .arriving ∧ n.workers.count .woken < m.workers.count .woken) :
    n.pending < m.pending := by
  rw [pending, pending, length]
  rcases less with fewer | ⟨same, fewer⟩
  · have woken : n.workers.count .woken ≤ m.workers.length := length ▸ List.count_le_length
    have product := Nat.mul_le_mul_right (m.workers.length + 1) (Nat.succ_le_of_lt fewer)
    rw [Nat.succ_mul] at product
    omega
  · rw [same]
    omega

theorem pending_move_lt {s : Stage} (here : m.workers[k]? = some s) (active : s.rests = false) :
    (m.move k).pending < m.pending := by
  generalize after : m.move k = n
  cases after ▸ goes_move m k with
  | stays rests =>
    rw [rests s here] at active
    cases active
  | parks here =>
    have woken : (m.workers.map Stage.wake)[k]? = some .arriving := by
      rw [List.getElem?_map, here]
      rfl
    refine pending_lt (by rw [List.length_set, List.length_map]) (.inl ?_)
    have fewer := count_set woken .asleep .arriving
    rw [count_arriving_map_wake, if_pos rfl, if_neg nofun] at fewer
    exact Nat.lt_of_succ_le (Nat.le_of_eq fewer)
  | passes here =>
    refine pending_lt List.length_set (.inl ?_)
    have fewer := count_set here (.returned false) .arriving
    rw [if_pos rfl, if_neg nofun] at fewer
    exact Nat.lt_of_succ_le (Nat.le_of_eq fewer)
  | sleepsOn here => exact pending_lt List.length_set (.inr (counts_of_woken here nofun nofun))
  | goesOn here => exact pending_lt List.length_set (.inr (counts_of_woken here nofun nofun))

/-- The workers come to rest. -/
theorem exists_rests (m : Monitor) : ∃ ks, (m.moves ks).rests = true := by
  generalize size : m.pending = n
  induction n using Nat.strongRecOn generalizing m with
  | ind n ih =>
    cases rests : m.rests with
    | true => exact ⟨[], rests⟩
    | false =>
      obtain ⟨s, mem, active⟩ := List.all_eq_false.mp rests
      obtain ⟨k, here⟩ := List.getElem?_of_mem mem
      have less := pending_move_lt here (Bool.eq_false_iff.mpr active)
      obtain ⟨ks, ends⟩ := ih _ (size ▸ less) (m.move k) rfl
      exact ⟨k :: ks, ends⟩

/-! ## Requests -/

/-- The workers are at rest, and the flag tells whether some of them sleep. -/
structure Settled (m : Monitor) : Prop where
  rests : m.rests = true
  isWaiting_iff : m.isWaiting = true ↔ Stage.asleep ∈ m.workers

namespace Settled

theorem ofPolicy (b : Bool) : (ofPolicy b).Settled := ⟨rfl, iff_of_false nofun nofun⟩

theorem map_letGo {l : List Stage} (none : Stage.asleep ∉ l) : l.map Stage.letGo = l := by
  refine (List.map_congr_left fun s mem => ?_).trans (List.map_id l)
  cases s with
  | asleep => exact absurd mem none
  | _ => rfl

theorem asleep_notMem_map_letGo (l : List Stage) : Stage.asleep ∉ l.map Stage.letGo := by
  intro mem
  obtain ⟨s, -, same⟩ := List.mem_map.mp mem
  cases s <;> cases same

variable (h : m.Settled)
include h

theorem asleep_notMem (free : m.isWaiting = false) : Stage.asleep ∉ m.workers := by
  intro mem
  rw [h.isWaiting_iff.mpr mem] at free
  cases free

theorem decided_request (q : Request) : (m.request q).Decided := by
  have arriving : Stage.arriving ∉ m.workers := notMem_of_rests h.rests rfl
  have woken : Stage.woken ∉ m.workers := notMem_of_rests h.rests rfl
  cases q with
  | setPolicy | ask => exact .inr (.inl arriving)
  | wait =>
    refine .inr (.inr fun mem => ?_)
    rcases List.mem_append.mp mem with old | new
    · exact woken old
    · cases List.mem_singleton.mp new
  | release =>
    rw [request]
    split
    · exact .inr (.inl (mt mem_map_wake_arriving.mp arriving))
    · exact .inr (.inl arriving)

/-- A new worker stays if the policy says so, and sets the flag then. -/
theorem bound_wait : (m.request .wait).bound = ⟨m.shouldWait, m.isWaiting || m.shouldWait,
    m.workers ++ [if m.shouldWait then .asleep else .returned false]⟩ := by
  have flag : (m.request .wait).flag = (m.isWaiting || m.shouldWait) := by
    simp [request, Monitor.flag]
  rw [bound, flag, request, List.map_append, map_goal_of_rests h.rests]
  rfl

/-- If the flag is set, all that sleep go on. -/
theorem bound_release (waits : m.isWaiting = true) :
    (m.request .release).bound = { m with isWaiting := false, workers := m.workers.map Stage.letGo } := by
  have each : ∀ s ∈ m.workers, s.rests = true := List.all_eq_true.mp h.rests
  have none : Stage.arriving ∉ m.workers.map Stage.wake :=
    mt mem_map_wake_arriving.mp (notMem_of_rests h.rests rfl)
  have flag : Monitor.flag { m with isWaiting := false, workers := m.workers.map Stage.wake } = false :=
    flag_of_notMem none
  rw [request, if_pos waits, bound, flag, List.map_map]
  exact congrArg (Monitor.mk _ _) (List.map_congr_left fun s mem => Stage.goal_wake_false (each s mem))

/-- What a request has done, where the workers are bound to end. -/
theorem bound_request (q : Request) : (m.request q).bound.Settled ∧ m.Serves (m.request q).bound q := by
  have rests := rests_bound (m.request q)
  cases q with
  | setPolicy b =>
    have still : (m.request (.setPolicy b)).bound = { m with shouldWait := b } := bound_of_rests h.rests
    exact ⟨⟨rests, still ▸ h.isWaiting_iff⟩, still⟩
  | ask =>
    have still : (m.request .ask).bound = m := bound_of_rests h.rests
    exact ⟨⟨rests, still.symm ▸ h.isWaiting_iff⟩, still⟩
  | wait =>
    refine ⟨⟨rests, ?_⟩, ?_⟩
    · rw [h.bound_wait, Bool.or_eq_true, h.isWaiting_iff, List.mem_append, List.mem_singleton]
      cases m.shouldWait <;> simp
    · rw [h.bound_wait]
      exact ⟨rfl, rfl⟩
  | release =>
    cases waits : m.isWaiting with
    | true =>
      refine ⟨⟨rests, ?_⟩, ?_⟩
      · rw [h.bound_release waits]
        exact iff_of_false nofun (asleep_notMem_map_letGo _)
      · rw [h.bound_release waits]
        exact ⟨rfl, rfl, absurd (h.isWaiting_iff.mp waits)⟩
    | false =>
      have none := h.asleep_notMem waits
      have still : (m.request .release).bound = m := by
        rw [request, waits]
        exact bound_of_rests h.rests
      rw [still]
      exact ⟨h, rfl, (map_letGo none).symm, fun _ => rfl⟩

/-- What a request has done when the workers have come to rest. -/
theorem turn {t : Turn} (rests : (m.turn t).rests = true) : (m.turn t).Settled ∧ m.Serves (m.turn t) t.request := by
  have bound : m.turn t = (m.request t.request).bound := moves_of_rests (h.decided_request t.request) rests
  rw [bound]
  exact h.bound_request t.request

end Settled

/-! ## The gate -/

/-- What a request does to what is told of a gate. -/
def Request.serve (g : Gate) : Request → Gate
  | .setPolicy shouldWait => g.setPolicy shouldWait
  | .wait => g.arrive.1
  | .release => g.release.1
  | .ask => g

/-- A gate is told right when a request was served. -/
theorem Settled.gate_eq (h : m.Settled) (h' : n.Settled) (serves : m.Serves n q) : n.gate = q.serve m.gate := by
  cases q with
  | setPolicy b => rw [show n = { m with shouldWait := b } from serves]; rfl
  | ask => rw [show n = m from serves]; rfl
  | wait =>
    obtain ⟨policy, workers⟩ := serves
    have flag := h'.isWaiting_iff
    rw [workers, List.mem_append, ← h.isWaiting_iff, List.mem_singleton] at flag
    rw [gate, policy, workers, List.count_append, Request.serve, Gate.arrive, gate]
    cases stays : m.shouldWait with
    | true =>
      rw [stays, if_pos rfl] at flag
      rw [flag.mpr (.inr rfl)]
      rfl
    | false =>
      rw [stays] at flag
      have same : n.isWaiting = m.isWaiting := Bool.eq_iff_iff.mpr (flag.trans (or_iff_left nofun))
      rw [same]
      rfl
  | release =>
    obtain ⟨policy, workers, unchanged⟩ := serves
    rw [Request.serve, Gate.release]
    cases waits : m.gate.isWaiting with
    | true =>
      have none := Settled.asleep_notMem_map_letGo m.workers
      have flag : n.isWaiting = false := by
        rw [Bool.eq_false_iff, Ne, h'.isWaiting_iff, workers]
        exact none
      rw [gate, policy, flag, workers, List.count_eq_zero.mpr none]
      rfl
    | false =>
      rw [unchanged (h.asleep_notMem waits)]
      rfl

/-- Who arrives stays if the policy says so, and as many are let through as sleep. -/
theorem Settled.answers (h : m.Settled) :
    m.gate.arrive.2 = m.shouldWait ∧ m.gate.release.2 = m.workers.count .asleep := by
  rw [Gate.arrive, Gate.release]
  constructor
  · cases stays : m.gate.shouldWait with
    | true => exact stays.symm
    | false => exact stays.symm
  · cases waits : m.gate.isWaiting with
    | true => rfl
    | false => exact (List.count_eq_zero.mpr (h.asleep_notMem waits)).symm

/-- The workers of a gate are settled at the end of each turn, and the gate is told right. -/
theorem Settled.after (h : m.Settled) (settles : m.settles ts = true) :
    (m.after ts).Settled ∧ (m.after ts).gate = (ts.map Turn.request).foldl Request.serve m.gate := by
  induction ts generalizing m with
  | nil => exact ⟨h, rfl⟩
  | cons t ts ih =>
    obtain ⟨rests, settles⟩ := Bool.and_eq_true_iff.mp settles
    obtain ⟨settled, serves⟩ := h.turn rests
    obtain ⟨after, told⟩ := ih settled settles
    refine ⟨after, told.trans ?_⟩
    rw [h.gate_eq settled serves]
    rfl

/-- When the workers have come to rest after each of all requests, the flag and the answer to who asks tell whether
some of them sleep, and the gate tells how many. The workers come to rest after every further request, and whatever
the order in which they do so, the request has done the same. -/
theorem gate_after {b : Bool} (settles : (ofPolicy b).settles ts = true) :
    let m := (ofPolicy b).after ts
    m.gate = (ts.map Turn.request).foldl Request.serve (.ofPolicy b) ∧
    m.gate.arrive.2 = m.shouldWait ∧ m.gate.release.2 = m.workers.count .asleep ∧
    (m.isWaiting = true ↔ Stage.asleep ∈ m.workers) ∧ (∀ ks, m.answer ks = true ↔ Stage.asleep ∈ m.workers) ∧
    ∀ q, (∃ ks, (m.turn ⟨q, ks⟩).rests = true) ∧
      ∀ ks, (m.turn ⟨q, ks⟩).rests = true → m.Serves (m.turn ⟨q, ks⟩) q := by
  intro m
  obtain ⟨settled, told⟩ := (Settled.ofPolicy b).after settles
  refine ⟨told, settled.answers.1, settled.answers.2, settled.isWaiting_iff, fun ks => ?_,
    fun q => ⟨exists_rests (m.request q), fun ks rests => (settled.turn rests).2⟩⟩
  rw [answer, moves_eq_self settled.rests, Bool.or_self]
  exact settled.isWaiting_iff

/-- Two workers stay, the policy changes, a third one passes, and both are let through. The second one wakes the
first. -/
def bothStay : List Turn :=
  [⟨.wait, [0]⟩, ⟨.wait, [1, 0]⟩, ⟨.setPolicy false, []⟩, ⟨.wait, [2, 1]⟩, ⟨.release, [1, 0]⟩, ⟨.release, []⟩]

/-- The flag is no longer set then, and a further worker passes at once. -/
theorem gate_after_bothStay : (ofPolicy true).settles bothStay = true ∧
    ((ofPolicy true).after bothStay).gate = ⟨false, false, 0⟩ ∧
    ((ofPolicy true).after bothStay).workers = [.returned true, .returned true, .returned false] ∧
    ((ofPolicy true).after bothStay).Serves (((ofPolicy true).after bothStay).turn ⟨.wait, [3]⟩) .wait := by
  have settles : (ofPolicy true).settles bothStay = true := by decide
  obtain ⟨told, -, -, -, -, serves⟩ := gate_after settles
  exact ⟨settles, told.trans (by decide), by decide, (serves .wait).2 [3] (by decide)⟩

end Monitor

end Hexscope
