import Hexscope.Proofs.Machine.KeyWait

/-!
# The steps of a run

An instruction begins with a move (`Machine.begins`) and ends with the same move or, after a key, with
a later one. `Machine.inside` lists the instructions that have begun and not ended. An action does one
of these things:

* `Machine.idles_act`: it begins no instruction. At most one of the open instructions gets its key
  and is reported;
* `Machine.begins_act`: it begins an instruction, with a cycle. The instruction fails, is reported at
  once, or stays open;
* `Machine.fresh_act`: it blanks registers and memory.

From these follows what an action does to the processor (`Machine.follows_act`).
-/

namespace Hexscope

/-- The word that was executed, if one was. -/
def Outcome.word? {ω : Type} : Outcome ω → Option ω
  | .done w _ => some w
  | .halted | .fatal | .raised _ => none

theorem Outcome.word?_eq_some {ω : Type} {r : Outcome ω} {w : ω} :
    r.word? = some w ↔ ∃ o, r = .done w o := by
  cases r <;> simp [word?]

/-- The stack pointer and the slots of the call stack. -/
def Registers.frames (r : Registers) : Int × List Int := (r.sp, r.stack)

namespace Cpu

/-- Nothing was executed between two moments of a processor. A key may have been stored. -/
inductive Follows (c d : Cpu) : Prop where
  | rests : c.Rests d → Follows c d
  | served {k : Key} : (c.deliver k).Rests d → Follows c d

variable {c d : Cpu}

@[simp] theorem pc_deliver (c : Cpu) (k : Key) : (c.deliver k).state.pc = c.state.pc := by
  unfold deliver
  split <;> rfl

@[simp] theorem frames_deliver (c : Cpu) (k : Key) :
    (c.deliver k).state.frames = c.state.frames := by
  unfold deliver
  split <;> rfl

@[simp] theorem bus_deliver (c : Cpu) (k : Key) : (c.deliver k).bus = c.bus := by
  unfold deliver
  split <;> rfl

theorem Rests.frames (h : c.Rests d) : d.state.frames = c.state.frames :=
  congrArg (·.state.frames) h.core

theorem state_requestTone (c : Cpu) (beeping : Bool) :
    (c.requestTone beeping).1.state = c.state := by
  unfold requestTone
  split <;> rfl

theorem state_blank (c : Cpu) : c.blank.1.state = .initial := by
  unfold blank
  rcases c.bus.clear.load 0 Font.bytes with ⟨bus, _ | e⟩
  · exact state_requestTone _ _
  · rfl

/-- A reset leaves a processor that has rested from the initial state. -/
theorem fresh_reset (c : Cpu) : ∃ d : Cpu, d.state = .initial ∧ d.Rests c.reset.1 := by
  refine ⟨c.blank.1, state_blank c, ?_⟩
  rcases reset_cases c with same | shown
  · rw [same]
    exact .refl _
  · rw [shown]
    exact rests_notify _ _ _ _

/-- A program over the limit changes nothing, and after any other the processor has rested from the
initial state. -/
theorem fresh_loadProgram (c : Cpu) (data : List UInt8) :
    if (Rom.checkSize c.romLimit data.length none).toBool then
      ∃ d : Cpu, d.state = .initial ∧ d.Rests (c.loadProgram data).1
    else (c.loadProgram data).1 = c ∧ (c.loadProgram data).2.1 = [] := by
  cases fits : Rom.checkSize c.romLimit data.length none with
  | error e =>
    rw [loadProgram_of_error fits]
    exact ⟨rfl, rfl⟩
  | ok u =>
    rcases loadProgram_cases fits with same | ⟨d, loaded, same | shown⟩
    · exact ⟨_, state_blank c, same ▸ .refl _⟩
    · exact ⟨d, loaded ▸ state_blank c, same ▸ .refl d⟩
    · exact ⟨d, loaded ▸ state_blank c, shown ▸ rests_notify _ _ _ d⟩

theorem Follows.pc (h : c.Follows d) : d.state.pc = c.state.pc := by
  cases h with
  | rests rests => exact rests.pc
  | served rests => exact rests.pc.trans (pc_deliver c _)

theorem Follows.frames (h : c.Follows d) : d.state.frames = c.state.frames := by
  cases h with
  | rests rests => exact rests.frames
  | served rests => exact rests.frames.trans (frames_deliver c _)

end Cpu

namespace Machine

/-- The instructions in which threads are stopped. -/
def inside (m : Machine) : List (Fetched × Operation) := m.threads.filterMap (·.place.inside?)

/-- Whether an action begins an instruction. -/
def begins (m : Machine) : Action → Bool
  | .move k => (m.threads[k]?).any (·.enters m.cpu.gate)
  | _ => false

/-- The opcode of the instruction that an action begins, unless it fails. -/
def executed? (m : Machine) (a : Action) : Option Fetched :=
  if m.begins a then m.cpu.cycle.2.word? else none

/-- Whether an action blanks registers and memory. A program over the limit is refused first. -/
def restarts (m : Machine) : Action → Bool
  | .reset => true
  | .load data => (Rom.checkSize m.cpu.romLimit data.length none).toBool
  | _ => false

variable {m n : Machine} {a : Action} {w : Fetched} {o : Operation}

theorem executed?_eq_some : m.executed? a = some w ↔
    m.begins a = true ∧ ∃ o, m.cpu.cycle.2 = .done w o := by
  unfold executed?
  split
  · rename_i begins
    rw [Outcome.word?_eq_some]
    exact (and_iff_right begins).symm
  · rename_i idle
    exact iff_of_false nofun fun h => idle h.1

/-- What happens while no instruction begins. -/
inductive Idles (m n : Machine) : Prop where
  | waits : n.inside = m.inside → Tells m.cpu m n [] → Idles m n
  /-- A key was stored, and the instruction that waited for it is reported. -/
  | served {k : Key} {w : Fetched} {o : Operation} {xs ys : List (Fetched × Operation)} :
    m.inside = xs ++ (w, o) :: ys → n.inside = xs ++ ys →
    Tells ((m.cpu.deliver k).conclude w o).1 m n [(m.cpu.deliver k).closing w o] → Idles m n

/-- What happens when an instruction begins. -/
inductive Begins (m n : Machine) : Prop where
  /-- The program has ended, or the instruction fails. -/
  | fails : (∀ w o, m.cpu.cycle.2 ≠ .done w o) → n.inside = m.inside →
    Tells m.cpu.cycle.1 m n [] → Begins m n
  /-- The instruction is reported, after a key was stored if it waits for one. -/
  | reports {c : Cpu} {w : Fetched} {o : Operation} : m.cpu.cycle.2 = .done w o →
    (c = m.cpu.cycle.1 ∨ ∃ k, c = m.cpu.cycle.1.deliver k) → n.inside = m.inside →
    Tells (c.conclude w o).1 m n [c.closing w o] → Begins m n
  /-- The instruction waits for a key. -/
  | suspends {w : Fetched} {o : Operation} {xs ys : List (Fetched × Operation)} :
    m.cpu.cycle.2 = .done w o → m.inside = xs ++ ys → n.inside = xs ++ (w, o) :: ys →
    Tells m.cpu.cycle.1 m n [] → Begins m n

theorem inside_of_stays (h : m.Stays n) : n.inside = m.inside := by
  obtain ⟨f, hf, threads⟩ := h.threads
  rw [inside, threads, List.filterMap_map, inside]
  exact congrArg (List.filterMap · m.threads) (funext hf)

theorem inside_of_opens {task : Task} (h : m.Opens n task) : n.inside = m.inside := by
  rw [inside, h.threads, List.filterMap_append]
  exact List.append_nil _

/-- The instructions in which threads are stopped, when a thread has taken the place of another. -/
theorem inside_replaced {k : Nat} {u : Option Thread}
    (h : n.threads = m.threads.take k ++ u.toList ++ m.threads.drop (k + 1)) :
    n.inside = (m.threads.take k).filterMap (·.place.inside?) ++
      (u.bind (·.place.inside?)).toList ++
      (m.threads.drop (k + 1)).filterMap (·.place.inside?) := by
  rw [inside, h, List.filterMap_append, List.filterMap_append]
  cases u with
  | none => rfl
  | some t => cases ht : t.place.inside? <;> simp [ht]

theorem inside_eq {k : Nat} {t : Thread} (ht : m.threads[k]? = some t) :
    m.inside = (m.threads.take k).filterMap (·.place.inside?) ++ t.place.inside?.toList ++
      (m.threads.drop (k + 1)).filterMap (·.place.inside?) :=
  inside_replaced (u := some t) (threads_around ht)

theorem Outside.toList {u : Option Thread} (h : Outside u) :
    (u.bind (·.place.inside?)).toList = [] := by
  cases u with
  | none => rfl
  | some t => rw [Option.bind_some, h t rfl, Option.toList_none]

/-- A thread that begins an instruction can go on. -/
theorem isRunnable_of_enters {t : Thread} {g : Gate} (h : t.enters g = true) :
    t.place.isRunnable = true := by
  obtain ⟨task, place⟩ := t
  cases place with
  | ready | released => rfl
  | gate | key w o | woken w o => cases h

theorem restarts_of_keepsProgram (m : Machine) (h : a.keepsProgram = true) :
    m.restarts a = false := by
  cases a with
  | reset | load data => cases h
  | _ => rfl

/-- A program over the limit changes nothing. -/
theorem load_of_not_restarts {data : List UInt8} (h : m.restarts (.load data) = false) :
    m.act (.load data) = m := by
  have same := Cpu.fresh_loadProgram m.cpu data
  simp only [restarts] at h
  rw [h] at same
  obtain ⟨cpu, told⟩ := same
  simp only [act, loadProgram, cpu, told]
  rfl

/-- After an action that blanks registers and memory, the processor has rested from the initial
state. -/
theorem fresh_act (h : m.restarts a = true) : ∃ d : Cpu, d.state = .initial ∧ d.Rests (m.act a).cpu := by
  cases a with
  | reset =>
    obtain ⟨d, initial, rests⟩ := Cpu.fresh_reset m.cpu
    exact ⟨d, initial, rests.trans (quiet_reset m).rests⟩
  | load data =>
    have fresh := Cpu.fresh_loadProgram m.cpu data
    simp only [restarts] at h
    rw [if_pos h] at fresh
    obtain ⟨d, initial, rests⟩ := fresh
    exact ⟨d, initial, rests.trans (quiet_loadProgram m data).rests⟩
  | _ => cases h

/-- Without a beginning of an instruction, an action that blanks no memory at most ends one. -/
theorem idles_act (kept : m.restarts a = false) (idle : m.begins a = false) :
    m.Idles (m.act a) := by
  by_cases asks : a.asks = true
  · refine .waits ?_ (tells_act m asks)
    rcases stays_or_opens m asks with stays | ⟨task, opens⟩
    · exact inside_of_stays stays
    · exact inside_of_opens opens
  have still {n : Machine} (h : n = m) : m.Idles n := by
    rw [h]
    exact .waits rfl (.refl m)
  cases a with
  | reset => cases kept
  | load data => exact still (load_of_not_restarts kept)
  | move k =>
    cases ht : m.threads[k]? with
    | none => exact still (by simp only [act, move, ht])
    | some t =>
      by_cases runs : t.place.isRunnable = true
      · obtain ⟨u, turns, threads⟩ := turns_move ht runs
        simp only [begins, ht, Option.any_some] at idle
        have before := inside_eq ht
        have after : (m.move k).inside = _ := inside_replaced threads
        cases turns with
        | rests _ out tells outside =>
          rw [out] at before
          rw [outside.toList] at after
          exact .waits (after.trans before.symm) tells
        | performs enters _ _ => exact absurd (idle.symm.trans enters) Bool.false_ne_true
        | ceases _ within ceases =>
          rw [within, Option.toList_some] at before
          cases ceases with
          | waits _ tells => exact .waits (after.trans before.symm) tells
          | served _ reports =>
            rw [reports.outside.toList, List.append_nil] at after
            exact .served (before.trans (List.append_assoc ..)) after reports.tells
      · exact still (by simp only [act, move, ht, if_neg runs])
  | _ => exact absurd rfl asks

/-- A move that begins an instruction runs a cycle. -/
theorem begins_act (h : m.begins a = true) : m.Begins (m.act a) := by
  cases a with
  | move k =>
    cases ht : m.threads[k]? with
    | none => simp [begins, ht] at h
    | some t =>
      simp only [begins, ht, Option.any_some] at h
      obtain ⟨u, turns, threads⟩ := turns_move ht (isRunnable_of_enters h)
      have before := inside_eq ht
      have after : (m.move k).inside = _ := inside_replaced threads
      cases turns with
      | rests idle _ _ _ => exact absurd (idle.symm.trans h) Bool.false_ne_true
      | ceases idle _ _ => exact absurd (idle.symm.trans h) Bool.false_ne_true
      | performs _ out performs =>
        rw [out, Option.toList_none, List.append_nil] at before
        have keeps (outside : Outside u) : (m.move k).inside = m.inside := by
          rw [after, before, outside.toList, List.append_nil]
        cases performs with
        | fails failed tells outside => exact .fails failed (keeps outside) tells
        | reports done _ reports =>
          exact .reports done (.inl rfl) (keeps reports.outside) reports.tells
        | suspends done _ ceases =>
          cases ceases with
          | waits _ tells =>
            exact .suspends done before (after.trans (List.append_assoc ..)) tells
          | served _ reports =>
            exact .reports done (.inr ⟨_, rfl⟩) (keeps reports.outside) reports.tells
  | _ => cases h

/-- The processor after an action that blanks no memory: a cycle was run if the action begins an
instruction, and a key may have been stored. -/
theorem follows_act (kept : m.restarts a = false) :
    (if m.begins a then m.cpu.cycle.1 else m.cpu).Follows (m.act a).cpu := by
  split
  · rename_i h
    cases begins_act h with
    | fails _ _ tells => exact .rests tells.rests
    | suspends _ _ _ tells => exact .rests tells.rests
    | @reports c w o _ served _ tells =>
      have rests := (Cpu.rests_conclude w o c).trans tells.rests
      rcases served with rfl | ⟨k, rfl⟩
      · exact .rests rests
      · exact .served rests
  · rename_i h
    cases idles_act kept (Bool.eq_false_iff.mpr h) with
    | waits _ tells => exact .rests tells.rests
    | @served k w o _ _ _ _ tells =>
      exact .served ((Cpu.rests_conclude w o (m.cpu.deliver k)).trans tells.rests)

end Machine

end Hexscope
