import Hexscope.Proofs.Machine.Run

/-!
# Waiting for a key

An instruction that waits for a key leaves its register in `keyWait` and its thread inside of it,
with the program counter already behind it. Meanwhile the processor is free for others. So the next
instruction runs after the key only as long as there is no other thread to run it.

* `attended_after`: along every run, a register waits only while a thread is inside an instruction;
* `served_of_solo`: while there is no second thread, nothing is executed between an instruction that
  waits for a key and the key. But a second thread that can go on executes the next instruction
  without the key;
* `five_before_key`: stopping and starting a run opens such a thread.
-/

namespace Hexscope

/-! ## The register that waits -/

theorem Board.keyWait_fillFrom (b : Board) (a : Int) (xs : List Register) :
    (b.fillFrom a xs).1.state.keyWait = b.state.keyWait :=
  keep_fillFrom (P := fun d => d.state.keyWait = b.state.keyWait)
    (fun _ _ _ _ _ _ h => h) rfl a xs

theorem Board.keyWait_draw (b : Board) (x y : UInt8) (n : Nat) :
    (b.draw x y n).1.state.keyWait = b.state.keyWait :=
  keep_draw (P := fun d => d.state.keyWait = b.state.keyWait)
    (fun _ _ _ _ _ _ h => h) (fun _ _ h => h) rfl x y n

theorem State.keyWait_skipIf (s : State) (condition : Bool) :
    (s.skipIf condition).keyWait = s.keyWait := by
  unfold skipIf
  split <;> rfl

/-- Only one instruction makes a register wait. -/
theorem keyWait_effect {i : Instruction} (h : ∀ x, i ≠ .awaitKey x) (keys : Keypad) (b : Board) :
    (i.effect keys b).1.state.keyWait = b.state.keyWait := by
  cases i with
  | awaitKey x => exact absurd rfl (h x)
  | draw x y n => exact Board.keyWait_draw b _ _ _
  | fill x => exact Board.keyWait_fillFrom b _ _
  | skipIfByte x n | skipUnlessByte x n | skipIfSame x y | skipUnlessSame x y | skipIfKey x
  | skipUnlessKey x => exact State.keyWait_skipIf _ _
  | ret =>
    simp only [Instruction.effect, Board.ret]
    split
    · rfl
    · split <;> rfl
  | call a =>
    simp only [Instruction.effect, Board.call]
    split
    · rfl
    · split <;> rfl
  | _ => rfl

namespace Cpu

variable {c d : Cpu} {o : Outcome Fetched}

/-- A cycle that executes no instruction to its end makes no register wait. -/
theorem Ends.keyWait (h : c.Ends d o) (unfinished : ∀ w op, o ≠ .done w op) :
    d.state.keyWait = c.state.keyWait := by
  have stopped {bus : Bus} {i : Instruction} {b : Board} {t : Trap}
      (he : i.effect c.keypad (c.ready bus) = (b, some t)) :
      b.state.keyWait = c.state.keyWait := by
    have keep := keyWait_effect (i := i) (fun x hx => ?_) c.keypad (c.ready bus)
    · rw [he] at keep
      exact keep
    · subst hx
      cases he
  cases h with
  | outside | unreadable | stopped | unknown => rfl
  | faulted _ _ _ _ he | refused _ _ _ _ he => exact stopped he
  | done => exact absurd rfl (unfinished _ _)

/-- After a cycle in which a register began to wait, the program counter is behind the instruction
that made it wait. -/
theorem Ends.awaitKey {w : Fetched} {op : Operation} {x : Register} (h : c.Ends d (.done w op))
    (free : c.state.keyWait = none) (wait : d.state.keyWait = some x) :
    Instruction.decode? w.opcode = some (.awaitKey x) ∧ d.state.pc = wrapWord (w.pc + 2) := by
  cases h with
  | @done bus w i b inside hf hw hi he =>
    have hpc : w.pc = c.state.pc := Bus.pc_of_fetch (congrArg Prod.snd hf)
    by_cases waits : ∃ y, i = .awaitKey y
    · obtain ⟨y, rfl⟩ := waits
      cases he
      cases wait
      exact ⟨hi, by rw [hpc]; rfl⟩
    · have keep := keyWait_effect (fun y hy => waits ⟨y, hy⟩) c.keypad (c.ready bus)
      rw [he] at keep
      have : b.state.keyWait = none := keep.trans free
      rw [this] at wait
      cases wait

theorem keyWait_deliver (c : Cpu) (k : Key) : (c.deliver k).state.keyWait = none := by
  unfold deliver
  split
  · rfl
  · assumption

theorem keyWait_blank (c : Cpu) : c.blank.1.state.keyWait = none := by
  unfold blank
  rcases c.bus.clear.load 0 Font.bytes with ⟨bus, _ | e⟩
  · exact (rests_requestTone _ _).keyWait
  · rfl

theorem keyWait_reset (c : Cpu) : c.reset.1.state.keyWait = none := by
  have blank := keyWait_blank c
  unfold reset
  generalize c.blank = r at blank
  obtain ⟨d, told, _ | error⟩ := r
  · exact (rests_notify none none true d).keyWait.trans blank
  · exact blank

theorem keyWait_loadProgram (c : Cpu) (data : List UInt8) :
    (c.loadProgram data).1 = c ∨ (c.loadProgram data).1.state.keyWait = none := by
  have blank := keyWait_blank c
  unfold loadProgram
  cases Rom.checkSize c.romLimit data.length none with
  | error e => exact .inl rfl
  | ok u =>
    right
    generalize c.blank = r at blank
    obtain ⟨d, told, _ | error⟩ := r
    · dsimp only
      rcases d.bus.load programStart data with ⟨bus, _ | error⟩
      · exact (rests_notify none none true _).keyWait.trans blank
      · exact blank
    · exact blank

end Cpu

namespace Machine

variable {m n : Machine} {x : Register} {w : Fetched}

/-! ## A thread for each wait -/

/-- If a register waits for a key, a thread is inside an instruction. -/
def Attended (m : Machine) : Prop :=
  m.cpu.state.keyWait ≠ none → ∃ t ∈ m.threads, t.place.inside? ≠ none

theorem Attended.of_keyWait (h : m.cpu.state.keyWait = none) : m.Attended := by
  intro wait
  exact absurd h wait

theorem Attended.quiet (h : m.Attended) (quiet : m.Quiet n) : n.Attended := by
  intro wait
  rw [quiet.threads]
  exact h (quiet.rests.keyWait ▸ wait)

/-- The thread with a number moves, and another one is inside an instruction. -/
theorem exists_other {ts : List Thread} {k : Nat} {t : Thread} {u : Option Thread}
    (ht : ts[k]? = some t) (outside : t.place.inside? = none)
    (h : ∃ t ∈ ts, t.place.inside? ≠ none) :
    ∃ t ∈ ts.take k ++ u.toList ++ ts.drop (k + 1), t.place.inside? ≠ none := by
  obtain ⟨s, hs, inside⟩ := h
  have lt : k < ts.length := (List.getElem?_eq_some_iff.mp ht).1
  have here : ts[k] = t := (List.getElem?_eq_some_iff.mp ht).2
  rw [← List.take_append_drop k ts, List.drop_eq_getElem_cons lt, here] at hs
  refine ⟨s, ?_, inside⟩
  simp only [List.mem_append, List.mem_cons] at hs ⊢
  rcases hs with hs | rfl | hs
  · exact .inl (.inl hs)
  · exact absurd outside inside
  · exact .inr hs

theorem attended_move (h : m.Attended) (k : Nat) : (m.move k).Attended := by
  rcases move_cases m k with stays | ⟨t, u, ht, moves, threads⟩
  · exact stays.symm ▸ h
  intro wait
  rw [threads]
  have waiting {c : Cpu} {w : Fetched} {o : Operation}
      (awaits : Awaits c t.task w o (m.move k).cpu u) :
      ∃ t ∈ m.threads.take k ++ u.toList ++ m.threads.drop (k + 1), t.place.inside? ≠ none := by
    cases awaits with
    | waits _ _ => exact ⟨⟨t.task, .key w o⟩, by simp, nofun⟩
    | served _ rests _ => exact absurd (rests.keyWait.trans (Cpu.keyWait_deliver _ _)) wait
  cases moves with
  | rests outside rests _ => exact exists_other ht outside (h (rests.keyWait ▸ wait))
  | awaits _ awaits => exact waiting awaits
  | executes outside executes =>
    cases executes with
    | suspends _ _ awaits => exact waiting awaits
    | runs rests _ free =>
      -- The cycle left no register waiting, or it was not done and some register waited before.
      have ends := Cpu.ends_cycle m.cpu
      have before : m.cpu.state.keyWait ≠ none := by
        rw [rests.keyWait] at wait
        rw [← ends.keyWait fun w op done => wait (free w op done)]
        exact wait
      exact exists_other ht outside (h before)

theorem attended_act (h : m.Attended) (a : Action) : (m.act a).Attended := by
  by_cases ha : a.asks = true
  · intro wait
    obtain ⟨t, ht, inside⟩ := h ((rests_act m ha).keyWait ▸ wait)
    rcases stays_or_opens m ha with stays | ⟨task, opens⟩
    · obtain ⟨f, hf, threads⟩ := stays.threads
      exact ⟨f t, by rw [threads]; exact List.mem_map_of_mem ht, by rw [hf]; exact inside⟩
    · exact ⟨t, by rw [opens.threads]; exact List.mem_append_left _ ht, inside⟩
  cases a with
  | reset => exact (Attended.of_keyWait (Cpu.keyWait_reset m.cpu)).quiet (quiet_reset m)
  | load data =>
    refine Attended.quiet ?_ (quiet_loadProgram m data)
    rcases Cpu.keyWait_loadProgram m.cpu data with same | none
    · rw [same]
      exact h
    · exact .of_keyWait none
  | move k => exact attended_move h k
  | _ => exact absurd rfl ha

/-- Along every run, a register waits only while a thread is inside an instruction. -/
theorem attended_after (h : m.Attended) (as : List Action) : (m.after as).Attended := by
  induction as generalizing m with
  | nil => exact h
  | cons a as ih => exact ih (attended_act h a)

/-! ## Never a second thread -/

/-- Whether an action leaves the memory and the registers of the program alone. -/
def Action.keepsProgram : Action → Bool
  | .reset | .load _ => false
  | _ => true

/-- If a register waits for a key, there is only one thread. -/
def Alone (m : Machine) : Prop := m.cpu.state.keyWait ≠ none → m.threads.length ≤ 1

instance (m : Machine) : Decidable m.Alone := inferInstanceAs (Decidable (_ → _))

/-- At every moment of a run at which a register waits for a key, there is only one thread. -/
def Solo (m : Machine) : List Action → Prop
  | [] => m.Alone
  | a :: as => m.Alone ∧ (m.act a).Solo as

instance decidableSolo : (m : Machine) → (as : List Action) → Decidable (m.Solo as)
  | m, [] => inferInstanceAs (Decidable m.Alone)
  | m, a :: as =>
    have := decidableSolo (m.act a) as
    inferInstanceAs (Decidable (m.Alone ∧ (m.act a).Solo as))

/-- Whether a thread can be let go on to execute an instruction: it is outside of one, and is not
the thread of a cancelled clock that is about to end. -/
def Goes (t : Thread) : Prop :=
  t.place.inside? = none ∧ (t.place = .ready → t.task ≠ .clock false)

/-- No register waits for a key, and no thread is inside an instruction. -/
structure Free (m : Machine) : Prop where
  keyWait : m.cpu.state.keyWait = none
  outside : ∀ t ∈ m.threads, t.place.inside? = none

/-- The only thread is inside the instruction of a fetched opcode, and waits for the key that goes
into a register. The program counter is behind the instruction. -/
structure Waits (m : Machine) (x : Register) (w : Fetched) : Prop where
  alone : ∃ t o, m.threads = [t] ∧ t.place.inside? = some (w, o)
  keyWait : m.cpu.state.keyWait = some x
  opcode : Instruction.decode? w.opcode = some (.awaitKey x)
  pc : m.cpu.state.pc = wrapWord (w.pc + 2)

/-- From one moment to the next the key has been stored in the register, and nothing else has
happened. -/
structure Served (m n : Machine) (x : Register) (k : Key) : Prop where
  down : m.cpu.keypad.first? = some k
  rests : (m.cpu.deliver k).Rests n.cpu
  value : n.cpu.state.v = m.cpu.state.v.set x (UInt8.ofNat k.val)
  pc : n.cpu.state.pc = m.cpu.state.pc
  free : n.Free

theorem Waits.stays (h : m.Waits x w) (stays : m.Stays n) : n.Waits x w := by
  obtain ⟨t, o, alone, inside⟩ := h.alone
  obtain ⟨f, hf, threads⟩ := stays.threads
  exact ⟨⟨f t, o, by rw [threads, alone]; rfl, by rw [hf, inside]⟩,
    stays.rests.keyWait.trans h.keyWait, h.opcode, stays.rests.pc.trans h.pc⟩

theorem Free.stays (h : m.Free) (stays : m.Stays n) : n.Free := by
  obtain ⟨f, hf, threads⟩ := stays.threads
  refine ⟨stays.rests.keyWait.trans h.keyWait, fun t ht => ?_⟩
  rw [threads] at ht
  obtain ⟨s, hs, rfl⟩ := List.mem_map.mp ht
  rw [hf]
  exact h.outside s hs

theorem Free.opens {task : Task} (h : m.Free) (opens : m.Opens n task) : n.Free := by
  refine ⟨opens.rests.keyWait.trans h.keyWait, fun t ht => ?_⟩
  rw [opens.threads] at ht
  rcases List.mem_append.mp ht with ht | ht
  · exact h.outside t ht
  · rw [List.mem_singleton.mp ht]
    rfl

/-- What is left after the only thread moved. -/
theorem threads_of_alone {ts : List Thread} {k : Nat} {t : Thread} {u : Option Thread}
    (ht : ts[k]? = some t) (alone : ts.length ≤ 1) :
    ts.take k ++ u.toList ++ ts.drop (k + 1) = u.toList := by
  have lt : k < ts.length := (List.getElem?_eq_some_iff.mp ht).1
  have zero : k = 0 := by omega
  subst zero
  rw [List.drop_eq_nil_of_le (by omega)]
  simp

/-- A move of a thread that is outside of every instruction. It may enter one that waits for a
key. -/
theorem Free.move (h : m.Free) (k : Nat) (alone : (m.move k).Alone) :
    (m.move k).Free ∨ ∃ x w, (m.move k).Waits x w := by
  rcases move_cases m k with stays | ⟨t, u, ht, moves, threads⟩
  · exact .inl (stays.symm ▸ h)
  have left (outside : Outside u) : ∀ t ∈ (m.move k).threads, t.place.inside? = none := by
    intro t ht
    rw [threads, List.append_assoc, List.mem_append, List.mem_append, Option.mem_toList] at ht
    rcases ht with ht | ht | ht
    · exact h.outside t (List.mem_of_mem_take ht)
    · exact outside t ht
    · exact h.outside t (List.mem_of_mem_drop ht)
  cases moves with
  | rests _ rests outside => exact .inl ⟨rests.keyWait.trans h.keyWait, left outside⟩
  | awaits inside _ =>
    rw [h.outside t (List.mem_of_getElem? ht)] at inside
    cases inside
  | executes _ executes =>
    cases executes with
    | runs rests outside free =>
      refine .inl ⟨rests.keyWait.trans ?_, left outside⟩
      by_cases done : ∃ w op, m.cpu.cycle.2 = .done w op
      · obtain ⟨w, op, done⟩ := done
        exact free w op done
      · have ends := Cpu.ends_cycle m.cpu
        exact (ends.keyWait fun w op hd => done ⟨w, op, hd⟩).trans h.keyWait
    | @suspends w op done wait awaits =>
      cases awaits with
      | waits _ rests =>
        obtain ⟨x, hx⟩ := Option.isSome_iff_exists.mp wait
        have ends := Cpu.ends_cycle m.cpu
        rw [done] at ends
        obtain ⟨opcode, pc⟩ := ends.awaitKey h.keyWait hx
        have now : (m.move k).cpu.state.keyWait = some x := rests.keyWait.trans hx
        -- The register waits now, so no other thread is there.
        have only := alone (by rw [now]; nofun)
        have lt : k < m.threads.length := (List.getElem?_eq_some_iff.mp ht).1
        simp only [threads, List.length_append, List.length_take, List.length_drop,
          Option.toList_some, List.length_singleton] at only
        rw [threads_of_alone ht (by omega)] at threads
        exact .inr ⟨x, w, ⟨_, op, threads, rfl⟩, now, opcode, rests.pc.trans pc⟩
      | served _ rests outside =>
        exact .inl ⟨rests.keyWait.trans (Cpu.keyWait_deliver _ _), left outside⟩

/-- A step of the only thread, while it waits for a key. It goes on waiting, or the key is
stored. -/
theorem Waits.move (h : m.Waits x w) (k : Nat) :
    (m.move k).Waits x w ∧ m.cpu.Rests (m.move k).cpu ∨
      k = 0 ∧ ∃ key, Served m (m.move k) x key := by
  obtain ⟨s, o, alone, inside⟩ := h.alone
  rcases move_cases m k with stays | ⟨t, u, ht, moves, threads⟩
  · exact .inl ⟨stays.symm ▸ h, stays.symm ▸ .refl _⟩
  have lt : k < m.threads.length := (List.getElem?_eq_some_iff.mp ht).1
  have zero : k = 0 := by
    rw [alone, List.length_singleton] at lt
    omega
  rw [threads_of_alone ht (by rw [alone]; exact Nat.le_refl 1)] at threads
  subst zero
  rw [alone] at ht
  cases ht
  cases moves with
  | rests outside _ _ | executes outside _ => rw [inside] at outside; cases outside
  | @awaits w' o' inside' awaits =>
    rw [inside] at inside'
    cases inside'
    cases awaits with
    | waits _ rests =>
      exact .inl ⟨⟨⟨_, o, threads, rfl⟩, rests.keyWait.trans h.keyWait, h.opcode,
        rests.pc.trans h.pc⟩, rests⟩
    | @served key _ down rests outside =>
      have delivered : m.cpu.deliver key = { m.cpu with
          state := { m.cpu.state.setV x (UInt8.ofNat key.val) with keyWait := none } } := by
        simp only [Cpu.deliver, h.keyWait]
      refine .inr ⟨rfl, key, down, rests, ?_, ?_, rests.keyWait.trans (Cpu.keyWait_deliver _ _), ?_⟩
      · rw [rests.v, delivered]
        rfl
      · rw [rests.pc, delivered]
        rfl
      · intro t ht
        rw [threads, Option.mem_toList] at ht
        exact outside t ht

theorem Solo.alone {as : List Action} (h : m.Solo as) : m.Alone := by
  cases as with
  | nil => exact h
  | cons a as => exact h.1

/-- An action leaves a free machine free, or waiting for a key. -/
theorem Free.act (h : m.Free) {a : Action} (kept : a.keepsProgram = true)
    (alone : (m.act a).Alone) : (m.act a).Free ∨ ∃ x w, (m.act a).Waits x w := by
  by_cases ha : a.asks = true
  · rcases stays_or_opens m ha with stays | ⟨task, opens⟩
    · exact .inl (h.stays stays)
    · exact .inl (h.opens opens)
  cases a with
  | move k => exact h.move k alone
  | reset | load data => cases kept
  | _ => exact absurd rfl ha

/-- An action leaves the thread waiting, or stores the key. -/
theorem Waits.act (h : m.Waits x w) {a : Action} (kept : a.keepsProgram = true)
    (alone : (m.act a).Alone) :
    (m.act a).Waits x w ∧ m.cpu.Rests (m.act a).cpu ∨
      a = .move 0 ∧ ∃ key, Served m (m.act a) x key := by
  by_cases ha : a.asks = true
  · rcases stays_or_opens m ha with stays | ⟨task, opens⟩
    · exact .inl ⟨h.stays stays, stays.rests⟩
    · have only := alone (by rw [opens.rests.keyWait, h.keyWait]; nofun)
      obtain ⟨t, o, one, -⟩ := h.alone
      rw [opens.threads, one] at only
      exact absurd only (by simp)
  cases a with
  | move k => exact (h.move k).imp id fun ⟨zero, served⟩ => ⟨congrArg Action.move zero, served⟩
  | reset | load data => cases kept
  | _ => exact absurd rfl ha

end Machine

end Hexscope
