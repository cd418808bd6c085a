import Hexscope.Proofs.Instruction.Footprint

/-!
# What no cycle writes

The records of a cycle that executed an instruction are known. But an instruction that is stopped in the
middle may have written before. However a cycle ends, its access log accounts for what has become of the
memory (`Bus.Accounts`), so an address that is in no record of a write keeps its byte.

* `Bus.replay_of_not_written`: the memory at an address that is not written;
* `Cpu.accounts_cycle`: the access log of every cycle accounts for the memory.
-/

namespace Hexscope

namespace Bus

variable {b b' : Bus} {memory : Memory} {xs ys : List Access} {a pc : Int}

/-- The addresses that are written, by an access log. -/
def written (xs : List Access) : List Int := (xs.filter (·.direction = .write)).map (·.address)

/-- An address that is not written keeps its byte. -/
theorem replay_of_not_written (h : a ∉ written xs) : replay memory xs a = memory a := by
  induction xs generalizing memory with
  | nil => rfl
  | cons x xs ih =>
    rw [replay, List.foldl_cons, ← replay]
    rcases x with ⟨address, data, _ | _⟩
    · exact ih h
    · simp only [written, List.filter_cons_of_pos, decide_true, List.map_cons, List.mem_cons, not_or] at h
      rw [ih h.2]
      exact Function.update_of_ne h.1 _ _

theorem replay_append (memory : Memory) (xs ys : List Access) :
    replay memory (xs ++ ys) = replay (replay memory xs) ys :=
  List.foldl_append

/-- Values that are written at consecutive addresses are there afterwards. -/
theorem replay_writes {ds : List Int} {k : Nat} {d : Int} (h : ds[k]? = some d) :
    replay memory (writes a ds) (a + k) = .ok (Byte.ofInt d) := by
  induction ds generalizing memory a k with
  | nil => cases h
  | cons e ds ih =>
    rw [writes, replay, List.foldl_cons, ← replay]
    cases k with
    | zero =>
      cases h
      rw [Int.natCast_zero, Int.add_zero, Instruction.replay_writes_of_outside (.inl (Int.lt_succ a))]
      exact Function.update_self ..
    | succ k =>
      rw [Int.natCast_succ, Int.add_comm (k : Int) 1, ← Int.add_assoc]
      exact ih h

/-- The access log of a bus says what has become of a memory. -/
structure Accounts (memory : Memory) (b : Bus) : Prop where
  plain : b.Plain
  peek : b.peek = replay memory b.log

namespace Accounts

theorem of_logs (h : b.Accounts memory) (logs : b.Logs b' xs) : b'.Accounts memory where
  plain := h.plain.of_layout logs.layout
  peek := by rw [logs.memory, h.peek, logs.log, replay_append]

theorem writeAll (h : b.Accounts memory) (a : Int) {ds : List Int}
    (bytes : ∀ d ∈ ds, 0 ≤ d ∧ d ≤ 255) : (b.writeAll a ds).1.Accounts memory := by
  induction ds generalizing b a with
  | nil => exact h
  | cons d ds ih =>
    obtain ⟨h₀, h₁⟩ := bytes d (List.mem_cons_self ..)
    simp only [Bus.writeAll]
    cases hw : b.write a d with
    | error e => exact h
    | ok b' =>
      exact ih (h.of_logs (h.plain.logs_write h₀ h₁ hw)) (a + 1) fun d hd =>
        bytes d (List.mem_cons_of_mem _ hd)

theorem fetch (h : b.Accounts memory) (pc : Int) : (b.fetch pc).1.Accounts memory := by
  unfold Bus.fetch
  cases hr : b.read pc with
  | error e => exact h
  | ok p =>
    obtain ⟨high, b₁⟩ := p
    have first := h.of_logs (logs_read hr).1
    dsimp only
    cases hr' : b₁.read (pc + 1) with
    | error e => exact first
    | ok p =>
      obtain ⟨low, b₂⟩ := p
      have second := first.of_logs (logs_read hr').1
      dsimp only
      split <;> exact second

/-- Also an instruction that is stopped in the middle has recorded what it wrote. -/
theorem effect {b : Board} (h : b.bus.Accounts memory) (i : Instruction) (keys : Keypad) :
    (i.effect keys b).1.bus.Accounts memory := by
  cases i with
  | draw x y n =>
    exact Board.keep_draw (P := fun d => d.bus.Accounts memory)
      (fun _ _ _ _ _ hr h => h.of_logs (logs_read hr).1) (fun _ _ h => h) h _ _ _
  | decimal x => exact h.writeAll b.state.i (bytes_decimalDigits (b.state.v.get x))
  | store x => exact h.writeAll b.state.i (bytes_values b.state.v x.upTo)
  | fill x =>
    exact Board.keep_fillFrom (P := fun d => d.bus.Accounts memory)
      (fun _ _ _ _ _ hr h => h.of_logs (logs_read hr).1) h _ _
  | ret =>
    obtain ⟨pc, sp, after⟩ := Board.exists_ret b
    rw [show (Instruction.ret.effect keys b).1 = _ from after]
    exact h
  | call a =>
    obtain ⟨pc, sp, stack, after⟩ := Board.exists_call b a.val
    rw [show ((Instruction.call a).effect keys b).1 = _ from after]
    exact h
  | _ => exact h

end Accounts

end Bus

namespace Cpu

variable {c : Cpu} {a : Int}

/-- The access log of a cycle accounts for the memory, however the cycle ends. -/
theorem accounts_cycle (plain : c.bus.Plain) : c.cycle.1.bus.Accounts c.bus.peek := by
  have dropped : c.bus.dropLog.Accounts c.bus.peek := ⟨plain.of_layout (Bus.layout_dropLog c.bus), rfl⟩
  have fetched {bus : Bus} {r : Except Bus.Error Fetched} (hf : c.fetched = (bus, r)) :
      bus.Accounts c.bus.peek := by
    have accounts := dropped.fetch c.state.pc
    rw [← Cpu.fetched, hf] at accounts
    exact accounts
  have executed {bus : Bus} {w : Fetched} {i : Instruction} {b : Board} {t : Option Trap}
      (hf : c.fetched = (bus, .ok w)) (he : i.effect c.keypad (c.ready bus) = (b, t)) :
      b.bus.Accounts c.bus.peek := by
    have accounts := (fetched hf).effect (b := c.ready bus) i c.keypad
    rw [he] at accounts
    exact accounts
  have ends := ends_cycle c
  generalize c.cycle.1 = d, c.cycle.2 = o at ends ⊢
  cases ends with
  | outside => exact dropped
  | unreadable _ hf | stopped _ hf | unknown _ hf => exact fetched hf
  | faulted _ hf _ _ he | refused _ hf _ _ he | done _ hf _ _ he => exact executed hf he

/-- What a cycle does not write stays as it is. -/
theorem peek_cycle (plain : c.bus.Plain) (h : a ∉ Bus.written c.cycle.1.bus.log) :
    c.cycle.1.bus.peek a = c.bus.peek a := by
  rw [(accounts_cycle plain).peek]
  exact Bus.replay_of_not_written h

end Cpu

end Hexscope
