import Hexscope.Proofs.Debugger.Call
import Mathlib.Data.List.DropRight

/-!
# What breakpoints look for, and what is kept of the past

A condition with an integer or the name of a register means something about a moment and the one before it
(`Watch`). The debugger compares each executed instruction with the conditions in their order, and remembers
the registers of the moment before, whether an instruction led there or a reset.

* `Breakpoint.isMet_iff`: a condition is met if what it means is true;
* `Debugger.Remembers`: what a debugger knows of the moments it was told of, kept by each of them;
* `Machine.judges_snapshots`: after any calls, which snapshot closes the gate, what is the hit, and what is
  kept.
-/

namespace Hexscope

/-! ## Names of registers -/

/-- What a condition calls a register. -/
inductive RegisterName where
  | v (x : Register)
  | i
  | pc
  | sp
  | delay
  | sound

namespace RegisterName

/-- A name in lower case. -/
def spelled : RegisterName → Text
  | .v x => .ofChars ['v', Nat.digitChar x]
  | .i => "i"
  | .pc => "pc"
  | .sp => "sp"
  | .delay => "delay_timer"
  | .sound => "sound_timer"

/-- What stands in a register. -/
def valueIn (s : Registers) : RegisterName → Int
  | .v x => Byte.toInt (s.v.get x)
  | .i => s.i
  | .pc => s.pc
  | .sp => s.sp
  | .delay => s.delay
  | .sound => s.sound

theorem digit?_digitChar : ∀ x : Register, Registers.digit? (Nat.digitChar x) = some x := by
  decide +kernel

theorem named?_of_spelled {name : Text} {r : RegisterName} (h : name.lowercase = r.spelled)
    (s : Registers) : s.named? name = some (r.valueIn s) := by
  unfold Registers.named?
  rw [h]
  cases r with
  | v x =>
    simp only [spelled, Text.ofChars, List.map_cons, List.map_nil]
    rw [digit?_digitChar]
    rfl
  | _ => rfl

end RegisterName

/-! ## Conditions -/

/-- The integer that a value is. A truth value counts as one or zero. -/
def Value.integer? (v : Value) : Option Int := v.number?.bind Number.index?

theorem Value.isSame_int_iff {v : Value} {n : Int} (h : v.integer? = some n) (a : Int) :
    v.isSame (.int a) = true ↔ a = n := by
  cases v with
  | int m =>
    cases h
    simp [isSame, sameKey, fraction?, number?, Number.fraction?, eq_comm]
  | bool b =>
    cases h
    simp [isSame, sameKey, fraction?, number?, Number.fraction?, eq_comm]
  | _ => cases h

/-- What a condition looks for. -/
inductive Watch where
  /-- The program counter has a value. -/
  | counter (n : Int)
  /-- An address is accessed in a direction. -/
  | access (d : Direction) (a : Int)
  /-- A register has a value. -/
  | holds (r : RegisterName) (n : Int)
  /-- A register has another value than in the snapshot before. -/
  | changes (r : RegisterName)

/-- Whether it is there in a moment, given the registers of the moment before if there was one. -/
def Watch.Met (before : Option Registers) (now : Moment) : Watch → Prop
  | .counter n => now.state.pc = n
  | .access d a => ∃ x ∈ now.activity, x.direction = d ∧ x.address = a
  | .holds r n => r.valueIn now.state = n
  | .changes r => ∃ s, before = some s ∧ r.valueIn now.state ≠ r.valueIn s

namespace Breakpoint

variable {c : Breakpoint} {w : Watch} {before : Option Registers} {now : Moment}

/-- The condition has the name of a register, in any case. -/
def Names (c : Breakpoint) (r : RegisterName) : Prop :=
  ∃ name, c.register = .text name ∧ name.lowercase = r.spelled

/-- What a condition means whose value and address are integers and whose register is one of the processor.
Fields that its trigger does not use may be anything. -/
def Means (c : Breakpoint) : Watch → Prop
  | .counter n => c.trigger = .pcMatch ∧ c.value.integer? = some n
  | .access .read a => c.trigger = .memoryRead ∧ c.address.integer? = some a
  | .access .write a => c.trigger = .memoryWrite ∧ c.address.integer? = some a
  | .holds r n => c.trigger = .registerValue ∧ c.value.integer? = some n ∧ c.Names r
  | .changes r => c.trigger = .registerChange ∧ c.Names r

/-- An enabled condition whose meaning is true. -/
def Matches (c : Breakpoint) (before : Option Registers) (now : Moment) : Prop :=
  c.enabled.isTruthy = true ∧ ∃ w, c.Means w ∧ w.Met before now

theorem exists_registerName {r : RegisterName} (h : c.Names r) :
    ∃ name, c.registerName? = some name ∧ ∀ s : Registers, s.named? name = some (r.valueIn s) := by
  obtain ⟨name, register, lower⟩ := h
  refine ⟨name, ?_, RegisterName.named?_of_spelled lower⟩
  have filled : name.isEmpty = false := by
    rw [Bool.eq_false_iff]
    intro empty
    obtain ⟨points⟩ := name
    cases List.isEmpty_iff.mp empty
    cases r <;> cases lower
  rw [registerName?, register]
  simp [filled]

theorem accessed_iff {a : Int} (h : c.address.integer? = some a) (d : Direction) :
    c.accessed d now = true ↔ Watch.Met before now (.access d a) := by
  simp only [accessed, Snapshot.accessed, List.any_eq_true, Value.isSame_int_iff h, Watch.Met,
    exists_eq_right, List.mem_map, List.mem_filter, decide_eq_true_eq, and_assoc]

/-- A condition is met if what it means is true. -/
theorem isMet_iff (h : c.Means w) : c.isMet before now = true ↔ w.Met before now := by
  match w, h with
  | .counter n, ⟨trigger, value⟩ =>
    simp only [isMet, trigger]
    exact Value.isSame_int_iff value _
  | .access .read a, ⟨trigger, address⟩ | .access .write a, ⟨trigger, address⟩ =>
    simp only [isMet, trigger]
    exact accessed_iff address _
  | .holds r n, ⟨trigger, value, names⟩ =>
    obtain ⟨name, register, named⟩ := exists_registerName names
    simp only [isMet, trigger, register, valueOf, named]
    exact Value.isSame_int_iff value _
  | .changes r, ⟨trigger, names⟩ =>
    obtain ⟨name, register, named⟩ := exists_registerName names
    cases before with
    | none => simp [isMet, trigger, register, Watch.Met]
    | some s => simp [isMet, trigger, register, named, Watch.Met]

theorem fires_iff (h : ∃ w, c.Means w) : c.fires before now = true ↔ c.Matches before now := by
  obtain ⟨w, means⟩ := h
  rw [fires, Bool.and_eq_true]
  constructor
  · rintro ⟨enabled, met⟩
    exact ⟨enabled, w, means, (isMet_iff means).mp met⟩
  · rintro ⟨enabled, w, means, met⟩
    exact ⟨enabled, (isMet_iff means).mpr met⟩

end Breakpoint

/-! ## What is kept of the past -/

/-- The last `n` entries, with one more behind them. -/
theorem History.drop_rtake_concat {α : Type} (n : Nat) (xs : List α) (x : α) :
    (xs.rtake n ++ [x]).drop ((xs.rtake n).length + 1 - n) = (xs ++ [x]).rtake n := by
  rw [List.rtake, List.rtake, List.length_drop, List.length_append, List.length_singleton,
    ← List.drop_append_of_le_length (Nat.sub_le _ _), List.drop_drop]
  congr 1
  omega

namespace Debugger

variable {limit : Nat} {d e : Debugger} {told : List Moment} {now : Moment} {x : Call}

/-- The snapshot of a call. -/
def Call.moment? : Call → Option Moment
  | .snapshot now => some now
  | _ => none

/-- What a debugger that was told of moments still knows: the registers of the last one, and the last
instructions since a reset, as many as it keeps. -/
structure Remembers (limit : Nat) (told : List Moment) (d : Debugger) : Prop where
  before : d.before = told.getLast?.map (·.state)
  room : d.history.limit = limit
  history : d.history.toList = (told.rtakeWhile (·.operation.isSome)).rtake limit

theorem Remembers.fresh (limit : Nat) : Remembers limit [] (.fresh limit) := by
  refine ⟨rfl, rfl, ?_⟩
  rw [List.rtakeWhile_nil, List.rtake_nil]
  exact History.toList_empty limit

theorem Remembers.observe (h : Remembers limit told d) (now : Moment) :
    Remembers limit (told ++ [now]) (d.observe now).1 := by
  have last : some now.state = (told ++ [now]).getLast?.map (·.state) := by
    rw [List.getLast?_concat]
    rfl
  cases operation : now.operation with
  | none =>
    rw [observe_of_blank operation]
    refine ⟨last, h.room, ?_⟩
    rw [List.rtakeWhile_concat_neg _ _ _ (by simp [operation]), List.rtake_nil]
    exact History.toList_clear _
  | some o =>
    rw [observe_of_executed operation]
    refine ⟨last, (History.limit_push ..).trans h.room, ?_⟩
    rw [List.rtakeWhile_concat_pos _ _ _ (by simp [operation]), ← History.drop_rtake_concat, ← h.history,
      ← h.room]
    exact History.toList_push ..

/-- A call that is no snapshot changes the list only. -/
theorem call_of_edit (h : x.moment? = none) : ∃ breakpoints, d.call x = { d with breakpoints } := by
  cases x with
  | snapshot _ => cases h
  | add c =>
    rw [call, add]
    split <;> exact ⟨_, rfl⟩
  | replace _ _ | remove _ => exact ⟨_, rfl⟩

theorem Remembers.call (h : Remembers limit told d) (x : Call) :
    Remembers limit (told ++ x.moment?.toList) (d.call x) := by
  cases hx : x.moment? with
  | none =>
    obtain ⟨breakpoints, e⟩ := call_of_edit (d := d) hx
    rw [e, Option.toList_none, List.append_nil]
    exact ⟨h.before, h.room, h.history⟩
  | some now =>
    cases x with
    | snapshot _ =>
      cases hx
      exact h.observe now
    | _ => cases hx

theorem Remembers.calls (h : Remembers limit told d) (xs : List Call) :
    Remembers limit (told ++ xs.filterMap Call.moment?) (d.calls xs) := by
  induction xs generalizing d told with
  | nil => rwa [List.filterMap_nil, List.append_nil]
  | cons x xs ih =>
    have parts : (x :: xs).filterMap Call.moment? = x.moment?.toList ++ xs.filterMap Call.moment? := by
      cases hx : x.moment? with
      | none => exact List.filterMap_cons_none hx
      | some now => exact List.filterMap_cons_some hx
    rw [parts, ← List.append_assoc]
    exact ih (h.call x)

/-- Whether the debugger runs on the caller's thread plays no part. -/
theorem call_withRunning (d : Debugger) (running : Bool) (x : Call) :
    ∃ running', { d with running }.call x = { d.call x with running := running' } := by
  cases x with
  | snapshot now =>
    simp only [call, observe]
    split <;> exact ⟨running, rfl⟩
  | add c =>
    simp only [call, add]
    split <;> exact ⟨running, rfl⟩
  | replace _ _ | remove _ => exact ⟨running, rfl⟩

theorem calls_withRunning (d : Debugger) (running : Bool) (xs : List Call) :
    ∃ running', { d with running }.calls xs = { d.calls xs with running := running' } := by
  induction xs generalizing d running with
  | nil => exact ⟨running, rfl⟩
  | cons x xs ih =>
    obtain ⟨running', e⟩ := call_withRunning d running x
    obtain ⟨running'', e'⟩ := ih (d.call x) running'
    refine ⟨running'', ?_⟩
    rw [calls, List.foldl_cons, e]
    exact e'

end Debugger

/-! ## The machine -/

namespace Machine

variable {m n : Machine} {limit : Nat} {before : Option Registers} {now : Moment}
  {xs : List Debugger.Call}

/-- The machine after a call of its debugger. A snapshot is told to all listeners. -/
def callDebugger (m : Machine) : Debugger.Call → Machine
  | .snapshot now => m.tell (.snapshot now)
  | x => { m with debugger := m.debugger.call x }

/-- The machine after calls of its debugger, one after the other. -/
def callsDebugger (m : Machine) (xs : List Debugger.Call) : Machine := xs.foldl callDebugger m

/-- A call does to the debugger what it does to one alone, but for a listener that ends its run. -/
theorem debugger_call (m : Machine) (x : Debugger.Call) :
    ∃ running, (m.callDebugger x).debugger = { m.debugger.call x with running } := by
  cases x with
  | snapshot now =>
    obtain ⟨running, stopAfter, e⟩ := tell_snapshot m now
    exact ⟨running, by rw [callDebugger, e]; rfl⟩
  | add _ | replace _ _ | remove _ => exact ⟨_, rfl⟩

theorem debugger_calls (m : Machine) (xs : List Debugger.Call) :
    ∃ running, (m.callsDebugger xs).debugger = { m.debugger.calls xs with running } := by
  induction xs generalizing m with
  | nil => exact ⟨_, rfl⟩
  | cons x xs ih =>
    obtain ⟨running, e⟩ := debugger_call m x
    obtain ⟨running', e'⟩ := ih (m.callDebugger x)
    obtain ⟨running'', e''⟩ := Debugger.calls_withRunning (m.debugger.call x) running xs
    refine ⟨running', e'.trans ?_⟩
    rw [e, e'']
    rfl

/-- What the snapshot of an instruction does: the first condition in the list that matches is the hit and
closes the gate. Without one, both stay as they are. -/
inductive Judges (before : Option Registers) (now : Moment) (m n : Machine) : Prop where
  | first {front : List Breakpoint} {c : Breakpoint} {back : List Breakpoint} :
    m.debugger.breakpoints = front ++ c :: back → (∀ e ∈ front, ¬ e.Matches before now) →
    c.Matches before now → n.debugger.hit = some c → n.cpu.gate = m.cpu.gate.setPolicy true →
    Judges before now m n
  | none : (∀ e ∈ m.debugger.breakpoints, ¬ e.Matches before now) →
    n.debugger.hit = m.debugger.hit → n.cpu.gate = m.cpu.gate → Judges before now m n

theorem judges_of_operation {o : Operation} (executed : now.operation = some o)
    (means : ∀ c ∈ m.debugger.breakpoints, ∃ w, c.Means w) :
    m.Judges m.debugger.before now (m.tell (.snapshot now)) := by
  obtain ⟨running, stopAfter, e⟩ := tell_snapshot m now
  have observed := Debugger.observe_of_executed (d := m.debugger) executed
  cases found : m.debugger.firstMatch? now with
  | none =>
    refine .none (fun c hc matched => ?_) ?_ ?_
    · exact List.find?_eq_none.mp found c hc ((Breakpoint.fires_iff (means c hc)).mpr matched)
    · rw [e, observed, found]
      rfl
    · rw [e, observed, found]
      exact (Bool.or_false _).symm ▸ Gate.setPolicy_self _
  | some c =>
    obtain ⟨fires, front, back, parts, earlier⟩ := List.find?_eq_some_iff_append.mp found
    have held {e : Breakpoint} (he : e ∈ front ++ c :: back) : ∃ w, e.Means w := means e (parts ▸ he)
    refine .first parts (fun e he matched => ?_) ?_ ?_ ?_
    · have quiet := earlier e he
      rw [(Breakpoint.fires_iff (held (List.mem_append_left _ he))).mpr matched] at quiet
      cases quiet
    · exact (Breakpoint.fires_iff (held (by simp))).mp fires
    · rw [e, observed, found]
      rfl
    · rw [e, observed, found]
      simp

theorem Judges.shouldWait_iff (h : m.Judges before now n) : n.cpu.gate.shouldWait = true ↔
    m.cpu.gate.shouldWait = true ∨ ∃ c ∈ m.debugger.breakpoints, c.Matches before now := by
  cases h with
  | first parts _ matched _ gate =>
    rw [gate, parts]
    exact iff_of_true rfl (.inr ⟨_, List.mem_append_right _ (List.mem_cons_self ..), matched⟩)
  | none unmatched _ gate =>
    rw [gate]
    exact (or_iff_left fun ⟨c, hc, matched⟩ => unmatched c hc matched).symm

/-- A change of the list and the snapshot of a reset leave the gate and the hit as they are. -/
theorem callDebugger_of_blank {x : Debugger.Call}
    (blank : ∀ now, x.moment? = some now → now.operation = none) :
    (m.callDebugger x).cpu.gate = m.cpu.gate ∧ (m.callDebugger x).debugger.hit = m.debugger.hit := by
  cases hx : x.moment? with
  | none =>
    obtain ⟨running, called⟩ := debugger_call m x
    obtain ⟨breakpoints, edited⟩ := Debugger.call_of_edit (d := m.debugger) hx
    rw [called, edited]
    cases x with
    | snapshot _ => cases hx
    | _ => exact ⟨rfl, rfl⟩
  | some now =>
    cases x with
    | snapshot _ =>
      cases hx
      obtain ⟨running, stopAfter, told⟩ := tell_snapshot m now
      rw [callDebugger, told, Debugger.observe_of_blank (blank now rfl)]
      exact ⟨(Bool.or_false _).symm ▸ Gate.setPolicy_self _, rfl⟩
    | _ => cases hx

/-- Calls of the debugger of a machine, one after the other, with conditions that mean something. The history
has the last snapshots of instructions since a reset, as many as it may hold, oldest first. The next snapshot
of an instruction closes the gate exactly if an enabled condition in the list matches it, with the registers of
the snapshot right before it, and the first such one is the hit. What is no snapshot of an instruction leaves
the gate and the hit as they are. -/
theorem judges_snapshots (fresh : m.debugger = .fresh limit)
    (means : ∀ x ∈ xs, ∀ c, x.put? = some c → ∃ w, c.Means w) :
    let told := xs.filterMap Debugger.Call.moment?
    let before := told.getLast?.map (·.state)
    let called := m.callsDebugger xs
    called.debugger.history.toList = (told.rtakeWhile (·.operation.isSome)).rtake limit ∧
    (∀ now o, now.operation = some o →
      let n := called.callDebugger (.snapshot now)
      (n.cpu.gate.shouldWait = true ↔ called.cpu.gate.shouldWait = true ∨
        ∃ c ∈ called.debugger.breakpoints, c.Matches before now) ∧
      called.Judges before now n) ∧
    ∀ x, (∀ now, x.moment? = some now → now.operation = none) →
      (called.callDebugger x).cpu.gate = called.cpu.gate ∧
      (called.callDebugger x).debugger.hit = called.debugger.hit := by
  intro told before called
  obtain ⟨running, e⟩ := debugger_calls m xs
  rw [fresh] at e
  have remembers := (Debugger.Remembers.fresh limit).calls xs
  have list : ∀ c ∈ called.debugger.breakpoints, ∃ w, c.Means w := by
    rw [e]
    exact Debugger.forall_calls (d := .fresh limit) nofun means
  have past : called.debugger.before = before := by
    rw [e]
    exact remembers.before
  refine ⟨by rw [e]; exact remembers.history, fun now o executed => ?_, fun x blank => ?_⟩
  · have judges := judges_of_operation executed list
    rw [past] at judges
    exact ⟨judges.shouldWait_iff, judges⟩
  · exact callDebugger_of_blank blank

/-- The snapshot of an instruction that has put five into the first register. -/
def loadMoment : Moment :=
  ⟨{ Registers.initial with pc := 0x202, v := RegisterFile.zero.set 0 5 }, Opcode.operation? 0x6005, 1, false,
    none, []⟩

/-- A reset, and two breakpoints: for a change of the first register, and for an address. -/
def watchedCalls : List Debugger.Call :=
  [.snapshot ⟨.initial, none, 0, false, none, []⟩,
    .add ⟨.registerChange, .null, .null, .text "V0", .bool true⟩, .add (breakpointAt 0x202)]

/-- The instruction closes the gate. -/
theorem judges_watchedCalls :
    let m := (default : Machine).callsDebugger watchedCalls
    m.Judges (some .initial) loadMoment (m.callDebugger (.snapshot loadMoment)) ∧
    (m.callDebugger (.snapshot loadMoment)).cpu.gate.shouldWait = true := by
  have change : (⟨.registerChange, .null, .null, .text "V0", .bool true⟩ : Breakpoint).Means
      (.changes (.v 0)) := ⟨rfl, "V0", rfl, rfl⟩
  have address : (breakpointAt 0x202).Means (.counter 0x202) := ⟨rfl, rfl⟩
  have means : ∀ x ∈ watchedCalls, ∀ c, x.put? = some c → ∃ w, c.Means w := by
    intro x hx c put
    simp only [watchedCalls, List.mem_cons, List.not_mem_nil, or_false] at hx
    rcases hx with rfl | rfl | rfl
    · cases put
    · cases put
      exact ⟨_, change⟩
    · cases put
      exact ⟨_, address⟩
  obtain ⟨o, executed⟩ : ∃ o, loadMoment.operation = some o :=
    Option.isSome_iff_exists.mp (by decide +kernel)
  obtain ⟨-, judges, -⟩ := judges_snapshots (m := default) rfl means
  obtain ⟨closes, judged⟩ := judges loadMoment o executed
  have listed : breakpointAt 0x202 ∈ ((default : Machine).callsDebugger watchedCalls).debugger.breakpoints :=
    List.mem_cons_of_mem _ (List.mem_singleton_self _)
  exact ⟨judged, closes.mpr (.inr ⟨_, listed, rfl, _, address, rfl⟩)⟩

end Machine

end Hexscope
