import Hexscope.Proofs.Debugger.Watch
import Hexscope.Proofs.Text.Numeral

/-!
# Conditions that look for nothing

A condition may lack a field that its trigger uses, or call a register by a name that none has. Such a
condition is never met, with one exception: a register that does not exist has no value, and if the condition
has no value either, the two are the same at every moment.

* `RegisterName.named?_eq_some_iff`: which names denote which registers;
* `Breakpoint.isMet_iff_of_incomplete`: when an incomplete condition is met;
* `Debugger.incomplete_fires_iff`: after any calls, which incomplete conditions fire, and which are hit;
* `Debugger.absent_fires`: one that fires.
-/

namespace Hexscope

/-! ## Digits -/

namespace Text

open Integer (plain plainChar)

/-- A character names the register whose number it is as a hexadecimal digit. -/
theorem digit?_eq_plain (c : Char) :
    Registers.digit? c = (Integer.digit? 16 (plainChar c)).map (Fin.ofNat 16) := by
  unfold plainChar
  by_cases ascii : c.toNat < 127
  · have all : ∀ k < 127, Registers.digit? (Char.ofNat k) =
        (Integer.digit? 16 (Char.ofNat k)).map (Fin.ofNat 16) := by
      decide +kernel
    rw [if_pos ascii]
    exact forall_ascii (p := fun c => Registers.digit? c = (Integer.digit? 16 c).map (Fin.ofNat 16)) all ascii
  · have notSmall : ¬ ('a' ≤ c ∧ c ≤ 'f') := fun h => ascii (Nat.lt_of_le_of_lt h.2 (by decide))
    have notCapital : ¬ ('A' ≤ c ∧ c ≤ 'F') := fun h => ascii (Nat.lt_of_le_of_lt h.2 (by decide))
    rw [if_neg ascii]
    cases value : DecimalDigit.value? c with
    | none =>
      simp only [Registers.digit?, value, if_neg notSmall, if_neg notCapital]
      split <;> decide
    | some d =>
      have notBlank : ¬ wideBlanks.contains c.toNat = true := fun blank => by
        rw [value?_of_wideBlank blank] at value
        cases value
      have digits : ∀ d < 10, (if h : d < 16 then some (⟨d, h⟩ : Register) else none) =
          (Integer.digit? 16 (Char.ofNat (48 + d))).map (Fin.ofNat 16) := by
        decide
      rw [if_neg notBlank]
      simp only [Registers.digit?, value]
      exact digits d (DecimalDigit.value?_lt value)

theorem digit?_eq_some_iff {c : Char} {x : Register} :
    Registers.digit? c = some x ↔ Integer.hexadecimal? ⟨[.char c]⟩ = some (x.val : Int) := by
  rw [digit?_eq_plain, Integer.hexadecimal?_singleton]
  cases h : Integer.digit? 16 (plainChar c) with
  | none => simp [Integer.plain, h]
  | some d =>
    have lt := Integer.digit?_lt h
    simp only [Integer.plain, h, Option.map_some, Option.some.injEq]
    constructor
    · rintro rfl
      simp [Fin.ofNat, Nat.mod_eq_of_lt lt]
    · intro e
      have val : d = x.val := Int.ofNat.inj e
      exact Fin.ext (by simp [Fin.ofNat, val])

theorem points_of_chars? {ps : List CodePoint} {cs : List Char} (h : ps.mapM CodePoint.char? = some cs) :
    ps = cs.map .char := by
  induction ps generalizing cs with
  | nil =>
    cases h
    rfl
  | cons p ps ih =>
    simp only [List.mapM_cons, Option.bind_eq_bind, Option.bind_eq_some_iff, Option.pure_def,
      Option.some.injEq] at h
    obtain ⟨c, first, ds, rest, rfl⟩ := h
    cases p with
    | char d =>
      cases first
      rw [List.map_cons, ih rest]
    | half _ => cases first

theorem string?_eq_some_iff {s : Text} {t : String} : s.string? = some t ↔ s = t := by
  constructor
  · intro h
    obtain ⟨cs, chars, rfl⟩ := Option.map_eq_some_iff.mp h
    obtain ⟨points⟩ := s
    rw [ofString, String.toList_ofList]
    exact congrArg Text.mk (points_of_chars? chars)
  · rintro rfl
    exact string?_ofString t

end Text

/-! ## Names -/

namespace RegisterName

variable {name : Text} {r : RegisterName} {s : Registers} {n : Int}

/-- What a name in any case denotes. The digit of one of the sixteen registers is any that a hexadecimal
numeral may have, so it may be of any script. -/
def Denotes (name : Text) : RegisterName → Prop
  | .v x => ∃ p, name.lowercase.points = [.char 'v', p] ∧
      Text.Integer.hexadecimal? ⟨[p]⟩ = some (x.val : Int)
  | r => name.lowercase = r.spelled

/-- A name has the value of the register that it denotes. -/
theorem named?_eq_some_iff : s.named? name = some n ↔ ∃ r, Denotes name r ∧ r.valueIn s = n := by
  constructor
  · intro h
    unfold Registers.named? at h
    dsimp only at h
    split at h
    · rename_i c points
      obtain ⟨x, digit, value⟩ := Option.map_eq_some_iff.mp h
      exact ⟨.v x, ⟨.char c, points, Text.digit?_eq_some_iff.mp digit⟩, value⟩
    · rename_i word _
      exact ⟨.pc, Text.string?_eq_some_iff.mp word, Option.some.inj h⟩
    · rename_i word _
      exact ⟨.sp, Text.string?_eq_some_iff.mp word, Option.some.inj h⟩
    · rename_i word _
      exact ⟨.i, Text.string?_eq_some_iff.mp word, Option.some.inj h⟩
    · rename_i word _
      exact ⟨.delay, Text.string?_eq_some_iff.mp word, Option.some.inj h⟩
    · rename_i word _
      exact ⟨.sound, Text.string?_eq_some_iff.mp word, Option.some.inj h⟩
    · cases h
  · rintro ⟨r, denotes, rfl⟩
    cases r with
    | v x =>
      obtain ⟨p, points, digit⟩ := denotes
      cases p with
      | char c =>
        unfold Registers.named?
        dsimp only
        rw [points]
        simp only [Text.digit?_eq_some_iff.mpr digit]
        rfl
      | half k =>
        rw [Text.Integer.hexadecimal?_singleton] at digit
        cases digit
    | _ => exact named?_of_spelled denotes s

theorem named?_eq_none_iff : s.named? name = none ↔ ∀ r, ¬ Denotes name r := by
  rw [Option.eq_none_iff_forall_ne_some]
  constructor
  · intro h r denotes
    exact h _ (named?_eq_some_iff.mpr ⟨r, denotes, rfl⟩)
  · intro h n named
    obtain ⟨r, denotes, -⟩ := named?_eq_some_iff.mp named
    exact h r denotes

end RegisterName

/-! ## Conditions -/

theorem Value.isSame_null_iff {v : Value} : v.isSame .null = true ↔ v = .null := by
  cases v with
  | null => exact iff_of_true rfl rfl
  | float x => cases x <;> simp [isSame, sameKey, fraction?, number?]
  | _ => simp [isSame, sameKey, fraction?, number?]

theorem Value.isSame_null_int (n : Int) : Value.isSame .null (.int n) = false := rfl

namespace Breakpoint

variable {c : Breakpoint} {before : Option Registers} {now : Moment} {name : Text} {s : Registers}

/-- A condition without the name of a register, or with a text that no register is called. -/
def LacksRegister (c : Breakpoint) : Prop :=
  c.register = .null ∨ ∃ name, c.register = .text name ∧ ∀ r, ¬ RegisterName.Denotes name r

/-- A condition that lacks a field that its trigger uses. -/
def Incomplete (c : Breakpoint) : Prop :=
  match c.trigger with
  | .pcMatch => c.value = .null
  | .memoryRead | .memoryWrite => c.address = .null
  | .registerValue => c.value = .null ∨ c.LacksRegister
  | .registerChange => c.LacksRegister

/-- A condition that compares a register that does not exist with a value that is missing. -/
def SeeksNothing (c : Breakpoint) : Prop :=
  c.trigger = .registerValue ∧ c.value = .null ∧
    ∃ name, c.registerName? = some name ∧ ∀ r, ¬ RegisterName.Denotes name r

/-- If such a condition names a register at all, then by a text that denotes none. -/
theorem LacksRegister.unknown (h : c.LacksRegister) (named : c.registerName? = some name)
    (r : RegisterName) : ¬ RegisterName.Denotes name r := by
  unfold registerName? at named
  rcases h with missing | ⟨given, register, unknown⟩
  · rw [missing] at named
    cases named
  · rw [register] at named
    dsimp only at named
    split at named
    · cases named
    · exact Option.some.inj named ▸ unknown r

/-- A text that denotes no register has no value, and only such a one. -/
theorem valueOf_eq_null_iff : valueOf name s = .null ↔ ∀ r, ¬ RegisterName.Denotes name r := by
  rw [← RegisterName.named?_eq_none_iff (s := s), valueOf]
  cases s.named? name with
  | none => exact iff_of_true rfl rfl
  | some n => simp

theorem isSame_null_valueOf : Value.isSame .null (valueOf name s) = true ↔ valueOf name s = .null := by
  unfold valueOf
  cases s.named? name with
  | none => exact iff_of_true rfl rfl
  | some n => simp [Value.isSame_null_int]

/-- Where the value or the register is missing, the two are the same only if both are. -/
theorem isSame_valueOf_iff (h : c.value = .null ∨ c.LacksRegister) (named : c.registerName? = some name) :
    c.value.isSame (valueOf name s) = true ↔ c.value = .null ∧ ∀ r, ¬ RegisterName.Denotes name r := by
  rcases h with value | lacks
  · rw [value, isSame_null_valueOf, valueOf_eq_null_iff]
    exact (and_iff_right rfl).symm
  · have unknown := lacks.unknown named
    rw [valueOf_eq_null_iff.mpr unknown, Value.isSame_null_iff]
    exact (and_iff_left unknown).symm

theorem accessed_of_null (missing : c.address = .null) (d : Direction) : c.accessed d now = false := by
  rw [accessed, missing]
  exact List.any_eq_false.mpr fun n _ => by simp [Value.isSame_null_int]

/-- An incomplete condition is met only if it compares nothing with nothing, and then at every moment. -/
theorem isMet_iff_of_incomplete (h : c.Incomplete) : c.isMet before now = true ↔ c.SeeksNothing := by
  unfold Incomplete at h
  unfold isMet SeeksNothing
  cases trigger : c.trigger with
  | pcMatch =>
    rw [trigger] at h
    refine iff_of_false ?_ (by simp)
    rw [show c.value = .null from h]
    exact Bool.false_ne_true
  | memoryRead | memoryWrite =>
    rw [trigger] at h
    exact iff_of_false (Bool.eq_false_iff.mp (accessed_of_null h _)) (by simp)
  | registerValue =>
    rw [trigger] at h
    cases named : c.registerName? with
    | none => simp
    | some name => simp [isSame_valueOf_iff h named]
  | registerChange =>
    rw [trigger] at h
    refine iff_of_false ?_ (by simp)
    cases named : c.registerName? with
    | none => simp
    | some name =>
      have none : now.state.named? name = none :=
        RegisterName.named?_eq_none_iff.mpr (LacksRegister.unknown h named)
      cases before <;> simp [none]

theorem fires_iff_of_incomplete (h : c.Incomplete) :
    c.fires before now = true ↔ c.enabled.isTruthy = true ∧ c.SeeksNothing := by
  rw [fires, Bool.and_eq_true, isMet_iff_of_incomplete h]

end Breakpoint

/-! ## The debugger -/

namespace Debugger

variable {d : Debugger} {c : Breakpoint} {front back : List Breakpoint} {now : Moment}

/-- The debugger after a snapshot, if the list had been another one when it came. -/
def observeWith (d : Debugger) (others : List Breakpoint) (now : Moment) : Debugger × Bool :=
  let seen := { d with breakpoints := others }.observe now
  ({ seen.1 with breakpoints := d.breakpoints }, seen.2)

/-- A condition that does not fire may as well not be in the list. -/
theorem observe_of_silent (silent : c.fires d.before now = false)
    (parts : d.breakpoints = front ++ c :: back) : d.observe now = d.observeWith (front ++ back) now := by
  have found : d.firstMatch? now = { d with breakpoints := front ++ back }.firstMatch? now := by
    simp [firstMatch?, parts, List.find?_append, silent]
  unfold observeWith observe
  split
  · rfl
  · dsimp only
    rw [found]

/-- No incomplete condition is the hit, but for one that compares nothing with nothing. -/
def HitsSomething (d : Debugger) : Prop :=
  ∀ c, d.hit = some c → c.Incomplete → c.enabled.isTruthy = true ∧ c.SeeksNothing

theorem HitsSomething.call (h : d.HitsSomething) (x : Call) : (d.call x).HitsSomething := by
  cases x with
  | add e =>
    rw [Debugger.call, add]
    split <;> exact h
  | replace _ _ | remove _ => exact h
  | snapshot now =>
    rw [Debugger.call]
    intro c hit incomplete
    cases operation : now.operation with
    | none =>
      rw [observe_of_blank operation] at hit
      exact h c hit incomplete
    | some o =>
      rw [observe_of_executed operation] at hit
      cases found : d.firstMatch? now with
      | none =>
        rw [found] at hit
        exact h c hit incomplete
      | some e =>
        rw [found] at hit
        cases hit
        have fires : c.fires d.before now = true :=
          List.find?_some (p := fun e : Breakpoint => e.fires d.before now) found
        exact (Breakpoint.fires_iff_of_incomplete incomplete).mp fires

theorem HitsSomething.calls (h : d.HitsSomething) (xs : List Call) : (d.calls xs).HitsSomething := by
  induction xs generalizing d with
  | nil => exact h
  | cons x xs ih => exact ih (h.call x)

/-- After any calls of a debugger, at every moment, an incomplete condition fires only if it compares a register
that does not exist with a value that is missing, and is hit only then. Any other incomplete condition makes no
difference: the snapshot does what it does without the condition in the list. One that does compare nothing
with nothing stops the processor at every instruction if it is enabled. -/
theorem incomplete_fires_iff (limit : Nat) (xs : List Call) (h : c.Incomplete) :
    let d := (fresh limit).calls xs
    (∀ now, c.fires d.before now = true ↔ c.enabled.isTruthy = true ∧ c.SeeksNothing) ∧
    (d.hit = some c → c.enabled.isTruthy = true ∧ c.SeeksNothing) ∧
    (¬ c.SeeksNothing → ∀ front back, d.breakpoints = front ++ c :: back →
      ∀ now, d.observe now = d.observeWith (front ++ back) now) ∧
    (c.enabled.isTruthy = true → c.SeeksNothing → c ∈ d.breakpoints →
      ∀ now o, now.operation = some o → (d.observe now).2 = true) := by
  intro d
  have hits : d.HitsSomething := HitsSomething.calls (fun _ hit => by cases hit) xs
  refine ⟨fun now => Breakpoint.fires_iff_of_incomplete h, fun hit => hits c hit h,
    fun sense front back parts now => ?_, fun enabled nothing held now o executed => ?_⟩
  · have silent : c.fires d.before now = false := Bool.eq_false_iff.mpr fun fires =>
      sense ((Breakpoint.fires_iff_of_incomplete h).mp fires).2
    exact observe_of_silent silent parts
  · have fires : c.fires d.before now = true :=
      (Breakpoint.fires_iff_of_incomplete h).mpr ⟨enabled, nothing⟩
    rw [observe_of_executed executed]
    exact List.find?_isSome.mpr ⟨c, held, fires⟩

/-- An enabled condition on the program counter, without an address to compare it with. -/
def unaddressed : Breakpoint := ⟨.pcMatch, .null, .null, .null, .bool true⟩

/-- It does not fire at the first instruction after a reset. -/
theorem unaddressed_silent :
    let d := (fresh standardLimit).calls
      [.add unaddressed, .snapshot ⟨.initial, none, 0, false, none, []⟩]
    unaddressed ∈ d.breakpoints ∧ unaddressed.fires d.before Machine.loadMoment = false ∧
    (d.observe Machine.loadMoment).2 = ((d.observeWith [] Machine.loadMoment).2) := by
  have incomplete : unaddressed.Incomplete := rfl
  have sense : ¬ unaddressed.SeeksNothing := fun sought => absurd sought.1 (by decide)
  obtain ⟨fires, -, silent, -⟩ := incomplete_fires_iff standardLimit
    [.add unaddressed, .snapshot ⟨.initial, none, 0, false, none, []⟩] incomplete
  refine ⟨List.mem_singleton_self _, ?_, ?_⟩
  · exact Bool.eq_false_iff.mpr fun h => sense ((fires _).mp h).2
  · exact congrArg Prod.snd (silent sense [] [] rfl _)

/-- An enabled condition for a register that does not exist, without a value. -/
def absent : Breakpoint := ⟨.registerValue, .null, .null, .text "q", .bool true⟩

/-- It is incomplete, fires at the first instruction, and is the hit. -/
theorem absent_fires :
    absent.Incomplete ∧ (∀ r, ¬ RegisterName.Denotes "q" r) ∧
    absent.fires (some .initial) Machine.loadMoment = true ∧
    let m := { (default : Machine) with debugger := (default : Machine).debugger.add absent }.after
      [.load [0x60, 0x05, 0x61, 0x05], .debugRun none none, .move 0]
    m.debugger.hit.map absent.isSame = some true ∧ m.cpu.gate.shouldWait = true ∧ m.threads = [] := by
  have unknown : ∀ r, ¬ RegisterName.Denotes "q" r :=
    (RegisterName.named?_eq_none_iff (s := .initial)).mp (by decide +kernel)
  exact ⟨.inl rfl, unknown, by decide +kernel, by decide +kernel⟩

end Debugger

end Hexscope
