import Hexscope.Byte
import Hexscope.ErrorKind
import Hexscope.Gate
import Hexscope.Number
import Hexscope.Text.Lowercase

/-!
# The hexadecimal keypad

Sixteen keys, each up or down. A thread that waits for a key gets the lowest key that is down, at
once if there is one; otherwise it stays at the keypad's own gate until a press lets it through.
Keys of the host are mapped by their names in lower case. The standard map puts the keypad on the
left four columns of a keyboard, and a machine's own entries come before it.
-/

namespace Hexscope

/-- The number of a key. -/
abbrev Key := Fin 16

/-- The keys, the gate for threads that wait for a press, and the names of host keys. -/
structure Keypad where
  down : Vector Bool 16
  waiter : Gate
  names : List (Text × Key)
deriving Repr

namespace Keypad

/-- A number that is no key. -/
structure NoSuchKey where
  key : Number
deriving DecidableEq, Repr

/-- The text of a refusal. -/
def NoSuchKey.message (e : NoSuchKey) : Text := "Key " ++ e.key.text ++ " is not a CHIP-8 key (0x0-0xF)."

/-- The kind of a refusal. -/
def NoSuchKey.kind (_ : NoSuchKey) : ErrorKind := .value

instance : Failure NoSuchKey := ⟨NoSuchKey.kind, NoSuchKey.message⟩

/-- The host keys of the standard map. -/
def standardNames : List (Text × Key) :=
  [("x", 0x0), ("1", 0x1), ("2", 0x2), ("3", 0x3), ("q", 0x4), ("w", 0x5), ("e", 0x6), ("a", 0x7),
   ("s", 0x8), ("d", 0x9), ("z", 0xA), ("c", 0xB), ("4", 0xC), ("r", 0xD), ("f", 0xE), ("v", 0xF)]

/-- The key with a number. -/
def key? (k : Int) : Except NoSuchKey Key :=
  if h : 0 ≤ k ∧ k < 16 then .ok ⟨k.toNat, toNat_lt_sixteen h⟩ else .error ⟨k⟩

/-- Replaces the entry of a name, or adds one at the end. -/
def assign (entries : List (Text × α)) (name : Text) (value : α) : List (Text × α) :=
  if entries.any (·.1 = name) then
    entries.map fun e => if e.1 = name then (name, value) else e
  else entries ++ [(name, value)]

/-- A map with other entries, whose names are put in lower case. A later entry replaces an earlier one of
the same name. -/
def assignAll (entries others : List (Text × α)) : List (Text × α) :=
  others.foldl (fun m e => assign m e.1.lowercase e.2) entries

/-- The standard map with entries of one's own. -/
def namesWith (own : List (Text × Int)) : List (Text × Int) :=
  assignAll (standardNames.map fun e => (e.1, (e.2 : Int))) own

/-- All keys are up and nobody waits. -/
def idle (names : List (Text × Key)) : Keypad :=
  ⟨Vector.replicate 16 false, Gate.ofPolicy false, names⟩

instance : Inhabited Keypad := ⟨idle standardNames⟩

/-- A keypad with host keys of one's own besides the standard ones. All must name a key. -/
def ofNames? (own : List (Text × Int)) : Except NoSuchKey Keypad := do
  let names ← (namesWith own).mapM fun e => do return (e.1, ← key? e.2)
  return idle names

/-- Whether a key is down. -/
def isDown (p : Keypad) (k : Key) : Bool := p.down[k]

/-- Whether the key with a number is down. Other numbers are no keys, so none of them is. -/
def isPressed (p : Keypad) (k : Int) : Bool :=
  match key? k with
  | .ok k => p.isDown k
  | .error _ => false

/-- The keys that are down, in ascending order. -/
def pressed (p : Keypad) : List Key := (List.finRange 16).filter p.isDown

/-- The lowest key that is down. -/
def first? (p : Keypad) : Option Key := (List.finRange 16).find? p.isDown

/-- A key goes down, and the threads that wait for one are let through. The answer tells how many
they were. -/
def press (p : Keypad) (k : Key) : Keypad × Nat :=
  let (waiter, n) := (p.waiter.setPolicy false).release
  ({ p with down := p.down.set k true, waiter }, n)

/-- A key goes up. -/
def release (p : Keypad) (k : Key) : Keypad := { p with down := p.down.set k false }

/-- All keys go up. -/
def releaseAll (p : Keypad) : Keypad := { p with down := Vector.replicate 16 false }

/-- A thread asks for a key: it gets the lowest one that is down, or stays. -/
def await (p : Keypad) : Keypad × Option Key :=
  match p.first? with
  | some k => (p, some k)
  | none => ({ p with waiter := (p.waiter.setPolicy true).arrive.1 }, none)

/-- The key that a host key is mapped to. -/
def named? (p : Keypad) (name : Text) : Option Key :=
  (p.names.find? (·.1 = name.lowercase)).map (·.2)

/-- Whether a thread waits for a key. -/
def isWaiting (p : Keypad) : Bool := p.waiter.isWaiting

variable {p : Keypad} {k : Key}

/-- The key that a thread gets is the lowest one that is down. -/
theorem first?_eq_some_iff : p.first? = some k ↔
    p.isDown k = true ∧ ∀ j < k, p.isDown j = false := by
  rw [first?, List.find?_eq_some_iff_getElem]
  refine and_congr_right fun _ => ?_
  constructor
  · rintro ⟨i, hi, here, before⟩ j hj
    rw [List.getElem_finRange] at here
    have same : k.val = i := congrArg Fin.val here.symm
    have lower := before j.val (by rw [← same]; exact hj)
    rw [List.getElem_finRange] at lower
    simpa using lower
  · intro before
    refine ⟨k.val, by simp, List.getElem_finRange .., fun j hj => ?_⟩
    rw [List.getElem_finRange]
    simpa using before ⟨j, by omega⟩ hj

theorem first?_eq_none_iff : p.first? = none ↔ ∀ j, p.isDown j = false := by
  simp [first?]

theorem isDown_press (p : Keypad) (j k : Key) :
    (p.press k).1.isDown j = (decide (j = k) || p.isDown j) := by
  simp only [press, isDown, Fin.getElem_fin, Vector.getElem_set, Fin.ext_iff, eq_comm (a := k.val)]
  split
  · rename_i same
    rw [decide_eq_true same, Bool.true_or]
  · rename_i other
    rw [decide_eq_false other, Bool.false_or]

/-- The only key that is down is the one that a thread gets. -/
theorem first?_press (up : ∀ j, p.isDown j = false) (k : Key) : (p.press k).1.first? = some k := by
  refine first?_eq_some_iff.mpr ⟨?_, fun j lower => ?_⟩
  · rw [isDown_press, decide_eq_true rfl, Bool.true_or]
  · rw [isDown_press, decide_eq_false (Fin.ne_of_lt lower), up j, Bool.false_or]

/-- After a press some key is down. -/
theorem exists_first?_press (p : Keypad) (k : Key) : ∃ j, (p.press k).1.first? = some j := by
  refine Option.ne_none_iff_exists'.mp fun up => ?_
  have here := (isDown_press p k k).symm.trans (first?_eq_none_iff.mp up k)
  rw [decide_eq_true rfl] at here
  cases here

@[simp] theorem isDown_await (p : Keypad) (j : Key) : p.await.1.isDown j = p.isDown j := by
  unfold await
  split <;> rfl

theorem isDown_release (p : Keypad) (j k : Key) :
    (p.release k).isDown j = (!decide (j = k) && p.isDown j) := by
  simp only [release, isDown, Fin.getElem_fin, Vector.getElem_set, Fin.ext_iff, eq_comm (a := k.val)]
  split
  · rename_i same
    rw [decide_eq_true same, Bool.not_true, Bool.false_and]
  · rename_i other
    rw [decide_eq_false other, Bool.not_false, Bool.true_and]

theorem isDown_releaseAll (p : Keypad) (j : Key) : p.releaseAll.isDown j = false := by
  simp [releaseAll, isDown]

end Keypad

end Hexscope
