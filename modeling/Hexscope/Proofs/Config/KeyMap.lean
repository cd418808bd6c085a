import Hexscope.Config
import Hexscope.Proofs.Results

/-!
# Key maps

The entries of a key map are checked one after the other, and each of them gives a name and a key. So a key map
is what its entries give, put into one map afterwards.

* `Config.foldlM_addKey`: checking and adding at once is checking first and adding afterwards;
* `Config.keyEntry_eq_ok_iff`: which entries are accepted.
-/

namespace Hexscope.Config

/-- The name and the key that an entry of the key map gives. -/
def keyEntry (host : Host) (entry : Value × Value) : Except Error (Text × Int) := do
  let name ← host.shown .key entry.1
  let key ← integer host (("key_map." : Text) ++ name) entry.2
  if key < 0 ∨ 15 < key then throw (.keyOutOfRange name key)
  return (name, key)

variable {host : Host}

theorem addKey_eq (m : List (Text × Int)) (entry : Value × Value) :
    addKey host m entry = (keyEntry host entry).map fun e => Keypad.assign m e.1.lowercase e.2 := by
  unfold addKey keyEntry
  cases host.shown .key entry.1 with
  | error e => rfl
  | ok name =>
    simp only [bind, Except.bind]
    cases integer host (("key_map." : Text) ++ name) entry.2 with
    | error e => rfl
    | ok key =>
      dsimp only
      split <;> rfl

/-- All entries can be checked before the first one is added. -/
theorem foldlM_addKey (m : List (Text × Int)) (entries : List (Value × Value)) :
    entries.foldlM (addKey host) m = (entries.mapM (keyEntry host)).map (Keypad.assignAll m) := by
  induction entries generalizing m with
  | nil => rfl
  | cons entry entries ih =>
    rw [List.foldlM_cons, List.mapM_cons, addKey_eq]
    cases keyEntry host entry with
    | error e => rfl
    | ok e =>
      simp only [Except.map, bind, Except.bind, ih]
      cases entries.mapM (keyEntry host) with
      | error e => rfl
      | ok es => rfl

theorem shown_eq_ok_iff {p : Place} {v : Value} {s : Text} :
    host.shown p v = .ok s ↔ v.shown (host.room p) = .ok s := by
  rw [Host.shown, mapError_eq_ok_iff]

theorem integer_eq_ok_iff {name : Text} {v : Value} {n : Int} :
    integer host name v = .ok n ↔ integer? v = some n := by
  unfold integer
  cases integer? v with
  | some m => simp
  | none => cases host.shown .integer v <;> simp [bind, Except.bind, throw, throwThe, MonadExceptOf.throw]

/-- An entry is accepted if its name can be shown and its value is the number of a key. -/
theorem keyEntry_eq_ok_iff {entry : Value × Value} {name : Text} {key : Int} :
    keyEntry host entry = .ok (name, key) ↔
      entry.1.shown (host.room .key) = .ok name ∧ integer? entry.2 = some key ∧ 0 ≤ key ∧ key ≤ 15 := by
  constructor
  · intro accepted
    obtain ⟨name', shown, accepted⟩ := exists_of_bind_eq_ok accepted
    obtain ⟨key', read, accepted⟩ := exists_of_bind_eq_ok accepted
    split at accepted
    · cases accepted
    · rename_i inRange
      cases accepted
      exact ⟨shown_eq_ok_iff.mp shown, integer_eq_ok_iff.mp read, by omega, by omega⟩
  · rintro ⟨shown, read, low, high⟩
    have inRange : ¬ (key < 0 ∨ 15 < key) := by omega
    simp only [keyEntry, shown_eq_ok_iff.mpr shown, integer_eq_ok_iff.mpr read, bind, Except.bind,
      if_neg inRange]
    rfl

end Hexscope.Config
