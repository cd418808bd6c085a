import Hexscope.Value
import Hexscope.Proofs.Results
import Mathlib.Algebra.Ring.Nat

/-!
# Values that cannot be shown

An integer of more than 4300 digits is not printed, and a value in which such an integer stands is not shown
either. Neither is one that is nested deeper than there is room for: each value inside another one takes up a
level. A knot inside itself is elided, so only the knots around a part that are not open yet count.

* `Text.Integer.text?_eq_none_iff`: the integers that are too long;
* `Value.Hidden`: the values in which such an integer stands, or that are too deep, with the room that there is;
* `Value.quoted_eq_error_iff`, `Value.shown_eq_error_iff`: these are the ones that cannot be shown.
-/

namespace Hexscope

namespace Text.Integer

theorem length_toString_le_iff (n k : Nat) (positive : 0 < k) :
    (toString n).length ≤ k ↔ n < 10 ^ k := by
  rw [Nat.toString_eq_ofList_toDigits, String.length_ofList]
  exact Nat.length_toDigits_le_iff (by decide) positive

theorem length_toString (n : Int) :
    (toString n).length = (if n < 0 then 1 else 0) + (toString n.natAbs).length := by
  rw [Int.toString_eq_repr, Int.repr_eq_if]
  by_cases negative : n < 0
  · rw [if_neg (by omega), if_pos negative, String.length_append,
      show (-n).toNat = n.natAbs by omega]
    rfl
  · rw [if_pos (by omega), if_neg negative, show n.toNat = n.natAbs by omega, Nat.zero_add]
    rfl

/-- An integer is too long to be printed if it has more than the most digits. -/
theorem text?_eq_none_iff {n : Int} : text? n = none ↔ 10 ^ maxDecimalDigits ≤ n.natAbs := by
  rw [← Nat.not_lt, ← length_toString_le_iff _ _ (by decide)]
  simp only [text?, length_toString, Nat.add_lt_add_iff_left, ite_eq_left_iff, reduceCtorEq, imp_false,
    Nat.not_le, Nat.not_lt]

end Text.Integer

namespace Value

/-- In a value stands an integer that is too long to be shown, or it has no room. The knots around the value are
elided in it. -/
inductive Hidden : (around : List Nat) → (room : Nat) → Value → Prop where
  | deep {around v} : Hidden around 0 v
  | int {around room n} (long : 10 ^ Text.Integer.maxDecimalDigits ≤ n.natAbs) :
    Hidden around (room + 1) (.int n)
  | date {around room d t} (deep : room < Calendar.inner t) : Hidden around (room + 1) (.date d t)
  | first {around room v w} (inside : Hidden around room v) : Hidden around (room + 1) (.pair v w)
  | second {around room v w} (inside : Hidden around room w) : Hidden around (room + 1) (.pair v w)
  | item {around room v items} (mem : v ∈ items) (inside : Hidden around room v) :
    Hidden around (room + 1) (.list items)
  /-- The members of a set are shown as a list. -/
  | members {around m ms} : Hidden around 1 (.set (m :: ms))
  | member {around room v members} (mem : v ∈ members) (inside : Hidden around room v) :
    Hidden around (room + 2) (.set members)
  | key {around room e entries} (mem : e ∈ entries) (inside : Hidden around room e.1) :
    Hidden around (room + 1) (.mapping entries)
  | value {around room e entries} (mem : e ∈ entries) (inside : Hidden around room e.2) :
    Hidden around (room + 1) (.mapping entries)
  | knot {around room n v} (fresh : n ∉ around) (inside : Hidden (n :: around) (room + 1) v) :
    Hidden around (room + 1) (.knot n v)

section

variable {around : List Nat} {room : Nat} {v w : Value}

theorem hidden_int_iff {n : Int} : Hidden around (room + 1) (.int n) ↔
    10 ^ Text.Integer.maxDecimalDigits ≤ n.natAbs :=
  ⟨fun | .int long => long, .int⟩

theorem hidden_date_iff {d : CalendarDay} {t : Option ClockTime} :
    Hidden around (room + 1) (.date d t) ↔ room < Calendar.inner t :=
  ⟨fun | .date deep => deep, .date⟩

theorem hidden_pair_iff : Hidden around (room + 1) (.pair v w) ↔ Hidden around room v ∨ Hidden around room w :=
  ⟨fun | .first inside => .inl inside | .second inside => .inr inside, fun | .inl h => .first h | .inr h => .second h⟩

theorem hidden_list_iff {items : List Value} :
    Hidden around (room + 1) (.list items) ↔ ∃ v ∈ items, Hidden around room v :=
  ⟨fun | .item mem inside => ⟨_, mem, inside⟩, fun ⟨_, mem, inside⟩ => .item mem inside⟩

theorem hidden_set_iff {members : List Value} :
    Hidden around (room + 2) (.set members) ↔ ∃ v ∈ members, Hidden around room v :=
  ⟨fun | .member mem inside => ⟨_, mem, inside⟩, fun ⟨_, mem, inside⟩ => .member mem inside⟩

theorem hidden_mapping_iff {entries : List (Value × Value)} : Hidden around (room + 1) (.mapping entries) ↔
    ∃ e ∈ entries, Hidden around room e.1 ∨ Hidden around room e.2 :=
  ⟨fun
    | .key mem inside => ⟨_, mem, .inl inside⟩
    | .value mem inside => ⟨_, mem, .inr inside⟩,
   fun
    | ⟨_, mem, .inl inside⟩ => .key mem inside
    | ⟨_, mem, .inr inside⟩ => .value mem inside⟩

theorem hidden_knot_iff {n : Nat} :
    Hidden around (room + 1) (.knot n v) ↔ n ∉ around ∧ Hidden (n :: around) (room + 1) v :=
  ⟨fun | .knot fresh inside => ⟨fresh, inside⟩, fun ⟨fresh, inside⟩ => .knot fresh inside⟩

end

theorem lookup_eq_none_iff {α : Type} {around : List (Nat × α)} {n : Nat} :
    around.lookup n = none ↔ n ∉ around.map (·.1) := by
  rw [List.lookup_eq_none_iff]
  simp only [bne_iff_ne, ne_eq, List.mem_map, not_exists, not_and]
  exact forall₂_congr fun _ _ => not_congr eq_comm

mutual

/-- The values that are not shown inside other values are those that are hidden. -/
theorem quotedIn_eq_error_iff (around : List (Nat × String)) : (room : Nat) → (v : Value) →
    ((∃ e, quotedIn around room v = .error e) ↔ Hidden (around.map (·.1)) room v)
  | 0, v => iff_of_true ⟨.tooDeep, by rw [quotedIn]⟩ .deep
  | _ + 1, .null | _ + 1, .bool _ | _ + 1, .float _ | _ + 1, .text _ | _ + 1, .bytes _ | _ + 1, .again _ => by
    refine iff_of_false (fun ⟨e, h⟩ => ?_) fun h => by cases h
    simp [quotedIn] at h
  | _ + 1, .int n => by
    rw [quotedIn, hidden_int_iff, ← Text.Integer.text?_eq_none_iff]
    cases Text.Integer.text? n <;> simp
  | room + 1, .date d t => by
    rw [quotedIn, hidden_date_iff]
    split <;> simp [*]
  | room + 1, .pair v w => by
    rw [hidden_pair_iff, ← quotedIn_eq_error_iff around room v, ← quotedIn_eq_error_iff around room w, quotedIn]
    exact exists_bind_eq_error_iff fun _ => exists_bind_pure_eq_error_iff
  | room + 1, .list items => by
    rw [hidden_list_iff, ← quotedItems_eq_error_iff around room items, quotedIn]
    exact exists_bind_pure_eq_error_iff
  | _ + 1, .set [] => by
    refine iff_of_false (fun ⟨e, h⟩ => ?_) fun h => ?_
    · simp [quotedIn] at h
    · cases h with
      | member mem _ => cases mem
  | 1, .set (m :: ms) => iff_of_true ⟨.tooDeep, by rw [quotedIn]⟩ .members
  | room + 2, .set (m :: ms) => by
    rw [hidden_set_iff, ← quotedItems_eq_error_iff around room (m :: ms), quotedIn]
    exact exists_bind_pure_eq_error_iff
  | room + 1, .mapping entries => by
    rw [hidden_mapping_iff, ← quotedEntries_eq_error_iff around room entries, quotedIn]
    exact exists_bind_pure_eq_error_iff
  | room + 1, .knot n v => by
    rw [hidden_knot_iff, ← lookup_eq_none_iff, quotedIn]
    cases open? : around.lookup n with
    | some s => simp
    | none => simpa using quotedIn_eq_error_iff ((n, v.elided) :: around) (room + 1) v

theorem quotedItems_eq_error_iff (around : List (Nat × String)) (room : Nat) : (vs : List Value) →
    ((∃ e, quotedItems around room vs = .error e) ↔ ∃ v ∈ vs, Hidden (around.map (·.1)) room v)
  | [] => by simp [quotedItems]
  | [v] => by
    rw [quotedItems, quotedIn_eq_error_iff around room v]
    simp
  | v :: w :: vs => by
    simp only [List.mem_cons (a := _) (b := v), exists_eq_or_imp]
    rw [← quotedIn_eq_error_iff around room v, ← quotedItems_eq_error_iff around room (w :: vs), quotedItems]
    exact exists_bind_eq_error_iff fun _ => exists_bind_pure_eq_error_iff

theorem quotedEntries_eq_error_iff (around : List (Nat × String)) (room : Nat) : (es : List (Value × Value)) →
    ((∃ e, quotedEntries around room es = .error e) ↔
      ∃ e ∈ es, Hidden (around.map (·.1)) room e.1 ∨ Hidden (around.map (·.1)) room e.2)
  | [] => by simp [quotedEntries]
  | [(k, v)] => by
    simp only [List.mem_singleton, exists_eq_left]
    rw [← quotedIn_eq_error_iff around room k, ← quotedIn_eq_error_iff around room v, quotedEntries]
    exact exists_bind_eq_error_iff fun _ => exists_bind_pure_eq_error_iff
  | (k, v) :: e :: es => by
    simp only [List.mem_cons (a := _) (b := (k, v)), exists_eq_or_imp]
    rw [← quotedIn_eq_error_iff around room k, ← quotedIn_eq_error_iff around room v,
      ← quotedEntries_eq_error_iff around room (e :: es), quotedEntries, or_assoc]
    exact exists_bind_eq_error_iff fun _ => exists_bind_eq_error_iff fun _ => exists_bind_pure_eq_error_iff

end

theorem quoted_eq_error_iff {room : Nat} {v : Value} : (∃ e, v.quoted room = .error e) ↔ Hidden [] room v :=
  quotedIn_eq_error_iff [] room v

/-- A value is not shown by itself. Text and dates are shown as they are. -/
def Unseen (room : Nat) : Value → Prop
  | .text _ | .date .. => False
  | v => Hidden [] room v

theorem shown_eq_error_iff {room : Nat} {v : Value} : (∃ e, v.shown room = .error e) ↔ v.Unseen room := by
  have quoted {v : Value} : (∃ e, (v.quoted room).map Text.ofString = .error e) ↔ Hidden [] room v := by
    rw [← quoted_eq_error_iff]
    cases v.quoted room <;> simp [Except.map]
  cases v with
  | text s => exact iff_of_false (fun ⟨_, h⟩ => by cases h) id
  | date d t => cases t <;> exact iff_of_false (fun ⟨_, h⟩ => by cases h) id
  | _ => exact quoted

end Value

end Hexscope
