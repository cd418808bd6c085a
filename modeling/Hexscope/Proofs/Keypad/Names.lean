import Hexscope.Keypad
import Hexscope.Proofs.Results
import Hexscope.Proofs.Text.Lowercase
import Mathlib.Data.List.Nodup

/-!
# The names of host keys

A map from names to keys is built entry by entry. Each name has one entry at most, which is the last one that
was given under it, whatever its case was.

* `Keypad.lookup_assign`, `Keypad.lookup_assignAll`: what is found under a name;
* `Keypad.Named`: maps whose names are in lower case and different;
* `Keypad.exists_ofNames?`: the keypad of such a map of keys, and what it finds.
-/

namespace Hexscope.Keypad

variable {α : Type} {entries others : List (Text × α)} {name : Text} {value : α}

/-! ## Finding -/

theorem lookup_cons_eq (e : Text × α) (entries : List (Text × α)) (k : Text) :
    (e :: entries).lookup k = if e.1 = k then some e.2 else entries.lookup k := by
  rw [List.lookup_cons]
  by_cases same : e.1 = k
  · rw [if_pos same, beq_iff_eq.mpr same.symm]
  · rw [if_neg same, beq_eq_false_iff_ne.mpr (Ne.symm same)]

theorem find?_eq_lookup (entries : List (Text × α)) (k : Text) :
    (entries.find? (·.1 = k)).map (·.2) = entries.lookup k := by
  induction entries with
  | nil => rfl
  | cons e entries ih =>
    rw [List.find?_cons, lookup_cons_eq, ← ih]
    by_cases same : e.1 = k <;> simp [same]

theorem lookup_eq_none_iff : entries.lookup name = none ↔ name ∉ entries.map (·.1) := by
  induction entries with
  | nil => simp
  | cons e entries ih =>
    rw [lookup_cons_eq, List.map_cons, List.mem_cons, not_or, ← ih]
    by_cases same : e.1 = name
    · simp [same]
    · simp [same, Ne.symm same]

theorem any_iff : entries.any (·.1 = name) = true ↔ name ∈ entries.map (·.1) := by
  simp [List.any_eq_true]

theorem lookup_map {β : Type} (f : α → β) (entries : List (Text × α)) (k : Text) :
    (entries.map fun e => (e.1, f e.2)).lookup k = (entries.lookup k).map f := by
  induction entries with
  | nil => rfl
  | cons e entries ih =>
    rw [List.map_cons, lookup_cons_eq, lookup_cons_eq, ih]
    split <;> rfl

/-! ## Adding -/

theorem lookup_replace (entries : List (Text × α)) (name : Text) (value : α) (k : Text) :
    (entries.map fun e => if e.1 = name then (name, value) else e).lookup k =
      if name = k then (entries.lookup k).map (fun _ => value) else entries.lookup k := by
  induction entries with
  | nil => simp
  | cons e entries ih =>
    rw [List.map_cons, lookup_cons_eq, lookup_cons_eq, ih]
    by_cases here : e.1 = name
    · by_cases same : name = k <;> simp [here, same]
    · by_cases same : name = k
      · simp [same ▸ here, same]
      · simp [here, same]

theorem lookup_assign (entries : List (Text × α)) (name : Text) (value : α) (k : Text) :
    (assign entries name value).lookup k = if name = k then some value else entries.lookup k := by
  unfold assign
  split
  · rename_i present
    rw [lookup_replace]
    split
    · rename_i same
      obtain ⟨old, found⟩ := Option.ne_none_iff_exists'.mp
        (mt lookup_eq_none_iff.mp (not_not_intro (any_iff.mp present)))
      rw [← same, found]
      rfl
    · rfl
  · rename_i absent
    rw [List.lookup_append, lookup_cons_eq]
    by_cases same : name = k
    · rw [← same, lookup_eq_none_iff.mpr fun mem => absent (any_iff.mpr mem), if_pos rfl, if_pos rfl]
      rfl
    · rw [if_neg same, if_neg same, List.lookup_nil, Option.or_none]

theorem mem_assign {e : Text × α} (mem : e ∈ assign entries name value) : e = (name, value) ∨ e ∈ entries := by
  unfold assign at mem
  split at mem
  · obtain ⟨d, old, rfl⟩ := List.mem_map.mp mem
    split
    · exact .inl rfl
    · exact .inr old
  · rcases List.mem_append.mp mem with old | new
    · exact .inr old
    · exact .inl (List.mem_singleton.mp new)

/-- The names of a map are those that it had, and a new one behind them. -/
theorem names_assign (entries : List (Text × α)) (name : Text) (value : α) :
    (assign entries name value).map (·.1) =
      if name ∈ entries.map (·.1) then entries.map (·.1) else entries.map (·.1) ++ [name] := by
  unfold assign
  simp only [any_iff]
  split
  · rw [List.map_map]
    refine List.map_congr_left fun e _ => ?_
    simp only [Function.comp]
    split
    · rename_i same
      exact same.symm
    · rfl
  · rw [List.map_append]
    rfl

/-- The names of a map are in lower case, and no two of them are the same. -/
structure Named (entries : List (Text × α)) : Prop where
  lower : ∀ e ∈ entries, e.1.lowercase = e.1
  distinct : (entries.map (·.1)).Nodup

theorem named_nil : Named ([] : List (Text × α)) where
  lower := by simp
  distinct := List.nodup_nil

theorem Named.assign (h : Named entries) (name : Text) (value : α) :
    Named (assign entries name.lowercase value) where
  lower e mem := by
    rcases mem_assign mem with rfl | old
    · exact Text.lowercase_lowercase name
    · exact h.lower e old
  distinct := by
    rw [names_assign]
    split
    · exact h.distinct
    · rename_i fresh
      refine List.nodup_append.mpr ⟨h.distinct, List.nodup_singleton _, ?_⟩
      rintro old mem _ new rfl
      exact fresh (List.mem_singleton.mp new ▸ mem)

theorem assignAll_cons (entries : List (Text × α)) (e : Text × α) (others : List (Text × α)) :
    assignAll entries (e :: others) = assignAll (assign entries e.1.lowercase e.2) others := rfl

theorem Named.assignAll (h : Named entries) (others : List (Text × α)) : Named (assignAll entries others) := by
  induction others generalizing entries with
  | nil => exact h
  | cons e others ih => exact ih (h.assign e.1 e.2)

theorem mem_assignAll {e : Text × α} (mem : e ∈ assignAll entries others) :
    (∃ d ∈ others, e.2 = d.2) ∨ e ∈ entries := by
  induction others generalizing entries with
  | nil => exact .inr mem
  | cons d others ih =>
    rcases ih mem with ⟨c, later, same⟩ | old
    · exact .inl ⟨c, List.mem_cons_of_mem _ later, same⟩
    · rcases mem_assign old with rfl | old
      · exact .inl ⟨d, List.mem_cons_self, rfl⟩
      · exact .inr old

/-- Under a name is found what was given last under it, whatever its case was. -/
theorem lookup_assignAll (entries others : List (Text × α)) (k : Text) :
    (assignAll entries others).lookup k =
      ((others.reverse.find? (·.1.lowercase = k)).map (·.2)).or (entries.lookup k) := by
  induction others generalizing entries with
  | nil => rfl
  | cons e others ih =>
    rw [assignAll_cons, ih, lookup_assign, List.reverse_cons, List.find?_append]
    cases others.reverse.find? (·.1.lowercase = k) with
    | some d => rfl
    | none => by_cases same : e.1.lowercase = k <;> simp [same]

/-- A map of different names in lower case comes before the one that it is added to. -/
theorem Named.lookup_assignAll (h : Named others) (entries : List (Text × α)) (k : Text) :
    (Keypad.assignAll entries others).lookup k = (others.lookup k).or (entries.lookup k) := by
  induction others generalizing entries with
  | nil => rfl
  | cons e others ih =>
    obtain ⟨lower, distinct⟩ := h
    rw [List.map_cons, List.nodup_cons] at distinct
    have rest : Named others := ⟨fun d mem => lower d (List.mem_cons_of_mem _ mem), distinct.2⟩
    rw [assignAll_cons, ih rest, lookup_assign, lower e List.mem_cons_self, lookup_cons_eq]
    by_cases same : e.1 = k
    · rw [if_pos same, if_pos same, ← same, lookup_eq_none_iff.mpr distinct.1]
      rfl
    · rw [if_neg same, if_neg same]

/-! ## Keys -/

/-- The numbers of keys are the numbers from zero to fifteen. -/
theorem key?_eq_ok_iff {n : Int} {k : Key} : key? n = .ok k ↔ n = k.val := by
  unfold key?
  split
  · rename_i bounds
    rw [Except.ok.injEq, Fin.ext_iff]
    dsimp only
    omega
  · rename_i outside
    refine iff_of_false (fun h => by cases h) fun same => outside ?_
    have := k.isLt
    omega

theorem exists_key? {n : Int} (low : 0 ≤ n) (high : n ≤ 15) : ∃ k, key? n = .ok k :=
  ⟨⟨n.toNat, by omega⟩, key?_eq_ok_iff.mpr (by dsimp only; omega)⟩

theorem lookup_eq_of_forall₂ {names : List (Text × Int)} {keys : List (Text × Key)}
    (each : List.Forall₂ (fun e k => k.1 = e.1 ∧ e.2 = k.2.val) names keys) (k : Text) :
    (keys.lookup k).map (fun key => (key.val : Int)) = names.lookup k := by
  induction each with
  | nil => rfl
  | cons first rest ih =>
    rw [lookup_cons_eq, lookup_cons_eq, first.1, first.2]
    split
    · rfl
    · exact ih

/-- A map of keys with different names in lower case makes a keypad. What it finds under a name is found in the
map under the name in lower case, and else in the standard map. -/
theorem exists_ofNames? {own : List (Text × Int)} (named : Named own)
    (keys : ∀ e ∈ own, 0 ≤ e.2 ∧ e.2 ≤ 15) :
    ∃ p, ofNames? own = .ok p ∧ ∀ s, (p.named? s).map (fun k => (k.val : Int)) =
      (own.lookup s.lowercase).or ((standardNames.lookup s.lowercase).map fun k => (k.val : Int)) := by
  have bounds : ∀ e ∈ namesWith own, 0 ≤ e.2 ∧ e.2 ≤ 15 := by
    intro e mem
    rcases mem_assignAll mem with ⟨d, mine, same⟩ | standard
    · exact same ▸ keys d mine
    · obtain ⟨d, _, rfl⟩ := List.mem_map.mp standard
      have := d.2.isLt
      dsimp only
      omega
  have keyed : ∀ e ∈ namesWith own, ∃ k, (do return (e.1, ← key? e.2) : Except NoSuchKey (Text × Key)) = .ok k ∧
      k.1 = e.1 ∧ e.2 = k.2.val := by
    intro e mem
    obtain ⟨k, number⟩ := exists_key? (bounds e mem).1 (bounds e mem).2
    refine ⟨(e.1, k), ?_, rfl, key?_eq_ok_iff.mp number⟩
    rw [number]
    rfl
  obtain ⟨names, read, each⟩ := exists_mapM_eq_ok keyed
  refine ⟨idle names, ?_, fun s => ?_⟩
  · rw [ofNames?, read]
    rfl
  · rw [named?, find?_eq_lookup, show (idle names).names = names from rfl, lookup_eq_of_forall₂ each, namesWith,
      named.lookup_assignAll, lookup_map fun k : Key => (k.val : Int)]

end Hexscope.Keypad
