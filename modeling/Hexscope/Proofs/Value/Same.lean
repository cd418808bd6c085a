import Hexscope.Value
import Mathlib.Data.List.Forall2
import Mathlib.Data.List.Nodup
import Mathlib.Data.List.Perm.Subperm

/-!
# Values that are the same

Keys are compared by what they stand for: numbers by their value, whatever their form, and times by the
instant if it is known. So two keys are the same if they have the same canonical form (`Value.key?`). Lists are
compared item by item, and mappings whatever the order of their entries.

* `Value.sameKey_iff`: keys are the same if they have the same canonical form;
* `Value.Comparable`: the values of which every part can be compared;
* `Value.Comparable.refl`, `Value.Comparable.symm`, `Value.Comparable.trans`: among them, to be the same is an
  equivalence.
-/

namespace Hexscope

theorem Binary64.fraction_den_ne_zero (s : Bool) (m : Nat) (e : Int) : (fraction s m e).2 ≠ 0 := by
  unfold fraction
  dsimp only
  split
  · exact Nat.one_ne_zero
  · rw [Nat.one_shiftLeft]
    exact Nat.ne_of_gt (Nat.two_pow_pos _)

theorem Number.fraction?_den_ne_zero {x : Number} {f : Int × Nat} (h : x.fraction? = some f) :
    f.2 ≠ 0 := by
  match x, h with
  | .whole _, h | .truth _, h =>
    cases h
    exact Nat.one_ne_zero
  | .binary (.finite s m e), h =>
    cases h
    exact Binary64.fraction_den_ne_zero s m e

namespace Value

variable {v w u : Value}

/-! ## Keys -/

/-- What a key is compared by. -/
inductive Key where
  | null
  | text (s : Text)
  | bytes (bs : List UInt8)
  | date (day : CalendarDay) (time : Option ClockTime)
  /-- A time whose distance from universal time is known. -/
  | instant (microseconds : Int)
  | number (q : Rat)
  | infinite (negative : Bool)
  | nan

/-- What a date is compared by. -/
def Key.ofDate (d : CalendarDay) (t : Option ClockTime) : Key :=
  match t.bind (Calendar.instant? d) with
  | some i => .instant i
  | none => .date d t

/-- What a value is compared by if it can be a key. -/
def key? : Value → Option Key
  | .null => some .null
  | .text s => some (.text s)
  | .bytes bs => some (.bytes bs)
  | .date d t => some (.ofDate d t)
  | .float (.infinite s) => some (.infinite s)
  | .float .nan => some .nan
  | v => v.fraction?.map fun f => .number (mkRat f.1 f.2)

theorem Key.ofDate_eq_iff {d e : CalendarDay} {t u : Option ClockTime} :
    ofDate d t = ofDate e u ↔ Calendar.isSame d t e u = true := by
  cases ht : t.bind (Calendar.instant? d) with
  | some i =>
    cases hu : u.bind (Calendar.instant? e) with
    | some j => simp [ofDate, Calendar.isSame, ht, hu]
    | none =>
      have differ : ¬ (d = e ∧ t = u) := by
        rintro ⟨rfl, rfl⟩
        cases ht.symm.trans hu
      simp [ofDate, Calendar.isSame, ht, hu, differ]
  | none =>
    cases hu : u.bind (Calendar.instant? e) with
    | some j =>
      have differ : ¬ (d = e ∧ t = u) := by
        rintro ⟨rfl, rfl⟩
        cases ht.symm.trans hu
      simp [ofDate, Calendar.isSame, ht, hu, differ]
    | none => simp [ofDate, Calendar.isSame, ht, hu]

theorem fraction?_den_ne_zero {f : Int × Nat} (h : v.fraction? = some f) : f.2 ≠ 0 := by
  obtain ⟨x, -, h⟩ := Option.bind_eq_some_iff.mp h
  exact Number.fraction?_den_ne_zero h

/-- The values that are compared by a key. -/
def Key.Fits (v : Value) : Key → Prop
  | .null => v = .null
  | .text s => v = .text s
  | .bytes bs => v = .bytes bs
  | .date _ _ | .instant _ => ∃ d t, v = .date d t
  | .number q => ∃ f, v.fraction? = some f ∧ mkRat f.1 f.2 = q
  | .infinite s => v = .float (.infinite s)
  | .nan => v = .float .nan

theorem fits_of_key? {k : Key} (h : v.key? = some k) : k.Fits v := by
  unfold key? at h
  split at h
  · cases h
    rfl
  · cases h
    rfl
  · cases h
    rfl
  · rename_i d t
    cases h
    unfold Key.ofDate
    split <;> exact ⟨d, t, rfl⟩
  · cases h
    rfl
  · cases h
    rfl
  · obtain ⟨f, hf, h⟩ := Option.map_eq_some_iff.mp h
    cases h
    exact ⟨f, hf, rfl⟩

theorem key?_of_fraction? {f : Int × Nat} (h : v.fraction? = some f) :
    v.key? = some (.number (mkRat f.1 f.2)) := by
  unfold key?
  split
  · cases h
  · cases h
  · cases h
  · cases h
  · cases h
  · cases h
  · rw [h]
    rfl

/-- Keys are the same if they have the same canonical form. -/
theorem sameKey_iff : v.sameKey w = true ↔ ∃ k, v.key? = some k ∧ w.key? = some k := by
  unfold sameKey
  split
  · simp [key?]
  · simp [key?, eq_comm]
  · simp [key?, eq_comm]
  · rw [← Key.ofDate_eq_iff]
    simp [key?, eq_comm]
  · simp [key?]
  · simp [key?, eq_comm]
  · rename_i null text bytes date nan infinite
    constructor
    · intro same
      split at same
      · rename_i a b c d hv hw
        refine ⟨_, key?_of_fraction? hv, (key?_of_fraction? hw).trans ?_⟩
        rw [(Rat.mkRat_eq_iff (fraction?_den_ne_zero hv) (fraction?_den_ne_zero hw)).mpr
          (of_decide_eq_true same)]
      · cases same
    · rintro ⟨k, hv, hw⟩
      have hv := fits_of_key? hv
      have hw := fits_of_key? hw
      cases k with
      | null => exact absurd hw (null hv)
      | text s => exact absurd hw (text s s hv)
      | bytes bs => exact absurd hw (bytes bs bs hv)
      | date | instant =>
        obtain ⟨d, t, hv⟩ := hv
        obtain ⟨e, u, hw⟩ := hw
        exact absurd hw (date d t e u hv)
      | number q =>
        obtain ⟨f, hf, ef⟩ := hv
        obtain ⟨g, hg, eg⟩ := hw
        rw [hf, hg]
        exact decide_eq_true ((Rat.mkRat_eq_iff (fraction?_den_ne_zero hf) (fraction?_den_ne_zero hg)).mp
          (ef.trans eg.symm))
      | infinite s => exact absurd hw (infinite s s hv)
      | nan => exact absurd hw (nan hv)

/-! ## Values -/

/-- A value of which every part can be compared: a key, a list of such values, or such values under keys of
which no two are the same. -/
inductive Comparable : Value → Prop where
  | key {v : Value} {k : Key} : v.key? = some k → Comparable v
  | list {vs : List Value} : (∀ v ∈ vs, Comparable v) → Comparable (.list vs)
  | mapping {es : List (Value × Value)} : (∀ e ∈ es, ∃ k, e.1.key? = some k) →
    (es.map (·.1.key?)).Nodup → (∀ e ∈ es, Comparable e.2) → Comparable (.mapping es)

theorem isSame_eq_sameKey {k : Key} (h : v.key? = some k) (w : Value) : v.isSame w = v.sameKey w := by
  unfold isSame
  split
  · cases h
  · cases h
  · rfl

theorem sameItems_iff {vs ws : List Value} :
    sameItems vs ws = true ↔ vs.Forall₂ (fun v w => v.isSame w = true) ws := by
  induction vs generalizing ws with
  | nil => cases ws <;> simp [sameItems]
  | cons v vs ih => cases ws <;> simp [sameItems, ih]

theorem isSame_list_iff {vs : List Value} : (list vs).isSame w = true ↔
    ∃ ws, w = .list ws ∧ vs.Forall₂ (fun v w => v.isSame w = true) ws := by
  cases w with
  | list ws => simp [isSame, sameItems_iff]
  | _ => simp [isSame]

theorem sameEntries_iff {es fs : List (Value × Value)} : sameEntries es fs = true ↔
    ∀ e ∈ es, ∃ f ∈ fs, e.1.sameKey f.1 = true ∧ e.2.isSame f.2 = true := by
  induction es with
  | nil => simp [sameEntries]
  | cons e es ih =>
    obtain ⟨k, v⟩ := e
    simp [sameEntries, ih]

theorem isSame_mapping_iff {es : List (Value × Value)} : (mapping es).isSame w = true ↔
    ∃ fs, w = .mapping fs ∧ es.length = fs.length ∧
      ∀ e ∈ es, ∃ f ∈ fs, e.1.sameKey f.1 = true ∧ e.2.isSame f.2 = true := by
  cases w with
  | mapping fs => simp [isSame, sameEntries_iff]
  | _ => simp [isSame]

/-- If entries under different keys all have a counterpart among as many others, then each of these has one
among them. -/
theorem exists_of_sameKey {es fs : List (Value × Value)} {p : Value → Value → Prop}
    (differ : (es.map (·.1.key?)).Nodup) (length : es.length = fs.length)
    (inside : ∀ e ∈ es, ∃ f ∈ fs, e.1.sameKey f.1 = true ∧ p e.2 f.2) :
    ∀ f ∈ fs, ∃ e ∈ es, f.1.sameKey e.1 = true ∧ p e.2 f.2 := by
  -- As many different keys on one side are among those of the other, so both have the same ones.
  have among : es.map (·.1.key?) ⊆ fs.map (·.1.key?) := by
    intro k hk
    obtain ⟨e, he, rfl⟩ := List.mem_map.mp hk
    obtain ⟨f, hf, same, -⟩ := inside e he
    obtain ⟨k, ek, fk⟩ := sameKey_iff.mp same
    exact List.mem_map.mpr ⟨f, hf, fk.trans ek.symm⟩
  have perm : (es.map (·.1.key?)).Perm (fs.map (·.1.key?)) :=
    (List.subperm_of_subset differ among).perm_of_length_le (by simp [length])
  intro f hf
  obtain ⟨e, he, key⟩ := List.mem_map.mp (perm.mem_iff.mpr (List.mem_map_of_mem hf))
  obtain ⟨f', hf', same, value⟩ := inside e he
  obtain ⟨k, ek, fk⟩ := sameKey_iff.mp same
  have match' : f' = f :=
    List.inj_on_of_nodup_map (perm.nodup_iff.mp differ) hf' hf (fk.trans (ek.symm.trans key))
  rw [match'] at fk value
  exact ⟨e, he, sameKey_iff.mpr ⟨k, fk, ek⟩, value⟩

namespace Comparable

theorem refl (h : v.Comparable) : v.isSame v = true := by
  induction h with
  | key h =>
    rw [isSame_eq_sameKey h, sameKey_iff]
    exact ⟨_, h, h⟩
  | list _ ih => exact isSame_list_iff.mpr ⟨_, rfl, List.forall₂_same.mpr ih⟩
  | mapping keys _ _ ih =>
    refine isSame_mapping_iff.mpr ⟨_, rfl, rfl, fun e he => ⟨e, he, ?_, ih e he⟩⟩
    obtain ⟨k, hk⟩ := keys e he
    exact sameKey_iff.mpr ⟨k, hk, hk⟩

theorem symm (h : v.Comparable) (same : v.isSame w = true) : w.isSame v = true := by
  induction h generalizing w with
  | key h =>
    rw [isSame_eq_sameKey h, sameKey_iff] at same
    obtain ⟨k, hv, hw⟩ := same
    rw [isSame_eq_sameKey hw, sameKey_iff]
    exact ⟨k, hw, hv⟩
  | list _ ih =>
    obtain ⟨ws, rfl, items⟩ := isSame_list_iff.mp same
    refine isSame_list_iff.mpr ⟨_, rfl, ?_⟩
    obtain ⟨length, items⟩ := List.forall₂_iff_get.mp items
    exact List.forall₂_iff_get.mpr ⟨length.symm, fun i h h' => ih _ (List.getElem_mem _) (items i h' h)⟩
  | mapping _ differ _ ih =>
    obtain ⟨fs, rfl, length, same⟩ := isSame_mapping_iff.mp same
    refine isSame_mapping_iff.mpr ⟨_, rfl, length.symm, fun f hf => ?_⟩
    obtain ⟨e, he, key, value⟩ :=
      exists_of_sameKey (p := fun v w => v.isSame w = true) differ length same f hf
    exact ⟨e, he, key, ih e he value⟩

theorem trans (h : v.Comparable) (first : v.isSame w = true) (second : w.isSame u = true) :
    v.isSame u = true := by
  induction h generalizing w u with
  | key h =>
    rw [isSame_eq_sameKey h, sameKey_iff] at first
    obtain ⟨k, hv, hw⟩ := first
    rw [isSame_eq_sameKey hw, sameKey_iff] at second
    obtain ⟨l, hw', hu⟩ := second
    cases hw.symm.trans hw'
    rw [isSame_eq_sameKey hv, sameKey_iff]
    exact ⟨k, hv, hu⟩
  | list _ ih =>
    obtain ⟨ws, rfl, items⟩ := isSame_list_iff.mp first
    obtain ⟨us, rfl, items'⟩ := isSame_list_iff.mp second
    refine isSame_list_iff.mpr ⟨us, rfl, ?_⟩
    obtain ⟨length, items⟩ := List.forall₂_iff_get.mp items
    obtain ⟨length', items'⟩ := List.forall₂_iff_get.mp items'
    exact List.forall₂_iff_get.mpr ⟨length.trans length', fun i h h' =>
      ih _ (List.getElem_mem _) (items i h (length ▸ h)) (items' i (length ▸ h) h')⟩
  | mapping _ _ _ ih =>
    obtain ⟨fs, rfl, length, entries⟩ := isSame_mapping_iff.mp first
    obtain ⟨gs, rfl, length', entries'⟩ := isSame_mapping_iff.mp second
    refine isSame_mapping_iff.mpr ⟨gs, rfl, length.trans length', fun e he => ?_⟩
    obtain ⟨f, hf, key, value⟩ := entries e he
    obtain ⟨g, hg, key', value'⟩ := entries' f hf
    refine ⟨g, hg, ?_, ih e he value value'⟩
    obtain ⟨k, ek, fk⟩ := sameKey_iff.mp key
    obtain ⟨l, fl, gl⟩ := sameKey_iff.mp key'
    cases fk.symm.trans fl
    exact sameKey_iff.mpr ⟨k, ek, gl⟩

end Comparable

end Value

end Hexscope
