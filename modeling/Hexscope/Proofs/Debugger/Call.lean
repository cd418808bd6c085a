import Hexscope.Proofs.Machine.Breakpoint
import Hexscope.Proofs.Value.Same

/-!
# The list of breakpoints

A condition that is in the list already is not added again, and removing takes away the first one only. A
replacement does not look whether the new condition is in the list. So the list has each condition once as long
as no replacement puts one that another one is the same as.

* `Debugger.distinct_call_iff`: which call keeps a list free of repetitions;
* `Debugger.count_add`, `Debugger.count_remove`: how often a condition is in the list then;
* `Debugger.conditions_once`: which calls, one after the other, keep the list free of repetitions, and what
  follows for a condition that is removed;
* `Debugger.removed_still_hits`: a condition that was put twice is still hit after it was removed.
-/

namespace Hexscope

namespace Breakpoint

variable {c e f : Breakpoint}

/-- A condition of which all fields can be compared. -/
structure Comparable (c : Breakpoint) : Prop where
  value : c.value.Comparable
  address : c.address.Comparable
  register : c.register.Comparable
  enabled : c.enabled.Comparable

theorem isSame_iff : c.isSame e = true ↔ c.trigger = e.trigger ∧ c.value.isSame e.value = true ∧
    c.address.isSame e.address = true ∧ c.register.isSame e.register = true ∧
    c.enabled.isSame e.enabled = true := by
  simp only [isSame, Bool.and_eq_true, decide_eq_true_eq, and_assoc]

namespace Comparable

theorem refl (h : c.Comparable) : c.isSame c = true :=
  isSame_iff.mpr ⟨rfl, h.value.refl, h.address.refl, h.register.refl, h.enabled.refl⟩

theorem symm (h : c.Comparable) (same : c.isSame e = true) : e.isSame c = true := by
  obtain ⟨trigger, value, address, register, enabled⟩ := isSame_iff.mp same
  exact isSame_iff.mpr ⟨trigger.symm, h.value.symm value, h.address.symm address,
    h.register.symm register, h.enabled.symm enabled⟩

theorem trans (h : c.Comparable) (first : c.isSame e = true) (second : e.isSame f = true) :
    c.isSame f = true := by
  obtain ⟨trigger, value, address, register, enabled⟩ := isSame_iff.mp first
  obtain ⟨trigger', value', address', register', enabled'⟩ := isSame_iff.mp second
  exact isSame_iff.mpr ⟨trigger.trans trigger', h.value.trans value value',
    h.address.trans address address', h.register.trans register register',
    h.enabled.trans enabled enabled'⟩

end Comparable

end Breakpoint

namespace Debugger

/-! ## Calls -/

/-- What a debugger is called for: to change its list, or to take note of a snapshot. -/
inductive Call where
  | add (c : Breakpoint)
  | replace (old new : Breakpoint)
  | remove (c : Breakpoint)
  | snapshot (now : Moment)

namespace Call

/-- The conditions that a call names. -/
def conditions : Call → List Breakpoint
  | .add c | .remove c => [c]
  | .replace old new => [old, new]
  | .snapshot _ => []

/-- The condition that a call can put into the list. -/
def put? : Call → Option Breakpoint
  | .add c => some c
  | .replace _ new => some new
  | .remove _ | .snapshot _ => none

/-- A call whose conditions can be compared. -/
def Comparable (x : Call) : Prop := ∀ c ∈ x.conditions, c.Comparable

theorem Comparable.of_put? {x : Call} {c : Breakpoint} (h : x.Comparable) (put : x.put? = some c) :
    c.Comparable := by
  cases x with
  | add _ | replace _ _ =>
    cases put
    exact h _ (by simp [conditions])
  | remove _ | snapshot _ => cases put

end Call

/-- The debugger after a call. -/
def call (d : Debugger) : Call → Debugger
  | .add c => d.add c
  | .replace old new => d.replace old new
  | .remove c => d.remove c
  | .snapshot now => (d.observe now).1

/-- The debugger after calls, one after the other. -/
def calls (d : Debugger) (xs : List Call) : Debugger := xs.foldl call d

open Machine (breakpointAt)

variable {d : Debugger} {c e old new : Breakpoint} {x : Call} {xs : List Call}

/-- No two conditions of the list are the same. -/
def Distinct (d : Debugger) : Prop := d.breakpoints.Pairwise fun c e => c.isSame e = false

/-- How often a condition is in the list. -/
def count (d : Debugger) (c : Breakpoint) : Nat := d.breakpoints.countP c.isSame

/-- Whether a call puts a condition in the place of one while another one is the same as the new one. -/
def Clashes (d : Debugger) : Call → Prop
  | .replace old new => d.count old ≠ 0 ∧ ∃ c ∈ d.breakpoints.eraseP old.isSame, new.isSame c = true
  | _ => False

theorem count_eq_zero_iff : d.count c = 0 ↔ ∀ e ∈ d.breakpoints, c.isSame e = false := by
  simp [count]

/-- A list around the first condition that is the same as a given one. -/
theorem exists_of_count (h : d.count c ≠ 0) : ∃ front e back, (∀ f ∈ front, c.isSame f = false) ∧
    c.isSame e = true ∧ d.breakpoints = front ++ e :: back ∧
    d.breakpoints.eraseP c.isSame = front ++ back ∧
    ∀ new, d.breakpoints.set (d.breakpoints.findIdx c.isSame) new = front ++ new :: back := by
  obtain ⟨e, he, same⟩ := List.countP_pos_iff.mp (Nat.pos_of_ne_zero h)
  obtain ⟨e, front, back, none, same, parts, erased⟩ := List.exists_of_eraseP he same
  have none : ∀ f ∈ front, c.isSame f = false := fun f hf => Bool.eq_false_iff.mpr (none f hf)
  refine ⟨front, e, back, none, same, parts, erased, fun new => ?_⟩
  have place : d.breakpoints.findIdx c.isSame = front.length := by
    rw [parts, List.findIdx_append, List.findIdx_eq_length.mpr none, if_neg (Nat.lt_irrefl _),
      List.findIdx_cons, same]
    simp
  rw [place, parts, List.set_append_right _ _ (Nat.le_refl _), Nat.sub_self]
  rfl

theorem replace_of_count (h : d.count old = 0) : d.replace old new = d := by
  rw [replace, List.findIdx_eq_length.mpr (count_eq_zero_iff.mp h), List.set_eq_of_length_le (Nat.le_refl _)]

/-- Removing takes away one condition, if there is one. -/
theorem count_remove (d : Debugger) (c : Breakpoint) : (d.remove c).count c = d.count c - 1 := by
  by_cases h : d.count c = 0
  · have same : d.breakpoints.eraseP c.isSame = d.breakpoints :=
      List.eraseP_of_forall_not (List.countP_eq_zero.mp h)
    have unchanged : (d.remove c).count c = d.count c := congrArg (List.countP c.isSame) same
    rw [unchanged, h]
  · obtain ⟨front, e, back, -, same, parts, erased, -⟩ := exists_of_count h
    have before : d.count c = front.countP c.isSame + (back.countP c.isSame + 1) := by
      rw [count, parts, List.countP_append, List.countP_cons_of_pos same]
    have after : (d.remove c).count c = front.countP c.isSame + back.countP c.isSame := by
      rw [count, remove, erased, List.countP_append]
    rw [before, after]
    rfl

/-- What a call can put into the list, and what it leaves there. -/
theorem mem_call (h : e ∈ (d.call x).breakpoints) : e ∈ d.breakpoints ∨ x.put? = some e := by
  cases x with
  | add c =>
    simp only [call, add] at h
    split at h
    · exact .inl h
    · rcases List.mem_append.mp h with h | h
      · exact .inl h
      · exact .inr (congrArg some (List.mem_singleton.mp h).symm)
  | replace old new =>
    exact (List.mem_or_eq_of_mem_set h).imp_right fun h => congrArg some h.symm
  | remove c => exact .inl (List.mem_of_mem_eraseP h)
  | snapshot now =>
    rw [call, breakpoints_observe] at h
    exact .inl h

/-- What holds of the conditions in the list and of those that calls put there, holds after the calls. -/
theorem forall_calls {p : Breakpoint → Prop} (held : ∀ e ∈ d.breakpoints, p e)
    (put : ∀ x ∈ xs, ∀ e, x.put? = some e → p e) : ∀ e ∈ (d.calls xs).breakpoints, p e := by
  induction xs generalizing d with
  | nil => exact held
  | cons x xs ih =>
    refine ih (fun e he => ?_) fun y hy => put y (List.mem_cons_of_mem _ hy)
    rcases mem_call he with he | h
    · exact held e he
    · exact put x (List.mem_cons_self ..) e h

theorem comparable_calls (comparable : ∀ e ∈ d.breakpoints, e.Comparable)
    (hx : ∀ x ∈ xs, x.Comparable) : ∀ e ∈ (d.calls xs).breakpoints, e.Comparable :=
  forall_calls comparable fun x h _ put => (hx x h).of_put? put

/-- In a list without repetitions each condition is at most once. -/
theorem Distinct.count_le (distinct : d.Distinct) (comparable : ∀ e ∈ d.breakpoints, e.Comparable)
    (hc : c.Comparable) : d.count c ≤ 1 := by
  by_contra more
  obtain ⟨front, e, back, none, same, parts, -, -⟩ := exists_of_count (d := d) (c := c) (by omega)
  have first : front.countP c.isSame = 0 :=
    List.countP_eq_zero.mpr fun f hf => Bool.eq_false_iff.mp (none f hf)
  rw [count, parts, List.countP_append, List.countP_cons_of_pos same, first] at more
  obtain ⟨f, hf, same'⟩ := List.countP_pos_iff.mp (show 0 < back.countP c.isSame by omega)
  have he : e.Comparable := comparable e (parts ▸ List.mem_append_right _ (List.mem_cons_self ..))
  rw [Distinct, parts, List.pairwise_append, List.pairwise_cons] at distinct
  obtain ⟨-, ⟨differ, -⟩, -⟩ := distinct
  exact Bool.eq_false_iff.mp (differ f hf) (he.trans (hc.symm same) same')

theorem distinct_add (distinct : d.Distinct) (comparable : ∀ e ∈ d.breakpoints, e.Comparable)
    (c : Breakpoint) : (d.add c).Distinct := by
  unfold add
  split
  · exact distinct
  · rename_i absent
    refine List.pairwise_append.mpr ⟨distinct, List.pairwise_singleton _ _, fun e he f hf => ?_⟩
    rw [List.mem_singleton.mp hf, Bool.eq_false_iff]
    intro same
    exact absent (List.any_eq_true.mpr ⟨e, he, (comparable e he).symm same⟩)

theorem distinct_remove (distinct : d.Distinct) (c : Breakpoint) : (d.remove c).Distinct :=
  distinct.sublist List.eraseP_sublist

/-- A replacement keeps the list free of repetitions exactly if no other condition is the same as the new
one. -/
theorem distinct_replace_iff (distinct : d.Distinct) (comparable : ∀ e ∈ d.breakpoints, e.Comparable)
    (hn : new.Comparable) : (d.replace old new).Distinct ↔ ¬ d.Clashes (.replace old new) := by
  by_cases h : d.count old = 0
  · rw [replace_of_count h]
    exact iff_of_true distinct fun clash => clash.1 h
  · obtain ⟨front, e, back, -, -, parts, erased, set⟩ := exists_of_count h
    have others : (front ++ back).Pairwise fun c e => c.isSame e = false := by
      rw [← erased]
      exact distinct.sublist List.eraseP_sublist
    rw [Distinct, replace, set, Clashes, erased, List.pairwise_append, List.pairwise_cons]
    -- The list compares a condition with the later ones, so the front meets the new one turned round.
    constructor
    · rintro ⟨-, ⟨behind, -⟩, before⟩ ⟨-, c, hc, same⟩
      rcases List.mem_append.mp hc with hc | hc
      · exact Bool.eq_false_iff.mp (before c hc new (List.mem_cons_self ..)) (hn.symm same)
      · exact Bool.eq_false_iff.mp (behind c hc) same
    · intro free
      have differ : ∀ c ∈ front ++ back, new.isSame c = false := fun c hc =>
        Bool.eq_false_iff.mpr fun same => free ⟨h, c, hc, same⟩
      obtain ⟨inFront, behind, across⟩ := List.pairwise_append.mp others
      refine ⟨inFront, ⟨fun c hc => differ c (List.mem_append_right _ hc), behind⟩,
        fun c hc e he => ?_⟩
      rcases List.mem_cons.mp he with rfl | he
      · have held : c ∈ d.breakpoints := parts ▸ List.mem_append_left _ hc
        exact Bool.eq_false_iff.mpr fun same =>
          free ⟨h, c, List.mem_append_left _ hc, (comparable c held).symm same⟩
      · exact across c hc e he

/-- A call keeps the list free of repetitions exactly if it does not clash. -/
theorem distinct_call_iff (distinct : d.Distinct) (comparable : ∀ e ∈ d.breakpoints, e.Comparable)
    (hx : x.Comparable) : (d.call x).Distinct ↔ ¬ d.Clashes x := by
  cases x with
  | add c => exact iff_of_true (distinct_add distinct comparable c) id
  | replace old new => exact distinct_replace_iff distinct comparable (hx.of_put? rfl)
  | remove c => exact iff_of_true (distinct_remove distinct c) id
  | snapshot now =>
    refine iff_of_true ?_ id
    rw [call, Distinct, breakpoints_observe]
    exact distinct

/-- No call clashes with the list that it finds. -/
def ClashFree (d : Debugger) : List Call → Prop
  | [] => True
  | x :: xs => ¬ d.Clashes x ∧ (d.call x).ClashFree xs

/-- The list is free of repetitions after each call exactly if no call clashes. -/
theorem distinct_calls_iff (distinct : d.Distinct) (comparable : ∀ e ∈ d.breakpoints, e.Comparable)
    (hx : ∀ x ∈ xs, x.Comparable) :
    (∀ before, before <+: xs → (d.calls before).Distinct) ↔ d.ClashFree xs := by
  induction xs generalizing d with
  | nil =>
    refine iff_of_true (fun before h => ?_) trivial
    rw [List.prefix_nil.mp h]
    exact distinct
  | cons x xs ih =>
    have now : x.Comparable := hx x (List.mem_cons_self ..)
    have later : ∀ y ∈ xs, y.Comparable := fun y hy => hx y (List.mem_cons_of_mem _ hy)
    have step := distinct_call_iff distinct comparable now
    have only : ∀ y ∈ [x], y.Comparable := List.forall_mem_singleton.mpr now
    have comparable' : ∀ e ∈ (d.call x).breakpoints, e.Comparable := comparable_calls comparable only
    constructor
    · intro always
      have kept : (d.call x).Distinct := always [x] (List.cons_prefix_cons.mpr ⟨rfl, List.nil_prefix⟩)
      exact ⟨step.mp kept, (ih kept comparable' later).mp fun before h =>
        always (x :: before) (List.cons_prefix_cons.mpr ⟨rfl, h⟩)⟩
    · rintro ⟨free, rest⟩ before h
      cases before with
      | nil => exact distinct
      | cons y before =>
        obtain ⟨rfl, shorter⟩ := List.cons_prefix_cons.mp h
        exact (ih (step.mpr free) comparable' later).mpr rest before shorter

/-- Adding a condition that can be compared leaves it in the list, once more only if it was missing. -/
theorem count_add (d : Debugger) (hc : c.Comparable) : (d.add c).count c = max (d.count c) 1 := by
  unfold add
  split
  · rename_i held
    have : 0 < d.count c := List.countP_pos_iff.mpr (List.any_eq_true.mp held)
    omega
  · rename_i absent
    have none : d.count c = 0 := count_eq_zero_iff.mpr fun e he =>
      Bool.eq_false_iff.mpr fun same => absent (List.any_eq_true.mpr ⟨e, he, same⟩)
    have added : (d.breakpoints ++ [c]).countP c.isSame = d.count c + 1 := by
      rw [List.countP_append, List.countP_singleton, if_pos hc.refl]
      rfl
    exact added.trans (by omega)

/-- A condition that is missing stays away until a call puts it into the list. -/
theorem count_calls_of_absent (absent : d.count c = 0)
    (spares : ∀ x ∈ xs, ∀ e, x.put? = some e → c.isSame e = false) : (d.calls xs).count c = 0 :=
  count_eq_zero_iff.mpr (forall_calls (count_eq_zero_iff.mp absent) spares)

/-- A condition that is missing is not hit. -/
theorem hit_observe_of_absent (absent : d.count c = 0) (now : Moment) :
    (d.observe now).1.hit = d.hit ∨ ∃ e, (d.observe now).1.hit = some e ∧ c.isSame e = false := by
  cases operation : now.operation with
  | none =>
    rw [observe_of_blank operation]
    exact .inl rfl
  | some o =>
    rw [observe_of_executed operation]
    cases found : d.firstMatch? now with
    | none => exact .inl rfl
    | some e => exact .inr ⟨e, rfl, count_eq_zero_iff.mp absent e (List.mem_of_find?_eq_some found)⟩

/-- Calls of a debugger, one after the other, with conditions that can be compared. The list never has two
conditions that are the same exactly if no call puts one in the place of another one although it is in the
list elsewhere. If so, then a condition is in the list once when it was added. When it was removed it is not in
the list any more, and until it is put there again, it is not hit either. -/
theorem conditions_once (limit : Nat) (xs : List Call) (comparable : ∀ x ∈ xs, x.Comparable) :
    ((∀ before, before <+: xs → ((fresh limit).calls before).Distinct) ↔ (fresh limit).ClashFree xs) ∧
    ((fresh limit).ClashFree xs → ∀ c : Breakpoint, c.Comparable →
      (((fresh limit).calls xs).add c).count c = 1 ∧
      (((fresh limit).calls xs).remove c).count c = 0 ∧
      ∀ later : List Call, (∀ x ∈ later, ∀ e, x.put? = some e → c.isSame e = false) →
        let d := (((fresh limit).calls xs).remove c).calls later
        d.count c = 0 ∧ ∀ now, (d.observe now).1.hit = d.hit ∨
          ∃ e, (d.observe now).1.hit = some e ∧ c.isSame e = false) := by
  have nothing : (fresh limit).Distinct := List.Pairwise.nil
  have iff := distinct_calls_iff nothing nofun comparable
  refine ⟨iff, fun free c hc => ?_⟩
  have once : ((fresh limit).calls xs).count c ≤ 1 :=
    (iff.mpr free xs List.prefix_rfl).count_le (comparable_calls nofun comparable) hc
  have removed : (((fresh limit).calls xs).remove c).count c = 0 := by
    rw [count_remove]
    omega
  refine ⟨by rw [count_add _ hc]; omega, removed, fun later spares => ?_⟩
  have absent := count_calls_of_absent removed spares
  exact ⟨absent, hit_observe_of_absent absent⟩

theorem comparable_breakpointAt (pc : Int) : (breakpointAt pc).Comparable :=
  ⟨.key rfl, .key rfl, .key rfl, .key rfl⟩

/-- Two breakpoints, of which the first is replaced by a third one and the second is removed. -/
def relisted : List Call :=
  [.add (breakpointAt 0x202), .add (breakpointAt 0x204),
    .replace (breakpointAt 0x202) (breakpointAt 0x206)]

/-- The removed one is gone. -/
theorem conditions_once_relisted :
    (((fresh standardLimit).calls relisted).remove (breakpointAt 0x204)).count (breakpointAt 0x204) = 0 := by
  have comparable : ∀ x ∈ relisted, x.Comparable := by
    simp [relisted, Call.Comparable, Call.conditions, comparable_breakpointAt]
  have free : (fresh standardLimit).ClashFree relisted := by
    have differ : ¬ ∃ c ∈ [breakpointAt 0x204], (breakpointAt 0x206).isSame c = true := by decide +kernel
    exact ⟨id, id, fun clash => differ clash.2, trivial⟩
  obtain ⟨-, removes⟩ := conditions_once standardLimit relisted comparable
  exact (removes free _ (comparable_breakpointAt 0x204)).2.1

/-- Two breakpoints, of which the first is replaced by the same one as the second. -/
def doubled : Debugger :=
  (fresh standardLimit).calls [.add (breakpointAt 0x202), .add (breakpointAt 0x204),
    .replace (breakpointAt 0x202) (breakpointAt 0x204)]

/-- That one is in the list twice, so it is still there after it was removed, and is hit. -/
theorem removed_still_hits :
    doubled.count (breakpointAt 0x204) = 2 ∧
    (doubled.remove (breakpointAt 0x204)).count (breakpointAt 0x204) = 1 ∧
    let m := { (default : Machine) with debugger := doubled.remove (breakpointAt 0x204) }.after
      [.load [0x60, 0x01, 0x61, 0x02, 0x62, 0x03], .step 2, .move 0, .move 0]
    m.debugger.hit.map (breakpointAt 0x204).isSame = some true ∧ m.cpu.gate.shouldWait = true := by
  decide +kernel

end Debugger

end Hexscope
