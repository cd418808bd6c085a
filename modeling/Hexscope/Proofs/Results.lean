import Mathlib.Data.List.Forall2

/-!
# Results

Computations that can fail, alone and one for each element of a list.

* `mapError_eq_ok_iff`: another name for the error leaves a result as it is;
* `exists_bind_eq_error_iff`: two in a row fail if one of them does;
* `mapM_eq_ok_iff`: a list of results is one result for each element;
* `exists_mapM_eq_ok`: if each element has a result, then the list has one.
-/

namespace Hexscope

variable {ε α β : Type} {f : α → Except ε β} {xs : List α}

theorem mapError_ok {δ : Type} (g : ε → δ) (a : α) : (Except.ok a).mapError g = .ok a := rfl

theorem mapError_error {δ : Type} (g : ε → δ) (e : ε) : (Except.error e : Except ε α).mapError g = .error (g e) := rfl

theorem mapError_eq_ok_iff {δ : Type} {x : Except ε α} {g : ε → δ} {a : α} : x.mapError g = .ok a ↔ x = .ok a := by
  cases x with
  | ok b => rw [mapError_ok, Except.ok.injEq, Except.ok.injEq]
  | error e => exact iff_of_false nofun nofun

/-- Of two computations in a row one fails, if it does not depend on the result of the first whether the
second one does. -/
theorem exists_bind_eq_error_iff {x : Except ε α} {g : α → Except ε β} {p : Prop}
    (second : ∀ a, (∃ e, g a = .error e) ↔ p) : (∃ e, (x >>= g) = .error e) ↔ (∃ e, x = .error e) ∨ p := by
  cases x with
  | ok a => exact (second a).trans (or_iff_right fun ⟨_, h⟩ => by cases h).symm
  | error e => exact iff_of_true ⟨e, rfl⟩ (.inl ⟨e, rfl⟩)

/-- What is made of a result does not fail. -/
theorem exists_bind_pure_eq_error_iff {x : Except ε α} {g : α → β} :
    (∃ e, (x >>= fun a => pure (g a)) = .error e) ↔ ∃ e, x = .error e :=
  (exists_bind_eq_error_iff fun _ => iff_of_false (fun ⟨_, h⟩ => by cases h) id).trans (or_iff_left id)

/-- A list of results is one result for each element. -/
theorem mapM_eq_ok_iff {ys : List β} : xs.mapM f = .ok ys ↔ List.Forall₂ (fun x y => f x = .ok y) xs ys := by
  induction xs generalizing ys with
  | nil =>
    rw [List.forall₂_nil_left_iff]
    exact ⟨fun h => (Except.ok.inj h).symm, fun h => h ▸ rfl⟩
  | cons x xs ih =>
    rw [List.mapM_cons, List.forall₂_cons_left_iff]
    simp only [← ih]
    constructor
    · intro h
      cases first : f x with
      | error e =>
        rw [first] at h
        cases h
      | ok y =>
        rw [first] at h
        cases rest : xs.mapM f with
        | error e =>
          rw [rest] at h
          cases h
        | ok zs =>
          rw [rest] at h
          exact ⟨y, zs, rfl, rfl, (Except.ok.inj h).symm⟩
    · rintro ⟨y, zs, first, rest, rfl⟩
      rw [first, rest]
      rfl

/-- What stands in one of two related lists is related to something in the other. -/
theorem exists_of_mem_right {R : α → β → Prop} {ys : List β} (each : List.Forall₂ R xs ys) {y : β} (mem : y ∈ ys) :
    ∃ x ∈ xs, R x y := by
  induction each with
  | nil => cases mem
  | cons first rest ih =>
    rcases List.mem_cons.mp mem with rfl | mem
    · exact ⟨_, List.mem_cons_self, first⟩
    · obtain ⟨x, later, related⟩ := ih mem
      exact ⟨x, List.mem_cons_of_mem _ later, related⟩

/-- If each element has a result, then they have a list of results. -/
theorem exists_mapM_eq_ok {R : α → β → Prop} (h : ∀ x ∈ xs, ∃ y, f x = .ok y ∧ R x y) :
    ∃ ys, xs.mapM f = .ok ys ∧ List.Forall₂ R xs ys := by
  induction xs with
  | nil => exact ⟨[], rfl, .nil⟩
  | cons x xs ih =>
    obtain ⟨y, first, related⟩ := h x (List.mem_cons_self ..)
    obtain ⟨ys, rest, each⟩ := ih fun z hz => h z (List.mem_cons_of_mem _ hz)
    refine ⟨y :: ys, ?_, .cons related each⟩
    rw [List.mapM_cons, first, rest]
    rfl

end Hexscope
