/-!
# Bounded histories

A history keeps the last entries, up to a limit. Entries are kept newest first and cut back only
when twice the limit has gathered, so that adding one takes constant time on average. `toList` is
the history itself, oldest first, and `toList_push` says that adding keeps the last entries.
-/

namespace Hexscope

/-- The last entries of a sequence. -/
structure History (α : Type) where
  limit : Nat
  newest : List α
  count : Nat

namespace History

variable {α : Type}

/-- No entries. -/
def empty (limit : Nat) : History α := ⟨limit, [], 0⟩

/-- The entries, oldest first. -/
def toList (h : History α) : List α := (h.newest.take h.limit).reverse

/-- Adds an entry, which pushes out the oldest one beyond the limit. -/
def push (h : History α) (x : α) : History α :=
  if h.count < 2 * h.limit then { h with newest := x :: h.newest, count := h.count + 1 }
  else { h with newest := (x :: h.newest).take h.limit, count := h.limit }

/-- Forgets all entries. -/
def clear (h : History α) : History α := empty h.limit

@[simp] theorem toList_empty (n : Nat) : (empty n : History α).toList = [] := by
  simp [empty, toList]

@[simp] theorem toList_clear (h : History α) : h.clear.toList = [] := toList_empty _

@[simp] theorem limit_push (h : History α) (x : α) : (h.push x).limit = h.limit := by
  unfold push
  split <;> rfl

theorem length_toList_le (h : History α) : h.toList.length ≤ h.limit := by
  simp only [toList, List.length_reverse, List.length_take]
  omega

/-- The first `n` entries behind a new one, oldest first. -/
theorem reverse_take_cons (n : Nat) (x : α) (l : List α) :
    ((x :: l).take n).reverse =
      ((l.take n).reverse ++ [x]).drop ((l.take n).length + 1 - n) := by
  rw [← List.reverse_cons, List.drop_reverse]
  congr 1
  cases n with
  | zero => simp
  | succ n =>
    simp only [List.length_cons, List.length_take]
    by_cases h : l.length ≤ n
    · rw [Nat.min_eq_right (by omega), show l.length + 1 - (l.length + 1 - (n + 1)) =
        l.length + 1 by omega]
      simp [List.take_of_length_le h, List.take_of_length_le (Nat.le_succ_of_le h)]
    · rw [Nat.min_eq_left (by omega), show n + 1 + 1 - (n + 1 + 1 - (n + 1)) = n + 1 by omega]
      simp [List.take_take]

/-- Adding an entry keeps the last `limit` entries. -/
theorem toList_push (h : History α) (x : α) :
    (h.push x).toList = (h.toList ++ [x]).drop (h.toList.length + 1 - h.limit) := by
  have key : (h.push x).toList = ((x :: h.newest).take h.limit).reverse := by
    unfold push
    split
    · rfl
    · simp [toList, List.take_take]
  rw [key, reverse_take_cons]
  simp [toList]

end History

end Hexscope
