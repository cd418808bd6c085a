import Mathlib.Logic.Function.Basic
import Hexscope.Proofs.Bus.Block

/-!
# What the access log says about the memory

The bytes at all addresses of a bus are a function, `Bus.peek`. The records of an access log can be
carried out on it in order (`Bus.replay`). `Bus.Logs` says that from one bus to another some records
were added, and that these account for what has become of the memory.

A record names an address, but a write changes a cell. So where two addresses lead to one cell, or one
leads to a latch, the records do not account for the memory. On any other bus (`Bus.Plain`) they do:

* `Bus.logs_read`, `Bus.Plain.logs_writeAll`: accesses leave their records, which account for them.
-/

namespace Hexscope

namespace Bus

/-- The bytes at all addresses. -/
abbrev Memory := Int → Except Error UInt8

/-- The memory after an access was carried out. -/
def carryOut (memory : Memory) (x : Access) : Memory :=
  match x.direction with
  | .read => memory
  | .write => Function.update memory x.address (.ok (Byte.ofInt x.data))

/-- The memory after some accesses were carried out in order. -/
def replay (memory : Memory) (xs : List Access) : Memory := xs.foldl carryOut memory

/-- The byte at an address as a number. An address without a byte has zero. -/
def byteAt (memory : Memory) (a : Int) : Int :=
  match memory a with
  | .ok d => d.toNat
  | .error _ => 0

/-- The records of reading some addresses. -/
def reads (memory : Memory) (as : List Int) : List Access :=
  as.map fun a => ⟨a, byteAt memory a, .read⟩

/-- The records of writing values at consecutive addresses. -/
def writes (a : Int) : List Int → List Access
  | [] => []
  | d :: ds => ⟨a, d, .write⟩ :: writes (a + 1) ds

@[simp] theorem replay_reads (memory : Memory) (as : List Int) :
    replay memory (reads memory as) = memory := by
  have keeps (xs : List Access) (h : ∀ x ∈ xs, x.direction = .read) : replay memory xs = memory := by
    induction xs with
    | nil => rfl
    | cons x xs ih =>
      have read := h x (List.mem_cons_self ..)
      simp only [replay, List.foldl_cons, carryOut, read]
      exact ih fun y hy => h y (List.mem_cons_of_mem _ hy)
  refine keeps _ fun x hx => ?_
  simp only [reads, List.mem_map] at hx
  obtain ⟨a, -, rfl⟩ := hx
  rfl

/-- From one bus to another, some records were added, and the memory is what they make of it. -/
structure Logs (b b' : Bus) (xs : List Access) : Prop where
  log : b'.log = b.log ++ xs
  layout : b'.layout = b.layout
  memory : b'.peek = replay b.peek xs

variable {b b' b'' : Bus} {a a' data : Int} {c : Cell} {xs ys : List Access} {ds : List Int}

namespace Logs

theorem refl (b : Bus) : b.Logs b [] := ⟨(List.append_nil _).symm, rfl, rfl⟩

theorem trans (h : b.Logs b' xs) (h' : b'.Logs b'' ys) : b.Logs b'' (xs ++ ys) where
  log := by rw [h'.log, h.log, List.append_assoc]
  layout := h'.layout.trans h.layout
  memory := by rw [h'.memory, h.memory, replay, replay, replay, List.foldl_append]

end Logs

/-! ## Reading -/

@[simp] theorem peek_record (b : Bus) (x : Access) : (b.record x).peek = b.peek := rfl

theorem peek_of_read {d : UInt8} (h : b.read a = .ok (d, b')) :
    b.peek a = .ok d ∧ b' = b.record ⟨a, d.toNat, .read⟩ := by
  rw [read_eq] at h
  obtain ⟨x, hx, h⟩ := exists_of_bind_eq_ok h
  cases h
  exact ⟨hx, rfl⟩

/-- A read leaves its record, and the memory as it is. -/
theorem logs_read {d : UInt8} (h : b.read a = .ok (d, b')) :
    b.Logs b' (reads b.peek [a]) ∧ b'.peek = b.peek := by
  obtain ⟨byte, rfl⟩ := peek_of_read h
  refine ⟨⟨?_, rfl, (replay_reads b.peek [a]).symm⟩, peek_record b _⟩
  simp only [reads, List.map_cons, List.map_nil, byteAt, byte]
  rfl

/-! ## Writing -/

/-- Every address that is mapped leads to a cell of its own. -/
structure Plain (b : Bus) : Prop where
  isCell {a : Int} {c : Cell} : b.resolve a = .ok c → b.IsCell c
  eq_of_resolve {a a' : Int} {c : Cell} : b.resolve a = .ok c → b.resolve a' = .ok c → a = a'

namespace Plain

theorem of_layout (h : b'.layout = b.layout) (hb : b.Plain) : b'.Plain where
  isCell ha := (isCell_of_layout h).mpr (hb.isCell (resolve_of_layout h _ ▸ ha))
  eq_of_resolve ha ha' :=
    hb.eq_of_resolve (resolve_of_layout h _ ▸ ha) (resolve_of_layout h _ ▸ ha')

/-- A write changes the byte at its address, and no other. -/
theorem peek_poke (hb : b.Plain) (h₀ : 0 ≤ data) (h₁ : data ≤ 255) (h : b.poke a data = .ok b') :
    b'.peek = Function.update b.peek a (.ok (Byte.ofInt data)) := by
  have keep := layout_poke h
  obtain ⟨c, d, hc, -, -⟩ := exists_of_poke h
  funext x
  by_cases e : x = a
  · subst e
    rw [Function.update_self, peek_eq_content (by rw [resolve_of_layout keep]; exact hc)]
    exact content_poke_self (hb.isCell hc) hc h₀ h₁ h
  rw [Function.update_of_ne e]
  by_cases mapped : b.IsMapped x
  · obtain ⟨c', hc'⟩ := resolve_of_isMapped mapped
    rw [peek_eq_content (by rw [resolve_of_layout keep]; exact hc'), peek_eq_content hc']
    refine content_poke_of_ne (hb.isCell hc') (fun same => ?_) h
    exact e (hb.eq_of_resolve hc' same)
  · rw [peek_of_not_isMapped mapped,
      peek_of_not_isMapped ((not_congr (isMapped_of_layout keep x)).mpr mapped)]

theorem logs_write (hb : b.Plain) (h₀ : 0 ≤ data) (h₁ : data ≤ 255)
    (h : b.write a data = .ok b') : b.Logs b' [⟨a, data, .write⟩] := by
  rw [write_eq] at h
  obtain ⟨d, hd, h⟩ := exists_of_bind_eq_ok h
  cases h
  exact ⟨congrArg (· ++ _) (log_poke hd), (layout_record d _).trans (layout_poke hd),
    (peek_record d _).trans (hb.peek_poke h₀ h₁ hd)⟩

/-- Writes that are not refused leave their records, which account for what they write. -/
theorem logs_writeAll (hb : b.Plain) (bytes : ∀ d ∈ ds, 0 ≤ d ∧ d ≤ 255)
    (h : b.writeAll a ds = (b', none)) : b.Logs b' (writes a ds) := by
  induction ds generalizing b a with
  | nil =>
    cases h
    exact .refl _
  | cons d ds ih =>
    obtain ⟨h₀, h₁⟩ := bytes d (List.mem_cons_self ..)
    simp only [writeAll] at h
    cases hw : b.write a d with
    | error e => rw [hw] at h; cases h
    | ok b₁ =>
      rw [hw] at h
      have first := hb.logs_write h₀ h₁ hw
      exact first.trans (ih (hb.of_layout first.layout)
        (fun x hx => bytes x (List.mem_cons_of_mem _ hx)) h)

end Plain

/-! ## The standard memory -/

theorem resolve_standard (h : standard.resolve a = .ok c) :
    0 ≤ a ∧ a < 4096 ∧ c = ⟨0, a⟩ := by
  obtain ⟨m, hm, h₀, h₁, rfl⟩ := exists_mapping_of_resolve h
  simp only [standard, List.mem_singleton] at hm
  subst hm
  dsimp only at h₀ h₁ ⊢
  exact ⟨h₀, by omega, by rw [Int.sub_zero]⟩

theorem plain_standard : standard.Plain where
  isCell h := by
    obtain ⟨h₀, h₁, rfl⟩ := resolve_standard h
    exact ⟨4096, congrArg some (Ram.size_zeros standardSize), h₀, h₁⟩
  eq_of_resolve h h' := by
    obtain ⟨-, -, rfl⟩ := resolve_standard h
    obtain ⟨-, -, e⟩ := resolve_standard h'
    exact congrArg Cell.offset e

end Bus

end Hexscope
