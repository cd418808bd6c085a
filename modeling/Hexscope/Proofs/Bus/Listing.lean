import Hexscope.Listing
import Hexscope.Proofs.Cpu.Cycle
import Hexscope.Proofs.Instruction.Text
import Hexscope.Proofs.Results

/-!
# What a listing shows

Each line of a listing stands for the byte at its address and the byte behind it. The last byte of the address
space stands alone if it is left over.

* `Bus.Shows`: what a line says about the memory;
* `Bus.Shows.iff_of_layout`: by its text a line tells the bytes of one memory from those of another;
* `Bus.linesFrom_eq`: the loop of a listing in closed form, the lines at every second address;
* `Bus.Tiles`: how the lines of a listing cover its addresses;
* `Bus.exists_listing`: both hold of every listing, if all addresses below the end are mapped.
-/

namespace Hexscope

namespace Bus

variable {b : Bus} {a start length : Int} {n : Nat}

theorem addresses_add (a : Int) (n k : Nat) :
    addresses a (n + k) = addresses a n ++ addresses (a + n) k := by
  simp only [addresses, List.range_add, List.map_append, List.map_map]
  refine congrArg _ (List.map_congr_left fun i _ => ?_)
  simp only [Function.comp]
  omega

/-! ## Lines -/

/-- The line at an address. -/
def line (b : Bus) (a : Int) : Except Error ListingLine :=
  if b.size ≤ a + 1 then b.lastLine a else b.opcodeLine a

/-- Where nothing is mapped there is no line. -/
theorem line_of_not_isMapped (unmapped : ¬ b.IsMapped a) : b.line a = .error (.unmapped a) := by
  have none := peek_of_not_isMapped unmapped
  by_cases ends : b.size ≤ a + 1
  · rw [line, if_pos ends, lastLine, none]
    rfl
  · rw [line, if_neg ends, opcodeLine, none]
    rfl

/-- The addresses that the line at an address stands for. -/
def extent (b : Bus) (a : Int) : List Int := addresses a (if b.size ≤ a + 1 then 1 else 2)

/-- What a line says about the memory. -/
inductive Shows (b : Bus) (l : ListingLine) : Prop where
  /-- The bytes at its address and behind it, and the text of their opcode. -/
  | pair {high low : UInt8} : l.address + 1 < b.size → b.peek l.address = .ok high →
    b.peek (l.address + 1) = .ok low →
    l.bytes = Radix.hex 2 high.toNat ++ " " ++ Radix.hex 2 low.toNat →
    l.text = (Opcode.ofBytes high low).describe.text → Shows b l
  /-- The byte at the last address of all. -/
  | last {byte : UInt8} : l.address + 1 = b.size → b.peek l.address = .ok byte →
    l.bytes = Radix.hex 2 byte.toNat → l.text = "??" → Shows b l

/-- Below the end of a memory without gaps there is a line at each address. -/
theorem exists_line (sound : b.Sound) (whole : b.IsWhole) (low : 0 ≤ a) (inside : a < b.size) :
    ∃ l, b.line a = .ok l ∧ l.address = a ∧ b.Shows l := by
  obtain ⟨high, here⟩ := sound.exists_peek (whole a low inside)
  by_cases ends : b.size ≤ a + 1
  · refine ⟨⟨a, Radix.hex 2 high.toNat, "??"⟩, ?_, rfl, .last (Int.le_antisymm inside ends) here rfl rfl⟩
    rw [line, if_pos ends, lastLine, here]
    rfl
  · have behind : a + 1 < b.size := Int.not_le.mp ends
    obtain ⟨second, next⟩ := sound.exists_peek (whole (a + 1) (by omega) behind)
    refine ⟨_, ?_, ?_, .pair (l := ⟨a, _, _⟩) behind here next rfl rfl⟩
    · rw [line, if_neg ends, opcodeLine, here, next]
      rfl
    · rfl

/-- A line that stands before a whole opcode shows its text. -/
theorem Shows.text {l : ListingLine} {w : Opcode} (h : b.Shows l) (here : b.peekOpcode l.address = .ok w) :
    l.address + 1 < b.size ∧ l.text = w.describe.text := by
  have inside := lt_size_of_peekOpcode here
  obtain ⟨high, first, rest⟩ := exists_of_bind_eq_ok here
  obtain ⟨low, second, opcode⟩ := exists_of_bind_eq_ok rest
  cases h with
  | pair _ first' second' _ text =>
    cases first.symm.trans first'
    cases second.symm.trans second'
    cases opcode
    exact ⟨inside, text⟩
  | last ends => omega

theorem Shows.lt_size {l : ListingLine} (h : b.Shows l) : l.address < b.size := by
  cases h with
  | pair inside => omega
  | last ends => omega

theorem hex_byte_inj {m n : UInt8} (same : Radix.hex 2 m.toNat = Radix.hex 2 n.toNat) : m = n :=
  UInt8.toNat_inj.mp (Radix.hex_inj m.toNat_lt n.toNat_lt same)

/-- Two bytes are told apart by their digits. -/
theorem hex_bytes_inj {m n m' n' : UInt8} (same : Radix.hex 2 m.toNat ++ " " ++ Radix.hex 2 n.toNat =
    Radix.hex 2 m'.toNat ++ " " ++ Radix.hex 2 n'.toNat) : m = m' ∧ n = n' := by
  have letters := congrArg String.toList same
  simp only [String.toList_append, Radix.toList_hex, List.append_assoc] at letters
  obtain ⟨front, rest⟩ := List.append_inj letters (by rw [Radix.length_nibbles, Radix.length_nibbles])
  have back := List.append_cancel_left rest
  exact ⟨hex_byte_inj (congrArg String.ofList front), hex_byte_inj (congrArg String.ofList back)⟩

/-- A line that shows one memory shows another of the same layout exactly if its bytes are the same there. -/
theorem Shows.iff_of_layout {b' : Bus} {l : ListingLine} (h : b.Shows l) (same : b'.layout = b.layout) : b'.Shows l ↔
    b'.peek l.address = b.peek l.address ∧ b'.peek (l.address + 1) = b.peek (l.address + 1) := by
  have size := size_of_layout same
  constructor
  · intro h'
    cases h with
    | pair inside first second bytes =>
      cases h' with
      | pair _ first' second' bytes' =>
        obtain ⟨rfl, rfl⟩ := hex_bytes_inj (bytes.symm.trans bytes')
        exact ⟨first'.trans first.symm, second'.trans second.symm⟩
      | last ends => omega
    | last ends first bytes =>
      cases h' with
      | pair inside => omega
      | last _ first' bytes' =>
        cases hex_byte_inj (bytes.symm.trans bytes')
        have unmapped : ¬ b.IsMapped (l.address + 1) := fun mapped =>
          absurd (lt_size_of_isMapped mapped) (by omega)
        have unmapped' := mt (isMapped_of_layout same _).mp unmapped
        exact ⟨first'.trans first.symm, (peek_of_not_isMapped unmapped').trans (peek_of_not_isMapped unmapped).symm⟩
  · rintro ⟨first', second'⟩
    cases h with
    | pair inside first second bytes text =>
      exact .pair (size ▸ inside) (first'.trans first) (second'.trans second) bytes text
    | last ends first bytes text => exact .last (ends.trans size.symm) (first'.trans first) bytes text

/-! ## Listings -/

/-- The number of lines from an address on that begin below `stop`. -/
def lineCount (stop a : Int) : Nat := ((stop - a + 1) / 2).toNat

theorem lineCount_of_le {stop : Int} (h : stop ≤ a) : lineCount stop a = 0 := by
  unfold lineCount
  omega

theorem lineCount_of_lt {stop : Int} (h : a < stop) : lineCount stop a = lineCount stop (a + 2) + 1 := by
  unfold lineCount
  omega

theorem lt_of_lt_lineCount {stop : Int} {k : Nat} (h : k < lineCount stop a) : a + 2 * (k : Int) < stop := by
  unfold lineCount at h
  omega

/-- The loop in closed form: up to an end that is within the address space, it gives the lines at every second
address. -/
theorem linesFrom_eq {stop : Int} (within : stop ≤ b.size) :
    b.linesFrom stop a = (List.range (lineCount stop a)).mapM fun k : Nat => b.line (a + 2 * (k : Int)) := by
  induction a using linesFrom.induct b stop with
  | case1 a more ends =>
    -- The end cuts the last line short, so that no line begins behind it.
    have one : lineCount stop a = 1 := by
      rw [lineCount_of_lt more, lineCount_of_le (by omega)]
    rw [linesFrom, if_pos more, if_pos ends, one, List.range_one, List.mapM_cons, List.mapM_nil, line]
    simp only [Int.natCast_zero, Int.mul_zero, Int.add_zero, if_pos ends, pure_bind]
  | case2 a more goes ih =>
    have later : (List.range (lineCount stop (a + 2))).mapM (fun k : Nat => b.line (a + 2 + 2 * (k : Int))) =
        ((List.range (lineCount stop (a + 2))).map Nat.succ).mapM fun k : Nat => b.line (a + 2 * (k : Int)) := by
      rw [List.mapM_map]
      refine congrArg (List.mapM · _) (funext fun k => congrArg b.line ?_)
      omega
    rw [linesFrom, if_pos more, if_neg goes, ih, later, lineCount_of_lt more, List.range_succ_eq_map, List.mapM_cons, line]
    simp only [Int.natCast_zero, Int.mul_zero, Int.add_zero, if_neg goes]
  | case3 a done =>
    rw [linesFrom, if_neg done, lineCount_of_le (Int.not_lt.mp done), List.range_zero, List.mapM_nil]

theorem listing_eq (b : Bus) (start length : Int) : b.listing start length =
    (List.range (lineCount (min (start + length) b.size) start)).mapM fun k : Nat => b.line (start + 2 * (k : Int)) :=
  linesFrom_eq (Int.min_le_right ..)

/-- The lines of a listing cover the addresses from `start` on below `stop`. -/
structure Tiles (b : Bus) (start stop : Int) (lines : List ListingLine) : Prop where
  /-- The lines stand at every second address. -/
  addresses : lines.map (·.address) =
    (List.range lines.length).map fun k : Nat => start + 2 * (k : Int)
  /-- What they stand for are consecutive addresses, each once. -/
  consecutive : ∃ n, lines.flatMap (fun l => b.extent l.address) = Bus.addresses start n
  /-- None is missing. -/
  covers : ∀ a, start ≤ a → a < stop → a ∈ lines.flatMap fun l => b.extent l.address
  /-- The second byte of a line may lie one address further. -/
  within : ∀ a ∈ lines.flatMap (fun l => b.extent l.address), a ≤ stop ∧ a < b.size
  empty : lines = [] ↔ stop ≤ start
  /-- A line at the last address of all ends the listing. -/
  last : ∀ l ∈ lines, l.address + 1 = b.size → lines.getLast? = some l

/-- What `n` lines stand for, if each of them begins below the end. -/
theorem flatMap_extent (h : ∀ k < n, start + 2 * (k : Int) < b.size) :
    ((List.range n).map fun k : Nat => start + 2 * (k : Int)).flatMap b.extent =
      addresses start (min (2 * (n : Int)) (b.size - start)).toNat := by
  induction n with
  | zero =>
    have none : (min (2 * ((0 : Nat) : Int)) (b.size - start)).toNat = 0 := by omega
    rw [none]
    rfl
  | succ n ih =>
    have inside := h n (Nat.lt_succ_self n)
    have front : (min (2 * (n : Int)) (b.size - start)).toNat = 2 * n := by omega
    have more : (min (2 * ((n + 1 : Nat) : Int)) (b.size - start)).toNat =
        2 * n + if b.size ≤ start + 2 * (n : Int) + 1 then 1 else 2 := by
      split <;> omega
    rw [List.range_succ, List.map_append, List.flatMap_append,
      ih fun k hk => h k (Nat.lt_succ_of_lt hk), front, more, addresses_add]
    refine congrArg _ ?_
    rw [List.map_singleton, List.flatMap_singleton, extent, Int.natCast_mul]
    rfl

/-- No line stands before the first address. -/
theorem Tiles.le_address {stop : Int} {lines : List ListingLine} (h : b.Tiles start stop lines)
    {l : ListingLine} (hl : l ∈ lines) : start ≤ l.address := by
  have listed : l.address ∈ lines.map (·.address) := List.mem_map_of_mem hl
  rw [h.addresses, List.mem_map] at listed
  obtain ⟨k, -, address⟩ := listed
  omega

/-- The first line stands at the first address. -/
theorem Tiles.exists_address_eq {stop : Int} {lines : List ListingLine} (h : b.Tiles start stop lines)
    (more : start < stop) : ∃ l ∈ lines, l.address = start := by
  cases lines with
  | nil => exact absurd (h.empty.mp rfl) (by omega)
  | cons l lines =>
    have addresses := h.addresses
    rw [List.length_cons, List.range_succ_eq_map, List.map_cons, List.map_cons] at addresses
    refine ⟨l, List.mem_cons_self, (List.cons.inj addresses).1.trans ?_⟩
    omega

/-- Lines at every second address tile the range that they were counted for. -/
theorem tiles_of_addresses {stop : Int} {lines : List ListingLine} (within : stop ≤ b.size)
    (count : lines.length = lineCount stop start)
    (addresses : lines.map (·.address) =
      (List.range lines.length).map fun k : Nat => start + 2 * (k : Int)) : b.Tiles start stop lines := by
  have inside {k : Nat} (hk : k < lines.length) := lt_of_lt_lineCount (count ▸ hk)
  have extents : lines.flatMap (fun l => b.extent l.address) =
      Bus.addresses start (min (2 * (lines.length : Int)) (b.size - start)).toNat := by
    rw [← flatMap_extent fun k hk => Int.lt_of_lt_of_le (inside hk) within, ← addresses, List.flatMap_map]
  have total : lines.length = ((stop - start + 1) / 2).toNat := count
  refine ⟨addresses, ⟨_, extents⟩, fun a low high => ?_, fun a ha => ?_, ?_, fun l hl ends => ?_⟩
  · rw [extents, mem_addresses]
    omega
  · rw [extents, mem_addresses] at ha
    omega
  · rw [← List.length_eq_zero_iff]
    omega
  · obtain ⟨k, hk, rfl⟩ := List.getElem_of_mem hl
    have address : lines[k].address = start + 2 * (k : Int) := by
      have here : (lines.map (·.address))[k]? = some lines[k].address := by
        rw [List.getElem?_map, List.getElem?_eq_getElem hk]
        rfl
      rw [addresses, List.getElem?_map, List.getElem?_range hk] at here
      exact (Option.some.inj here).symm
    -- A further line would begin behind the end.
    have final : lines.length - 1 = k := by
      by_contra further
      have := inside (k := k + 1) (by omega)
      omega
    rw [List.getLast?_eq_getElem?, final, List.getElem?_eq_getElem hk]

/-- Every listing of a memory without gaps succeeds, and its lines show what it was asked for. -/
theorem exists_listing (sound : b.Sound) (whole : b.IsWhole) (low : 0 ≤ start) (length : Int) :
    ∃ lines, b.listing start length = .ok lines ∧
      b.Tiles start (min (start + length) b.size) lines ∧ ∀ l ∈ lines, b.Shows l := by
  have line : ∀ k ∈ List.range (lineCount (min (start + length) b.size) start),
      ∃ l, b.line (start + 2 * (k : Int)) = .ok l ∧ l.address = start + 2 * (k : Int) ∧ b.Shows l := fun k hk =>
    exists_line sound whole (by omega)
      (Int.lt_of_lt_of_le (lt_of_lt_lineCount (List.mem_range.mp hk)) (Int.min_le_right ..))
  obtain ⟨lines, listed, each⟩ := exists_mapM_eq_ok line
  have count : lines.length = lineCount (min (start + length) b.size) start := by
    rw [← each.length_eq, List.length_range]
  have addresses : lines.map (·.address) =
      (List.range lines.length).map fun k : Nat => start + 2 * (k : Int) := by
    rw [count, ← List.forall₂_eq_eq_eq, List.forall₂_map_left_iff, List.forall₂_map_right_iff]
    exact (each.imp fun _ _ h => h.1).flip
  obtain ⟨shows, -⟩ := (List.forall₂_and_left _ _).mp (each.imp fun _ _ h => h.symm).flip
  exact ⟨lines, (listing_eq ..).trans listed, tiles_of_addresses (Int.min_le_right ..) count addresses, shows⟩

/-- A listing from an address where nothing is mapped fails there, unless it has no lines. -/
theorem listing_of_not_isMapped (unmapped : ¬ b.IsMapped start) (asked : 0 < length)
    (inside : start < b.size) : b.listing start length = .error (.unmapped start) := by
  have more : start < min (start + length) b.size := Int.lt_min.mpr ⟨Int.lt_add_of_pos_right start asked, inside⟩
  have first : b.line (start + 2 * ((0 : Nat) : Int)) = .error (.unmapped start) := by
    have here : start + 2 * ((0 : Nat) : Int) = start := by omega
    rw [here, line_of_not_isMapped unmapped]
  rw [listing_eq, lineCount_of_lt more, List.range_succ_eq_map, List.mapM_cons, first]
  rfl

/-- A listing from the end of the memory on has no lines. -/
theorem listing_of_size_le (beyond : b.size ≤ start) : b.listing start length = .ok [] := by
  rw [listing_eq, lineCount_of_le ((Int.min_le_right ..).trans beyond)]
  rfl

/-- The last byte of a memory stands alone, however much was asked for. -/
example : standard.listing 0xFFF 16 = .ok [⟨0xFFF, "00", "??"⟩] := by
  decide +kernel

end Bus

end Hexscope
