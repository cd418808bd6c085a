import Hexscope.Instruction.Effect

/-!
# The layout of a bus

What registration decides and no access changes: the ranges, and how many cells each memory has
(`Bus.layout`). From the layout alone follows which addresses are mapped and where they lead.

* `adds_of_register`: what a registration adds;
* `Built.sound`: on a bus that was put together by registration and then used, each range belongs
  to a device, and a memory is as long as its ranges;
* `Built.nonneg_of_isMapped`: nothing is mapped below zero on it;
* `Sound.exists_peek`, `Sound.exists_poke`: on such a bus every mapped address can be read, and
  takes every byte. So an access is refused only where nothing is mapped.
-/

namespace Hexscope

/-- The number of cells of a memory. Other devices have none. -/
def Device.cells? : Device → Option Nat
  | .ram r => some r.size
  | .latch _ => none

namespace Ram

theorem cell?_of_lt {r : Ram} {a : Int} (h₀ : 0 ≤ a) (h₁ : a < r.size) :
    r.cell? a = .ok a.toNat := by
  unfold cell?
  rw [if_neg (by omega)]

theorem write_of_lt {r : Ram} {a data : Int} (h₀ : 0 ≤ a) (h₁ : a < r.size) (hd : 0 ≤ data)
    (hd' : data ≤ 255) :
    r.write a data = .ok { r with cells := r.cells.setIfInBounds a.toNat (Byte.ofInt data) } := by
  simp only [write_eq, cell?_of_lt h₀ h₁]
  have : ¬ (data < 0 ∨ 255 < data) := by omega
  simp [this, bind, Except.bind, pure, Except.pure]

theorem size_write {r r' : Ram} {a data : Int} (h : r.write a data = .ok r') :
    r'.size = r.size := by
  rw [write_eq] at h
  obtain ⟨k, -, h⟩ := exists_of_bind_eq_ok h
  split at h
  · cases h
  · cases h
    simp [size]

theorem size_load {r r' : Ram} {a : Int} {data : List UInt8} (h : r.load a data = .ok r') :
    r'.size = r.size := by
  simp only [load] at h
  split at h <;> cases h
  simp [size]

end Ram

namespace Device

@[simp] theorem cells?_clear (d : Device) : d.clear.cells? = d.cells? := by
  cases d <;> simp [clear, cells?]

theorem cells?_write {d d' : Device} {a data : Int} (h : d.write a data = .ok d') :
    d'.cells? = d.cells? := by
  cases d with
  | latch b => cases h; rfl
  | ram r =>
    rw [write_ram] at h
    cases hr : r.write a data with
    | error e => rw [hr] at h; cases h
    | ok r' =>
      rw [hr] at h
      cases h
      exact congrArg some (Ram.size_write hr)

end Device

namespace Bus

/-- The ranges of a bus, and the number of cells of each device. -/
structure Layout where
  mappings : List Mapping
  cells : Array (Option Nat)

/-- The ranges and the sizes of the memories on a bus. -/
def layout (b : Bus) : Layout := ⟨b.mappings, b.devices.map Device.cells?⟩

variable {b b' : Bus} {a data : Int}

theorem mappings_of_layout (h : b'.layout = b.layout) : b'.mappings = b.mappings :=
  congrArg Layout.mappings h

theorem numberOfDevices_of_layout (h : b'.layout = b.layout) :
    b'.devices.size = b.devices.size := by
  have := congrArg (·.cells.size) h
  simpa [layout] using this

theorem cells?_device (b : Bus) (k : Nat) :
    (b.device k).cells? = b.layout.cells.getD k none := by
  by_cases hk : k < b.devices.size
  · simp [device, layout, Array.getD, hk]
  · have : (default : Device).cells? = none := rfl
    simp [device, layout, Array.getD, hk, this]

theorem cells?_of_layout (h : b'.layout = b.layout) (k : Nat) :
    (b'.device k).cells? = (b.device k).cells? := by
  rw [cells?_device, cells?_device, h]

theorem resolve_of_layout (h : b'.layout = b.layout) (a : Int) : b'.resolve a = b.resolve a := by
  unfold resolve
  rw [mappings_of_layout h]

theorem size_of_layout (h : b'.layout = b.layout) : b'.size = b.size := by
  unfold size
  rw [mappings_of_layout h]

/-! ## What keeps the layout -/

@[simp] theorem layout_record (b : Bus) (x : Access) : (b.record x).layout = b.layout := rfl

@[simp] theorem layout_dropLog (b : Bus) : b.dropLog.layout = b.layout := rfl

@[simp] theorem layout_drain (b : Bus) : b.drain.2.layout = b.layout := rfl

@[simp] theorem layout_clear (b : Bus) : b.clear.layout = b.layout := by
  simp only [layout, clear, Array.map_map]
  congr 2
  funext d
  exact Device.cells?_clear d

theorem device_replace (b : Bus) {k : Nat} (hk : k < b.devices.size) (d : Device) (j : Nat) :
    (b.replace k d).device j = if j = k then d else b.device j := by
  by_cases e : j = k
  · subst e
    simp [device, replace, hk]
  · have : k ≠ j := fun h => e h.symm
    simp [device, replace, e, this, Array.getD_eq_getD_getElem?, Array.getElem?_setIfInBounds_ne]

theorem layout_replace {k : Nat} {d : Device} (h : d.cells? = (b.device k).cells?) :
    (b.replace k d).layout = b.layout := by
  simp only [layout, replace, Layout.mk.injEq, true_and]
  apply Array.ext
  · simp
  intro i h₁ h₂
  simp only [Array.size_map] at h₂
  by_cases e : k = i
  · subst e
    simp [h, device, Array.getD, h₂]
  · simp only [Array.getElem_map]
    rw [Array.getElem_setIfInBounds_ne h₂ e]

/-- Writing without a record: the address leads to a cell of a device, which takes the data. -/
theorem exists_of_poke (h : b.poke a data = .ok b') :
    ∃ c d, b.resolve a = .ok c ∧ (b.device c.device).write c.offset data = .ok d ∧
      b' = b.replace c.device d := by
  rw [poke_eq] at h
  obtain ⟨c, hc, h⟩ := exists_of_bind_eq_ok h
  obtain ⟨d, hd, h⟩ := exists_of_bind_eq_ok h
  cases h
  exact ⟨c, d, hc, hd, rfl⟩

/-- A property of buses that an access keeps, whether it is recorded or not. -/
structure Kept (P : Bus → Prop) : Prop where
  log {b : Bus} (xs : List Access) : P b → P { b with log := xs }
  poke {b b' : Bus} {a data : Int} : b.poke a data = .ok b' → P b → P b'

namespace Kept

variable {P : Bus → Prop}

theorem write (kept : Kept P) (h : b.write a data = .ok b') (hb : P b) : P b' := by
  rw [write_eq] at h
  obtain ⟨c, hc, h⟩ := exists_of_bind_eq_ok h
  cases h
  exact kept.log _ (kept.poke hc hb)

theorem read (kept : Kept P) {d : UInt8} (h : b.read a = .ok (d, b')) (hb : P b) : P b' := by
  rw [read_eq] at h
  obtain ⟨x, -, h⟩ := exists_of_bind_eq_ok h
  cases h
  exact kept.log _ hb

theorem pokeAll (kept : Kept P) (hb : P b) (a : Int) (data : List UInt8) :
    P (b.pokeAll a data).1 := by
  induction data generalizing b a with
  | nil => exact hb
  | cons x xs ih =>
    rw [Bus.pokeAll, tryPoke_eq]
    cases hp : b.poke a x.toNat with
    | error e => exact hb
    | ok b' => exact ih (kept.poke hp hb) (a + 1)

theorem writeAll (kept : Kept P) (hb : P b) (a : Int) (data : List Int) :
    P (b.writeAll a data).1 := by
  induction data generalizing b a with
  | nil => exact hb
  | cons x xs ih =>
    simp only [Bus.writeAll]
    cases hp : b.write a x with
    | error e => exact hb
    | ok b' => exact ih (kept.write hp hb) (a + 1)

end Kept

theorem layout_poke (h : b.poke a data = .ok b') : b'.layout = b.layout := by
  obtain ⟨c, d, -, hd, rfl⟩ := exists_of_poke h
  exact layout_replace (Device.cells?_write hd)

theorem kept_layout (l : Layout) : Kept fun b => b.layout = l where
  log _ h := h
  poke hp h := (layout_poke hp).trans h

theorem layout_write (h : b.write a data = .ok b') : b'.layout = b.layout :=
  (kept_layout b.layout).write h rfl

theorem layout_read {d : UInt8} (h : b.read a = .ok (d, b')) : b'.layout = b.layout :=
  (kept_layout b.layout).read h rfl

@[simp] theorem layout_pokeAll (b : Bus) (a : Int) (data : List UInt8) :
    (b.pokeAll a data).1.layout = b.layout :=
  (kept_layout b.layout).pokeAll rfl a data

/-- A block is stored in one memory as a whole, or byte by byte, or not at all. -/
theorem load_cases (b : Bus) (a : Int) (data : List UInt8) :
    (b.load a data).1 = b ∨ (b.load a data).1 = (b.pokeAll a data).1 ∨
    ∃ k o r r', b.device k = .ram r ∧ r.load o data = .ok r' ∧
      (b.load a data).1 = b.replace k (.ram r') := by
  unfold load
  split
  · exact .inl rfl
  split
  · exact .inl rfl
  · exact .inl rfl
  rename_i c l hc hl
  cases hd : b.device c.device with
  | latch x => exact .inr (.inl rfl)
  | ram r =>
    dsimp only
    split
    · cases hr : r.load c.offset data with
      | error e => exact .inl rfl
      | ok r' => exact .inr (.inr ⟨c.device, c.offset, r, r', hd, hr, rfl⟩)
    · exact .inr (.inl rfl)

@[simp] theorem layout_load (b : Bus) (a : Int) (data : List UInt8) :
    (b.load a data).1.layout = b.layout := by
  rcases load_cases b a data with same | bytewise | ⟨k, o, r, r', hd, hr, whole⟩
  · rw [same]
  · rw [bytewise, layout_pokeAll]
  · rw [whole]
    exact layout_replace (by rw [hd]; exact congrArg some (Ram.size_load hr))

/-! ## Mapped addresses -/

/-- Whether some device answers at an address. -/
def IsMapped (b : Bus) (a : Int) : Prop := ∃ m ∈ b.mappings, m.holds a = true

instance (b : Bus) (a : Int) : Decidable (b.IsMapped a) :=
  inferInstanceAs (Decidable (∃ m ∈ b.mappings, m.holds a = true))

theorem isMapped_of_layout (h : b'.layout = b.layout) (a : Int) :
    b'.IsMapped a ↔ b.IsMapped a := by
  unfold IsMapped
  rw [mappings_of_layout h]

theorem resolve_of_isMapped (h : b.IsMapped a) : ∃ c, b.resolve a = .ok c := by
  obtain ⟨m, hm, ha⟩ := h
  have found : (b.mappings.find? (·.holds a)).isSome := by
    rw [List.find?_isSome]
    exact ⟨m, hm, ha⟩
  obtain ⟨n, hn⟩ := Option.isSome_iff_exists.mp found
  exact ⟨⟨n.device, a - n.first⟩, by simp only [resolve, hn]⟩

theorem resolve_of_not_isMapped (h : ¬ b.IsMapped a) : b.resolve a = .error (.unmapped a) := by
  have : b.mappings.find? (·.holds a) = none := by
    rw [List.find?_eq_none]
    intro m hm ha
    exact h ⟨m, hm, ha⟩
  simp only [resolve, this]

theorem exists_mapping_of_resolve {c : Cell} (h : b.resolve a = .ok c) :
    ∃ m ∈ b.mappings, m.first ≤ a ∧ a ≤ m.last ∧ c = ⟨m.device, a - m.first⟩ := by
  unfold resolve at h
  split at h
  · rename_i m hm
    have held := List.find?_some hm
    simp only [Mapping.holds, Bool.and_eq_true, decide_eq_true_eq] at held
    cases h
    exact ⟨m, List.mem_of_find?_eq_some hm, held.1, held.2, rfl⟩
  · cases h

theorem isMapped_of_resolve {c : Cell} (h : b.resolve a = .ok c) : b.IsMapped a := by
  obtain ⟨m, hm, h₀, h₁, -⟩ := exists_mapping_of_resolve h
  exact ⟨m, hm, by simp [Mapping.holds, h₀, h₁]⟩

theorem bounds_foldl_last (ms : List Mapping) (n : Int) :
    n ≤ ms.foldl (fun n m => max n (m.last + 1)) n ∧
      ∀ m ∈ ms, m.last < ms.foldl (fun n m => max n (m.last + 1)) n := by
  induction ms generalizing n with
  | nil => exact ⟨Int.le_refl n, List.forall_mem_nil _⟩
  | cons m ms ih =>
    obtain ⟨low, each⟩ := ih (max n (m.last + 1))
    rw [List.foldl_cons]
    exact ⟨by omega, List.forall_mem_cons.mpr ⟨by omega, each⟩⟩

theorem size_nonneg (b : Bus) : 0 ≤ b.size := (bounds_foldl_last b.mappings 0).1

theorem last_lt_size {m : Mapping} (hm : m ∈ b.mappings) : m.last < b.size :=
  (bounds_foldl_last b.mappings 0).2 m hm

/-- Nothing is mapped from the size on. -/
theorem lt_size_of_isMapped (h : b.IsMapped a) : a < b.size := by
  obtain ⟨m, hm, holds⟩ := h
  have := last_lt_size hm
  simp only [Mapping.holds, Bool.and_eq_true, decide_eq_true_eq] at holds
  omega

/-- All addresses below the end are mapped. -/
def IsWhole (b : Bus) : Prop := ∀ a, 0 ≤ a → a < b.size → b.IsMapped a

theorem IsWhole.of_layout {b' : Bus} (h : b'.layout = b.layout) (whole : b.IsWhole) : b'.IsWhole :=
  fun a low inside => (isMapped_of_layout h a).mpr (whole a low (size_of_layout h ▸ inside))

/-- Each range belongs to a device, and a memory is as long as its ranges. -/
structure Sound (b : Bus) : Prop where
  device_lt : ∀ m ∈ b.mappings, m.device < b.devices.size
  span : ∀ m ∈ b.mappings, ∀ n, (b.device m.device).cells? = some n →
    (n : Int) = m.last - m.first + 1

namespace Sound

theorem of_layout (h : b'.layout = b.layout) (hb : b.Sound) : b'.Sound := by
  refine ⟨fun m hm => ?_, fun m hm n hn => ?_⟩
  · rw [mappings_of_layout h] at hm
    rw [numberOfDevices_of_layout h]
    exact hb.device_lt m hm
  · rw [mappings_of_layout h] at hm
    rw [cells?_of_layout h] at hn
    exact hb.span m hm n hn

variable {c : Cell}

/-- An address leads to a device of the bus. -/
theorem resolve_device_lt (hb : b.Sound) (h : b.resolve a = .ok c) :
    c.device < b.devices.size := by
  obtain ⟨m, hm, -, -, rfl⟩ := exists_mapping_of_resolve h
  exact hb.device_lt m hm

/-- An address that leads to a memory leads to one of its cells. -/
theorem resolve_offset (hb : b.Sound) (h : b.resolve a = .ok c) {r : Ram}
    (hr : b.device c.device = .ram r) : 0 ≤ c.offset ∧ c.offset < r.size := by
  obtain ⟨m, hm, h₀, h₁, rfl⟩ := exists_mapping_of_resolve h
  have := hb.span m hm r.size (by rw [hr]; rfl)
  dsimp only
  omega

/-- What is mapped can be read. -/
theorem exists_peek (hb : b.Sound) (h : b.IsMapped a) : ∃ d, b.peek a = .ok d := by
  obtain ⟨c, hc⟩ := resolve_of_isMapped h
  have e : b.peek a = (b.device c.device).read c.offset := by
    simp only [peek, hc]; rfl
  rw [e]
  cases hd : b.device c.device with
  | latch x => exact ⟨_, rfl⟩
  | ram r =>
    obtain ⟨h₀, h₁⟩ := hb.resolve_offset hc hd
    simp only [Device.read, Ram.read, Ram.cell?_of_lt h₀ h₁]
    exact ⟨_, rfl⟩

/-- What is mapped takes every byte. -/
theorem exists_poke (hb : b.Sound) (h : b.IsMapped a) (h₀ : 0 ≤ data) (h₁ : data ≤ 255) :
    ∃ b', b.poke a data = .ok b' := by
  obtain ⟨c, hc⟩ := resolve_of_isMapped h
  have written : ∃ d, (b.device c.device).write c.offset data = .ok d := by
    cases hd : b.device c.device with
    | latch x => exact ⟨_, rfl⟩
    | ram r =>
      obtain ⟨o₀, o₁⟩ := hb.resolve_offset hc hd
      simp only [Device.write_ram, Ram.write_of_lt o₀ o₁ h₀ h₁]
      exact ⟨_, rfl⟩
  obtain ⟨d, hd⟩ := written
  refine ⟨b.replace c.device d, ?_⟩
  simp only [poke_eq, hc, bind, Except.bind, hd]
  rfl

theorem exists_read (hb : b.Sound) (h : b.IsMapped a) : ∃ d b', b.read a = .ok (d, b') := by
  obtain ⟨d, hd⟩ := hb.exists_peek h
  refine ⟨d, b.record ⟨a, d.toNat, .read⟩, ?_⟩
  simp only [read_eq, hd]
  rfl

theorem exists_write (hb : b.Sound) (h : b.IsMapped a) (h₀ : 0 ≤ data) (h₁ : data ≤ 255) :
    ∃ b', b.write a data = .ok b' := by
  obtain ⟨b', hb'⟩ := hb.exists_poke h h₀ h₁
  refine ⟨b'.record ⟨a, data, .write⟩, ?_⟩
  simp only [write_eq, hb']
  rfl

end Sound

theorem peek_of_not_isMapped (h : ¬ b.IsMapped a) : b.peek a = .error (.unmapped a) := by
  simp only [peek, resolve_of_not_isMapped h]
  rfl

theorem read_of_not_isMapped (h : ¬ b.IsMapped a) : b.read a = .error (.unmapped a) := by
  simp only [read_eq, peek_of_not_isMapped h]
  rfl

theorem write_of_not_isMapped (h : ¬ b.IsMapped a) : b.write a data = .error (.unmapped a) := by
  simp only [write_eq, poke_eq, resolve_of_not_isMapped h]
  rfl

/-! ## Registration -/

/-- The buses that come about by registering parts, and by using what is registered so far. -/
inductive Built : Bus → Prop where
  | empty : Built .empty
  | register {b b' : Bus} {first last : Int} {part : Part} :
    Built b → b.register first last part = .ok b' → Built b'
  | read {b b' : Bus} {a : Int} {d : UInt8} : Built b → b.read a = .ok (d, b') → Built b'
  | write {b b' : Bus} {a data : Int} : Built b → b.write a data = .ok b' → Built b'
  | load {b : Bus} (a : Int) (data : List UInt8) : Built b → Built (b.load a data).1
  | drain {b : Bus} : Built b → Built b.drain.2
  | clear {b : Bus} : Built b → Built b.clear

theorem span_of_fits {d : Device} {span : Int} {n : Nat} (h : fits d span = .ok ())
    (hn : d.cells? = some n) : (n : Int) = span := by
  cases d with
  | latch x => cases hn
  | ram r =>
    cases hn
    simp only [fits] at h
    split at h
    · assumption
    · cases h

/-- What a registration adds: a range, and the device that it belongs to, unless that is there already. -/
inductive Adds (b : Bus) (first last : Int) : Part → Bus → Prop where
  | range {index : Int} {k : Nat} : k < b.devices.size → fits (b.device k) (last - first + 1) = .ok () →
    Adds b first last (.again index) { b with mappings := b.mappings ++ [⟨first, last, k⟩] }
  | device {d : Device} : fits d (last - first + 1) = .ok () →
    Adds b first last (.fresh d) { b with
      devices := b.devices.push d
      mappings := b.mappings ++ [⟨first, last, b.devices.size⟩] }

section

variable {first last : Int} {part : Part}

theorem adds_of_register (h : b.register first last part = .ok b') : b.Adds first last part b' := by
  cases part with
  | «foreign» =>
    obtain ⟨u, -, h⟩ := exists_of_bind_eq_ok h
    cases h
  | fresh d =>
    obtain ⟨u, -, h⟩ := exists_of_bind_eq_ok h
    obtain ⟨v, hv, h⟩ := exists_of_bind_eq_ok h
    cases h
    exact .device hv
  | again index =>
    obtain ⟨k, hk, h⟩ := exists_of_bind_eq_ok h
    obtain ⟨u, -, h⟩ := exists_of_bind_eq_ok h
    obtain ⟨v, hv, h⟩ := exists_of_bind_eq_ok h
    cases h
    refine .range ?_ hv
    unfold deviceNumber? at hk
    generalize (if index < 0 then index + b.devices.size else index) = j at hk
    dsimp only at hk
    split at hk <;> cases hk
    omega

/-- The devices that are there stay as they are. -/
theorem Adds.device_eq (h : b.Adds first last part b') {k : Nat} (hk : k < b.devices.size) :
    b'.device k = b.device k := by
  cases h with
  | range => rfl
  | device => simp [Bus.device, Array.getD, hk, Nat.lt_succ_of_lt hk, Array.getElem_push_lt hk]

theorem Sound.register (hb : b.Sound) (h : b.register first last part = .ok b') : b'.Sound := by
  have adds := adds_of_register h
  have earlier (m : Mapping) (hm : m ∈ b.mappings) (n : Nat) (hn : (b'.device m.device).cells? = some n) :
      (n : Int) = m.last - m.first + 1 := by
    rw [adds.device_eq (hb.device_lt m hm)] at hn
    exact hb.span m hm n hn
  cases adds with
  | range lt fits =>
    refine ⟨fun m hm => ?_, fun m hm n hn => ?_⟩
    all_goals
      simp only [List.mem_append, List.mem_singleton] at hm
      rcases hm with old | rfl
    · exact hb.device_lt m old
    · exact lt
    · exact earlier m old n hn
    · exact span_of_fits fits hn
  | device fits =>
    refine ⟨fun m hm => ?_, fun m hm n hn => ?_⟩
    all_goals
      simp only [List.mem_append, List.mem_singleton] at hm
      rcases hm with old | rfl
    · have lt := hb.device_lt m old
      rw [Array.size_push]
      omega
    · rw [Array.size_push]
      exact Nat.lt_succ_self _
    · exact earlier m old n hn
    · refine span_of_fits fits ?_
      rw [← hn]
      simp [Bus.device]

end

/-- On a bus that was put together by registration, each range belongs to a device, and a memory is
as long as its ranges. -/
theorem Built.sound (h : b.Built) : b.Sound := by
  induction h with
  | empty => exact ⟨nofun, nofun⟩
  | register _ hr ih => exact ih.register hr
  | read _ hr ih => exact ih.of_layout (layout_read hr)
  | write _ hw ih => exact ih.of_layout (layout_write hw)
  | load a data _ ih => exact ih.of_layout (layout_load _ a data)
  | drain _ ih => exact ih.of_layout (layout_drain _)
  | clear _ ih => exact ih.of_layout (layout_clear _)

theorem nonneg_of_checkRange {first last : Int} (h : checkRange first last = .ok ()) : 0 ≤ first := by
  unfold checkRange at h
  split at h
  · cases h
  · omega

/-- No range begins below zero. -/
theorem nonneg_of_register {first last : Int} {part : Part} (h : b.register first last part = .ok b') : 0 ≤ first := by
  cases part with
  | «foreign» =>
    obtain ⟨⟨⟩, range, -⟩ := exists_of_bind_eq_ok h
    exact nonneg_of_checkRange range
  | fresh d =>
    obtain ⟨⟨⟩, range, -⟩ := exists_of_bind_eq_ok h
    exact nonneg_of_checkRange range
  | again index =>
    obtain ⟨k, -, h⟩ := exists_of_bind_eq_ok h
    obtain ⟨⟨⟩, range, -⟩ := exists_of_bind_eq_ok h
    exact nonneg_of_checkRange range

/-- Nothing is mapped below zero, and no access changes that. -/
theorem Built.nonneg_of_isMapped (h : b.Built) (same : b'.layout = b.layout) (mapped : b'.IsMapped a) : 0 ≤ a := by
  have first_nonneg : ∀ m ∈ b.mappings, 0 ≤ m.first := by
    clear same
    induction h with
    | empty => nofun
    | register _ hr ih =>
      have nonneg := nonneg_of_register hr
      have adds := adds_of_register hr
      cases adds with
      | range | device =>
        simp only [List.mem_append, List.mem_singleton]
        rintro m (old | rfl)
        · exact ih m old
        · exact nonneg
    | read _ hr ih => rwa [mappings_of_layout (layout_read hr)]
    | write _ hw ih => rwa [mappings_of_layout (layout_write hw)]
    | load a data _ ih => rwa [mappings_of_layout (layout_load _ a data)]
    | drain _ ih => rwa [mappings_of_layout (layout_drain _)]
    | clear _ ih => rwa [mappings_of_layout (layout_clear _)]
  obtain ⟨m, hm, holds⟩ := (isMapped_of_layout same a).mp mapped
  have := first_nonneg m hm
  simp only [Mapping.holds, Bool.and_eq_true, decide_eq_true_eq] at holds
  omega

/-- A memory of zeros can be registered wherever its range does not begin below zero. -/
theorem register_zeros (b : Bus) {first last : Int} {n : Nat} (h₀ : 0 ≤ first) (h₁ : first ≤ last)
    (h : last - first + 1 = n) :
    b.register first last (.fresh (.ram (Ram.zeros n))) = .ok { b with
      devices := b.devices.push (.ram (Ram.zeros n))
      mappings := b.mappings ++ [⟨first, last, b.devices.size⟩] } := by
  have range : checkRange first last = .ok () := if_neg (by omega)
  have fit : fits (.ram (Ram.zeros n)) (last - first + 1) = .ok () := h ▸ fits_zeros n
  simp only [register, range, fit]
  rfl

/-! ## The standard memory -/

theorem built_standard : standard.Built := .register .empty register_standard

theorem size_standard : standard.size = 4096 := rfl

theorem isMapped_standard {a : Int} : standard.IsMapped a ↔ 0 ≤ a ∧ a < 4096 := by
  simp only [IsMapped, standard, List.mem_singleton, exists_eq_left, Mapping.holds,
    Bool.and_eq_true, decide_eq_true_eq]
  omega

theorem whole_standard : standard.IsWhole := fun _ low inside => isMapped_standard.mpr ⟨low, inside⟩

end Bus

end Hexscope
