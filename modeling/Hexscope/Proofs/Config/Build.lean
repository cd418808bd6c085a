import Hexscope.Proofs.Binary64.Range
import Hexscope.Proofs.Config.Accept
import Hexscope.Proofs.Keypad.Names
import Hexscope.Proofs.Machine.Load

/-!
# The machine of a configuration

An accepted configuration has positive frequencies, a volume between zero and one, a palette of its own choice,
and a map of different names in lower case to keys. So a machine is built of it without a refusal, and the
machine has what the configuration says.

* `Config.Sound`: what holds of an accepted configuration;
* `Config.Matches`: a machine has what a configuration says;
* `Config.Sound.exists_build`: a sound configuration has a machine;
* `Config.build_of_ofValue`: an accepted configuration is sound, and its machine finds the host keys of the
  entries that were read.
-/

namespace Hexscope

namespace Cpu

variable (c : Cpu)

theorem keypad_requestTone (beeping : Bool) : (c.requestTone beeping).1.keypad = c.keypad := by
  unfold requestTone
  split <;> rfl

theorem volume_requestTone (beeping : Bool) :
    (c.requestTone beeping).1.speaker.map (·.volume) = c.speaker.map (·.volume) := by
  unfold requestTone
  split
  · rfl
  · rename_i speaker here
    rw [here]
    dsimp only [Speaker.request]
    split <;> rfl

/-- A reset leaves the keypad and the volume as they are. -/
theorem surroundings_reset :
    c.reset.1.keypad = c.keypad ∧ c.reset.1.speaker.map (·.volume) = c.speaker.map (·.volume) := by
  have blank : c.blank.1.keypad = c.keypad ∧
      c.blank.1.speaker.map (·.volume) = c.speaker.map (·.volume) := by
    unfold Cpu.blank
    rcases c.bus.clear.load 0 Font.bytes with ⟨bus, _ | e⟩
    · exact ⟨keypad_requestTone _ false, volume_requestTone _ false⟩
    · exact ⟨rfl, rfl⟩
  have shown (d : Cpu) : (d.notify none none true).1.keypad = d.keypad ∧
      (d.notify none none true).1.speaker = d.speaker := by
    unfold notify takeFrame
    exact ⟨rfl, rfl⟩
  rcases reset_cases c with same | notified
  · rw [same]
    exact blank
  · rw [notified, (shown _).1, (shown _).2]
    exact blank

end Cpu

namespace Config

/-- What holds of a configuration that is accepted. -/
structure Sound (c : Config) : Prop where
  cpuHz_pos : 0 < c.cpuHz
  timerHz_pos : 0 < c.timerHz
  volume : c.volume.InUnit
  clamped : c.volume.clampUnit = c.volume
  chosen : ∃ p, c.chosen? = some p ∧ p.id = c.palette
  keys : ∀ e ∈ c.keyMap, 0 ≤ e.2 ∧ e.2 ≤ 15
  named : Keypad.Named c.keyMap

/-- A machine has the frequencies and the volume of a configuration, and finds a host key in its key map, and
else in the standard one. -/
structure Matches (c : Config) (m : Machine) : Prop where
  cpuHz : m.cpuHz = c.cpuHz
  timerHz : m.timerHz = c.timerHz
  volume : m.cpu.speaker.map (·.volume) = some c.volume
  keys : ∀ s, (m.cpu.keypad.named? s).map (fun k => (k.val : Int)) =
    (c.keyMap.lookup s.lowercase).or ((Keypad.standardNames.lookup s.lowercase).map fun k => (k.val : Int))

/-- The entries of the key map. -/
def keySection (entries : List (Value × Value)) : List (Value × Value) :=
  match (entryOr entries "key_map" .null).unfolded with
  | .mapping es => es
  | _ => []

variable {host : Host} {entries : List (Value × Value)} {v : Value} {c : Config}

theorem exists_clampUnit_of_volumeOf {x : Binary64} (h : volumeOf host v = .ok x) :
    ∃ y : Binary64, x = y.clampUnit := by
  unfold volumeOf at h
  split at h
  · split at h
    · exact ⟨_, (Except.ok.inj h).symm⟩
    · cases h
  · exact ⟨_, (Except.ok.inj h).symm⟩
  · obtain ⟨_, _, thrown⟩ := exists_of_bind_eq_ok h
    cases thrown

/-- A section of keys that is accepted counts as nothing, or is a mapping whose entries are accepted. -/
theorem keyMapOf_cases {keyMap : List (Text × Int)} (read : keyMapOf host v = .ok keyMap) :
    (v.isTruthy = false ∧ keyMap = []) ∨ ∃ es keys, v.unfolded = .mapping es ∧ es.mapM (keyEntry host) = .ok keys ∧
      keyMap = Keypad.assignAll [] keys := by
  unfold keyMapOf at read
  split at read
  · rename_i falsy
    exact .inl ⟨by simpa using falsy, (Except.ok.inj read).symm⟩
  · split at read
    · rename_i es mapping
      rw [foldlM_addKey] at read
      cases checked : es.mapM (keyEntry host) with
      | error e =>
        rw [checked] at read
        cases read
      | ok keys =>
        rw [checked] at read
        exact .inr ⟨es, keys, mapping, checked, (Except.ok.inj read).symm⟩
    · cases read

/-- The key map of a configuration is what the entries of its section give. -/
theorem exists_keys_of_reads (reads : Reads host entries c) :
    ∃ keys, List.Forall₂ (fun e k => keyEntry host e = .ok k) (keySection entries) keys ∧
      c.keyMap = Keypad.assignAll [] keys := by
  unfold keySection
  rcases keyMapOf_cases reads.keyMap with ⟨falsy, keyMap⟩ | ⟨es, keys, mapping, checked, keyMap⟩
  · refine ⟨[], ?_, keyMap⟩
    cases unfolded : (entryOr entries "key_map" .null).unfolded with
    | mapping es =>
      rw [Value.entries_eq_nil_of_falsy falsy unfolded]
      exact .nil
    | _ => exact .nil
  · rw [mapping]
    exact ⟨keys, mapM_eq_ok_iff.mp checked, keyMap⟩

/-- The palette that is chosen is the one with the identifier, and not the one that stands for a missing one. -/
theorem exists_chosen (choice : ∃ p ∈ c.palettes, p.id = c.palette) :
    ∃ p, c.chosen? = some p ∧ p.id = c.palette := by
  obtain ⟨q, mem, id⟩ := choice
  cases found : c.palettes.find? (·.id = c.palette) with
  | none => exact absurd id (by simpa using List.find?_eq_none.mp found q mem)
  | some p =>
    refine ⟨p, ?_, by simpa using List.find?_some found⟩
    rw [chosen?, Palette.choose?, found]
    rfl

theorem sound_of_reads (reads : Reads host entries c) : c.Sound := by
  obtain ⟨volume, clamped⟩ := exists_clampUnit_of_volumeOf reads.volume
  obtain ⟨keys, each, keyMap⟩ := exists_keys_of_reads reads
  have bounds : ∀ k ∈ keys, 0 ≤ k.2 ∧ k.2 ≤ 15 := by
    intro k mem
    obtain ⟨e, _, accepted⟩ := exists_of_mem_right each mem
    exact (keyEntry_eq_ok_iff.mp accepted).2.2
  refine ⟨reads.positive.1, reads.positive.2, ?_, ?_, exists_chosen reads.choice, fun e mem => ?_, ?_⟩
  · rw [clamped]
    exact Binary64.inUnit_clampUnit volume
  · rw [clamped, Binary64.clampUnit_clampUnit]
  · rw [keyMap] at mem
    rcases Keypad.mem_assignAll mem with ⟨k, here, same⟩ | none
    · exact same ▸ bounds k here
    · cases none
  · rw [keyMap]
    exact Keypad.named_nil.assignAll keys

theorem not_isRefused {n : Int} (positive : 0 < n) : Frequency.isRefused n = false := by
  rw [Frequency.isRefused_whole]
  exact decide_eq_false (by omega)

/-- A machine is built of a sound configuration, and has what it says. -/
theorem Sound.exists_build (h : c.Sound) : ∃ m, c.build = .ok m ∧ c.Matches m := by
  obtain ⟨keypad, named, finds⟩ := Keypad.exists_ofNames? h.named h.keys
  unfold build
  rw [named, mapError_ok]
  simp only [bind, Except.bind]
  have blank (random : Random) : (Cpu.assemble .standard keypad (some (Speaker.ofVolume c.volume)) random
      Rom.standardLimit).reset.2.2 = none := Cpu.Kept.reset ⟨rfl, rfl, rfl⟩
  rw [blank]
  simp only [Machine.assemble, not_isRefused h.cpuHz_pos, not_isRefused h.timerHz_pos, Bool.or_false,
    Bool.false_eq_true, if_false]
  refine ⟨_, rfl, rfl, rfl, ?_, fun s => ?_⟩
  · exact (Cpu.surroundings_reset _).2.trans (congrArg some h.clamped)
  · rw [(Cpu.surroundings_reset _).1]
    exact finds s

/-- An accepted configuration is sound, a machine is built of it that has what it says, and its key map finds
under a name the last of the entries that were read whose name in lower case it is. -/
theorem build_of_ofValue (accepted : ofValue host v = .ok c) :
    c.Sound ∧ (∃ m, c.build = .ok m ∧ c.Matches m) ∧
      ∃ entries, ∃ keys : List (Text × Int), v.unfolded = .mapping entries ∧
        List.Forall₂ (fun e k => e.1.shown (host.room .key) = .ok k.1 ∧ integer? e.2 = some k.2) (keySection entries) keys ∧
        ∀ name, c.keyMap.lookup name = (keys.reverse.find? (·.1.lowercase = name)).map (·.2) := by
  obtain ⟨entries, mapping, reads⟩ := reads_of_ofValue accepted
  have sound := sound_of_reads reads
  obtain ⟨keys, each, keyMap⟩ := exists_keys_of_reads reads
  refine ⟨sound, sound.exists_build, entries, keys, mapping, each.imp fun e k checked => ?_, fun name => ?_⟩
  · obtain ⟨name, number, _⟩ := keyEntry_eq_ok_iff.mp checked
    exact ⟨name, number⟩
  · rw [keyMap, Keypad.lookup_assignAll]
    exact Option.or_none

/-- A configuration that names a host key twice, in either case. -/
def twiceNamed : Value := .mapping [(.text "key_map", .mapping [(.text "P", .int 5), (.text "p", .int 6)])]

/-- The later one of two entries with the same name in lower case counts. -/
theorem build_twiceNamed :
    ∃ c m, ofValue (.ofHome "/home") twiceNamed = .ok c ∧ c.build = .ok m ∧ c.Matches m ∧
      c.keyMap.lookup ("p" : Text) = some 6 := by
  have accepted : ofValue (.ofHome "/home") twiceNamed = .ok { standard with keyMap := [("p", 6)] } := by rfl
  obtain ⟨-, ⟨m, built, same⟩, -⟩ := build_of_ofValue accepted
  exact ⟨_, m, accepted, built, same, rfl⟩

end Config

end Hexscope
