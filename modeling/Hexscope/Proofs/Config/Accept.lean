import Hexscope.Proofs.Config.KeyMap
import Hexscope.Proofs.Results

/-!
# Configurations that are accepted

What each part of an accepted configuration was read from.

* `Config.Reads`: a configuration part by part, and the entries that it was read from;
* `Config.reads_of_ofEntries`, `Config.reads_of_ofValue`: every accepted configuration is read so.
-/

namespace Hexscope.Config

/-- Every part of a configuration is what is read from the entry under its name, or from the value that stands
for it. -/
structure Reads (host : Host) (entries : List (Value × Value)) (c : Config) : Prop where
  cpuHz : integer host "cpu_hz" (entryOr entries "cpu_hz" (.int standard.cpuHz)) = .ok c.cpuHz
  timerHz : integer host "timer_hz" (entryOr entries "timer_hz" (.int standard.timerHz)) = .ok c.timerHz
  positive : 0 < c.cpuHz ∧ 0 < c.timerHz
  volume : volumeOf host (entryOr entries "volume" (.float standard.volume)) = .ok c.volume
  palettes : ∃ own, palettesOf host (entryOr entries "palettes" .null) = .ok own ∧
    c.palettes = Palette.builtin ++ own
  palette : host.shown .palette (entryOr entries "palette" (.text standard.palette)) = .ok c.palette
  /-- The palette that is chosen is one of the palettes. -/
  choice : ∃ p ∈ c.palettes, p.id = c.palette
  keyMap : keyMapOf host (entryOr entries "key_map" .null) = .ok c.keyMap
  romDir : romDirOf host (entryOr entries "rom_dir" .null) = .ok c.romDir
  seed : seedOf host (entryOr entries "seed" .null) = .ok c.seed

variable {host : Host} {entries : List (Value × Value)} {v : Value} {c : Config}

theorem reads_of_ofEntries (accepted : ofEntries host entries = .ok c) : Reads host entries c := by
  obtain ⟨_, _, accepted⟩ := exists_of_bind_eq_ok accepted
  obtain ⟨cpuHz, cpu, accepted⟩ := exists_of_bind_eq_ok accepted
  obtain ⟨timerHz, timer, accepted⟩ := exists_of_bind_eq_ok accepted
  split at accepted
  · cases accepted
  rename_i positive
  obtain ⟨volume, loud, accepted⟩ := exists_of_bind_eq_ok accepted
  obtain ⟨own, palettes, accepted⟩ := exists_of_bind_eq_ok accepted
  obtain ⟨palette, id, accepted⟩ := exists_of_bind_eq_ok accepted
  split at accepted
  · cases accepted
  rename_i choice
  obtain ⟨keyMap, keys, accepted⟩ := exists_of_bind_eq_ok accepted
  obtain ⟨romDir, directory, accepted⟩ := exists_of_bind_eq_ok accepted
  obtain ⟨seed, number, accepted⟩ := exists_of_bind_eq_ok accepted
  cases accepted
  simp only [Bool.not_eq_true', Bool.not_eq_false, List.any_eq_true, decide_eq_true_eq] at choice
  exact ⟨cpu, timer, by dsimp only; omega, loud, ⟨own, palettes, rfl⟩, id, choice, keys, directory, number⟩

/-- An accepted configuration is read from the entries of a mapping. -/
theorem reads_of_ofValue (accepted : ofValue host v = .ok c) :
    ∃ entries, v.unfolded = .mapping entries ∧ Reads host entries c := by
  unfold ofValue at accepted
  split at accepted
  · exact ⟨_, ‹_›, reads_of_ofEntries accepted⟩
  · cases accepted

end Hexscope.Config
