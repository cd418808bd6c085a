import Hexscope.Config.File
import Hexscope.Proofs.Binary64.Range
import Hexscope.Proofs.Config.KeyMap
import Hexscope.Proofs.Results
import Hexscope.Proofs.Text.SystemName
import Hexscope.Proofs.Value.Shown

/-!
# Refusals that are no configuration errors

Who reads a configuration handles the configuration errors. The parts of a configuration are checked in a fixed
order, and some values are refused with another error: an unknown key that is no text, an integer beyond the
floating point numbers as the volume, a key map that is no mapping, a directory that names no account, and
everything that a message should show but that holds an integer of too many digits or is nested too deeply. Which
error there is depends on the first part that is not accepted.

* `Config.escapes_mapM_iff`: checks in a row fail as the first element that is not accepted;
* `Config.Baffling`: the data whose first bad part is refused with another error;
* `Config.handled_iff_not_baffling`: exactly all other data give a configuration or a configuration error, and which files
  do.
-/

namespace Hexscope

namespace ErrorKind

theorem isA_iff {k general : ErrorKind} :
    k.isA general = true ↔ k = general ∨ ∃ p ∈ k.parents, p.isA general = true := by
  simp only [isA, List.contains_eq_mem, decide_eq_true_eq]
  rw [ancestors, List.mem_cons, List.mem_flatMap, eq_comm]
  refine or_congr_right ⟨fun ⟨p, _, h⟩ => ⟨p.1, p.2, h⟩, fun ⟨p, mem, h⟩ => ⟨⟨p, mem⟩, ?_, h⟩⟩
  exact List.mem_attach ..

/-- No other kind is a case of the configuration errors. -/
theorem isA_config_iff (k : ErrorKind) : k.isA .config = true ↔ k = .config := by
  have apart : ∀ k ∈ all, .config ∉ k.parents := by decide
  rw [isA_iff]
  refine or_iff_left fun ⟨p, mem, h⟩ => ?_
  rw [(isA_config_iff p).mp h] at mem
  exact apart k (mem_all k) mem
termination_by k.depth
decreasing_by exact depth_lt_of_mem_parents mem

end ErrorKind

namespace Config

variable {α β : Type}

/-! ## Errors that escape -/

/-- There is a result, or a configuration error. -/
def Handled (x : Except Error α) : Prop :=
  (∃ a, x = .ok a) ∨ ∃ e, x = .error e ∧ e.kind.isA .config = true

/-- There is an error, and it is no configuration error. -/
def Escapes (x : Except Error α) : Prop := ∃ e, x = .error e ∧ e.kind ≠ .config

theorem handled_iff_not_escapes {x : Except Error α} : Handled x ↔ ¬ Escapes x := by
  cases x with
  | ok a => exact iff_of_true (.inl ⟨a, rfl⟩) fun ⟨_, h, _⟩ => by cases h
  | error e => simp [Handled, Escapes, ErrorKind.isA_config_iff]

theorem not_escapes_ok (a : α) : ¬ Escapes (.ok a) := fun ⟨_, h, _⟩ => by cases h

theorem escapes_error_iff {e : Error} : Escapes (.error e : Except Error α) ↔ e.kind ≠ .config :=
  ⟨fun ⟨_, same, h⟩ => Except.error.inj same ▸ h, fun h => ⟨e, rfl, h⟩⟩

theorem escapes_throw_iff {e : Error} : Escapes (throw e : Except Error α) ↔ e.kind ≠ .config :=
  escapes_error_iff

theorem escapes_bind_iff {x : Except Error α} {f : α → Except Error β} :
    Escapes (x >>= f) ↔ Escapes x ∨ ∃ a, x = .ok a ∧ Escapes (f a) := by
  cases x with
  | ok a =>
    refine ⟨fun h => .inr ⟨a, rfl, h⟩, ?_⟩
    rintro (h | ⟨_, same, h⟩)
    · exact absurd h (not_escapes_ok a)
    · exact Except.ok.inj same ▸ h
  | error e =>
    refine ⟨fun h => .inl (escapes_error_iff.mpr (escapes_error_iff.mp h)), ?_⟩
    rintro (h | ⟨_, same, _⟩)
    · exact escapes_error_iff.mpr (escapes_error_iff.mp h)
    · cases same

theorem escapes_bind_iff_left {x : Except Error α} {f : α → Except Error β} (calm : ∀ a, ¬ Escapes (f a)) :
    Escapes (x >>= f) ↔ Escapes x := by
  rw [escapes_bind_iff]
  exact or_iff_left fun ⟨a, _, h⟩ => calm a h

theorem escapes_bind_pure_iff {x : Except Error α} {f : α → β} :
    Escapes (do return f (← x)) ↔ Escapes x :=
  escapes_bind_iff_left fun _ => not_escapes_ok _

theorem escapes_map_iff {x : Except Error α} {f : α → β} : Escapes (x.map f) ↔ Escapes x := by
  cases x with
  | ok a => exact iff_of_false (not_escapes_ok _) (not_escapes_ok a)
  | error e => exact escapes_error_iff.trans escapes_error_iff.symm

/-- Whoever checks the elements of a list one after the other comes to one of a kind: all elements before
it are accepted. -/
def ComesTo (check : α → Except Error β) (kind : α → Prop) (l : List α) : Prop :=
  ∃ before a behind, l = before ++ a :: behind ∧ (∀ b ∈ before, ∃ c, check b = .ok c) ∧ kind a

theorem comesTo_nil {check : α → Except Error β} {kind : α → Prop} : ¬ ComesTo check kind [] :=
  fun ⟨before, _, _, empty, _⟩ => by cases before <;> cases empty

theorem comesTo_cons_iff {check : α → Except Error β} {kind : α → Prop} {a : α} {l : List α} :
    ComesTo check kind (a :: l) ↔ kind a ∨ ∃ c, check a = .ok c ∧ ComesTo check kind l := by
  constructor
  · rintro ⟨before, b, behind, parts, accepted, here⟩
    cases before with
    | nil =>
      obtain ⟨rfl, rfl⟩ := List.cons.inj parts
      exact .inl here
    | cons b' before =>
      obtain ⟨rfl, rfl⟩ := List.cons.inj parts
      obtain ⟨c, first⟩ := accepted a List.mem_cons_self
      exact .inr ⟨c, first, before, b, behind, rfl, fun b mem => accepted b (List.mem_cons_of_mem _ mem), here⟩
  · rintro (here | ⟨c, first, before, b, behind, rfl, accepted, here⟩)
    · exact ⟨[], a, l, rfl, fun b mem => (by cases mem), here⟩
    · refine ⟨a :: before, b, behind, rfl, fun b mem => ?_, here⟩
      rcases List.mem_cons.mp mem with rfl | mem
      · exact ⟨c, first⟩
      · exact accepted b mem

theorem ComesTo.congr (check : α → Except Error β) {kind kind' : α → Prop} {l : List α}
    (same : ∀ a, kind a ↔ kind' a) : ComesTo check kind l ↔ ComesTo check kind' l :=
  exists_congr fun _ => exists_congr fun a => exists_congr fun _ =>
    and_congr_right fun _ => and_congr_right fun _ => same a

/-- Checks in a row fail as the first element that is not accepted. -/
theorem escapes_mapM_iff {check : α → Except Error β} {l : List α} :
    Escapes (l.mapM check) ↔ ComesTo check (fun a => Escapes (check a)) l := by
  induction l with
  | nil => exact iff_of_false (not_escapes_ok _) comesTo_nil
  | cons a l ih =>
    rw [List.mapM_cons, escapes_bind_iff, comesTo_cons_iff, ← ih]
    refine or_congr_right (exists_congr fun c => and_congr_right fun _ => ?_)
    rw [escapes_bind_iff]
    exact ⟨fun | .inl h => h | .inr ⟨_, _, h⟩ => absurd h (not_escapes_ok _), .inl⟩

/-- A computation whose steps succeed as the checks do escapes as the checks come to an error that escapes. -/
theorem escapes_bind_iff_comesTo {π : Type} {x : Except Error α} {f : α → Except Error β}
    {check : π → Except Error Unit} {p : π} {ps : List π} (same : x.map (fun _ => ()) = check p)
    (rest : ∀ a, x = .ok a → (Escapes (f a) ↔ ComesTo check (fun p => Escapes (check p)) ps)) :
    Escapes (x >>= f) ↔ ComesTo check (fun p => Escapes (check p)) (p :: ps) := by
  rw [escapes_bind_iff, comesTo_cons_iff, ← same, escapes_map_iff]
  refine or_congr_right ?_
  cases x with
  | error e => exact iff_of_false (fun ⟨_, h, _⟩ => by cases h) fun ⟨_, h, _⟩ => by cases h
  | ok a =>
    rw [← rest a rfl]
    exact ⟨fun ⟨_, h, escapes⟩ => ⟨(), rfl, Except.ok.inj h ▸ escapes⟩, fun ⟨_, _, h⟩ => ⟨a, rfl, h⟩⟩

/-- The same of a step that only refuses. -/
theorem escapes_ite_iff_comesTo {π : Type} {c : Prop} [Decidable c] {e : Error} {f : Unit → Except Error β}
    {check : π → Except Error Unit} {p : π} {ps : List π}
    (same : check p = if c then .error e else .ok ())
    (rest : ¬ c → (Escapes (f ()) ↔ ComesTo check (fun p => Escapes (check p)) ps)) :
    Escapes (if c then throw e >>= f else f ()) ↔ ComesTo check (fun p => Escapes (check p)) (p :: ps) := by
  by_cases h : c
  · rw [if_pos h] at same ⊢
    exact escapes_bind_iff_comesTo same.symm fun _ thrown => by cases thrown
  · rw [if_neg h] at same ⊢
    exact escapes_bind_iff_comesTo (x := .ok ()) same.symm fun _ _ => rest h

/-! ## Single values -/

variable {host : Host} {place : Place} {v : Value}

theorem escapes_mapError_iff {ε : Type} {x : Except ε α} {f : ε → Error} :
    Escapes (x.mapError f) ↔ ∃ e, x = .error e ∧ (f e).kind ≠ .config := by
  cases x with
  | ok a => exact iff_of_false (not_escapes_ok a) fun ⟨_, h, _⟩ => by cases h
  | error e => exact escapes_error_iff.trans (by simp)

theorem kind_unshown (reason : Value.Unshown) : (Error.unshown reason).kind ≠ .config := by
  cases reason <;> exact nofun

theorem escapes_shown_iff : Escapes (host.shown place v) ↔ v.Unseen (host.room place) := by
  rw [← Value.shown_eq_error_iff, Host.shown, escapes_mapError_iff]
  exact exists_congr fun e => and_iff_left (kind_unshown e)

theorem escapes_quoted_iff : Escapes (host.quoted place v) ↔ v.Hidden [] (host.room place) := by
  rw [← Value.quoted_eq_error_iff, Host.quoted, escapes_mapError_iff]
  exact exists_congr fun e => and_iff_left (kind_unshown e)

/-- A refusal that tells a value escapes if the value cannot be shown. -/
theorem escapes_shown_throw_iff {e : Text → Error} (config : ∀ s, (e s).kind = .config) :
    Escapes (do throw (e (← host.shown place v)) : Except Error α) ↔ v.Unseen (host.room place) := by
  rw [escapes_bind_iff_left fun s h => escapes_throw_iff.mp h (config s), escapes_shown_iff]

theorem escapes_quoted_throw_iff {e : String → Error} (config : ∀ s, (e s).kind = .config) :
    Escapes (do throw (e (← host.quoted place v)) : Except Error α) ↔ v.Hidden [] (host.room place) := by
  rw [escapes_bind_iff_left fun s h => escapes_throw_iff.mp h (config s), escapes_quoted_iff]

/-- A value that gives no integer and cannot be shown either. -/
def NoInteger (host : Host) (v : Value) : Prop := integer? v = none ∧ v.Unseen (host.room .integer)

theorem escapes_integer_iff (name : Text) : Escapes (integer host name v) ↔ NoInteger host v := by
  unfold integer NoInteger
  cases integer? v with
  | some n => exact iff_of_false (not_escapes_ok n) (by simp)
  | none => rw [escapes_shown_throw_iff fun _ => rfl, eq_self, true_and]

/-- A volume that is an integer without a floating point form, or no number and cannot be shown. -/
def NoVolume (host : Host) : Value → Prop
  | .int n => Binary64.hugeFrom ≤ n.natAbs
  | .float _ => False
  | v => v.Hidden [] (host.room .volume)

theorem escapes_volumeOf_iff : Escapes (volumeOf host v) ↔ NoVolume host v := by
  cases v with
  | int n =>
    simp only [NoVolume, volumeOf, ← Binary64.ofInt?_eq_none_iff]
    cases Binary64.ofInt? n with
    | some x => exact iff_of_false (not_escapes_ok _) (by simp)
    | none => exact iff_of_true (escapes_error_iff.mpr (by decide)) rfl
  | float x => exact iff_of_false (not_escapes_ok _) id
  | _ => exact escapes_quoted_throw_iff (e := .badVolume) fun _ => rfl

/-- A value that cannot be shown, or that is no colour and cannot be shown with quotes. -/
def NoColour (host : Host) (v : Value) : Prop := v.Unseen (host.room .colour) ∨
  ∃ s, v.shown (host.room .colour) = .ok s ∧ isColour s = false ∧ v.Hidden [] (host.room .badColour)

theorem escapes_colour_iff : Escapes (colour host v) ↔ NoColour host v := by
  unfold colour NoColour
  rw [escapes_bind_iff, escapes_shown_iff]
  refine or_congr_right (exists_congr fun s => and_congr shown_eq_ok_iff ?_)
  cases isColour s with
  | true => exact iff_of_false (not_escapes_ok _) fun h => by cases h.1
  | false => exact (escapes_quoted_throw_iff (e := .badColour) fun _ => rfl).trans (and_iff_right rfl).symm

/-! ## Palettes -/

/-- The fields of a palette entry, in the order in which they are read. -/
inductive Field where
  | id
  | name
  | foreground
  | background

/-- The name of a field. -/
def Field.key : Field → String
  | .id => "id"
  | .name => "name"
  | .foreground => "foreground"
  | .background => "background"

/-- All fields. -/
def Field.all : List Field := [.id, .name, .foreground, .background]

/-- Whether a field of a palette entry is accepted. The name may be missing. -/
def Field.check (host : Host) (entry : Value) (entries : List (Value × Value)) (f : Field) : Except Error Unit :=
  match f with
  | .id => (field host entry entries f.key >>= host.shown .label).map fun _ => ()
  | .name => ((Value.lookup? entries f.key).map (host.shown .label)).getD (.ok default) |>.map fun _ => ()
  | .foreground | .background => (field host entry entries f.key >>= colour host).map fun _ => ()

/-- A value that is refused with another error under the name of a field. -/
def Field.Refuses (host : Host) : Field → Value → Prop
  | .id | .name => (·.Unseen (host.room .label))
  | .foreground | .background => NoColour host

/-- A field of a palette entry is refused with another error, or it is missing and the entry cannot be shown. -/
def Field.Baffling (host : Host) (entry : Value) (entries : List (Value × Value)) (f : Field) : Prop :=
  match Value.lookup? entries f.key with
  | some v => f.Refuses host v
  | none => f ≠ .name ∧ entry.Hidden [] (host.room .entry)

theorem escapes_field_iff {entry : Value} {entries : List (Value × Value)} {key : String}
    {f : Value → Except Error α} {refuses : Value → Prop} (reads : ∀ v, Escapes (f v) ↔ refuses v) :
    Escapes (field host entry entries key >>= f) ↔
      (Value.lookup? entries key).elim (entry.Hidden [] (host.room .entry)) refuses := by
  rw [escapes_bind_iff, field]
  cases Value.lookup? entries key with
  | none =>
    refine (or_iff_left ?_).trans (escapes_quoted_throw_iff (e := (.badEntry · _)) fun _ => rfl)
    rintro ⟨v, accepted, -⟩
    obtain ⟨_, _, thrown⟩ := exists_of_bind_eq_ok accepted
    cases thrown
  | some v =>
    refine ⟨?_, fun h => .inr ⟨v, rfl, (reads v).mpr h⟩⟩
    rintro (h | ⟨_, same, h⟩)
    · exact absurd h (not_escapes_ok v)
    · exact (reads v).mp (Except.ok.inj same ▸ h)

theorem escapes_fieldCheck_iff {entry : Value} {entries : List (Value × Value)} {f : Field} :
    Escapes (f.check host entry entries) ↔ f.Baffling host entry entries := by
  have baffling (other : f ≠ .name) : f.Baffling host entry entries ↔
      (Value.lookup? entries f.key).elim (entry.Hidden [] (host.room .entry)) (f.Refuses host) := by
    unfold Field.Baffling
    cases Value.lookup? entries f.key with
    | none => exact and_iff_right other
    | some v => exact Iff.rfl
  cases f with
  | id =>
    rw [baffling nofun, Field.check, escapes_map_iff]
    exact escapes_field_iff fun _ => escapes_shown_iff
  | foreground | background =>
    rw [baffling nofun, Field.check, escapes_map_iff]
    exact escapes_field_iff fun _ => escapes_colour_iff
  | name =>
    rw [Field.check, escapes_map_iff, Field.Baffling]
    cases Value.lookup? entries Field.name.key with
    | none => exact iff_of_false (not_escapes_ok _) fun h => h.1 rfl
    | some v => exact escapes_shown_iff

/-- The first bad field of a palette entry is refused with another error. -/
def PaletteBaffling (host : Host) (entry : Value) : Prop :=
  match entry.unfolded with
  | .mapping entries =>
    ComesTo (Field.check host entry entries) (Field.Baffling host entry entries) Field.all
  | _ => entry.Hidden [] (host.room .entry)

theorem escapes_paletteOf_iff {entry : Value} :
    Escapes (paletteOf host entry) ↔ PaletteBaffling host entry := by
  unfold paletteOf PaletteBaffling
  cases entry.unfolded with
  | mapping entries =>
    dsimp only
    rw [← ComesTo.congr _ fun _ => escapes_fieldCheck_iff, ← bind_assoc]
    refine escapes_bind_iff_comesTo rfl fun id _ => ?_
    refine escapes_bind_iff_comesTo ?_ fun name _ => ?_
    · rw [Field.check, Field.key]
      cases Value.lookup? entries "name" <;> rfl
    rw [← bind_assoc]
    refine escapes_bind_iff_comesTo rfl fun on _ => ?_
    rw [← bind_assoc]
    refine escapes_bind_iff_comesTo rfl fun off _ => ?_
    exact iff_of_false (not_escapes_ok _) comesTo_nil
  | _ => exact escapes_quoted_throw_iff (e := (.badEntry · _)) fun _ => rfl

/-! ## Parts -/

/-- The parts of a configuration, in the order in which they are checked. -/
inductive Part where
  | keys
  | cpuHz
  | timerHz
  /-- Both frequencies are positive. -/
  | sign
  | volume
  | palettes
  | palette
  /-- The palette that is chosen exists. -/
  | choice
  | keyMap
  | romDir
  | seed

/-- All parts. -/
def Part.all : List Part :=
  [.keys, .cpuHz, .timerHz, .sign, .volume, .palettes, .palette, .choice, .keyMap, .romDir, .seed]

/-- Whether a part is accepted. Where a part is about others, it is accepted if these are not. -/
def Part.check (host : Host) (entries : List (Value × Value)) : Part → Except Error Unit
  | .keys => checkKeys entries
  | .cpuHz => (integer host "cpu_hz" (entryOr entries "cpu_hz" (.int standard.cpuHz))).map fun _ => ()
  | .timerHz => (integer host "timer_hz" (entryOr entries "timer_hz" (.int standard.timerHz))).map fun _ => ()
  | .sign =>
    match integer? (entryOr entries "cpu_hz" (.int standard.cpuHz)),
      integer? (entryOr entries "timer_hz" (.int standard.timerHz)) with
    | some c, some t => if c ≤ 0 ∨ t ≤ 0 then .error .notPositive else .ok ()
    | _, _ => .ok ()
  | .volume => (volumeOf host (entryOr entries "volume" (.float standard.volume))).map fun _ => ()
  | .palettes => (palettesOf host (entryOr entries "palettes" .null)).map fun _ => ()
  | .palette => (host.shown .palette (entryOr entries "palette" (.text standard.palette))).map fun _ => ()
  | .choice =>
    match palettesOf host (entryOr entries "palettes" .null),
      host.shown .palette (entryOr entries "palette" (.text standard.palette)) with
    | .ok own, .ok id =>
      if !(Palette.builtin ++ own).any (·.id = id) then .error (.unknownPalette id) else .ok ()
    | _, _ => .ok ()
  | .keyMap => (keyMapOf host (entryOr entries "key_map" .null)).map fun _ => ()
  | .romDir => (romDirOf host (entryOr entries "rom_dir" .null)).map fun _ => ()
  | .seed => (seedOf host (entryOr entries "seed" .null)).map fun _ => ()

variable {entries : List (Value × Value)}

/-- A configuration is refused as the first part that is not accepted. -/
theorem escapes_ofEntries_iff_comesTo : Escapes (ofEntries host entries) ↔
    ComesTo (Part.check host entries) (fun p => Escapes (p.check host entries)) Part.all := by
  unfold ofEntries
  refine escapes_bind_iff_comesTo ?_ fun _ _ => ?_
  · rw [Part.check]
    cases checkKeys entries <;> rfl
  refine escapes_bind_iff_comesTo rfl fun cpuHz cpu => ?_
  refine escapes_bind_iff_comesTo rfl fun timerHz timer => ?_
  refine escapes_ite_iff_comesTo ?_ fun _ => ?_
  · rw [Part.check, integer_eq_ok_iff.mp cpu, integer_eq_ok_iff.mp timer]
  refine escapes_bind_iff_comesTo rfl fun volume _ => ?_
  refine escapes_bind_iff_comesTo rfl fun own palettes => ?_
  refine escapes_bind_iff_comesTo rfl fun id palette => ?_
  refine escapes_ite_iff_comesTo ?_ fun _ => ?_
  · rw [Part.check, palettes, palette]
  refine escapes_bind_iff_comesTo rfl fun keyMap _ => ?_
  refine escapes_bind_iff_comesTo rfl fun romDir _ => ?_
  refine escapes_bind_iff_comesTo rfl fun seed _ => ?_
  exact iff_of_false (not_escapes_ok _) comesTo_nil

/-! ## Data -/

/-- Under a name stands a value of a kind. -/
def Holds (entries : List (Value × Value)) (name : String) (kind : Value → Prop) : Prop :=
  ∃ v, Value.lookup? entries name = some v ∧ kind v

theorem holds_iff {name : String} {kind : Value → Prop} {standard : Value}
    (usual : ¬ kind standard) : Holds entries name kind ↔ kind (entryOr entries name standard) := by
  unfold Holds entryOr
  cases Value.lookup? entries name with
  | none => exact iff_of_false (fun ⟨_, h, _⟩ => by cases h) usual
  | some v => exact ⟨fun ⟨_, h, kind⟩ => Option.some.inj h ▸ kind, fun kind => ⟨v, rfl, kind⟩⟩

/-- A list of palettes whose first bad entry is refused with another error. -/
def PalettesBaffling (host : Host) (v : Value) : Prop :=
  ∃ entries, v.unfolded = .list entries ∧ ComesTo (paletteOf host) (PaletteBaffling host) entries

/-- An entry of the key map whose key cannot be shown, or whose value gives no integer and cannot be shown. -/
def KeyBaffling (host : Host) (entry : Value × Value) : Prop :=
  entry.1.Unseen (host.room .key) ∨ NoInteger host entry.2

/-- A key map that counts as something and is no mapping, or whose first bad entry is refused with another
error. -/
def KeyMapBaffling (host : Host) (v : Value) : Prop :=
  v.isTruthy = true ∧ ∀ entries, v.unfolded = .mapping entries → ComesTo (keyEntry host) (KeyBaffling host) entries

/-- A path that begins with a tilde and a text that names no account. -/
def Homeless (path : Text) : Prop :=
  ∃ ps, path.points = .char '~' :: ps ∧ ¬ Text.IsName ⟨ps.takeWhile (· ≠ .char '/')⟩

/-- A directory that cannot be shown, or that begins with a tilde and a text that names no account. -/
def DirectoryBaffling (host : Host) (v : Value) : Prop :=
  v ≠ .null ∧ (v.Unseen (host.room .directory) ∨
    ∃ path, v.shown (host.room .directory) = .ok path ∧ Homeless path)

/-- A seed that gives no integer and cannot be shown either. -/
def SeedBaffling (host : Host) (v : Value) : Prop := v ≠ .null ∧ NoInteger host v

/-- A part that is refused with another error, if it comes to it. -/
def Part.Baffling (host : Host) (entries : List (Value × Value)) : Part → Prop
  | .keys => ∃ e ∈ entries, ∀ s, e.1 ≠ .text s
  | .cpuHz => Holds entries "cpu_hz" (NoInteger host)
  | .timerHz => Holds entries "timer_hz" (NoInteger host)
  | .volume => Holds entries "volume" (NoVolume host)
  | .palettes => Holds entries "palettes" (PalettesBaffling host)
  | .palette => Holds entries "palette" (·.Unseen (host.room .palette))
  | .keyMap => Holds entries "key_map" (KeyMapBaffling host)
  | .romDir => Holds entries "rom_dir" (DirectoryBaffling host)
  | .seed => Holds entries "seed" (SeedBaffling host)
  | .sign | .choice => False

theorem names?_eq_none_iff (vs : List Value) : names? vs = none ↔ ∃ v ∈ vs, ∀ s, v ≠ .text s := by
  induction vs with
  | nil => simp [names?]
  | cons v vs ih =>
    cases v <;> simp [names?, ih]

theorem escapes_checkKeys_iff : Escapes (checkKeys entries) ↔ ∃ e ∈ entries, ∀ s, e.1 ≠ .text s := by
  have unnamed : (∃ v ∈ (entries.map (·.1)).filter (!isKnown ·), ∀ s, v ≠ .text s) ↔
      ∃ e ∈ entries, ∀ s, e.1 ≠ .text s := by
    constructor
    · rintro ⟨v, mem, noText⟩
      obtain ⟨e, here, rfl⟩ := List.mem_map.mp (List.mem_filter.mp mem).1
      exact ⟨e, here, noText⟩
    · rintro ⟨e, mem, noText⟩
      refine ⟨e.1, List.mem_filter.mpr ⟨List.mem_map.mpr ⟨e, mem, rfl⟩, ?_⟩, noText⟩
      unfold isKnown
      split
      · exact absurd ‹_› (noText _)
      · rfl
  rw [← unnamed, ← names?_eq_none_iff, checkKeys]
  generalize (entries.map (·.1)).filter (!isKnown ·) = unknown
  cases unknown with
  | nil => exact iff_of_false (not_escapes_ok _) (by simp [names?])
  | cons v vs =>
    dsimp only
    cases names? (v :: vs) with
    | some names => exact iff_of_false (fun h => escapes_error_iff.mp h rfl) (by simp)
    | none => exact iff_of_true (escapes_error_iff.mpr (by decide)) rfl

theorem escapes_palettesOf_iff : Escapes (palettesOf host v) ↔ PalettesBaffling host v := by
  have list_iff (entries : List Value) :
      Escapes (entries.mapM (paletteOf host)) ↔ ComesTo (paletteOf host) (PaletteBaffling host) entries :=
    escapes_mapM_iff.trans (ComesTo.congr _ fun _ => escapes_paletteOf_iff)
  unfold palettesOf PalettesBaffling
  by_cases truthy : v.isTruthy = true
  · rw [if_neg (by simp [truthy])]
    cases v.unfolded with
    | list entries => simpa using list_iff entries
    | _ => exact iff_of_false (fun h => escapes_error_iff.mp h rfl) fun ⟨_, h, _⟩ => by cases h
  · rw [if_pos (by simp [truthy])]
    refine iff_of_false (not_escapes_ok _) ?_
    rintro ⟨entries, same, comes⟩
    rw [Bool.not_eq_true] at truthy
    rw [Value.items_eq_nil_of_falsy truthy same] at comes
    exact comesTo_nil comes

theorem escapes_keyEntry_iff {entry : Value × Value} :
    Escapes (keyEntry host entry) ↔ KeyBaffling host entry := by
  unfold keyEntry KeyBaffling
  rw [escapes_bind_iff, escapes_shown_iff]
  cases shows : entry.1.shown (host.room .key) with
  | error e =>
    have unseen := Value.shown_eq_error_iff.mp ⟨e, shows⟩
    exact iff_of_true (.inl unseen) (.inl unseen)
  | ok name =>
    refine or_congr_right ?_
    rw [shown_eq_ok_iff.mpr shows]
    simp only [Except.ok.injEq, exists_eq_left']
    refine (escapes_bind_iff_left fun key => ?_).trans (escapes_integer_iff _)
    split
    · exact fun h => escapes_throw_iff.mp h rfl
    · exact not_escapes_ok _

theorem escapes_keyMapOf_iff : Escapes (keyMapOf host v) ↔ KeyMapBaffling host v := by
  unfold keyMapOf KeyMapBaffling
  by_cases truthy : v.isTruthy = true
  · rw [if_neg (by simp [truthy])]
    cases v.unfolded with
    | mapping entries =>
      simp only [foldlM_addKey, truthy, Value.mapping.injEq, forall_eq', true_and, escapes_map_iff,
        escapes_mapM_iff]
      exact ComesTo.congr _ fun _ => escapes_keyEntry_iff
    | _ => exact iff_of_true (escapes_error_iff.mpr (by decide)) ⟨truthy, fun _ h => by cases h⟩
  · rw [if_pos (by simp [truthy])]
    exact iff_of_false (not_escapes_ok _) fun h => truthy h.1

theorem escapes_find_iff (homes : Homes) {name : Text} : Escapes (homes.find name) ↔ ¬ name.IsName := by
  unfold Homes.find
  by_cases empty : name.isEmpty = true
  · rw [if_pos empty]
    refine iff_of_false (not_escapes_ok _) (not_not_intro fun p mem => ?_)
    rw [List.isEmpty_iff.mp empty] at mem
    cases mem
  · rw [if_neg empty, escapes_bind_pure_iff, ← FileName.exists_ofText_iff]
    cases FileName.ofText name with
    | ok path => exact iff_of_false (not_escapes_ok _) (by simp)
    | error e =>
      refine iff_of_true (escapes_error_iff.mpr ?_) (by simp)
      cases e <;> exact fun h => by cases h

theorem escapes_expand_iff {homes : Homes} {path : Text} : Escapes (homes.expand path) ↔ Homeless path := by
  unfold Homes.expand Homeless
  dsimp only
  split
  · rename_i ps points
    rw [points]
    simp only [List.cons.injEq, true_and, exists_eq_left', ← escapes_find_iff homes]
    refine escapes_bind_iff_left fun found => ?_
    cases found <;> exact not_escapes_ok _
  · rename_i other
    exact iff_of_false (not_escapes_ok _) fun ⟨ps, points, _⟩ => other ps points

theorem escapes_romDirOf_iff : Escapes (romDirOf host v) ↔ DirectoryBaffling host v := by
  by_cases null : v = .null
  · subst null
    exact iff_of_false (not_escapes_ok _) fun h => h.1 rfl
  · have directory : romDirOf host v = do return some (← host.homes.expand (← host.shown .directory v)) := by
      unfold romDirOf
      split <;> [contradiction; rfl]
    rw [directory, DirectoryBaffling, and_iff_right null, escapes_bind_iff, escapes_shown_iff]
    simp only [escapes_bind_pure_iff, escapes_expand_iff, shown_eq_ok_iff]

theorem escapes_seedOf_iff : Escapes (seedOf host v) ↔ SeedBaffling host v := by
  by_cases null : v = .null
  · subst null
    exact iff_of_false (not_escapes_ok _) fun h => h.1 rfl
  · have seed : seedOf host v = (integer host "seed" v).map some := by
      unfold seedOf
      split <;> [contradiction; rfl]
    rw [seed, SeedBaffling, and_iff_right null, escapes_map_iff, escapes_integer_iff]

/-- A check of a part escapes for these data. -/
theorem escapes_check_iff {p : Part} : Escapes (p.check host entries) ↔ p.Baffling host entries := by
  cases p with
  | keys => exact escapes_checkKeys_iff
  | cpuHz | timerHz =>
    exact (escapes_map_iff.trans (escapes_integer_iff _)).trans (holds_iff fun h => by cases h.1).symm
  | volume =>
    exact (escapes_map_iff.trans escapes_volumeOf_iff).trans (holds_iff id).symm
  | palettes =>
    exact (escapes_map_iff.trans escapes_palettesOf_iff).trans (holds_iff fun ⟨_, h, _⟩ => by cases h).symm
  | palette =>
    exact (escapes_map_iff.trans escapes_shown_iff).trans (holds_iff id).symm
  | keyMap =>
    exact (escapes_map_iff.trans escapes_keyMapOf_iff).trans (holds_iff fun h => by cases h.1).symm
  | romDir =>
    exact (escapes_map_iff.trans escapes_romDirOf_iff).trans (holds_iff fun h => h.1 rfl).symm
  | seed =>
    exact (escapes_map_iff.trans escapes_seedOf_iff).trans (holds_iff fun h => h.1 rfl).symm
  | sign | choice =>
    refine iff_of_false ?_ id
    unfold Part.check
    dsimp only
    split
    · split
      · exact fun h => escapes_error_iff.mp h rfl
      · exact not_escapes_ok _
    · exact not_escapes_ok _

/-- Data whose first bad part is refused with another error than a configuration error. -/
def Baffling (host : Host) (v : Value) : Prop :=
  ∃ entries, v.unfolded = .mapping entries ∧
    ComesTo (Part.check host entries) (Part.Baffling host entries) Part.all

theorem escapes_ofEntries_iff : Escapes (ofEntries host entries) ↔
    ComesTo (Part.check host entries) (Part.Baffling host entries) Part.all :=
  escapes_ofEntries_iff_comesTo.trans (ComesTo.congr _ fun _ => escapes_check_iff)

theorem escapes_ofValue_iff : Escapes (ofValue host v) ↔ Baffling host v := by
  unfold ofValue Baffling
  cases v.unfolded with
  | mapping entries => simpa using escapes_ofEntries_iff
  | _ => exact iff_of_false (fun h => escapes_error_iff.mp h rfl) fun ⟨_, h, _⟩ => by cases h

/-! ## Files -/

/-- A reader makes a value of the bytes, or finds that they are no document. -/
def Reader.Settles (read : Reader) : Prop := ∀ bytes complaint, read bytes ≠ .error (.other complaint)

/-- A path that the system does not take, a file with which something goes wrong that is not about documents, or one
with data that are refused with another error. -/
def FileBaffling (read : Reader) (host : Host) (files : FileNode) (path : Text) : Prop :=
  ¬ path.IsName ∨ ∃ name bytes, FileName.ofText path = .ok name ∧ files.read name = .ok bytes ∧
    ((∃ complaint, read bytes = .error (.other complaint) ∧ complaint.kind ≠ .config) ∨
      ∃ v, read bytes = .ok v ∧ v.isTruthy = true ∧ Baffling host v)

variable {read : Reader} {files : FileNode} {path : Text}

/-- A document that counts as nothing stands for the configuration that sets nothing. -/
theorem not_baffling_empty (host : Host) : ¬ Baffling host (.mapping []) := by
  rw [← escapes_ofValue_iff]
  exact not_escapes_ok Config.standard

theorem escapes_ofDocument_iff {bytes : List UInt8} : Escapes (ofDocument read host path bytes) ↔
    (∃ complaint, read bytes = .error (.other complaint) ∧ complaint.kind ≠ .config) ∨
      ∃ v, read bytes = .ok v ∧ v.isTruthy = true ∧ Baffling host v := by
  have refused : Escapes ((read bytes).mapError (.ofDocument path)) ↔
      ∃ complaint, read bytes = .error (.other complaint) ∧ complaint.kind ≠ .config := by
    rw [escapes_mapError_iff]
    constructor
    · rintro ⟨_ | complaint, error, other⟩
      · exact absurd rfl other
      · exact ⟨complaint, error, other⟩
    · rintro ⟨complaint, error, other⟩
      exact ⟨.other complaint, error, other⟩
  unfold ofDocument
  rw [escapes_bind_iff, refused]
  simp only [mapError_eq_ok_iff]
  refine or_congr_right (exists_congr fun v => and_congr_right fun _ => ?_)
  by_cases truthy : v.isTruthy = true
  · rw [if_pos truthy, and_iff_right truthy, escapes_ofValue_iff]
  · rw [if_neg truthy, escapes_ofValue_iff]
    exact iff_of_false (not_baffling_empty host) fun h => truthy h.1

theorem escapes_ofFile_iff : Escapes (ofFile read host files path) ↔ FileBaffling read host files path := by
  have noPath : Escapes ((FileName.ofText path).mapError Error.badPath) ↔ ¬ path.IsName := by
    rw [escapes_mapError_iff, ← FileName.exists_ofText_iff]
    cases FileName.ofText path with
    | ok name => simp
    | error e => cases e <;> simp [Error.kind, PathError.kind]
  have readable (name : FileName) : ¬ Escapes ((files.read name).mapError (.unreadable path)) := by
    rw [escapes_mapError_iff]
    exact fun ⟨_, _, h⟩ => h rfl
  unfold ofFile FileBaffling
  simp only [escapes_bind_iff, noPath, readable, false_or, mapError_eq_ok_iff, escapes_ofDocument_iff]
  refine or_congr_right (exists_congr fun name => ?_)
  exact ⟨fun ⟨h, bytes, read, rest⟩ => ⟨bytes, h, read, rest⟩, fun ⟨bytes, h, read, rest⟩ => ⟨h, bytes, read, rest⟩⟩

/-- With a reader that makes a value of the bytes or finds that they are no document, it depends on the path and the
data alone. -/
theorem Reader.Settles.fileBaffling_iff (settles : read.Settles) : FileBaffling read host files path ↔
    ¬ path.IsName ∨ ∃ name bytes v, FileName.ofText path = .ok name ∧ files.read name = .ok bytes ∧
      read bytes = .ok v ∧ v.isTruthy = true ∧ Baffling host v := by
  refine or_congr_right (exists_congr fun name => exists_congr fun bytes => ?_)
  constructor
  · rintro ⟨named, there, ⟨complaint, error, -⟩ | ⟨v, rest⟩⟩
    · exact absurd error (settles bytes complaint)
    · exact ⟨v, named, there, rest⟩
  · rintro ⟨v, named, there, rest⟩
    exact ⟨named, there, .inr ⟨v, rest⟩⟩

/-- A configuration whose key map is a list. -/
def listedKeys : Value := .mapping [(.text "key_map", .list [.text "p"])]

theorem refused_listedKeys : ofValue (.ofHome "/home") listedKeys = .error .keyMapNotMapping := by
  rfl

theorem escapes_listedKeys : Escapes (ofValue (.ofHome "/home") listedKeys) := by
  rw [refused_listedKeys]
  exact escapes_error_iff.mpr (by decide)

/-- The content of a file with this configuration. -/
def listedContent : List UInt8 := "key_map: [p]".toUTF8.toList

/-- A reader that knows this document, and finds that all other contents are none. -/
def listedReader : Reader := fun bytes => if bytes = listedContent then .ok listedKeys else .error .malformed

theorem settles_listedReader : listedReader.Settles := fun bytes complaint => by
  unfold listedReader
  split <;> nofun

/-- Data give a configuration or a configuration error exactly if their first bad part is not refused with
another error, however much room there is for values inside values. A file does exactly if its path is one, nothing
goes wrong with it that is not about documents, and its data do, whatever documents mean; and with a reader that makes
a value of all bytes that it does not take for no document, exactly if its path is one and its data do. -/
theorem handled_iff_not_baffling (host : Host) :
    (∀ v, Handled (ofValue host v) ↔ ¬ Baffling host v) ∧
      (∀ read files path, Handled (ofFile read host files path) ↔ ¬ FileBaffling read host files path) ∧
      ∀ read : Reader, read.Settles → ∀ files path, Handled (ofFile read host files path) ↔
        path.IsName ∧ ∀ name bytes v, FileName.ofText path = .ok name → files.read name = .ok bytes →
          read bytes = .ok v → v.isTruthy = true → ¬ Baffling host v := by
  have file (read files path) : Handled (ofFile read host files path) ↔ ¬ FileBaffling read host files path :=
    handled_iff_not_escapes.trans (not_congr escapes_ofFile_iff)
  refine ⟨fun _ => handled_iff_not_escapes.trans (not_congr escapes_ofValue_iff), file, fun read settles files path => ?_⟩
  rw [file, settles.fileBaffling_iff]
  push Not
  exact Iff.rfl

/-- A file whose key map is a list gives no configuration error. -/
theorem not_handled_listedFile : listedReader.Settles ∧ ¬ Handled (ofFile listedReader (.ofHome "/home")
    (.directory [(.ofString "c", .file listedContent)]) "c") := by
  refine ⟨settles_listedReader, fun handled => ?_⟩
  have document : listedReader listedContent = .ok listedKeys := if_pos rfl
  obtain ⟨-, -, files⟩ := handled_iff_not_baffling (.ofHome "/home")
  obtain ⟨-, calm⟩ := (files listedReader settles_listedReader _ _).mp handled
  have named : FileName.ofText "c" = .ok (.ofString "c") := by decide +kernel
  have there : (FileNode.directory [(.ofString "c", .file listedContent)]).read (.ofString "c") =
      .ok listedContent := by decide +kernel
  exact calm _ _ _ named there document rfl (escapes_ofValue_iff.mp escapes_listedKeys)

/-- A key map that is a list gives no configuration error. -/
theorem not_handled_listedKeys :
    ofValue (.ofHome "/home") listedKeys = .error .keyMapNotMapping ∧
      ¬ Handled (ofValue (.ofHome "/home") listedKeys) :=
  ⟨refused_listedKeys, fun handled => handled_iff_not_escapes.mp handled escapes_listedKeys⟩

end Config

end Hexscope
