import Hexscope.Config.Palette
import Hexscope.ErrorKind
import Hexscope.Files
import Hexscope.Keypad
import Hexscope.Machine
import Hexscope.Text.Integer
import Hexscope.Value

/-!
# Configurations

A configuration is read from a mapping with known keys. The frequencies and the seed are integers,
or numerals in text; the volume is a number and is clamped; palettes are added to the built-in ones;
the key map names host keys. The entries are checked in a fixed order, and the first one that is
wrong decides the error. Errors show values, and a value that is nested too deeply cannot be shown.
-/

namespace Hexscope

/-- What a machine is built from. -/
structure Config where
  cpuHz : Int
  timerHz : Int
  volume : Binary64
  palette : Text
  palettes : List Palette
  keyMap : List (Text × Int)
  romDir : Option Text
  seed : Option Int
deriving Repr

namespace Config

/-- The configuration of a machine that is given none. -/
def standard : Config where
  cpuHz := Machine.standardCpuHz
  timerHz := Machine.standardTimerHz
  volume := Speaker.standardVolume
  palette := Palette.standardId
  palettes := Palette.builtin
  keyMap := []
  romDir := none
  seed := none

instance : Inhabited Config := ⟨standard⟩

/-- What is wrong with a palette entry. -/
inductive EntryError where
  | missing (key : String)
  | notMapping
deriving DecidableEq, Repr

/-- Why a configuration is refused. -/
inductive Error where
  | notMapping
  | unknownKeys (names : List Text)
  /-- Among the unknown keys is one that is no text. -/
  | unnamedKeys
  | badInteger (name value : Text)
  | notPositive
  | badVolume (value : String)
  /-- The volume is an integer beyond every floating point number. -/
  | hugeVolume
  | palettesNotList
  | badEntry (entry : String) (error : EntryError)
  | badColour (value : String)
  | unknownPalette (id : Text)
  /-- The key map is no mapping. -/
  | keyMapNotMapping
  | keyOutOfRange (name : Text) (value : Int)
  | unreadable (path : Text) (error : FileError)
  /-- A text is no path, or no name of an account. -/
  | badPath (error : PathError)
  | invalidYaml (path : Text)
  /-- The file is no text, or something else goes wrong with its document. -/
  | badContent (complaint : Complaint)
  /-- A value cannot be shown. -/
  | unshown (reason : Value.Unshown)
deriving DecidableEq, Repr

namespace Error

/-- The text of an error. -/
def message : Error → Text
  | .notMapping => "Config root must be a mapping"
  | .unknownKeys names => "Unknown config keys: " ++ Text.join ", " names
  | .unnamedKeys => "keys of different types"
  | .badInteger name value => "Invalid integer format for " ++ name ++ ": " ++ value
  | .notPositive => "cpu_hz and timer_hz must be positive"
  | .badVolume value => "Invalid volume: " ++ value
  | .hugeVolume => "int too large to convert to float"
  | .palettesNotList => "palettes must be a list"
  | .badEntry entry (.missing key) =>
    "Invalid palette entry " ++ entry ++ ": " ++ Text.quoted key
  | .badEntry entry .notMapping => "Invalid palette entry " ++ entry ++ ": TypeError"
  | .badColour value => "Invalid color: " ++ value
  | .unknownPalette id => "Unknown palette: " ++ id
  | .keyMapNotMapping => "key_map must be a mapping"
  | .keyOutOfRange name value =>
    "key_map." ++ name ++ " must be in 0x0-0xF, got " ++ Radix.marked value
  | .unreadable path e => "Cannot read config file " ++ path ++ ": " ++ e.message path
  | .badPath e => e.message
  | .invalidYaml path => "Invalid YAML in " ++ path
  | .badContent complaint => complaint.message
  | .unshown reason => reason.message

/-- The kind of an error. Not every refusal is a configuration error. -/
def kind : Error → ErrorKind
  | .unnamedKeys => .type
  | .hugeVolume => .overflow
  | .keyMapNotMapping => .attribute
  | .badPath e => e.kind
  | .unshown reason => reason.kind
  | .badContent complaint => complaint.kind
  | _ => .config

instance : Failure Error := ⟨kind, message⟩

end Error

/-- The home directories that a path may begin with: one's own, and those of other accounts. -/
structure Homes where
  own : Text
  others : List (FileName × Text)
deriving Repr

/-- The places at which a value is shown. -/
inductive Place where
  /-- What is no integer. -/
  | integer
  | volume
  /-- The identifier or the name of a palette. -/
  | label
  /-- An entry that is no palette. -/
  | entry
  | colour
  /-- What is no colour. -/
  | badColour
  /-- The palette that is chosen. -/
  | palette
  /-- The name of a host key. -/
  | key
  | directory
deriving DecidableEq, Repr

/-- What a configuration is read with: the home directories, and the room for values inside values, which depends
on what is under way at each place. -/
structure Host where
  homes : Homes
  room : Place → Nat

/-- A host with one home directory, where little else is under way. -/
def Host.ofHome (home : Text) : Host := ⟨⟨home, []⟩, fun _ => Value.ampleRoom⟩

/-- A value by itself, as it is shown at a place. -/
def Host.shown (host : Host) (p : Place) (v : Value) : Except Error Text :=
  (v.shown (host.room p)).mapError .unshown

/-- A value with quotes around text, as it is shown at a place. -/
def Host.quoted (host : Host) (p : Place) (v : Value) : Except Error String :=
  (v.quoted (host.room p)).mapError .unshown

/-- The keys of a configuration. -/
def knownKeys : List String :=
  ["cpu_hz", "timer_hz", "volume", "palette", "palettes", "key_map", "rom_dir", "seed"]

/-- Whether a value is a known key. -/
def isKnown : Value → Bool
  | .text s => s.string?.any knownKeys.contains
  | _ => false

/-- The names in a list of keys, if all of them are text. -/
def names? : List Value → Option (List Text)
  | [] => some []
  | .text s :: vs => (names? vs).map (s :: ·)
  | _ => none

/-- All keys must be known. -/
def checkKeys (entries : List (Value × Value)) : Except Error Unit :=
  match (entries.map (·.1)).filter (!isKnown ·) with
  | [] => .ok ()
  | unknown =>
    match names? unknown with
    | some names => .error (.unknownKeys (names.mergeSort Text.isUpTo))
    | none => .error .unnamedKeys

/-- The integer of a numeral in text. A text that begins with `0x` is hexadecimal. -/
def numeral? (s : Text) : Option Int :=
  match s.points with
  | .char '0' :: .char 'x' :: _ | .char '0' :: .char 'X' :: _ => Text.Integer.hexadecimal? s
  | _ => Text.Integer.decimal? s

/-- The integer that a value is or that its text gives. -/
def integer? : Value → Option Int
  | .int n => some n
  | .text s => numeral? s
  | _ => none

/-- An integer, or a numeral in text. -/
def integer (host : Host) (name : Text) (v : Value) : Except Error Int :=
  match integer? v with
  | some n => .ok n
  | none => do throw (.badInteger name (← host.shown .integer v))

/-- A number, clamped to the range of a volume. -/
def volumeOf (host : Host) : Value → Except Error Binary64
  | .int n =>
    match Binary64.ofInt? n with
    | some x => .ok x.clampUnit
    | none => .error .hugeVolume
  | .float x => .ok x.clampUnit
  | v => do throw (.badVolume (← host.quoted .volume v))

/-- Whether a text is a number sign and six characters that read as a hexadecimal numeral. -/
def isColour (s : Text) : Bool :=
  match s.points with
  | .char '#' :: ps => ps.length = 6 && (Text.Integer.hexadecimal? ⟨ps⟩).isSome
  | _ => false

/-- The letters of a numeral in upper case. -/
def upperDigit : CodePoint → CodePoint
  | .char c => .char c.toUpper
  | p => p

/-- A colour in upper case. -/
def colour (host : Host) (v : Value) : Except Error Text := do
  let s ← host.shown .colour v
  if isColour s then return ⟨s.points.map upperDigit⟩
  throw (.badColour (← host.quoted .badColour v))

/-- The error of a palette entry. -/
def refuseEntry {α : Type} (host : Host) (entry : Value) (e : EntryError) : Except Error α := do
  throw (.badEntry (← host.quoted .entry entry) e)

/-- The value under a name of a palette entry. -/
def field (host : Host) (entry : Value) (entries : List (Value × Value)) (name : String) :
    Except Error Value :=
  match Value.lookup? entries name with
  | some v => .ok v
  | none => refuseEntry host entry (.missing name)

/-- A palette. Its name is its identifier unless another one is given. -/
def paletteOf (host : Host) (entry : Value) : Except Error Palette :=
  match entry.unfolded with
  | .mapping entries => do
    let field := field host entry entries
    let id ← host.shown .label (← field "id")
    let name ← ((Value.lookup? entries "name").map (host.shown .label)).getD (.ok id)
    let on ← colour host (← field "foreground")
    let off ← colour host (← field "background")
    return ⟨id, name, on, off⟩
  | _ => refuseEntry host entry .notMapping

/-- The palettes of a list. What counts as nothing stands for the empty list. -/
def palettesOf (host : Host) (v : Value) : Except Error (List Palette) :=
  if !v.isTruthy then .ok []
  else
    match v.unfolded with
    | .list entries => entries.mapM (paletteOf host)
    | _ => .error .palettesNotList

/-- Checks one entry of the key map and adds it under its name in lower case. -/
def addKey (host : Host) (m : List (Text × Int)) (entry : Value × Value) :
    Except Error (List (Text × Int)) := do
  let name ← host.shown .key entry.1
  let key ← integer host (("key_map." : Text) ++ name) entry.2
  if key < 0 ∨ 15 < key then throw (.keyOutOfRange name key)
  return Keypad.assign m name.lowercase key

/-- The key map. What counts as nothing stands for the empty map. -/
def keyMapOf (host : Host) (v : Value) : Except Error (List (Text × Int)) :=
  if !v.isTruthy then .ok []
  else
    match v.unfolded with
    | .mapping entries => entries.foldlM (addKey host) []
    | _ => .error .keyMapNotMapping

/-- The home directory behind a tilde and a name, which may be missing. A name that has no bytes, or a
null byte, cannot be looked up. -/
def Homes.find (homes : Homes) (name : Text) : Except Error (Option Text) :=
  if name.isEmpty then .ok (some homes.own)
  else do return homes.others.lookup (← (FileName.ofText name).mapError .badPath)

/-- A path that begins with a tilde leads to one's own home directory, or with a name behind the
tilde to that account's. A path with an unknown name is kept. -/
def Homes.expand (homes : Homes) (path : Text) : Except Error Text :=
  let slash := CodePoint.char '/'
  match path.points with
  | .char '~' :: ps => do
    match ← homes.find ⟨ps.takeWhile (· ≠ slash)⟩ with
    | some h =>
      let base := (h.points.reverse.dropWhile (· = slash)).reverse
      let all := base ++ ps.dropWhile (· ≠ slash)
      return if all.isEmpty then ⟨[slash]⟩ else ⟨all⟩
    | none => return path
  | _ => .ok path

/-- The directory of a value. Nothing names no directory. -/
def romDirOf (host : Host) : Value → Except Error (Option Text)
  | .null => .ok none
  | v => do return some (← host.homes.expand (← host.shown .directory v))

/-- The seed of a value. Nothing is no seed. -/
def seedOf (host : Host) : Value → Except Error (Option Int)
  | .null => .ok none
  | v => some <$> integer host "seed" v

/-- The value under a name, or the one that stands for it. -/
def entryOr (entries : List (Value × Value)) (name : String) (standard : Value) : Value :=
  (Value.lookup? entries name).getD standard

/-- Reads a configuration from the entries of a mapping. -/
def ofEntries (host : Host) (entries : List (Value × Value)) : Except Error Config := do
  checkKeys entries
  let cpuHz ← integer host "cpu_hz" (entryOr entries "cpu_hz" (.int standard.cpuHz))
  let timerHz ← integer host "timer_hz" (entryOr entries "timer_hz" (.int standard.timerHz))
  if cpuHz ≤ 0 ∨ timerHz ≤ 0 then throw .notPositive
  let volume ← volumeOf host (entryOr entries "volume" (.float standard.volume))
  let palettes := Palette.builtin ++ (← palettesOf host (entryOr entries "palettes" .null))
  let palette ← host.shown .palette (entryOr entries "palette" (.text standard.palette))
  if !palettes.any (·.id = palette) then throw (.unknownPalette palette)
  let keyMap ← keyMapOf host (entryOr entries "key_map" .null)
  let romDir ← romDirOf host (entryOr entries "rom_dir" .null)
  let seed ← seedOf host (entryOr entries "seed" .null)
  return { cpuHz, timerHz, volume, palette, palettes, keyMap, romDir, seed }

/-- Reads a configuration from a value, which must be a mapping. -/
def ofValue (host : Host) (v : Value) : Except Error Config :=
  match v.unfolded with
  | .mapping entries => ofEntries host entries
  | _ => .error .notMapping

/-- The palette that the configuration chooses. -/
def chosen? (c : Config) : Option Palette := Palette.choose? c.palettes c.palette

/-- Why no machine is built. -/
inductive BuildError where
  | key (error : Keypad.NoSuchKey)
  | clock (error : Machine.ClockError)
  | memory (error : Bus.Error)
deriving DecidableEq, Repr

/-- The kind of a refusal. -/
def BuildError.kind : BuildError → ErrorKind
  | .key e => e.kind
  | .clock e => e.kind
  | .memory e => e.kind

/-- The text of a refusal. -/
def BuildError.message : BuildError → Text
  | .key e => e.message
  | .clock e => e.message
  | .memory e => e.message

instance : Failure BuildError := ⟨BuildError.kind, BuildError.message⟩

/-- Builds the standard machine and resets it, so that its memory holds the font. -/
def build (c : Config) : Except BuildError Machine := do
  let keypad ← (Keypad.ofNames? c.keyMap).mapError .key
  let random := match c.seed with
    | some n => Random.ofSeed n
    | none => Random.zeros
  let speaker := Speaker.ofVolume c.volume
  let cpu := Cpu.assemble .standard keypad (some speaker) random Rom.standardLimit
  let (cpu, _, error) := cpu.reset
  if let some e := error then throw (.memory e)
  (Machine.assemble cpu c.cpuHz c.timerHz Debugger.standardLimit).mapError .clock

end Config

end Hexscope
