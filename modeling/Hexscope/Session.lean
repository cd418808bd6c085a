import Hexscope.CommandLine
import Hexscope.Config.File
import Hexscope.Window

/-!
# Sessions

A session is one run of the program from its command line: the configuration is read, the machine
is built and shown in a window, and the program file is loaded, if one is named. The machine then
runs until its threads have ended or stopped, and the inspector is refreshed once more.
-/

namespace Hexscope.Session

open CommandLine (Arguments)

/-- Why a session ends before the machine runs. -/
inductive Error where
  /-- The log is given no level. -/
  | noLevel
  | config (error : Config.Error)
  | build (error : Config.BuildError)
  | load (error : Machine.RunError)

/-- The kind of an error. -/
def Error.kind : Error → ErrorKind
  | .noLevel => .type
  | .config e => e.kind
  | .build e => e.kind
  | .load e => e.kind

/-- The text of an error. -/
def Error.message : Error → Text
  | .noLevel => "the log needs a level"
  | .config e => e.message
  | .build e => e.message
  | .load e => e.message

instance : Failure Error := ⟨Error.kind, Error.message⟩

/-- The exit code of a program whose configuration is wrong. -/
def badConfigCode : Nat := 2

/-- The configuration that the command line names. No name and an empty one stand for the standard
configuration. -/
def configOf (read : Config.Reader) (host : Config.Host) (files : FileNode) (a : Arguments) :
    Except Config.Error Config :=
  match a.config with
  | some (.text path) => if path.isEmpty then .ok .standard else Config.ofFile read host files path
  | some .nothing | none => .ok .standard

/-- The window of a configuration. -/
def openWindow (fonts : FontShelf) (c : Config) : Except Config.BuildError Window :=
  c.build.map (Window.ofMachine fonts c)

/-- The program file that the command line names. An empty name stands for none. -/
def romOf (a : Arguments) : Option Text :=
  match a.rom with
  | some path => if path.isEmpty then none else some path
  | none => none

/-- Loads the program file into a window, if one is named. A file that cannot be loaded is reported
in the window. -/
def load (files : FileNode) (a : Arguments) (w : Window) : Except Machine.RunError Window :=
  match romOf a with
  | none => .ok w
  | some path =>
    match w.loadRom files path with
    | (w, .ok _) => .ok w
    | (_, .error e) => .error e

/-- Runs a session up to the last refresh of its inspector. -/
def run (read : Config.Reader) (host : Config.Host) (fonts : FontShelf) (files : FileNode) (a : Arguments) :
    Except Error Window := do
  if a.logLevel = .nothing then throw .noLevel
  let config ← (configOf read host files a).mapError .config
  let w ← (openWindow fonts config).mapError .build
  let w ← (load files a w).mapError .load
  return w.deliver.1.refresh.1

/-! ## Reports -/

/-- A row of the screen, a number sign for each lit pixel and a point for each dark one. -/
def screenLine (s : Screen) (y : Nat) : String :=
  String.ofList ((List.range Screen.width).map fun x => if s.pixel x y then '#' else '.')

/-- The groups of the register panel, a line for each. -/
def registerLines (p : RegisterPanel) : List String :=
  (p.groups.getD []).map fun g =>
    g.1 ++ ": " ++ String.intercalate ", " (g.2.map fun f => f.label ++ " " ++ f.shown)

/-- What the window shows, as lines of text. -/
def report (w : Window) : List String :=
  w.messages.map (·.text.display) ++ [w.status.display, w.next] ++ registerLines w.panel ++
    w.canvas.frame.elim [] fun s => (List.range Screen.height).map (screenLine s)

end Hexscope.Session
