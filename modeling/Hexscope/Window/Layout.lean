import Hexscope.Config.Palette
import Hexscope.Machine

/-!
# The layout of the window

The parts of the window that stay as they are, and the rules for those that follow the machine: the
texts of titles and style sheets, the ranges of the two controls for speed and volume, and which
buttons may be pressed when.
-/

namespace Hexscope.Layout

/-- The title of the window. -/
def title : String := "CHIP-8 Tracer"

/-- The title of the tool bar. -/
def toolbarTitle : String := "Main Toolbar"

/-- The title of the inspector at the right side. -/
def inspectorTitle : String := "Status Inspector"

/-- The pages of the inspector. -/
def pages : List String := ["Registers", "Assembler"]

/-- The time between two updates of the inspector, in milliseconds. -/
def refreshInterval : Nat := 100

/-- The status before anything was loaded. -/
def firstStatus : String := "Load a ROM to start"

/-- The text of the light that tells whether the speaker beeps. -/
def toneText : String := "BEEP"

/-- The style sheet of that light. -/
def toneStyle (lit : Bool) : String :=
  "color: " ++ (if lit then "#FFB000" else "#303030") ++ "; font-weight: bold;"

/-- The style sheet of the code table. -/
def tableStyle : String := "background-color: #101010; color: #BBBBBB; gridline-color: #303030;"

/-- The style sheet of the register panel. -/
def panelStyle : String := "background-color: #121212; color: #BBBBBB;"

/-- The style sheet of a value on the register panel. -/
def valueStyle (family : Text) : Text :=
  "font-family: '" ++ family ++ "', monospace; color: #FFD700;"

/-- The style sheet of the window. -/
def windowStyle (family : Text) : Text :=
  "\n            QWidget \x7b font-family: '" ++ family ++ "', monospace; font-size: 10pt; \x7d" ++
  "\n            QMainWindow, QToolBar \x7b background-color: #1D1D1D; border: none; \x7d" ++
  "\n            QDockWidget::title \x7b text-align: left; background: #101010; " ++
  "padding: 4px; font-weight: bold; \x7d" ++
  "\n        "

/-- The colours of the window by role, in alphabetical order. -/
def colours : List (String × String) :=
  [("Base", "#1e1e1e"), ("Button", "#353535"), ("ButtonText", "#e0e0e0"),
   ("Highlight", "#2a82da"), ("Text", "#e0e0e0"), ("Window", "#1d1d1d"), ("WindowText", "#e0e0e0")]

/-- The question for a program file: its title, the directory to begin in, and the kinds of files. -/
structure FileDialog where
  title : String
  directory : Text
  kinds : String
deriving DecidableEq, Repr

/-- The question for a program file. -/
def openDialog (directory : Text) : FileDialog :=
  ⟨"Open CHIP-8 ROM", directory, "CHIP-8 ROMs (*.ch8 *.c8);;All Files (*)"⟩

/-- A message that the user has to confirm. -/
structure MessageBox where
  title : String
  text : Text
deriving DecidableEq, Repr

/-- The message about a program that cannot be loaded. -/
def loadFailure (reason : Text) : MessageBox := ⟨"Error", "Failed to load ROM: " ++ reason⟩

end Layout

/-- A control for a number in a range. -/
structure Dial where
  low : Int
  high : Int
  value : Int
deriving DecidableEq, Repr

namespace Dial

/-- The nearest number in the range. -/
def clamp (d : Dial) (n : Int) : Int := max d.low (min d.high n)

/-- Turns the control to a number, or as near to it as possible. -/
def turn (d : Dial) (n : Int) : Dial := { d with value := d.clamp n }

/-- The control for the frequency of the instruction clock. -/
def speed (hz : Int) : Dial := turn ⟨1, 5000, 1⟩ hz

/-- The control for the volume in percent. -/
def loudness (percent : Int) : Dial := turn ⟨0, 100, 0⟩ percent

end Dial

/-- The state of the buttons that control a run. -/
structure Buttons where
  /-- The text of the button that pauses a run and lets it go on. -/
  runText : String
  canRun : Bool
  canStep : Bool
  canStop : Bool
deriving DecidableEq, Repr

/-- The buttons for the present state of a machine. -/
def Buttons.of (m : Machine) : Buttons where
  runText := if m.cpu.gate.shouldWait then "Run" else "Pause"
  canRun := m.isRunning
  canStep := m.isRunning && m.cpu.gate.shouldWait
  canStop := m.isRunning

/-- An entry of a tool bar or menu. -/
inductive Item where
  | action (text : Text) (shortcut : Option String)
  | label (text : String)
  | dial (d : Dial) (maxWidth : Option Nat)
  | separator
deriving DecidableEq, Repr

/-- The entry that loads a program. -/
def Item.load : Item := .action "Load ROM" (some "Ctrl+O")

/-- The tool bar. -/
def Layout.toolbar (b : Buttons) (speed loudness : Dial) : List Item :=
  [.load, .action b.runText none, .action "Step" none, .action "Stop" none, .separator,
   .label " Hz: ", .dial speed none, .label " Volume: ", .dial loudness (some 120)]

/-- The menus. -/
def Layout.menus (palettes : List Palette) : List (String × List Item) :=
  [("File", [.load]), ("Palette", palettes.map fun p => .action p.name none)]

end Hexscope
