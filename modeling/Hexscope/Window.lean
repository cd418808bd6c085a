import Hexscope.Config
import Hexscope.Listing
import Hexscope.Window.Canvas
import Hexscope.Window.CodeTable
import Hexscope.Window.Layout
import Hexscope.Window.RegisterPanel
import Hexscope.Window.Typeface

/-!
# The window

The window shows a machine: its screen, its registers, its program and its tone. It starts, pauses,
steps and stops runs, and passes keys on to the keypad.

What the machine tells during an action of the window reaches it at once. What the machine's own
threads tell waits until the action is over, and is then taken in order (`Window.deliver`). The
inspector is refreshed by a timer and at the end of a run, so between these moments it may lag
behind the machine.
-/

namespace Hexscope

/-- A machine with all that its window shows. -/
structure Window where
  machine : Machine
  config : Config
  /-- The typeface of the inspector. -/
  family : Text
  canvas : Canvas
  panel : RegisterPanel
  table : CodeTable
  /-- The rows that the code table has scrolled to. -/
  scrolled : List Nat
  status : Text
  /-- The text about the next instruction. -/
  next : String
  /-- Whether the light of the tone is lit. -/
  toneLit : Bool
  buttons : Buttons
  speed : Dial
  loudness : Dial
  /-- Whether the timer that refreshes the inspector runs. -/
  refreshes : Bool
  /-- Whether a program was loaded by the window. -/
  loaded : Bool
  /-- The messages that nobody has confirmed yet. -/
  messages : List Layout.MessageBox
  /-- What the question for a program file is answered with. -/
  answer : Text
  /-- The questions for a program file that nobody has taken note of yet. -/
  asked : List Layout.FileDialog

namespace Window

/-- The text about the next instruction. -/
def nextText (next : Option Operation) : String := "Next: " ++ next.elim "-" Operation.text

/-- A volume in percent, rounded. -/
def percent (volume : Binary64) : Int := (volume.mul (.ofNat 100)).round?.getD 0

/-- The window of a machine that was built from a configuration. -/
def ofMachine (fonts : FontShelf) (config : Config) (machine : Machine) : Window where
  machine := { machine with frameListeners := 1, snapshotListeners := 0 }
  config := config
  family := fonts.choose
  canvas := .ofPalette config.chosen?
  panel := .standard
  table := .empty
  scrolled := []
  status := Layout.firstStatus
  next := nextText none
  toneLit := false
  buttons := .of machine
  speed := .speed machine.cpuHz.rounded
  loudness := .loudness (percent config.volume)
  refreshes := true
  loaded := false
  messages := []
  answer := ""
  asked := []

instance : Inhabited Window := ⟨ofMachine default default default⟩

/-! ## The inspector -/

/-- Sets the buttons by the present state of the machine. -/
def updateButtons (w : Window) : Window := { w with buttons := .of w.machine }

/-- Shows the program counter in the code table. -/
def showCode (w : Window) : Window × Option Bus.Error :=
  match w.table.update w.machine.cpu.bus w.machine.cpu.state.pc with
  | .ok (table, rows) => ({ w with table, scrolled := w.scrolled ++ rows }, none)
  | .error e => (w, some e)

/-- Shows the present registers, the next instruction, and the program if one was loaded. -/
def inspect (w : Window) : Window × Option Bus.Error :=
  let w := { w with
    panel := w.panel.update w.machine.cpu.state.toRegisters.table
    next := nextText (w.machine.debugger.last.bind (·.next)) }
  if w.loaded then w.showCode else (w, none)

/-- The timer of the inspector comes round. The answer tells whether it runs. -/
def refresh (w : Window) : Window × Except Bus.Error Bool :=
  if !w.refreshes then (w, .ok false)
  else
    match w.inspect with
    | (w, none) => (w, .ok true)
    | (w, some e) => (w, .error e)

/-- Takes the rows that the code table has scrolled to. -/
def takeScrolled (w : Window) : Window × List Nat := ({ w with scrolled := [] }, w.scrolled)

/-- Takes the messages. -/
def takeMessages (w : Window) : Window × List Layout.MessageBox :=
  ({ w with messages := [] }, w.messages)

/-! ## What the machine tells -/

/-- The status after a run. -/
def finalStatus (m : Machine) : StepResult → Text
  | .fatal => "Fatal: " ++ m.cpu.fault.elim ("None" : Text) Fault.message
  | _ => "Halted"

/-- A run has ended. -/
def finished (w : Window) (r : StepResult) : Window :=
  { w with status := finalStatus w.machine r }.inspect.1.updateButtons

/-- Takes note of an event. -/
def hear (w : Window) : Event → Window
  | .notice (.frame s) => { w with canvas := w.canvas.showFrame (some s) }
  | .notice (.tone beeping) => { w with toneLit := beeping }
  | .finish r => w.finished r
  | _ => w

/-- Lets the machine's threads end or stop, and takes note of all that was told: first what the
machine told in the action itself, then what its threads told. The answer has the events as they
happened. -/
def deliver (w : Window) : Window × List Event :=
  let (machine, reports) := w.machine.settle.takeReports
  let direct := reports.filter (!·.fromThread)
  let queued := reports.filter (·.fromThread)
  ((direct ++ queued).foldl (fun w r => w.hear r.event) { w with machine },
    reports.map (·.event))

/-! ## Programs -/

/-- The last component of a path. -/
def baseName (path : Text) : Text := (path.splitOn '/').getLast?.getD path

/-- Loads a program from a file and runs it. The buttons are set when the threads of the run have gone on
for a while. A file that cannot be loaded is reported in a message and leaves the buttons as they are; the
answer tells whether the program was loaded. -/
def loadRomWhile (w : Window) (goOn : Machine → Machine) (files : FileNode) (path : Text) :
    Window × Except Machine.RunError Bool :=
  match w.machine.loadAndRun files path with
  | (machine, none) =>
    ({ w with
        machine := goOn machine
        loaded := true
        table := .empty
        status := "Running " ++ baseName path }.updateButtons, .ok true)
  | (machine, some e) =>
    let w := { w with machine }
    if e.kind.isA .romLoad then
      ({ w with messages := w.messages ++ [Layout.loadFailure e.message] }, .ok false)
    else (w, .error e)

/-- Loads a program from a file and runs it until its threads have ended or stopped. -/
def loadRom (w : Window) (files : FileNode) (path : Text) :
    Window × Except Machine.RunError Bool :=
  w.loadRomWhile Machine.settle files path

/-- The question for a program file. -/
def dialog (w : Window) : Layout.FileDialog := Layout.openDialog (w.config.romDir.getD "")

/-- Takes the questions for a program file. -/
def takeAsked (w : Window) : Window × List Layout.FileDialog := ({ w with asked := [] }, w.asked)

/-! ## Buttons and controls -/

/-- The button that asks for a program file. An empty answer means that none is chosen. -/
def clickLoad (w : Window) (files : FileNode) : Window × Option Machine.RunError :=
  let w := { w with asked := w.asked ++ [w.dialog] }
  if w.answer.isEmpty then (w, none)
  else
    match w.loadRom files w.answer with
    | (w, .ok _) => (w, none)
    | (w, .error e) => (w, some e)

/-- Pauses the run, or lets it go on if it is paused. The buttons are set when the threads of the run have
gone on for a while. -/
def togglePauseWhile (w : Window) (goOn : Machine → Machine) : Window :=
  if w.machine.cpu.gate.shouldWait then
    { w with machine := goOn w.machine.debugResume, status := "Running" }.updateButtons
  else { w with machine := goOn w.machine.pause, status := "Paused" }.updateButtons

/-- Pauses the run, or lets it go on if it is paused, until its threads have ended or stopped. -/
def togglePause (w : Window) : Window := w.togglePauseWhile Machine.settle

/-- The button that pauses a run or lets it go on. -/
def clickRun (w : Window) : Window := if !w.buttons.canRun then w else w.togglePause

/-- The button that executes one instruction of a paused run. -/
def clickStep (w : Window) : Window :=
  if !w.buttons.canStep then w
  else
    let (machine, stepped) := w.machine.stepPaused
    { w with machine, status := if stepped then "Stepped" else w.status }

/-- Ends the run. -/
def endRun (w : Window) : Window :=
  { w with machine := w.machine.stop, status := "Stopped" }.updateButtons

/-- The button that ends a run. -/
def clickStop (w : Window) : Window := if !w.buttons.canStop then w else w.endRun

/-- Turns the control of the frequency. -/
def setSpeed (w : Window) (hz : Int) : Window :=
  let speed := w.speed.turn hz
  if speed = w.speed then w
  else { w with speed, machine := (w.machine.setCpuHz speed.value).1 }

/-- Turns the control of the volume. -/
def setLoudness (w : Window) (percent : Int) : Window :=
  let loudness := w.loudness.turn percent
  if loudness = w.loudness then w
  else { w with
    loudness
    machine := w.machine.setVolume (.ofRatio false loudness.value.toNat 100) }

/-- The palette with a number in the menu. A negative number counts from the end. -/
def palette? (w : Window) (k : Int) : Option Palette :=
  let n : Int := w.config.palettes.length
  if 0 ≤ k then w.config.palettes[k.toNat]? else
  if -n ≤ k then w.config.palettes[(k + n).toNat]? else none

/-- Changes the colours, and shows the present screen in them. -/
def applyPalette (w : Window) (p : Palette) : Window :=
  { w with canvas := (w.canvas.setPalette p).showFrame (some w.machine.cpu.state.screen) }

/-! ## Keys and the end -/

/-- A host key goes down. The answer tells whether the keypad took it; it takes no repetition. -/
def keyDown (w : Window) (text : Text) (repeated : Bool) : Window × Bool :=
  if repeated then (w, false)
  else
    let (machine, taken) := w.machine.pressNamed text
    ({ w with machine }, taken)

/-- A host key goes up. The answer tells whether the keypad took it; it takes no repetition. -/
def keyUp (w : Window) (text : Text) (repeated : Bool) : Window × Bool :=
  if repeated then (w, false)
  else
    let (machine, taken) := w.machine.releaseNamed text
    ({ w with machine }, taken)

/-- The window closes: nothing is refreshed any more, the run ends, and no frame is shown. -/
def close (w : Window) : Window :=
  { w with refreshes := false, machine := { w.machine.stop with frameListeners := 0 } }

/-- The tool bar. -/
def toolbar (w : Window) : List Item := Layout.toolbar w.buttons w.speed w.loudness

/-- The menus. -/
def menus (w : Window) : List (String × List Item) := Layout.menus w.config.palettes

end Window

end Hexscope
