import Hexscope.Argument.Conditions
import Hexscope.Argument.Faults
import Hexscope.Argument.Keys
import Hexscope.Argument.Memory
import Hexscope.Argument.Registers
import Hexscope.Main
import Hexscope.OneByte
import Hexscope.Value.Number
import Hexscope.Proofs.Bus.Block
import Hexscope.Proofs.Cpu.Cycle
import Hexscope.Proofs.Cpu.Rest
import Hexscope.Proofs.Machine.Gap
import Hexscope.Proofs.Machine.Inspect
import Hexscope.Proofs.Machine.Load
import Hexscope.Proofs.Machine.Log
import Hexscope.Proofs.Machine.Subroutine
import Hexscope.Proofs.Machine.Report
import Hexscope.Proofs.Machine.Tell
import Hexscope.Proofs.Machine.Conclude
import Hexscope.Proofs.Machine.Breakpoint
import Hexscope.Proofs.Instruction.Footprint
import Hexscope.Proofs.Machine.Footprint
import Hexscope.Proofs.Machine.Control
import Hexscope.Proofs.Machine.Stepping
import Hexscope.Proofs.Machine.Tone
import Hexscope.Proofs.Machine.Course
import Hexscope.Proofs.Machine.Lifecycle
import Hexscope.Proofs.Machine.Race
import Hexscope.Proofs.Machine.Frame
import Hexscope.Proofs.Instruction.Flags
import Hexscope.Proofs.Instruction.Sprite
import Hexscope.Proofs.Machine.Outcome
import Hexscope.Proofs.Machine.Delivery
import Hexscope.Proofs.Machine.Restore
import Hexscope.Proofs.Machine.Refuse
import Hexscope.Proofs.Debugger.Call
import Hexscope.Proofs.Debugger.Watch
import Hexscope.Proofs.Debugger.Incomplete
import Hexscope.Proofs.Machine.DebugRun
import Hexscope.Proofs.Machine.DebugStep
import Hexscope.Proofs.Machine.Listing
import Hexscope.Proofs.Bus.Exchange
import Hexscope.Proofs.Gate.Monitor
import Hexscope.Proofs.Keypad.Worker
import Hexscope.Proofs.Instruction.Text
import Hexscope.Proofs.Machine.Lookahead
import Hexscope.Proofs.Config.Refuse
import Hexscope.Proofs.Config.Build
import Hexscope.Proofs.Config.Colour
import Hexscope.Proofs.Window.Buttons
import Hexscope.Proofs.Window.CodeTable
import Hexscope.Proofs.Window.Highlight
import Hexscope.Proofs.Window.Painting
