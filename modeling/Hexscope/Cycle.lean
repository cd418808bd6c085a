import Hexscope.Instruction.Effect
import Hexscope.Snapshot

/-!
# The instruction cycle

Every processor runs its instructions in the same order of stages: drop the old access log, end if
the program counter has left the memory, fetch, end if the word marks the end of the program,
decode, move the program counter, execute, count the cycles. `Processor` holds what a particular
processor supplies to the stages, and `Processor.cycle` is their order.
-/

namespace Hexscope

/-- What a processor `μ` that fetches words `ω` supplies to the instruction cycle. -/
structure Processor (μ ω : Type) where
  pc : μ → Int
  bus : μ → Bus
  setBus : Bus → μ → μ
  /-- Reads the word at an address. The bus keeps the record of the reads, also if one fails. -/
  fetch : Int → Bus → Bus × Except Bus.Error ω
  /-- Whether a word marks the end of the program. -/
  isEnd : ω → Bool
  decode : ω → Except Fault Operation
  /-- Moves the program counter behind an instruction of a length. -/
  advance : Nat → μ → μ
  execute : ω → μ → μ × Option Refusal
  setFault : Fault → μ → μ
  addCycles : Nat → μ → μ

/-- How the stages of a cycle end. -/
inductive Outcome (ω : Type) where
  /-- The program has ended. -/
  | halted
  /-- The processor remembers a fault. -/
  | fatal
  /-- An access was refused outside the reach of faults. -/
  | raised (error : AccessError)
  /-- The instruction was executed. -/
  | done (word : ω) (operation : Operation)
deriving Repr

namespace Processor

variable {μ ω : Type}

/-- Decodes and executes a fetched word. -/
def perform (p : Processor μ ω) (w : ω) (m : μ) : μ × Outcome ω :=
  match p.decode w with
  | .error f => (p.setFault f m, .fatal)
  | .ok o =>
    match p.execute w (p.advance o.length m) with
    | (m, some (.fault f)) => (p.setFault f m, .fatal)
    | (m, some (.access e)) => (m, .raised e)
    | (m, none) => (p.addCycles o.cycles m, .done w o)

/-- Runs one instruction. -/
def cycle (p : Processor μ ω) (m : μ) : μ × Outcome ω :=
  let m := p.setBus (p.bus m).dropLog m
  let pc := p.pc m
  if (p.bus m).size ≤ pc + 1 then (m, .halted)
  else
    let (bus, fetched) := p.fetch pc (p.bus m)
    let m := p.setBus bus m
    match fetched with
    | .error e => (m, .raised (.bus e))
    | .ok w => if p.isEnd w then (m, .halted) else p.perform w m

end Processor

end Hexscope
