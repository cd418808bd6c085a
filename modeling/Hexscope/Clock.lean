import Hexscope.ErrorKind
import Hexscope.Frequency

/-!
# Clocks

A clock calls its work once per period until the work asks to stop, fails, or the clock is
cancelled. It can be started once. Cancelling is noticed between two calls, so a clock that was
cancelled before its start makes no call. A call that fails is not a tick.
-/

namespace Hexscope

/-- A clock and what has become of it. -/
structure Clock where
  name : Text
  hz : Frequency
  started : Bool
  ended : Bool
  cancelled : Bool
  ticks : Nat
deriving DecidableEq, Repr

namespace Clock

/-- Why a clock refuses. -/
inductive Error where
  | notPositive (hz : Frequency)
  | alreadyStarted (name : Text)
  /-- The frequency has no binary floating point form, so there is no period. -/
  | noPeriod
deriving DecidableEq, Repr

/-- The text of a refusal. -/
def Error.message : Error → Text
  | .notPositive hz => "Clock frequency must be positive, got " ++ hz.text ++ "."
  | .alreadyStarted name => "Clock '" ++ name ++ "' has already been started."
  | .noPeriod => "int too large to convert to float"

/-- The kind of a refusal. -/
def Error.kind : Error → ErrorKind
  | .notPositive _ => .value
  | .alreadyStarted _ => .misuse
  | .noPeriod => .overflow

instance : Failure Error := ⟨Error.kind, Error.message⟩

/-- What the work answers to a call. -/
inductive Verdict where
  | continue
  | stop
  | fail
  /-- The work cancels the clock and would go on. -/
  | cancel
deriving DecidableEq, Repr

/-- A clock of a frequency, named after it if no name is given. -/
def ofFrequency? (hz : Frequency) (name : Option Text) : Except Error Clock :=
  if hz.isRefused then .error (.notPositive hz)
  else if hz.period?.isNone then .error .noPeriod
  else
    let usual : Text := hz.text ++ "hz Timer"
    let name := match name with
      | some n => if n.isEmpty then usual else n
      | none => usual
    .ok ⟨name, hz, false, false, false, 0⟩

/-- Changes the frequency. A frequency without a period is kept, but refused all the same. -/
def setFrequency (c : Clock) (hz : Frequency) : Clock × Option Error :=
  if hz.isRefused then (c, some (.notPositive hz))
  else ({ c with hz }, if hz.period?.isNone then some .noPeriod else none)

/-- Asks the clock to make no further call. -/
def cancel (c : Clock) : Clock := { c with cancelled := true }

/-- Whether the clock makes calls. -/
def isRunning (c : Clock) : Bool := c.started && !c.ended

/-- The calls that a clock makes to a work with these verdicts: the number of calls, and the clock
when they have ended. -/
def calls (c : Clock) : List Verdict → Clock × Nat
  | [] => ({ c with ended := true }, 0)
  | v :: vs =>
    if c.cancelled then ({ c with ended := true }, 0)
    else
      match v with
      | .fail => ({ c with ended := true }, 1)
      | .stop => ({ c with ended := true, ticks := c.ticks + 1 }, 1)
      | .cancel =>
        let (c, n) := calls { c with cancelled := true, ticks := c.ticks + 1 } vs
        (c, n + 1)
      | .continue =>
        let (c, n) := calls { c with ticks := c.ticks + 1 } vs
        (c, n + 1)

/-- Starts the clock and lets it run to its end. -/
def start (c : Clock) (work : List Verdict) : Except Error (Clock × Nat) :=
  if c.started then .error (.alreadyStarted c.name)
  else .ok (calls { c with started := true } work)

end Clock

end Hexscope
