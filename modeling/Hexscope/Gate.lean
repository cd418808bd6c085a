/-!
# Pause points

A gate is a point that threads pass. While its policy says so, a thread that arrives stays there
until it is let through. Changing the policy affects later arrivals only. Letting through releases
all threads at the gate together, and does nothing when none is there.
-/

namespace Hexscope

/-- The policy of a pause point and the threads that stay at it. -/
structure Gate where
  /-- Whether the next thread to arrive stays. -/
  shouldWait : Bool
  /-- Whether threads stay at the gate. -/
  isWaiting : Bool
  /-- How many they are. -/
  parked : Nat
deriving DecidableEq, Repr

namespace Gate

/-- A gate that nobody stays at. -/
def ofPolicy (shouldWait : Bool) : Gate := ⟨shouldWait, false, 0⟩

instance : Inhabited Gate := ⟨ofPolicy false⟩

/-- Changes the policy. -/
def setPolicy (g : Gate) (shouldWait : Bool) : Gate := { g with shouldWait }

/-- A thread arrives. The answer tells whether it stays. -/
def arrive (g : Gate) : Gate × Bool :=
  if g.shouldWait then ({ g with isWaiting := true, parked := g.parked + 1 }, true)
  else (g, false)

/-- Lets all threads through. The answer tells how many there were. -/
def release (g : Gate) : Gate × Nat :=
  if g.isWaiting then ({ g with isWaiting := false, parked := 0 }, g.parked) else (g, 0)

/-- The flag of a gate tells whether threads stay at it. -/
def Sound (g : Gate) : Prop := g.isWaiting = true ↔ 0 < g.parked

theorem sound_ofPolicy (b : Bool) : (ofPolicy b).Sound := by simp [Sound, ofPolicy]

theorem Sound.setPolicy {g : Gate} (h : g.Sound) (b : Bool) : (g.setPolicy b).Sound := h

theorem Sound.arrive {g : Gate} (h : g.Sound) : g.arrive.1.Sound := by
  unfold Gate.arrive
  split <;> simp_all [Sound]

theorem Sound.release {g : Gate} (h : g.Sound) : g.release.1.Sound := by
  unfold Gate.release
  split <;> simp_all [Sound]

end Gate

end Hexscope
