import Hexscope.Binary64

/-!
# The speaker

The sound timer asks for a tone while it runs. The speaker remembers whether a tone is asked for and
how loud it is, and tells its listeners only of changes.
-/

namespace Hexscope

/-- Whether a tone is asked for, and its volume. -/
structure Speaker where
  beeping : Bool
  volume : Binary64
deriving DecidableEq, Repr

namespace Speaker

/-- A silent speaker. The volume is kept between zero and one. -/
def ofVolume (v : Binary64) : Speaker := ⟨false, v.clampUnit⟩

/-- The volume of a speaker that nobody has set: one half. -/
def standardVolume : Binary64 := .ofRatio false 1 2

instance : Inhabited Speaker := ⟨ofVolume standardVolume⟩

/-- Changes the volume, which is kept between zero and one. -/
def setVolume (s : Speaker) (v : Binary64) : Speaker := { s with volume := v.clampUnit }

/-- Asks for a tone or for silence. The answer is what the listeners hear: nothing if that is
already so. -/
def request (s : Speaker) (beeping : Bool) : Speaker × Option Bool :=
  if s.beeping = beeping then (s, none) else ({ s with beeping }, some beeping)

@[simp] theorem beeping_request (s : Speaker) (b : Bool) : (s.request b).1.beeping = b := by
  unfold request
  split <;> simp_all

end Speaker

end Hexscope
