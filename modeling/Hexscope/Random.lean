/-!
# Random bytes

A source of random bytes is either a list that is read again and again, or the Mersenne twister
MT19937. A twister is seeded with the 32-bit words of a number and yields a byte from the top nine
bits of each output, passing over those that are 256 or more.
-/

namespace Hexscope

/-- The state of a Mersenne twister: 624 words and how many of them have been used. -/
structure Twister where
  words : Array UInt32
  used : Nat
deriving DecidableEq, Repr

namespace Twister

/-- The number of words. -/
def length : Nat := 624

/-- A word mixed with its own top bits. -/
def mix (p : UInt32) : UInt32 := p ^^^ (p >>> 30)

/-- The words spread from one seed word. -/
def spread (seed : UInt32) : Array UInt32 :=
  (List.range (length - 1)).foldl (fun (ws : Array UInt32) k =>
    ws.push (1812433253 * mix (ws.getD k 0) + UInt32.ofNat (k + 1))) #[seed]

/-- The word before a position, mixed. -/
def mixed (ws : Array UInt32) (i : Nat) : UInt32 := mix (ws.getD (i - 1) 0)

/-- The position behind `i`, which wraps to one and copies the last word to the front. -/
def onward (ws : Array UInt32) (i : Nat) : Array UInt32 × Nat :=
  if i + 1 < length then (ws, i + 1) else (ws.setIfInBounds 0 (ws.getD (length - 1) 0), 1)

/-- Works the seed words into the state, `rounds` times. -/
def stir (key : Array UInt32) : (rounds : Nat) → (i j : Nat) → Array UInt32 → Array UInt32 × Nat
  | 0, i, _, ws => (ws, i)
  | rounds + 1, i, j, ws =>
    let w := (ws.getD i 0 ^^^ (mixed ws i * 1664525)) + key.getD j 0 + UInt32.ofNat j
    let (ws, i) := onward (ws.setIfInBounds i w) i
    stir key rounds i (if j + 1 < key.size then j + 1 else 0) ws

/-- Spreads the seed words over the whole state, `rounds` times. -/
def settle : (rounds : Nat) → (i : Nat) → Array UInt32 → Array UInt32
  | 0, _, ws => ws
  | rounds + 1, i, ws =>
    let w := (ws.getD i 0 ^^^ (mixed ws i * 1566083941)) - UInt32.ofNat i
    let (ws, i) := onward (ws.setIfInBounds i w) i
    settle rounds i ws

/-- A twister seeded with words. -/
def ofWords (key : Array UInt32) : Twister :=
  let (ws, i) := stir key (max length key.size) 1 0 (spread 19650218)
  ⟨(settle (length - 1) i ws).setIfInBounds 0 0x80000000, length⟩

/-- The 32-bit words of a number, lowest first, at most `fuel` of them. -/
def wordsOf : (fuel : Nat) → Nat → List UInt32
  | 0, _ => []
  | fuel + 1, n =>
    if n < 0x100000000 then [UInt32.ofNat n]
    else UInt32.ofNat (n % 0x100000000) :: wordsOf fuel (n / 0x100000000)

/-- A twister seeded with the magnitude of an integer. -/
def ofSeed (seed : Int) : Twister :=
  ofWords (wordsOf (Nat.log2 seed.natAbs / 32 + 1) seed.natAbs).toArray

/-- The next generation of words. -/
def regenerate (ws : Array UInt32) : Array UInt32 :=
  (List.range length).foldl (fun (ws : Array UInt32) k =>
    let y := (ws.getD k 0 &&& 0x80000000) ||| (ws.getD ((k + 1) % length) 0 &&& 0x7FFFFFFF)
    let twist : UInt32 := if y % 2 = 0 then 0 else 0x9908B0DF
    ws.setIfInBounds k (ws.getD ((k + 397) % length) 0 ^^^ (y >>> 1) ^^^ twist)) ws

/-- The output made of a word. -/
def temper (y : UInt32) : UInt32 :=
  let y := y ^^^ (y >>> 11)
  let y := y ^^^ ((y <<< 7) &&& 0x9D2C5680)
  let y := y ^^^ ((y <<< 15) &&& 0xEFC60000)
  y ^^^ (y >>> 18)

/-- The next output. -/
def next (t : Twister) : UInt32 × Twister :=
  let t : Twister := if length ≤ t.used then ⟨regenerate t.words, 0⟩ else t
  (temper (t.words.getD t.used 0), { t with used := t.used + 1 })

/-- The next byte. Outputs whose top nine bits are 256 or more are passed over, at most `fuel` of
them. -/
def nextByte : (fuel : Nat) → Twister → UInt8 × Twister
  | 0, t => (0, t)
  | fuel + 1, t =>
    let (y, t) := t.next
    let r := (y >>> 23).toNat
    if r < 256 then (UInt8.ofNat r, t) else nextByte fuel t

/-- More outputs in a row than a twister rejects: its top bits follow a primitive recurrence of
degree 19937, so they are never set 20000 times running. -/
def rejections : Nat := 20000

end Twister

/-- A source of random bytes. -/
inductive Random where
  /-- The bytes of a list in order, over and over; `position` have been drawn. -/
  | cyclic (bytes : Array UInt8) (position : Nat)
  | twister (state : Twister)
deriving DecidableEq, Repr

namespace Random

/-- A source that yields zeros. -/
def zeros : Random := .cyclic #[0] 0

instance : Inhabited Random := ⟨zeros⟩

/-- The source of a seed. -/
def ofSeed (seed : Int) : Random := .twister (Twister.ofSeed seed)

/-- Draws a byte. -/
def next : Random → UInt8 × Random
  | .cyclic bytes k => (bytes.getD (k % bytes.size) 0, .cyclic bytes (k + 1))
  | .twister t =>
    let (b, t) := Twister.nextByte Twister.rejections t
    (b, .twister t)

end Random

end Hexscope
