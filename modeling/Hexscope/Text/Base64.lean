/-!
# Base 64

Four characters of an alphabet of 64 carry three bytes. Characters outside the alphabet are passed
over. The last group may have two or three characters and is then filled up with equals signs, behind
which nothing is read; equals signs elsewhere are passed over too.
-/

namespace Hexscope.Text.Base64

/-- The value of a character of the alphabet. -/
def digit? (c : Char) : Option Nat :=
  if 'A' ≤ c ∧ c ≤ 'Z' then some (c.toNat - 65)
  else if 'a' ≤ c ∧ c ≤ 'z' then some (c.toNat - 71)
  else if c.isDigit then some (c.toNat + 4)
  else if c = '+' then some 62
  else if c = '/' then some 63
  else none

/-- The bytes that a group of digits completes. -/
def groupBytes (group : List Nat) : List UInt8 :=
  let bits := group.foldl (fun n d => n * 64 + d) 0
  match group.length with
  | 2 => [UInt8.ofNat (bits / 16)]
  | 3 => [UInt8.ofNat (bits / 1024), UInt8.ofNat (bits / 4)]
  | 4 => [UInt8.ofNat (bits / 65536), UInt8.ofNat (bits / 256), UInt8.ofNat bits]
  | _ => []

/-- The bytes of a text behind the digits of a group that has been begun, `fill` being the number of
equals signs just read. -/
def decodeFrom (group : List Nat) (fill : Nat) : List Char → Option (List UInt8)
  | [] => if group.isEmpty then some [] else none
  | c :: cs =>
    if c = '=' then
      if group.length < 2 then decodeFrom group fill cs
      else if 4 ≤ group.length + fill + 1 then some (groupBytes group)
      else decodeFrom group (fill + 1) cs
    else
      match digit? c with
      | none => decodeFrom group fill cs
      | some d =>
        if group.length = 3 then (decodeFrom [] 0 cs).map (groupBytes (group ++ [d]) ++ ·)
        else decodeFrom (group ++ [d]) 0 cs

/-- The bytes of a text. -/
def decode? (cs : List Char) : Option (List UInt8) := decodeFrom [] 0 cs

end Hexscope.Text.Base64
