import Hexscope.ErrorKind
import Hexscope.Value

/-!
# Arguments

The operations of a script take their arguments as values of any form, and each operation has an order in
which it finds out what is wrong with them. `Argument.number` asks for a number in any of its forms and
`Argument.index` for one that counts places. A number that no place has is refused in the form in which it
was given; where that refusal would name it in hexadecimal digits, only integers and truth values have
such a name (`Argument.notHexadecimal`).
-/

namespace Hexscope.Argument

/-- The complaint about a value that an operation has no use for. -/
def wrongForm : Complaint := ⟨.type, "argument of a wrong form"⟩

/-- The complaint about a value that is used as text, or as a mapping, and is none. -/
def withoutPart : Complaint := ⟨.attribute, "argument without the part that is asked for"⟩

/-- The complaint about a value that has no hexadecimal digits. The letter tells their case. -/
def notHexadecimal (letter : String) (v : Value) : Complaint :=
  let refused (form : String) : Complaint :=
    ⟨.value, "Unknown format code '" ++ letter ++ "' for object of type '" ++ form ++ "'"⟩
  match v with
  | .float _ => refused "float"
  | .text _ => refused "str"
  | _ => wrongForm

/-- The answer of an operation, of whose error the kind and the text are kept. -/
def answer {ε α : Type} [Failure ε] (r : Except ε α) : Except Complaint α := r.mapError .of

/-- The number that a value is. -/
def number (v : Value) : Except Complaint Number := v.number?.elim (.error wrongForm) .ok

/-- The integer of a number that counts places. -/
def index (x : Number) : Except Complaint Int := x.index?.elim (.error wrongForm) .ok

/-- The integer that a value is. -/
def integer (v : Value) : Except Complaint Int := number v >>= index

/-- The text that a value is. -/
def text : Value → Except Complaint Text
  | .text s => .ok s
  | _ => .error withoutPart

/-- The path that a value is. -/
def path : Value → Except Complaint Text
  | .text s => .ok s
  | _ => .error wrongForm

/-- The number of bytes that a value asks for: an integer is that number, and a list holds the bytes
themselves. -/
def byteCount : Value → Except Complaint Nat
  | .list bytes => do
    for v in bytes do
      let n ← integer v
      if n < 0 ∨ 255 < n then throw ⟨.value, "bytes must be in range(0, 256)"⟩
    return bytes.length
  | .mapping [] => .ok 0
  | v => do
    let n ← integer v
    if n < -0x8000000000000000 ∨ 0x8000000000000000 ≤ n then
      throw ⟨.overflow, "cannot fit 'int' into an index-sized integer"⟩
    if n < 0 then throw ⟨.value, "negative count"⟩
    if 0x10000000000 ≤ n then throw ⟨.memory, ""⟩
    return n.toNat

theorem integer_int (n : Int) : integer (.int n) = .ok n := rfl

theorem integer_bool (b : Bool) : integer (.bool b) = .ok (Number.ofTruth b) := rfl

end Hexscope.Argument
