import Hexscope.Binary64.Numeral
import Hexscope.ErrorKind
import Hexscope.Value

/-!
# Numbers from values

A floating point number can be made of a number, of a truth value, which counts as one or zero, and
of a numeral in text.
-/

namespace Hexscope

namespace Value

/-- Why a value does not give a number. -/
inductive NumberError where
  /-- The text is no numeral. -/
  | notNumeral (s : Text)
  /-- The integer lies beyond every floating point number. -/
  | tooLarge
  /-- Values of this kind stand for no number. -/
  | notNumber
deriving DecidableEq, Repr

/-- The text of an error. -/
def NumberError.message : NumberError → Text
  | .notNumeral s => "could not convert string to float: " ++ Text.quoted s
  | .tooLarge => "int too large to convert to float"
  | .notNumber => "a number is needed"

/-- The kind of an error. -/
def NumberError.kind : NumberError → ErrorKind
  | .notNumeral _ => .value
  | .tooLarge => .overflow
  | .notNumber => .type

instance : Failure NumberError := ⟨NumberError.kind, NumberError.message⟩

/-- The floating point number that a value gives. -/
def toNumber : Value → Except NumberError Binary64
  | .bool b => .ok (if b then .ofNat 1 else .zero)
  | .int n => (Binary64.ofInt? n).elim (.error .tooLarge) .ok
  | .float x => .ok x
  | .text s => (Binary64.ofText? s).elim (.error (.notNumeral s)) .ok
  | _ => .error .notNumber

end Value

end Hexscope
