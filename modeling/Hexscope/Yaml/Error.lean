import Hexscope.Value.Number

/-!
# Errors of documents

A document is refused if its bytes are no text, if it is malformed, or if a scalar does not have the form
that its tag asks for. Each cause has a kind and a text of its own.
-/

namespace Hexscope.Yaml

/-- Why a document cannot be read. -/
inductive Error where
  /-- The bytes are no text. -/
  | notText
  /-- The text is not a single document, or an element of it has no meaning here. -/
  | malformed
  /-- The text ends inside an element. -/
  | unfinished
  /-- An escape names a code point beyond the last character. -/
  | noCharacter (code : Nat)
  | badInteger (error : Text.Integer.Error)
  | badNumber (error : Value.NumberError)
  /-- A numeral is empty where its sign should be. -/
  | emptyNumeral
  /-- A word is none of the words for truth values. -/
  | notTruth (word : Text)
  /-- A text does not have the form of a date. -/
  | notDate
  /-- A date has the right form, but does not exist. -/
  | noSuchDate (reason : String)
  /-- A collection stands where a date should be written. -/
  | collectionAsDate
deriving DecidableEq, Repr

namespace Error

/-- The kind of an error. -/
def kind : Error → ErrorKind
  | .malformed | .unfinished | .badInteger _ | .noSuchDate _ => .value
  | .noCharacter code => if code < 0x80000000 then .value else .overflow
  | .badNumber e => e.kind
  | .emptyNumeral => .index
  | .notTruth _ => .missing
  | .notDate => .attribute
  | .notText => .encoding
  | .collectionAsDate => .type

/-- The text of an error. -/
def message : Error → Text
  | .notText => "invalid UTF-8"
  | .malformed => "malformed document"
  | .unfinished => "unfinished document"
  | .noCharacter code =>
    if code < 0x80000000 then "chr() arg not in range(0x110000)"
    else "code point too large"
  | .badInteger e => e.message
  | .badNumber e => e.message
  | .emptyNumeral => "string index out of range"
  | .notTruth word => word.quoted
  | .notDate => "no date"
  | .noSuchDate reason => reason
  | .collectionAsDate => "a date is a text"

instance : Failure Error := ⟨kind, message⟩

end Error

end Hexscope.Yaml
