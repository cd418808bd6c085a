import Hexscope.Text

/-!
# Kinds of errors

The kinds of errors that the machine reports and the kinds that each of them is a case of. An error
of loading a program that is missing is also an error of a missing file, and so on; a caller that
handles a kind handles all its cases. `Failure` is the class of the types of errors that have a kind,
and `Complaint` is an error of which nothing but its kind and its text is known.
-/

namespace Hexscope

/-- The kinds, from the most general of each family on. -/
inductive ErrorKind where
  /-- Any error of the machine. -/
  | machine
  | romLoad
  | romNotFound
  | romOverflow
  | romRead
  | execution
  | invalidOpcode
  | stackOverflow
  | stackUnderflow
  | memoryAccess
  | config
  /-- A value out of its range. -/
  | value
  /-- A place that does not exist. -/
  | index
  /-- A name that does not exist. -/
  | missing
  /-- An error of the operating system. -/
  | system
  | fileNotFound
  | type
  | attribute
  | overflow
  | memory
  /-- Bytes that are no text. -/
  | encoding
  /-- A text that has no bytes. -/
  | unencodable
  | misuse
  /-- Too many steps inside each other. -/
  | recursion
deriving DecidableEq, Repr

/-- Errors that a caller tells apart by their kinds and shows by their texts. -/
class Failure (ε : Type) where
  kind : ε → ErrorKind
  message : ε → Text

/-- An error of which only its kind and its text are known. -/
structure Complaint where
  kind : ErrorKind
  message : Text
deriving DecidableEq, Repr

instance : Failure Complaint := ⟨Complaint.kind, Complaint.message⟩

/-- Forgets all but the kind and the text of an error. -/
def Complaint.of {ε : Type} [Failure ε] (e : ε) : Complaint := ⟨Failure.kind e, Failure.message e⟩

/-- What has a result in the end has one on the way. -/
theorem exists_of_bind_eq_ok {ε α β : Type} {x : Except ε α} {f : α → Except ε β} {r : β}
    (h : x >>= f = .ok r) : ∃ a, x = .ok a ∧ f a = .ok r := by
  cases x with
  | error e => cases h
  | ok a => exact ⟨a, rfl, h⟩

namespace ErrorKind

/-- All kinds. -/
def all : List ErrorKind :=
  [.machine, .romLoad, .romNotFound, .romOverflow, .romRead, .execution, .invalidOpcode,
   .stackOverflow, .stackUnderflow, .memoryAccess, .config, .value, .index, .missing, .system,
   .fileNotFound, .type, .attribute, .overflow, .memory, .encoding, .unencodable, .misuse,
   .recursion]

theorem mem_all (k : ErrorKind) : k ∈ all := by cases k <;> decide

/-- The kinds that a kind is directly a case of. -/
def parents : ErrorKind → List ErrorKind
  | .romLoad | .execution => [.machine]
  | .romNotFound => [.romLoad, .fileNotFound]
  | .romOverflow => [.romLoad, .value]
  | .romRead => [.romLoad, .system]
  | .invalidOpcode | .stackOverflow | .stackUnderflow => [.execution]
  | .memoryAccess => [.execution, .index]
  | .config => [.machine, .value]
  | .fileNotFound => [.system]
  | .encoding | .unencodable => [.value]
  | .recursion => [.misuse]
  | .machine | .value | .index | .missing | .system | .type | .attribute | .overflow
  | .memory | .misuse => []

/-- The number of steps from a kind to the most general one. -/
def depth : ErrorKind → Nat
  | .romNotFound => 2
  | .romLoad | .execution | .fileNotFound | .encoding | .unencodable | .recursion => 1
  | .romOverflow | .romRead | .invalidOpcode | .stackOverflow | .stackUnderflow
  | .memoryAccess => 2
  | .config => 1
  | .machine | .value | .index | .missing | .system | .type | .attribute | .overflow
  | .memory | .misuse => 0

theorem depth_lt_of_mem_parents {k p : ErrorKind} (h : p ∈ k.parents) : p.depth < k.depth := by
  have all_lt : ∀ k ∈ all, ∀ p ∈ k.parents, p.depth < k.depth := by decide
  exact all_lt k (mem_all k) p h

/-- A kind and all kinds that it is a case of. -/
def ancestors (k : ErrorKind) : List ErrorKind :=
  k :: k.parents.attach.flatMap fun p =>
    have := depth_lt_of_mem_parents p.2
    ancestors p.1
termination_by k.depth

/-- Whether an error of one kind is a case of another. -/
def isA (k general : ErrorKind) : Bool := k.ancestors.contains general

/-- What errors of a kind tell besides their text. Where there is more to tell, the text may not be
missing. -/
def details (k : ErrorKind) : List String :=
  if k = .romOverflow then ["path", "size", "limit"]
  else if k.isA .romLoad then ["path"]
  else if k.isA .execution then ["pc", "opcode"]
  else []

/-- Whether an error of a kind can be made of some parts. -/
def allows (k : ErrorKind) (parts : List String) : Bool :=
  parts.all (("message" :: k.details).contains ·) &&
    (k.details.isEmpty || parts.contains "message")

end ErrorKind

end Hexscope
