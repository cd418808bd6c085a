import Hexscope.ErrorKind
import Hexscope.Files
import Hexscope.Number

/-!
# Program files

A program is a plain sequence of bytes that must fit into the memory behind the program start. A
file that is missing and a path that leads to a directory count as not found; every other trouble
with a file is an error of reading.
-/

namespace Hexscope

namespace Rom

/-- The size of the program area. -/
def standardLimit : Int := 3584

/-- Why a program is not loaded. -/
inductive Error where
  | notFound (path : Text)
  | isDirectory (path : Text)
  | unreadable (path : Text) (error : FileError)
  | tooLarge (path : Option Text) (size : Nat) (limit : Number)
  | badPath (error : PathError)
deriving DecidableEq, Repr

/-- The text of an error. -/
def Error.message : Error → Text
  | .notFound path => "ROM file not found: " ++ path
  | .isDirectory path => "ROM path is a directory: " ++ path
  | .unreadable path e => "Failed to read ROM file " ++ path ++ ": " ++ e.message path
  | .tooLarge _ size limit => s!"ROM is too large: {size} bytes (limit " ++ limit.text ++ " bytes)"
  | .badPath e => e.message

/-- The kind of an error. -/
def Error.kind : Error → ErrorKind
  | .notFound _ | .isDirectory _ => .romNotFound
  | .unreadable .. => .romRead
  | .tooLarge .. => .romOverflow
  | .badPath e => e.kind

instance : Failure Error := ⟨Error.kind, Error.message⟩

/-- A program must not be larger than the limit. -/
def checkSize (limit : Number) (size : Nat) (path : Option Text) : Except Error Unit :=
  if limit.isBelow size then .error (.tooLarge path size limit) else .ok ()

/-- The error of loading a program from a path that cannot be read. -/
def Error.ofFile (path : Text) : FileError → Error
  | .missing => .notFound path
  | .isDirectory => .isDirectory path
  | e => .unreadable path e

/-- Reads a program from a file. -/
def load (limit : Number) (files : FileNode) (path : Text) : Except Error (List UInt8) := do
  let name ← (FileName.ofText path).mapError .badPath
  let data ← (files.read name).mapError (.ofFile path)
  checkSize limit data.length (some path)
  return data

end Rom

end Hexscope
