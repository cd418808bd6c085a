import Hexscope.Config

/-!
# Configuration files

A configuration file holds one document, whose root is the mapping of a configuration. A file
without content stands for the configuration that sets nothing. What the bytes of a document mean is a matter of
its reader.
-/

namespace Hexscope.Config

/-- Why a reader gives no value. -/
inductive DocumentError where
  /-- The bytes are no document. -/
  | malformed
  /-- Something goes wrong that is not about documents. -/
  | other (complaint : Complaint)
deriving DecidableEq, Repr

/-- A reader of documents. -/
abbrev Reader : Type := List UInt8 → Except DocumentError Value

/-- The error of a configuration whose document cannot be read. -/
def Error.ofDocument (path : Text) : DocumentError → Error
  | .malformed => .invalidYaml path
  | .other complaint => .badContent complaint

/-- Reads the configuration of a document. What counts as nothing stands for the empty mapping. -/
def ofDocument (read : Reader) (host : Host) (path : Text) (bytes : List UInt8) : Except Error Config := do
  let v ← (read bytes).mapError (.ofDocument path)
  ofValue host (if v.isTruthy then v else .mapping [])

/-- Reads a configuration from a file. -/
def ofFile (read : Reader) (host : Host) (files : FileNode) (path : Text) : Except Error Config := do
  let name ← (FileName.ofText path).mapError .badPath
  let bytes ← (files.read name).mapError (.unreadable path)
  ofDocument read host path bytes

end Hexscope.Config
