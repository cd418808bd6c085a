import Hexscope.Config.File
import Hexscope.Yaml.Blocks
import Hexscope.Yaml.Meaning

/-!
# Documents as values

`Yaml.read` turns the bytes of a document into the value that it stands for. The text is divided into
tokens, these are read as nodes, and the nodes are given their meaning. `Yaml.reader` is the reader of the
program for configuration files; what is said of these files elsewhere holds with any reader.
-/

namespace Hexscope.Yaml

/-- The value of the document in a file. A file without a document is nothing. -/
def read (bytes : List UInt8) : Except Error Value := do
  let (cs, behind) := Blocks.known bytes
  let (tokens, failure) := Token.ofText cs behind
  match ← Document.ofTokens? tokens failure with
  | some d => Meaning.ofDocument d
  | none => return .null

/-- The reader of documents in this language. -/
def reader : Config.Reader := fun bytes =>
  (read bytes).mapError fun
    | .malformed | .unfinished => .malformed
    | e => .other (.of e)

end Hexscope.Yaml
