import Hexscope.ErrorKind
import Hexscope.Text.SystemName

/-!
# Files

A tree of files and directories as a program finds it in its working directory. Names are bytes. A path is
resolved component by component: empty components and single dots stay where they are, two dots lead to the
directory above, and anything behind a file fails, also a slash at the end. A path that begins with a slash
leads to the few files that every system has.
-/

namespace Hexscope

/-- The name of a file, or a path. -/
abbrev FileName := List UInt8

/-- A file with its content, or a directory. Directories list their entries by name. -/
inductive FileNode where
  | file (content : List UInt8)
  | directory (entries : List (FileName × FileNode))

/-- Why a text is no path. -/
inductive PathError where
  | nullByte
  | unencodable (error : Text.Unencodable)
deriving DecidableEq, Repr

namespace PathError

/-- The text of an error. -/
def message : PathError → String
  | .nullByte => "embedded null byte"
  | .unencodable e => e.message

/-- The kind of an error. -/
def kind : PathError → ErrorKind
  | .nullByte => .value
  | .unencodable _ => .unencodable

end PathError

/-- Why a file cannot be read. -/
inductive FileError where
  | missing
  | notDirectory
  | isDirectory
  | nameTooLong
deriving DecidableEq, Repr

namespace FileError

/-- The number that the system gives an error. -/
def number : FileError → Nat
  | .missing => 2
  | .notDirectory => 20
  | .isDirectory => 21
  | .nameTooLong => 36

/-- What the system says about an error. -/
def reason : FileError → String
  | .missing => "No such file or directory"
  | .notDirectory => "Not a directory"
  | .isDirectory => "Is a directory"
  | .nameTooLong => "File name too long"

/-- The text of an error that concerns a path. -/
def message (e : FileError) (path : Text) : String :=
  s!"[Errno {e.number}] " ++ e.reason ++ ": " ++ path.quoted

end FileError

namespace FileName

/-- The name that a string is written as. -/
def ofString (s : String) : FileName := s.toUTF8.toList

/-- The path of a text. -/
def ofText (s : Text) : Except PathError FileName := do
  let path ← s.systemBytes.mapError .unencodable
  if path.contains 0 then throw .nullByte
  return path

/-- The byte that parts the components of a path. -/
def slash : UInt8 := 47

/-- The components of a path. -/
def components (path : FileName) : List FileName := path.splitOn slash

/-- The name of the directory itself. -/
def here : FileName := ofString "."

/-- The name of the directory above. -/
def above : FileName := ofString ".."

/-- Whether a component stays where it is. -/
def stays (name : FileName) : Bool := name.isEmpty || name = here

end FileName

namespace FileNode

/-- An empty directory. -/
def empty : FileNode := .directory []

instance : Inhabited FileNode := ⟨empty⟩

/-- Puts a node at a path below a node, and makes the directories on the way. -/
def insertAt (node : FileNode) : (components : List FileName) → FileNode → FileNode
  | [], _ => node
  | name :: path, tree =>
    let entries := match tree with
      | .directory es => es
      | .file _ => []
    let below := ((entries.find? (·.1 = name)).map (·.2)).getD empty
    .directory ((entries.filter (·.1 ≠ name)) ++ [(name, insertAt node path below)])

/-- Puts a node at a path below a node, and makes the directories on the way. Components that stay where
they are do not count. -/
def insert (node : FileNode) (path : FileName) (tree : FileNode) : FileNode :=
  insertAt node (path.components.filter (!·.stays)) tree

/-- The root of every system, with the file that is always empty. -/
def root : FileNode :=
  ["etc", "home", "tmp", "usr"].foldl (fun tree name => insert empty (.ofString name) tree)
    (insert (.file []) (.ofString "dev/null") empty)

/-- The longest name of a directory entry, in bytes. -/
def maxName : Nat := 255

/-- Follows the components of a path. `above` holds the directories on the way, nearest first. -/
def walk (above : List FileNode) : (path : List FileName) → FileNode → Except FileError FileNode
  | [], node => .ok node
  | name :: path, node =>
    match node with
    | .file _ => .error .notDirectory
    | .directory entries =>
      if name.stays then walk above path node
      else if name = FileName.above then
        match above with
        | [] => walk [] path node
        | parent :: rest => walk rest path parent
      else if maxName < name.length then .error .nameTooLong
      else
        match entries.find? (·.1 = name) with
        | some e => walk (node :: above) path e.2
        | none => .error .missing

/-- The longest path, in bytes. -/
def maxPath : Nat := 4095

/-- The content of the file at a path below a directory. The directory has another one above it, of which
no files are known. -/
def read (tree : FileNode) (path : FileName) : Except FileError (List UInt8) := do
  if path.isEmpty then throw .missing
  if maxPath < path.length then throw .nameTooLong
  let node ← if path.head? = some FileName.slash then walk [] path.components root
    else walk [empty] path.components tree
  match node with
  | .file content => return content
  | .directory _ => throw .isDirectory

end FileNode

end Hexscope
