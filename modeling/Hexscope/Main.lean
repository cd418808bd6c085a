import Hexscope.Session
import Hexscope.Yaml

/-!
# The program

Runs a session from the command line without a display, and prints what its window would show at the
end.
-/

namespace Hexscope.Program

open CommandLine (Arguments)

/-- Reads a file into a tree of known files. The answer has the path at which the tree knows it; a
file that cannot be read stays unknown under its own path. -/
def fetch (known : FileNode) (path : Text) : IO (FileNode × Text) :=
  try
    let content ← IO.FS.readBinFile path.display
    let aside : List Text := ["", ".", ".."]
    let path := Text.join "/" ((path.splitOn '/').filter (!aside.contains ·))
    match FileName.ofText path with
    | .ok name => return (FileNode.insert (.file content.toList) name known, path)
    | .error _ => return (known, path)
  catch _ => return (known, path)

/-- Reads the files that the command line names. -/
def gather (a : Arguments) : IO (FileNode × Arguments) := do
  let mut files := FileNode.empty
  let mut a := a
  if let some (.text path) := a.config then
    let (tree, path) ← fetch files path
    files := tree
    a := { a with config := some (.text path) }
  if let some path := a.rom then
    let (tree, path) ← fetch files path
    files := tree
    a := { a with rom := some path }
  return (files, a)

/-- Runs a session and prints its report. The answer is the exit code. -/
def run (a : Arguments) : IO UInt32 := do
  let (files, a) ← gather a
  let host := Config.Host.ofHome (.ofString ((← IO.getEnv "HOME").getD "/"))
  match Session.run Yaml.reader host .bare files a with
  | .ok w =>
    (Session.report w).forM IO.println
    return 0
  | .error (.config e) =>
    IO.eprintln e.message.display
    return (if e.kind = .config then UInt32.ofNat Session.badConfigCode else 1)
  | .error e =>
    IO.eprintln e.message.display
    return 1

end Hexscope.Program

/-- Runs the program with the words of its command line. -/
def main (words : List String) : IO UInt32 :=
  match Hexscope.CommandLine.parse (words.map .ofString) with
  | .ok a => Hexscope.Program.run a
  | .error r => return UInt32.ofNat r.code
