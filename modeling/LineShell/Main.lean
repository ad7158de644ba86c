import LineShell.CommandLine
import LineShell.Program.Host
import LineShell.Variable.Basic

/-!
# The command line

The outer layer.  It gathers what a process is born with (arguments,
variables, a working directory, an input and the files below that directory),
hands all of it over, and writes what comes back.  It decides nothing, and it keeps no
log.
-/

namespace LineShell.Main

/-- How many directories deep files are looked for. -/
def depthLimit : Nat := 8

/-- The bytes that a file holds, as the shell takes them. -/
def bytes (content : ByteArray) : Bytes := content.data.toList

/-- The node of a file by its bytes: it may be executed if it names an
interpreter. -/
def fileNode (content : Bytes) : Node :=
  .file content (Interpreter.ofFile? content).isSome

/-- The files and directories below a directory.  What cannot be read is left
out. -/
def snapshot : Nat → String → IO Node
  | 0, _ => return .directory []
  | depth + 1, dir => do
    let entries ← try (← IO.FS.realPath dir).readDir catch _ => pure #[]
    let mut found : Array (String × Node) := #[]
    for e in entries do
      let path := Path.join dir e.fileName
      try
        match (← e.path.metadata).type with
        | .dir => found := found.push (e.fileName, ← snapshot depth path)
        | .file =>
          found := found.push (e.fileName, fileNode (bytes (← IO.FS.readBinFile path)))
        | _ => pure ()
      catch _ => pure ()
    return .directory found.toList

/-- The variables that the process was born with. -/
def environment : IO (List Bytes) := do
  try
    let all := bytes (← IO.FS.readBinFile "/proc/self/environ")
    return all.splitOn 0
  catch _ => return []

/-- Runs the shell on the state of its process. -/
def run (args : List String) : IO CommandLine.Result := do
  let name := ((← IO.appPath).fileName).getD "lineshell"
  let dir := toString (← IO.FS.realPath (← IO.currentDir))
  let location := Path.steps dir
  let tree ← snapshot depthLimit dir
  let entries ← environment
  let world : World :=
    { vars := .ofProcess entries dir
      directory := location
      files := ⟨tree.place location Host.bare.root⟩
      unread := bytes (← (← IO.getStdin).readBinToEnd)
      errors := .empty }
  return CommandLine.run Host.standard Log.Filters.levels ⟨name, args, entries⟩ world

end LineShell.Main

/-- Runs the shell and leaves with its status. -/
def main (args : List String) : IO UInt32 := do
  let r ← LineShell.Main.run args
  (← IO.getStdout).write ⟨r.output.toArray⟩
  (← IO.getStderr).write ⟨r.errors.toArray⟩
  return r.status.toUInt32
