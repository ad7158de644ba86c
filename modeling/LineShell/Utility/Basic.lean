import LineShell.Failure
import LineShell.Files.Basic
import LineShell.Options.Basic
import LineShell.Stream.Basic
import LineShell.Variable.Basic

/-!
# The setting of a utility

A utility is a command that the shell carries out itself.  It sees the
variables in its scope, the files and the directory of its process; it reads a
source and writes to a sink, and its complaints go to a stream of their own.
Whether it runs inside the shell or in a child makes no difference to it.
-/

namespace LineShell

/-- Everything that a utility can see or change. -/
structure Stage where
  scope : Scope
  files : Files
  /-- The directory of the process. -/
  directory : Location
  input : Source
  /-- How many bytes of its input it has read. -/
  taken : Nat
  output : Sink
  /-- What has been written to the stream of complaints. -/
  errors : Record

namespace Stage

/-- Writes to the output. -/
def write (st : Stage) (bs : Bytes) : Except Fault Unit × Stage :=
  match st.output.write bs with
  | (r, out) => (r, { st with output := out })

/-- Writes a line to the output. -/
def writeLine (st : Stage) (s : String) : Except Fault Unit × Stage :=
  st.write (bytesOf s ++ bytesOf "\n")

/-- Adds text to the complaints. -/
def complain (st : Stage) (text : String) : Stage :=
  { st with errors := st.errors.add (bytesOf text) }

/-- Reads so many bytes of the input. -/
def advance (st : Stage) (n : Nat) : Stage :=
  { st with input := st.input.advance n, taken := st.taken + n }

/-- Reads the input to its end. -/
def drain (st : Stage) : Stage := st.advance st.input.bytes.length

/-- Copies the input to the output. -/
def copyInput (st : Stage) : Except Fault Unit × Stage :=
  match st.output.copy st.input with
  | (r, out) => (r, { st.drain with output := out })

/-- Everything that the input yields. -/
def readInput (st : Stage) : Except Fault Bytes × Stage :=
  (st.input.readAll, st.drain)

/-- The directory that relative names start from. -/
def workingDirectory (st : Stage) : String :=
  st.scope.workingDirectory st.directory.render

/-- The path of a name. -/
def path (st : Stage) (name : String) : String :=
  Path.join st.workingDirectory name

/-- Opens the file of a name. -/
def openFile (st : Stage) (name : String) : Except Fault Node :=
  st.files.find st.directory (st.path name)

end Stage

/-- Why a utility gave up. -/
inductive Complaint where
  | stream (f : Fault)
  /-- A file could not be used. -/
  | file (utility name : String) (f : Fault)
  /-- A directory could not be listed. -/
  | list (path : String) (f : Fault)
  /-- There is no directory to go to. -/
  | noTarget
  /-- A directory to go to has no location. -/
  | noLocation (path : String) (f : Fault)
  /-- A location cannot be gone to. -/
  | noDirectory (path : String) (f : Fault)
  /-- A pattern has no meaning. -/
  | pattern (text why : String)
  deriving DecidableEq, Repr

/-- The report of a complaint. -/
def Complaint.message : Complaint → String
  | .stream f => f.message
  | .file utility name f => utility ++ ": " ++ name ++ ": " ++ f.message
  | .list path f => "ls: cannot access " ++ path ++ ": " ++ f.message
  | .noTarget => "cd: no target and HOME not set"
  | .noLocation path f => "cd: can't canonicalize " ++ path ++ ": " ++ f.message
  | .noDirectory path f => "cd: can't chdir to " ++ path ++ ": " ++ f.message
  | .pattern text why => "grep: invalid regex pattern: " ++ text ++ ": " ++ why

/-- What a utility comes to, and the stage it leaves. -/
abbrev Outcome (α : Type) := Except Complaint α × Stage

end LineShell
