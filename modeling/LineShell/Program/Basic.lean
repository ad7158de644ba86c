import LineShell.Failure
import LineShell.Files.Basic
import LineShell.Pipeline
import LineShell.Token.Machine
import LineShell.Variable.Basic

/-!
# Finding programs

A command names a program.  The shell finds it along a search path and hands
over what the program is to begin with.
-/

namespace LineShell

/-!
## Search paths

A search path lists directories, divided by colons.  A backslash protects the
next character, so a directory may have a colon in its name.  An empty entry
stands for the current directory, and an empty search path has no entries at
all.

A name without a slash is looked up in each directory in turn; any other name
is a path of its own and does not depend on the search path.
-/

namespace SearchPath

/-- Where the reader of a search path stands. -/
inductive State where
  | entry
  /-- Right after a backslash. -/
  | escape
  deriving DecidableEq, Repr

open Control in
/-- A colon ends the entry before it and begins the next. -/
def rule : State → Char → Control State Unit
  | .entry, c =>
    if c = '\\' then push .escape
    else if c = ':' then do
      if ← isOpen then finishToken
      beginToken
    else append (.plain c)
  | .escape, c => do append (.escape c); pop

/-- The grammar of search paths. -/
def grammar : Grammar State := ⟨.entry, rule⟩

/-- The directories of a search path, in order.  A colon on either side makes
every entry begin and end alike. -/
def split (path : String) : Except Misuse (List String) :=
  if path.isEmpty then .ok []
  else
    match grammar.feed 1 (':' :: path.toList ++ [':']) (Scan.start .entry) with
    | some (.ok (), m) => .ok (m.tokens.map Token.render)
    | some (.error e, _) => .error e
    | none => .ok []

/-- The first directory in which a name is a file, as a path. -/
def firstFile (fs : Files) (process : Location) (dir name : String) :
    List String → Option String
  | [] => none
  | entry :: rest =>
    let p := Path.join (Path.join dir entry) name
    if fs.isFile process p then some p
    else firstFile fs process dir name rest

/-- The program of a name, for a command that works in `dir`. -/
def find (fs : Files) (process : Location) (path name dir : String) :
    Except Misuse (Option String) :=
  if name.isEmpty then .ok none
  else if name.contains '/' then
    let p := Path.join dir name
    .ok (if fs.isFile process p then some p else none)
  else
    match split path with
    | .ok entries => .ok (firstFile fs process dir name entries)
    | .error e => .error e

end SearchPath

/-!
## Programs

A program is what a command starts outside of the shell.  The shell finds it,
hands over words and variables, and sees what it writes and how it ends; what
it does meanwhile is the affair of the host, which can be any function.

Whatever can be wrong with the command is found out before anything starts.
-/

/-- A program that has been found, with its words and its variables. -/
structure Program where
  path : String
  words : List String
  exported : List String
  deriving DecidableEq, Repr

/-- The program that a command names.  No text with a NUL character can be
handed over. -/
def Program.resolve (c : Command) (s : Scope) (fs : Files) (process : Location) :
    Except Failure Program :=
  match SearchPath.find fs process (s.value "PATH") c.name
      (s.workingDirectory process.render) with
  | .error m => .error (.reader m)
  | .ok none => .error (.commandNotFound c.name)
  | .ok (some path) =>
    match (path :: c.words ++ s.exported).find? fun t => t.contains '\x00' with
    | some text => .error (.argument (.nul text))
    | none => .ok ⟨path, c.words, s.exported⟩

/-- How a child ends. -/
inductive Ending where
  /-- By itself, with a code below 256. -/
  | exited (code : Nat)
  | killed (signal : Nat)
  deriving DecidableEq, Repr

namespace Ending

/-- The end of a child that leaves with a status.  Eight bits of it remain. -/
def ofStatus (s : Status) : Ending := .exited (s % 256).toNat

/-- The signals that the shell can name are numbered up to this. -/
def signalLimit : Nat := 31

/-- The status of a child: its code, or the number of the signal that killed
it, and 128. -/
def status : Ending → Except SystemFault Status
  | .exited code => .ok code
  | .killed signal =>
    if signal ≤ signalLimit then .ok (128 + signal) else .error .invalidArgument

end Ending

/-- What a child has done when it has ended. -/
structure Completion where
  /-- How many bytes of its input it has read. -/
  taken : Nat
  output : Bytes
  errors : Bytes
  ending : Ending
  /-- The files as it leaves them. -/
  files : Files

/-- What becomes of a program that is started in a directory, with an input.
It may be refused. -/
abbrev Host := Program → Location → Files → Bytes → Except SystemFault Completion

end LineShell
