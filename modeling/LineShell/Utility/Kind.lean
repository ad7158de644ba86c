import LineShell.Utility.Content
import LineShell.Utility.Directory
import LineShell.Utility.Grep

/-!
# The utilities of the shell

A utility is found by its name and reads its arguments by its form.  Help goes
to the output; faults in the arguments and complaints go to the stream of
complaints and become a status.  Only an output that cannot be written to or
flushed is a failure.
-/

namespace LineShell

/-- A utility. -/
inductive Utility.Kind where
  | echo | cat | pwd | wc | grep | ls | cd
  deriving DecidableEq, Repr

/-- Where a command runs. -/
inductive Placement where
  /-- In a child of the shell. -/
  | detached
  /-- In the shell itself. -/
  | inProcess
  deriving DecidableEq, Repr

namespace Utility.Kind

/-- All utilities. -/
def all : List Kind := [.echo, .cat, .pwd, .wc, .grep, .ls, .cd]

/-- The name of a utility. -/
def name : Kind → String
  | .echo => "echo"
  | .cat => "cat"
  | .pwd => "pwd"
  | .wc => "wc"
  | .grep => "grep"
  | .ls => "ls"
  | .cd => "cd"

/-- The utility of a name. -/
def ofName? (s : String) : Option Kind := all.find? fun k => k.name == s

/-- Utilities that read their input to the end run in a child; `cd` has to run
in the shell, so that it moves the shell. -/
def placement : Kind → Placement
  | .cat | .wc | .grep => .detached
  | .echo | .pwd | .ls | .cd => .inProcess

/-- What a utility accepts. -/
def form : Kind → Options.Form
  | .echo => Echo.form
  | .cat => Cat.form
  | .pwd => Pwd.form
  | .wc => Wc.form
  | .grep => Grep.form
  | .ls => Ls.form
  | .cd => Cd.form

/-- Whether every argument is an operand, whatever it looks like. -/
def operandsOnly : Kind → Bool
  | .cat | .wc => true
  | _ => false

/-- What a utility does. -/
def body : Kind → Options.Choice → Stage → Outcome Status
  | .echo => Echo.body
  | .cat => Cat.body
  | .pwd => Pwd.body
  | .wc => Wc.body
  | .grep => Grep.body
  | .ls => Ls.body
  | .cd => Cd.body

/-- Reads the arguments of a utility. -/
def parse (k : Kind) (args : List String) : Except Options.Fault Options.Request :=
  k.form.parse (if k.operandsOnly then "--" :: args else args)

/-- Runs a utility on its name and arguments. -/
def run (k : Kind) (argv : List String) (st : Stage) :
    Except Fault Status × Stage :=
  match k.parse argv.tail with
  | .error e => (.ok 2, st.complain e.message)
  | .ok .help =>
    match st.write (bytesOf (k.form.help k.name)) with
    | (.ok (), st) => (.ok 0, st)
    | (.error f, st) => (.error f, st)
  | .ok (.run c) =>
    let (status, st) :=
      match k.body c st with
      | (.ok status, st) => (status, st)
      | (.error e, st) => (1, st.complain (e.message ++ "\n"))
    match st.output.flush with
    | .ok () => (.ok status, st)
    | .error f => (.error f, st)

end Utility.Kind

end LineShell
