import LineShell.Utility.Basic

/-!
# Moving between directories, naming and listing them

Moving is all or nothing: the target must have a location and the location
must be a directory, or else nothing changes.  A listing is sorted by the code
points of the names.
-/

namespace LineShell.Utility

namespace Pwd

def form : Options.Form where
  about := "Print the current working directory to standard output."
  flags := []
  operands := []

/-- Prints the working directory. -/
def body (_ : Options.Choice) (st : Stage) : Outcome Status :=
  match st.writeLine st.workingDirectory with
  | (.ok (), st) => (.ok 0, st)
  | (.error f, st) => (.error (.stream f), st)

end Pwd

namespace Cd

def form : Options.Form where
  about := "Change the current working directory. If no target is provided, " ++
    "changes to the directory specified by the HOME environment variable."
  flags := []
  operands := [⟨"target", .optional, "directory to switch to; absolute or " ++
    "relative to the current directory. Defaults to $HOME when omitted."⟩]

/-- Where to go: the operand, or else the home directory. -/
def target? (c : Options.Choice) (st : Stage) : Option String :=
  let given := c.operands.headD ""
  if given.isEmpty then
    match st.scope.get? "HOME" with
    | some home => if home.isEmpty then none else some home
    | none => none
  else some given

/-- Goes to a directory and records where it is. -/
def body (c : Options.Choice) (st : Stage) : Outcome Status :=
  match target? c st with
  | none => (.error .noTarget, st)
  | some target =>
    let path := st.path target
    match st.files.resolve st.directory path with
    | .error f => (.error (.noLocation path f), st)
    | .ok l =>
      match st.files.directoryAt st.directory l.render with
      | .error f => (.error (.noDirectory l.render f), st)
      | .ok here =>
        (.ok 0, { st with
          directory := here
          scope := st.scope.changeDirectory l.render })

end Cd

namespace Ls

def form : Options.Form where
  about := "list directory contents, one entry per line"
  flags := [⟨"all", some 'a', .none, "do not ignore entries starting with `.`"⟩]
  operands := [⟨"dirs", .rest,
    "directories to list; defaults to the current directory"⟩]

/-- The names to show, in order. -/
def visible (all : Bool) (names : List String) : List String :=
  (names.filter fun n => all || !n.startsWith ".").mergeSort fun a b => a ≤ b

/-- Lists one directory. -/
def one (all : Bool) (path : String) (st : Stage) : Outcome Unit :=
  match st.files.list st.directory path with
  | .error f => (.error (.list path f), st)
  | .ok names =>
    match st.write (bytesOf (String.join ((visible all names).map (· ++ "\n")))) with
    | (.ok (), st) => (.ok (), st)
    | (.error f, st) => (.error (.stream f), st)

/-- Lists directories under their names.  `lead` divides one from the one
before. -/
def several (all : Bool) (lead : String) : List String → Stage → Outcome Status
  | [], st => (.ok 0, st)
  | dir :: rest, st =>
    match st.write (bytesOf (lead ++ dir ++ ":\n")) with
    | (.error f, st) => (.error (.stream f), st)
    | (.ok (), st) =>
      match one all (st.path dir) st with
      | (.error e, st) => (.error e, st)
      | (.ok (), st) => several all "\n" rest st

/-- Lists directories, a single one without its name. -/
def body (c : Options.Choice) (st : Stage) : Outcome Status :=
  let all := c.has "all"
  match c.operands with
  | [] =>
    match one all st.workingDirectory st with
    | (.ok (), st) => (.ok 0, st)
    | (.error e, st) => (.error e, st)
  | [dir] =>
    match one all (st.path dir) st with
    | (.ok (), st) => (.ok 0, st)
    | (.error e, st) => (.error e, st)
  | dirs => several all "" dirs st

end Ls

end LineShell.Utility
