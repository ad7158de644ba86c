import LineShell.Child
import LineShell.Text.Basic

/-!
# Running commands and pipelines

A command is handled by the shell, by a utility or by a program of the host, and
a pipeline runs its commands one behind the other.
-/

namespace LineShell

/-!
## Running commands

The name of a command decides who handles it: nobody where there are bindings
only, the shell itself for `exit` and for utilities, the host for every other
name.  Only a command of bindings and a move to another directory change
variables of the shell.

Leaving the shell ends a command without a status, as a failure does.
-/

/-- Who handles a command. -/
inductive Handler where
  | assignment
  | exit
  | utility (k : Utility.Kind)
  | program
  deriving DecidableEq, Repr

/-- Who handles the commands of a name. -/
def Handler.ofName (name : String) : Handler :=
  if name = "" then .assignment
  else if name = "exit" then .exit
  else
    match Utility.Kind.ofName? name with
    | some k => .utility k
    | none => .program

namespace Command

/-- The status with which to leave the shell: none given is zero. -/
def exitStatus : List String → Except BadArgument Status
  | [] => .ok 0
  | [code] =>
    match Numeral.integer Numeral.statusLimit code with
    | .ok n => .ok n
    | .error _ => .error (.status code)
  | _ => .error .statusCount

/-- Gives the variables of the shell the values of the bindings. -/
def assign (c : Command) (s : Surroundings) : Surroundings :=
  { s with world := { s.world with
      vars := s.world.vars.bindAll c.bindings } }

/-- Carries out a utility inside the shell. -/
def runInProcess (k : Utility.Kind) (c : Command) (s : Surroundings) :
    Except Failure Status × Surroundings :=
  let (result, st) := k.run c.words (s.stage c.bindings)
  (result.mapError Failure.stream, s.leave st)

/-- Runs a command. -/
def run (host : Host) (c : Command) (s : Surroundings) :
    Except Failure Status × Surroundings :=
  match Handler.ofName c.name with
  | .assignment => (.ok 0, c.assign s)
  | .exit =>
    match exitStatus c.args with
    | .ok code => (.error (.exit code), s)
    | .error a => (.error (.argument a), s)
  | .utility k =>
    match k.placement with
    | .inProcess => c.runInProcess k s
    | .detached => Child.run host (.utility k) c s
  | .program =>
    match Program.resolve c (s.scope c.bindings) s.world.files s.world.directory with
    | .error e => (.error e, s)
    | .ok p => Child.run host (.program p) c s

theorem unread_run_suffix (host : Host) (c : Command) (s : Surroundings) :
    (c.run host s).2.world.unread <:+ s.world.unread := by
  unfold run
  split
  · exact List.suffix_refl _
  · split <;> exact List.suffix_refl _
  · split
    · exact s.unread_leave_suffix _
    · exact Child.unread_run_suffix ..
  · split
    · exact List.suffix_refl _
    · exact Child.unread_run_suffix ..

end Command

/-!
## Running pipelines

Commands run one after the other.  The first reads the input of the pipeline
and the last writes to its output; in between, each command reads all that the
one before it has written.  The status is that of the last command, and the
first failure ends the pipeline.
-/

namespace Pipeline

/-- Runs a pipeline. -/
def run (host : Host) : Pipeline → Surroundings →
    Except Failure Status × Surroundings
  | [], s => (.ok 0, s)
  | [c], s => c.run host s
  | c :: rest, s =>
    match c.run host { s with output := .memory } with
    | (.error e, s') => (.error e, { s' with output := s.output })
    | (.ok _, s') =>
      run host rest
        { s' with input := .ofBytes s'.output.written, output := s.output }

theorem unread_run_suffix (host : Host) (p : Pipeline) (s : Surroundings) :
    (p.run host s).2.world.unread <:+ s.world.unread := by
  fun_induction run host p s with
  | case1 => exact List.suffix_refl _
  | case2 c s => exact c.unread_run_suffix host s
  | case3 c rest s _ e s' h =>
    have := c.unread_run_suffix host { s with output := .memory }
    rwa [h] at this
  | case4 c rest s _ n s' h ih =>
    have := c.unread_run_suffix host { s with output := .memory }
    rw [h] at this
    exact ih.trans this

end Pipeline

end LineShell
