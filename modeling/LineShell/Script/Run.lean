import LineShell.Script.State
import LineShell.Script.Parser
import LineShell.Script.Tree
import LineShell.Text.Basic

/-!
# Running scripts

The shell of the host carries out a handful of commands itself and starts
programs for the others.  A loop runs for as many rounds as there are bytes of
input, and many more; one that would go on is taken to be at its end.
-/

namespace LineShell.Script

/-- What a script can reach. -/
structure Context where
  host : Host
  flags : Flags
  directory : Location
  /-- The names of the variables that programs receive. -/
  exported : List Text

/-! ## Commands of the shell of the host -/

/-- A number that is small enough. -/
def number? (t : Text) : Option Nat :=
  if t.isEmpty || !t.all Char.isDigit then none
  else
    match (String.ofList t).toNat? with
    | some n => if n ≤ Numeral.statusLimit then some n else none
    | none => none

/-- Ends the script because of what a command was given. -/
def State.misuse (s : State) (line : Nat) (command : String) (text : Text) : State :=
  (s.report line (command.toList ++ ": ".toList ++ text)).finish (.exited 2)

/-- The report of a text that is no number. -/
def illegalNumber (t : Text) : Text := "Illegal number: ".toList ++ t

/-- Leaves the script. -/
def leave (s : State) (line : Nat) : List Text → State
  | [] => s.finish (.exited (s.status % 256))
  | t :: _ =>
    match number? t with
    | some n => s.finish (.exited (n % 256))
    | none => s.misuse line "exit" (illegalNumber t)

/-- The names of signals by their numbers. -/
def signalNames : List (Nat × String) := [
  (1, "HUP"), (2, "INT"), (3, "QUIT"), (4, "ILL"), (5, "TRAP"), (6, "ABRT"),
  (7, "BUS"), (8, "FPE"), (9, "KILL"), (10, "USR1"), (11, "SEGV"), (12, "USR2"),
  (13, "PIPE"), (14, "ALRM"), (15, "TERM"), (16, "STKFLT"), (17, "CHLD"),
  (18, "CONT"), (19, "STOP"), (20, "TSTP"), (21, "TTIN"), (22, "TTOU"),
  (23, "URG"), (24, "XCPU"), (25, "XFSZ"), (26, "VTALRM"), (27, "PROF"),
  (28, "WINCH"), (29, "POLL"), (30, "PWR"), (31, "SYS")]

/-- The signals that do not end a process. -/
def harmlessSignals : List Nat := [0, 17, 18, 19, 20, 21, 22, 23, 28]

/-- Signals have numbers below this. -/
def signalBound : Nat := 65

/-- The signal of a number or a name.  Zero asks whether a process is there. -/
def signal? (t : Text) : Option Nat :=
  match number? t with
  | some n => if n < signalBound then some n else none
  | none => (signalNames.find? fun e => e.2.toList = t.map Char.toUpper).map Prod.fst

/-- Sends a signal.  The script itself is the only process there is. -/
def kill (s : State) (line : Nat) (args : List Text) : State :=
  let (signal, targets, bad) :=
    match args with
    | ('-' :: t) :: rest =>
      match signal? t with
      | some n => (n, rest, none)
      | none => (15, args, t.head?)
    | _ => (15, args, none)
  match bad, targets with
  | some c, _ => s.misuse line "kill" ("Illegal option -".toList ++ [c])
  | none, [] =>
    s.misuse line "kill"
      "Usage: kill [-s sigspec | -signum | -sigspec] [pid | job]... or\nkill -l [exitstatus]".toList
  | none, t :: _ =>
    if t = State.processNumber then
      if harmlessSignals.contains signal then s.answer 0
      else s.finish (.killed signal)
    else
      match number? t with
      | some _ => (s.report line "kill: No such process\n".toList).answer 1
      | none => s.misuse line "kill" (illegalNumber (if t.head? = some '-' then t.tail else t))

/-- Removes blanks on both sides. -/
def trim (t : Text) : Text :=
  ((t.dropWhile divides).reverse.dropWhile divides).reverse

/-- Gives the variables of a line their values: each the next field, and the
last all the rest. -/
def assignFields (divided : Bool) (s : State) (line : Text) : List Text → State
  | [] => s
  | [name] => s.set name (if divided then trim line else line)
  | name :: rest =>
    if divided then
      let line := line.dropWhile divides
      assignFields divided (s.set name (line.takeWhile fun c => !divides c))
        (line.dropWhile fun c => !divides c) rest
    else assignFields divided (s.set name line) [] rest

/-- Reads a line of the input into variables.  Bytes that are zero are left
out; a line that is not complete counts as a failure. -/
def readLine (divided : Bool) (s : State) (names : List Text) : State :=
  let names := names.filter fun n => n.head? ≠ some '-'
  let line := s.input.takeWhile (· ≠ '\n')
  let rest := s.input.drop line.length
  let s := { s with input := rest.tail }
  (assignFields divided s (line.filter (· ≠ '\x00')) names).answer
    (if rest.isEmpty then 1 else 0)

/-! ## Programs -/

/-- Where a program of a name could be. -/
def candidates (s : State) (name : Text) : List String :=
  let n := Text.toString name
  if name.contains '/' then [n]
  else ((Text.toString (s.value "PATH".toList)).splitOn ":").map fun dir => Path.join dir n

/-- The shell that reads a file which names no interpreter. -/
def fileReader : String := "/bin/sh"

/-- Starts a program.  A file that names no interpreter is a script. -/
def launch (ctx : Context) (s : State) (p : Program) : Except SystemFault Completion :=
  match ctx.host p ctx.directory s.files (Text.toBytes s.input) with
  | .error .notExecutable =>
    ctx.host { p with path := fileReader, words := fileReader :: p.path :: p.words.tail }
      ctx.directory s.files (Text.toBytes s.input)
  | r => r

/-- Reports that a program has not been started. -/
def State.refuse (s : State) (line : Nat) (name : Text) (f : SystemFault) : State :=
  let (why, status) := match f with
    | .noEntry | .notDirectory => ("not found", 127)
    | .nameTooLong | .tooManyLinks => (f.description, 127)
    | f => (f.description, 126)
  (s.report line (name ++ ": ".toList ++ why.toList)).answer status

/-- Starts the program of a command and waits for its end. -/
def start (ctx : Context) (s : State) (line : Nat) (exported : List (Text × Text))
    (words : List Text) : State :=
  let name := words.headD []
  match (candidates s name).find? (s.files.isFile ctx.directory) with
  | none => s.refuse line name .noEntry
  | some path =>
    let p : Program :=
      { path
        words := words.map Text.toString
        exported := exported.map fun (n, v) =>
          Text.toString n ++ "=" ++ Text.toString v }
    match launch ctx s p with
    | .error f => s.refuse line name f
    | .ok done =>
      { s with
        input := s.input.drop done.taken
        output := s.output ++ Text.ofBytes done.output
        errors := s.errors ++ Text.ofBytes done.errors
        files := done.files
        status := match done.ending with
          | .exited code => code
          | .killed signal => 128 + signal }

/-! ## Execution -/

/-- Where the streams of a command go. -/
def targets (rs : List Redirection) : Target × Target :=
  rs.foldl (fun (out, err) r =>
    let source := fun n => if n = 1 then out else if n = 2 then err else .nowhere
    match r with
    | .copy 1 n => (source n, err)
    | .copy 2 n => (out, source n)
    | .discard 1 => (.nowhere, err)
    | .discard 2 => (out, .nowhere)
    | _ => (out, err)) (.output, .errors)

/-- Carries out a command with its fields. -/
def perform (ctx : Context) (s : State) (line : Nat) (bindings : List (Text × Text))
    (words : List Text) : State :=
  let args := words.tail
  match String.ofList (words.headD []) with
  | "echo" => { s with output := s.output ++ echo args }.answer 0
  | "printf" => { s with output := s.output ++ print args }.answer 0
  | "read" =>
    let separators := bindings.find? fun b => b.1 = "IFS".toList
    readLine (separators.all fun b => !b.2.isEmpty) s args
  | "exit" => leave s line args
  | "kill" => kill s line args
  | "shift" => { s with arguments := s.arguments.tail }.answer 0
  | "true" => s.answer 0
  | ":" => s.answer 0
  | "false" => s.answer 1
  | _ =>
    let inherited := s.values.filter fun v =>
      ctx.exported.contains v.1 && (bindings.find? fun b => b.1 = v.1).isNone
    start ctx s line (inherited ++ bindings) words

/-- Reports a command that is about to be run. -/
def State.traceCommand (s : State) (bindings : List (Text × Text)) (words : List Text) :
    State :=
  let shown := bindings.map (fun (n, v) => n ++ '=' :: v) ++ words
  { s with errors := s.errors ++ ("+ ".toList ++ [' '].intercalate shown ++ ['\n']) }

/-- Runs a command without parts. -/
def Simple.run (ctx : Context) (c : Simple) (s : State) : State :=
  let words := c.words.flatMap (Word.fields s)
  let bindings := c.bindings.map fun (n, w) => (n, Word.whole s w)
  let s := if ctx.flags.trace then s.traceCommand bindings words else s
  if words.isEmpty then
    (bindings.foldl (fun s (n, v) => s.set n v) s).answer 0
  else
    let (out, err) := targets c.redirections
    let after := perform ctx { s with output := #[], errors := #[] } c.line bindings words
    ({ after with output := s.output, errors := s.errors }.write out after.output).write
      err after.errors

/-- Runs a body again and again. -/
def rounds (test body : State → State) (whileSuccess : Bool) :
    Nat → Nat → State → State
  | 0, last, s => s.answer last
  | n + 1, last, s =>
    let t := test s
    if t.ending.isSome then t
    else if (t.status = 0) = whileSuccess then
      let b := body t
      if b.ending.isSome then b else rounds test body whileSuccess n b.status b
    else t.answer last

/-- How many rounds a loop can have beyond one per byte of input. -/
def spareRounds : Nat := 100000

/-- Ends the script if it stops on failure and its last command has failed.
`tested` says that somebody looks at the status instead. -/
def State.checked (s : State) (ctx : Context) (tested : Bool) : State :=
  if ctx.flags.stopOnFailure && !tested && s.status ≠ 0 then
    s.unlessEnded fun s => s.finish (.exited (s.status % 256))
  else s

/-- Runs a script. -/
def Tree.run (ctx : Context) (tested : Bool) : Tree → State → State
  | .nothing, s => s
  | .simple c, s => s.unlessEnded fun s => (c.run ctx s).checked ctx tested
  | .fault line report, s =>
    s.unlessEnded fun s => (s.report line report).finish (.exited 2)
  | .sequence a b, s => (a.run ctx tested s).unlessEnded (b.run ctx tested)
  | .condition a b onSuccess, s =>
    (a.run ctx true s).unlessEnded fun s =>
      if (s.status = 0) = onSuccess then b.run ctx tested s else s
  | .negation t, s =>
    (t.run ctx true s).unlessEnded fun s => s.answer (if s.status = 0 then 1 else 0)
  | .bar a b, s =>
    s.unlessEnded fun s =>
      let first := a.run ctx tested { s with output := #[] }
      let second := b.run ctx tested { s with
        input := first.output.toList, errors := first.errors, files := first.files }
      { s with
        input := first.input
        output := second.output
        errors := second.errors
        files := second.files
        status := second.exitStatus }.checked ctx tested
  | .each name words body, s =>
    s.unlessEnded fun s =>
      let fields := match words with
        | some ws => ws.flatMap (Word.fields s)
        | none => s.arguments
      fields.foldl (fun s f => s.unlessEnded fun s => body.run ctx tested (s.set name f))
        (s.answer 0)
  | .loop test body whileSuccess, s =>
    s.unlessEnded fun s =>
      rounds (test.run ctx true) (body.run ctx tested) whileSuccess
        (s.input.length + spareRounds) 0 s
  | .branch test yes no, s =>
    (test.run ctx true s).unlessEnded fun s =>
      if s.status = 0 then yes.run ctx tested s else no.run ctx tested (s.answer 0)

/-- What a script does from its beginning to its end. -/
def run (host : Host) (flags : Flags) (script name : Text) (arguments : List Text)
    (exported : List String) (directory : Location) (files : Files)
    (input : Bytes) : Completion :=
  let entries := exported.map fun e =>
    let t := Text.ofString e
    (t.takeWhile (· ≠ '='), (t.dropWhile (· ≠ '=')).tail)
  let start : State :=
    { values := entries.reverse
      name, arguments, files
      input := Text.ofBytes input
      output := #[], errors := #[], status := 0, ending := none }
  let ctx : Context := ⟨host, flags, directory, entries.map Prod.fst⟩
  let s := if flags.idle then start else (Tree.ofText script).run ctx false start
  { taken := input.length - s.input.length
    output := Text.toBytes s.output.toList
    errors := Text.toBytes s.errors.toList
    ending := s.ending.getD (.exited (s.status % 256))
    files := s.files }

end LineShell.Script
