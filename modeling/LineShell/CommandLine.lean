import LineShell.Options.Basic
import LineShell.Session.Loop

/-!
# The shell as a program

A shell is started under a name, with arguments and with variables.  Its
arguments decide what it runs; they and its variables decide whether it asks for
lines and how much it logs.
-/

namespace LineShell

/-!
## Settings

What the arguments of the shell itself decide.  Lines are kept only for whoever
types them and wants them back, so nothing below depends on `history`.
-/

/-- The settings of a shell. -/
structure Settings where
  /-- What is printed before a command is read. -/
  prompt : String
  /-- What is printed before a line that goes on with a command. -/
  continuation : String
  /-- Which events are logged. -/
  log : String
  /-- Whether lines are kept for later recall. -/
  history : Bool
  /-- The one line to run, if there is one. -/
  command : Option String
  deriving DecidableEq, Repr

namespace Settings

/-- The settings where nothing else is said. -/
def standard : Settings := ⟨"cli > ", "> ", "warn", true, none⟩

def form : Options.Form where
  about := "A small interactive shell with pipelines and variable expansion."
  flags := [
    ⟨"prompt", none, .text, "prompt printed before each command"⟩,
    ⟨"continuation-prompt", none, .text,
      "prompt printed while a quote or escaped newline is still open"⟩,
    ⟨"log", none, .text, "log filter used when RUST_LOG is not set (e.g. \"debug\")"⟩,
    ⟨"no-history", none, .none,
      "do not record entered lines in the line-editor history"⟩,
    ⟨"command", some 'c', .text,
      "run a single command line and exit with its status"⟩]
  operands := []

/-- The settings that options amount to. -/
def ofChoice (c : Options.Choice) : Settings where
  prompt := (c.value? "prompt").getD standard.prompt
  continuation := (c.value? "continuation-prompt").getD standard.continuation
  log := (c.value? "log").getD standard.log
  history := !c.has "no-history"
  command := c.value? "command"

/-- Reads arguments.  There are no settings where help is asked for. -/
def parse (args : List String) : Except Options.Fault (Option Settings) :=
  match form.parse args with
  | .error e => .error e
  | .ok .help => .ok none
  | .ok (.run c) => .ok (some (ofChoice c))

end Settings

/-- A text with small letters for the capitals of ASCII. -/
def lower (text : String) : String := String.ofList (text.toList.map Char.toLower)

/-- What the process of a shell is started with. -/
structure Process where
  name : String
  args : List String
  /-- The entries of its variables, `NAME=VALUE`. -/
  entries : List Bytes

namespace Process

/-- The value of a variable, if it is text.  The first entry of a name counts. -/
def value? (p : Process) (name : String) : Option String :=
  let start := bytesOf (name ++ "=")
  match p.entries.find? start.isPrefixOf with
  | some entry => (Utf8.decode? (entry.drop start.length)).map String.ofList
  | none => none

/-- The terminals on which lines cannot be edited. -/
def plainTerminals : List String := ["dumb", "cons25", "emacs"]

/-- Whether lines are asked for.  They are, wherever they come from, if the terminal
is said to be one on which they cannot be edited. -/
def asks (p : Process) : Bool :=
  match p.value? "TERM" with
  | some terminal => plainTerminals.contains (lower terminal)
  | none => false

/-- The prompts that are shown. -/
def prompts (p : Process) (settings : Settings) : Option Session.Prompts :=
  if p.asks then some ⟨settings.prompt, settings.continuation⟩ else none

end Process

/-!
## The log

What happens inside a shell can be followed in a log, on the stream of
complaints.  How much of it is shown is told by a text, which a library reads;
only the level that the text comes to matters here.  All that is logged is for
debugging, what libraries log included.  The lines of a log carry times and the
numbers of processes, so what stands in them is not said here, only which events
they can be about.
-/

namespace Log

/-- How much of a log is shown: events up to some severity. -/
inductive Level where
  | off
  | error
  | warn
  | info
  | debug
  | trace
  deriving DecidableEq, Repr

/-- How many severities a level lets through. -/
def Level.rank : Level → Nat
  | .off => 0
  | .error => 1
  | .warn => 2
  | .info => 3
  | .debug => 4
  | .trace => 5

/-- What a shell logs. -/
inductive Event where
  /-- A command is handed to whoever handles it. -/
  | dispatched
  /-- A program has been found. -/
  | resolved
  /-- A child has been started. -/
  | forked
  /-- A child has stopped reading before its input ended. -/
  | inputClosed
  /-- The input and the output of a child are through. -/
  | pipesClosed
  /-- A child has ended with a failure. -/
  | childFailed
  /-- A utility has come to an error. -/
  | utilityFailed
  /-- A command of a pipeline, not its last, has come to a status. -/
  | stageFinished
  /-- A line of an input has failed. -/
  | lineFailed
  deriving DecidableEq, Repr

/-- The level from which on an event is shown. -/
def Event.level : Event → Level
  | .pipesClosed | .stageFinished => .trace
  | _ => .debug

/-- The events of a line. -/
def Event.ofLine : List Event :=
  [.dispatched, .resolved, .forked, .inputClosed, .pipesClosed, .childFailed, .utilityFailed,
    .stageFinished]

/-- The events of a session.  That a line fails is an event of the session. -/
def Event.ofSession : List Event := .lineFailed :: ofLine

/-- Whether a level shows an event. -/
def Level.shows (l : Level) (e : Event) : Bool := decide (e.level.rank ≤ l.rank)

/-- All events are for debugging. -/
theorem Event.debug_le_rank (e : Event) : Level.debug.rank ≤ e.level.rank := by
  cases e <;> decide

theorem Level.shows_of_lt {l : Level} (h : l.rank < Level.debug.rank) (e : Event) :
    l.shows e = false :=
  decide_eq_false (Nat.not_le.2 (Nat.lt_of_lt_of_le h e.debug_le_rank))

/-- What a library makes of the text of a filter. -/
structure Filters where
  /-- The least severe level that a text shows, if the text is a filter. -/
  level? : String → Option Level
  /-- The same without the parts of a text that are no filters, and a report about
  these. -/
  lenient : String → Level × String

/-- The names of levels. -/
def Level.names : List (String × Level) :=
  [("off", .off), ("error", .error), ("warn", .warn), ("info", .info), ("debug", .debug),
    ("trace", .trace)]

/-- A library that knows levels only. -/
def Filters.levels : Filters where
  level? text := Level.names.lookup (lower text)
  lenient text := ((Level.names.lookup (lower text)).getD .error, "")

/-- The level of a shell, and what is reported about its filter.  A variable of the
process goes before the settings, unless it holds no filter. -/
def start (filters : Filters) (p : Process) (settings : Settings) : Level × String :=
  match (p.value? "RUST_LOG").bind filters.level? with
  | some level => (level, "")
  | none => filters.lenient settings.log

end Log

/-!
## Runs

The shell runs the one line it is given among its arguments, or else the lines
of its input.  What it is left with is what a process is left with: a status
of eight bits, and the bytes on its two outputs.
-/

namespace CommandLine

/-- What is left of the shell when it has ended. -/
structure Result where
  status : Nat
  output : Bytes
  /-- What stands on the stream of complaints, apart from the lines of the log. -/
  errors : Bytes
  /-- The events that lines of the log among them can be about. -/
  log : List Log.Event
  deriving DecidableEq, Repr

/-- The end of a session. -/
def finish (log : List Log.Event) (status : Status) (s : Session) (out : Sink) : Result where
  status := (status % 256).toNat
  output := out.written
  errors := s.world.errors.bytes
  log

/-- Runs one line. -/
def runOne (host : Host) (level : Log.Level) (line : String) (s : Session) : Result :=
  let log := Log.Event.ofLine.filter level.shows
  match s.runLine host (line ++ "\n") .inherited .memory with
  | (.ok status, s, out) => finish log status s out
  | (.error (.exit code), s, out) => finish log code s out
  | (.error e, s, out) =>
    finish log 1 { s with world := s.world.complain (e.message ++ "\n") } out

/-- Runs the lines of the input. -/
def runLines (host : Host) (level : Log.Level) (prompts : Option Session.Prompts)
    (s : Session) : Result :=
  let (status, s, out) := s.loopAsking host prompts [] .memory
  finish (Log.Event.ofSession.filter level.shows) status s out

/-- Runs the shell. -/
def run (host : Host) (filters : Log.Filters) (p : Process) (world : World) : Result :=
  match Settings.parse p.args with
  | .error e =>
    { status := 1
      output := []
      errors := bytesOf
        (e.message ++ "\nRun " ++ p.name ++ " --help for more information.\n")
      log := [] }
  | .ok none => ⟨0, bytesOf (Settings.form.help p.name ++ "\n"), [], []⟩
  | .ok (some settings) =>
    let (level, report) := Log.start filters p settings
    let session : Session := ⟨world.complain report, 0⟩
    match settings.command with
    | some line => runOne host level line session
    | none => runLines host level (p.prompts settings) session

end CommandLine

end LineShell
