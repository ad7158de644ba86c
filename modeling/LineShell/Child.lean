import LineShell.Program.Basic
import LineShell.Utility.Kind
import LineShell.World

/-!
# Children of the shell

A child gets its input through a channel and writes into another one.  Its
parent feeds the first while it drains the second, so neither can make the
other wait for ever.

The parent reports the first of these faults: that of the source, that of the
sink, that of the last flush.  That a child ends without having read
everything is no fault.
-/

namespace LineShell

/-- How many bytes a channel holds while nobody reads them. -/
def Channel.capacity : Nat := 65536

/-- What a child is to do. -/
inductive Task where
  | utility (k : Utility.Kind)
  | program (p : Program)

namespace Child

/-- The status of a child that cannot begin its task. -/
def setupStatus : Status := 126

/-- Makes a child's two channels its input and its output. -/
def connect (i : Input) : Except Failure Unit := do
  let input ← (Channel.new.register .read).mapError .channel
  (i.bind input).mapError .channel
  let output ← (Channel.new.register .write).mapError .channel
  (output.use .write).mapError .channel

/-- The child that gives up before its task is done. -/
def giveUp (name : String) (why : Failure) (fs : Files) : Completion where
  taken := 0
  output := []
  errors := bytesOf (name ++ ": " ++ why.message ++ "\n")
  ending := .ofStatus setupStatus
  files := fs

/-- Carries out a utility on these bytes. -/
def runUtility (k : Utility.Kind) (c : Command) (s : Surroundings)
    (bytes : Bytes) : Completion :=
  let stage := { s.stage c.bindings with
    input := .ofBytes bytes, output := .memory, errors := .empty }
  let (result, st) := k.run c.words stage
  let (more, status) := match result with
    | .ok status => ([], status)
    | .error f =>
      (bytesOf (c.name ++ ": " ++ (Failure.stream f).message ++ "\n"), setupStatus)
  { taken := st.taken
    output := st.output.written
    errors := st.errors.bytes ++ more
    ending := .ofStatus status
    files := s.world.files }

/-- Carries out a task on these bytes. -/
def perform (host : Host) (t : Task) (c : Command) (s : Surroundings)
    (bytes : Bytes) : Completion :=
  match connect s.input with
  | .error e => giveUp c.name e s.world.files
  | .ok () =>
    match t with
    | .utility k => runUtility k c s bytes
    | .program p =>
      match host p s.world.directory s.world.files bytes with
      | .error f => giveUp c.name (.system "execve" f) s.world.files
      | .ok done => done

/-- What whoever feeds a child reports.  That the channel is broken is no fault. -/
def ignoreBroken : Except Fault Unit → Except Fault Unit
  | .error (.system .brokenPipe) => .ok ()
  | r => r

/-- What feeding a child from a source comes to.  If the child leaves more
unread than its channel holds, the channel breaks; whoever feeds it stops there
and does not see how the source goes on. -/
def feed (s : Source) (taken : Nat) : Except Fault Unit :=
  ignoreBroken <|
    if s.bytes.length > taken + Channel.capacity then .error (.system .brokenPipe)
    else s.atEnd

/-- What the parent of a child comes to. -/
def collect (s : Surroundings) (done : Completion) :
    Except Failure Status × Surroundings :=
  let (drained, output) := s.output.write done.output
  let after := s.handOver done.taken
  let s' : Surroundings :=
    { after with
      world := { after.world with
        errors := s.world.errors.add done.errors, files := done.files }
      output }
  (do
    let status ← done.ending.status.mapError (Failure.system "waitpid")
    (feed s.source done.taken).mapError Failure.stream
    drained.mapError Failure.stream
    output.flush.mapError Failure.stream
    return status,
   s')

/-- Has a child carry out a task. -/
def run (host : Host) (t : Task) (c : Command) (s : Surroundings) :
    Except Failure Status × Surroundings :=
  collect s (perform host t c s s.source.bytes)

theorem unread_run_suffix (host : Host) (t : Task) (c : Command) (s : Surroundings) :
    (run host t c s).2.world.unread <:+ s.world.unread :=
  s.unread_handOver_suffix _

end Child

end LineShell
