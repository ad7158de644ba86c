import LineShell.Failure
import LineShell.Files.Fault
import LineShell.Text.Basic

/-!
# Streams

What is written is kept in records, what is read comes from sources, and what is
put out goes into sinks.  A command reads the shell's own input or a stream that lies
ready.
-/

namespace LineShell

/-!
## Records of what was written

What goes to a stream is kept piece by piece, so that adding a piece takes no
longer when much has been written before.  Main statements: `bytes_empty` and
`bytes_add`, by which a record is known from its bytes, and `add_nil`: writing
nothing leaves no trace.
-/

/-- Bytes that have been written. -/
structure Record where
  /-- The pieces in which they came, latest first. -/
  pieces : List Bytes

namespace Record

/-- Nothing has been written. -/
def empty : Record := ⟨[]⟩

/-- Adds a piece.  Of an empty one nothing is kept. -/
def add (r : Record) (bs : Bytes) : Record :=
  if bs.isEmpty then r else ⟨bs :: r.pieces⟩

/-- All that has been written, in order. -/
def bytes (r : Record) : Bytes := r.pieces.reverse.flatten

@[simp] theorem bytes_empty : empty.bytes = [] := rfl

@[simp] theorem add_nil (r : Record) : r.add [] = r := rfl

@[simp] theorem bytes_add (r : Record) (bs : Bytes) :
    (r.add bs).bytes = r.bytes ++ bs := by
  cases bs with
  | nil => simp
  | cons b rest => simp [bytes, add]

end Record

/-!
## Sources and sinks

A source yields bytes and then ends, or fails where it should end.  A sink
collects bytes.  It may have room for so many only: then it takes what fits
and fails.  Whether the bytes come in one piece or in many makes no
difference, so what is collected depends on their order alone.
-/

/-- What a command reads. -/
structure Source where
  bytes : Bytes
  /-- What happens after the bytes, if they do not simply end. -/
  fault : Option Fault

namespace Source

/-- A source that ends after its bytes. -/
def ofBytes (bs : Bytes) : Source := ⟨bs, none⟩

/-- The source after so many bytes have been read. -/
def advance (s : Source) (n : Nat) : Source := { s with bytes := s.bytes.drop n }

/-- The source after all its bytes have been read. -/
def drained (s : Source) : Source := { s with bytes := [] }

/-- What happens after the bytes. -/
def atEnd (s : Source) : Except Fault Unit :=
  match s.fault with
  | none => .ok ()
  | some f => .error f

/-- Everything that a source yields, or its fault. -/
def readAll (s : Source) : Except Fault Bytes :=
  match s.fault with
  | none => .ok s.bytes
  | some f => .error f

end Source

/-! ### Blocks -/

/-- How many bytes are fetched at a time by whoever reads line by line. -/
def blockLength : Nat := 8192

/-- How many bytes have been fetched by whoever needs so many: whole blocks. -/
def fetched (needed : Nat) : Nat :=
  (needed + blockLength - 1) / blockLength * blockLength

theorem le_fetched (needed : Nat) : needed ≤ fetched needed := by
  unfold fetched blockLength
  omega

/-- What a command writes to. -/
structure Sink where
  record : Record
  /-- How many bytes more it takes; `none` sets no bound. -/
  room : Option Nat
  /-- What happens where there is no room. -/
  fullFault : Fault
  /-- What happens when the sink is flushed, if that fails. -/
  flushFault : Option Fault

namespace Sink

/-- An empty sink that never fails. -/
def memory : Sink := ⟨.empty, none, .stream "", none⟩

/-- What has been written. -/
def written (s : Sink) : Bytes := s.record.bytes

@[simp] theorem written_memory : memory.written = [] := rfl

/-- Writes bytes, as many as there is room for. -/
def write (s : Sink) (bs : Bytes) : Except Fault Unit × Sink :=
  match s.room with
  | none => (.ok (), { s with record := s.record.add bs })
  | some n =>
    if bs.length ≤ n then
      (.ok (), { s with record := s.record.add bs, room := some (n - bs.length) })
    else
      (.error s.fullFault,
        { s with record := s.record.add (bs.take n), room := some 0 })

/-- Makes sure that everything has arrived. -/
def flush (s : Sink) : Except Fault Unit :=
  match s.flushFault with
  | none => .ok ()
  | some f => .error f

/-- Copies a source to its end or to the first failure. -/
def copy (s : Sink) (source : Source) : Except Fault Unit × Sink :=
  match s.write source.bytes with
  | (.error f, s) => (.error f, s)
  | (.ok (), s) =>
    match source.fault with
    | none => (.ok (), s)
    | some f => (.error f, s)

end Sink

/-!
## Where a command reads from

The first command of a line reads what the shell itself would read: the
shell's own input, which it shares with its children.  A child holds that
stream already, so nothing has to be done for it.  Any other command reads
what the command before it wrote, and a child gets that through a channel: the
child takes the reading end as its input, and the shell copies everything into
the writing end.
-/

/-- The input of a command. -/
inductive Input where
  /-- The shell's own input. -/
  | inherited
  /-- A stream that lies ready in the shell. -/
  | buffered (source : Source)

namespace Input

/-- An input that holds these bytes. -/
def ofBytes (bs : Bytes) : Input := .buffered (.ofBytes bs)

/-- Makes a channel the input of a child. -/
def bind (i : Input) (c : Channel) : Except Channel.Misuse Unit :=
  match i with
  | .inherited => .ok ()
  | .buffered _ => c.use .read

/-- Makes a channel the input of a child, where `duplicate` is what comes of duplicating the
descriptor. -/
def bindBy (duplicate : Except SystemFault Unit) (i : Input) (c : Channel) :
    Except Failure Unit := do
  (i.bind c).mapError .channel
  match i with
  | .inherited => .ok ()
  | .buffered _ => duplicate.mapError (.system "dup2 stdin")

/-- Copies the input into a channel, where `copy` is what comes of copying a source, and says
how many bytes that were. -/
def flushBy (copy : Source → Except Fault Nat) (i : Input) (c : Channel) : Except Failure Nat :=
  match i with
  | .inherited => .ok 0
  | .buffered s =>
    match c.use .write with
    | .error m => .error (.channel m)
    | .ok () => (copy s).mapError .stream

end Input

/-- Copies a source into a channel that no other process holds.  No byte can be written once
nobody holds the reading end. -/
def Channel.copy (c : Channel) (s : Source) : Except Fault Nat :=
  if !s.bytes.isEmpty && !c.readOpen then
    .error (.system .brokenPipe)
  else
    match s.fault with
    | some f => .error f
    | none => .ok s.bytes.length

/-- Copies the input into a channel that no other process holds. -/
def Input.flush (i : Input) (c : Channel) : Except Failure Nat := i.flushBy c.copy c

/-- Writes bytes to a channel that no other process holds. -/
def Channel.write (c : Channel) (bs : Bytes) : Except Failure Unit :=
  match Input.flush (.ofBytes bs) c with
  | .ok _ => .ok ()
  | .error e => .error e

/-- Reads a channel that no other process holds to its end. -/
def Channel.readAll (c : Channel) : Except Failure Bytes :=
  match c.use .read with
  | .ok () => .ok []
  | .error m => .error (.channel m)

end LineShell
