import LineShell.Stream.Basic
import LineShell.Utility.Basic

/-!
# What surrounds a command

A command finds the shell in some state, reads an input and writes to a sink.
It may change all three, and the next command finds them so changed.

The shell's own input is part of its state, because a child that reads it
leaves less of it to everybody else.  Nobody can put anything back: what is
unread later is always an end of what is unread now.
-/

namespace LineShell

/-- The state of a shell and of what it shares with its children. -/
structure World where
  vars : Variables
  /-- The directory of the process. -/
  directory : Location
  files : Files
  /-- What nobody has read yet of the shell's own input. -/
  unread : Bytes
  /-- What has been written to the stream of complaints. -/
  errors : Record

namespace World

/-- Adds text to the complaints. -/
def complain (w : World) (text : String) : World :=
  { w with errors := w.errors.add (bytesOf text) }

/-- The world after so many more bytes of its input have been read. -/
def advance (w : World) (n : Nat) : World := { w with unread := w.unread.drop n }

theorem unread_advance_suffix (w : World) (n : Nat) :
    (w.advance n).unread <:+ w.unread := List.drop_suffix n w.unread

end World

/-- What surrounds a command. -/
structure Surroundings where
  world : World
  input : Input
  output : Sink

namespace Surroundings

/-- The variables that a command sees. -/
def scope (s : Surroundings) (bindings : List Binding) : Scope :=
  .withBindings s.world.vars bindings

/-- What a command reads. -/
def source (s : Surroundings) : Source :=
  match s.input with
  | .inherited => .ofBytes s.world.unread
  | .buffered source => source

/-- The stage of a utility that the shell carries out itself. -/
def stage (s : Surroundings) (bindings : List Binding) : Stage where
  scope := s.scope bindings
  files := s.world.files
  directory := s.world.directory
  input := s.source
  taken := 0
  output := s.output
  errors := s.world.errors

/-- What is left when a child has read so many bytes.  The shell's own input
loses just these; any other input was handed over whole. -/
def handOver (s : Surroundings) (taken : Nat) : Surroundings :=
  match s.input with
  | .inherited => { s with world := s.world.advance taken }
  | .buffered source => { s with input := .buffered source.drained }

/-- What a utility leaves behind.  The bindings of its scope go away. -/
def leave (s : Surroundings) (st : Stage) : Surroundings :=
  let world := { s.world with
    vars := st.scope.shared, directory := st.directory, errors := st.errors }
  match s.input with
  | .inherited =>
    { s with
      world := world.advance st.taken
      output := st.output }
  | .buffered _ => { world, input := .buffered st.input, output := st.output }

theorem unread_handOver_suffix (s : Surroundings) (taken : Nat) :
    (s.handOver taken).world.unread <:+ s.world.unread := by
  unfold handOver
  split
  · exact s.world.unread_advance_suffix taken
  · exact List.suffix_refl _

theorem unread_leave_suffix (s : Surroundings) (st : Stage) :
    (s.leave st).world.unread <:+ s.world.unread := by
  unfold leave
  split
  · exact World.unread_advance_suffix _ _
  · exact List.suffix_refl _

end Surroundings

end LineShell
