import LineShell.Child

/-!
# A child and its parent, step by step

A child is joined to its parent by two channels of bounded capacity.  In the
parent two threads are at work: one declares the channels and then drains the
output of the child into a sink, the other feeds the input of the child from a
source.  The child declares its own sides of the channels and then carries out a
program, which may read, write, work and end as it likes.

`FeederStep`, `ChildStep` and `DrainerStep` say what each of the three can do
next; where a party has to wait it has no step.  A step that needs an end of a
channel asks `Channel.use` for it, and who holds which end is left to
`Channel.register`, `Channel.closeWrite` and `Channel.dropped`.  `Reachable`
takes the steps in any order.
-/

namespace LineShell

/-- Closes whatever is still open. -/
def Channel.dropped (c : Channel) : Channel := { c with readOpen := false, writeOpen := false }

namespace Detached

/-! ## Programs -/

/-- What a program does next, and how it goes on. -/
inductive Request (σ : Type) where
  /-- Reads so many bytes at most; none at all mean the end of the input. -/
  | read (most : Nat) (positive : 0 < most) (next : Bytes → σ)
  /-- Writes bytes, and learns how many were taken. -/
  | write (bytes : Bytes) (next : Except SystemFault Nat → σ)
  | work (next : σ)
  | exit (ending : Ending)

/-- What is given before anything starts. -/
structure Plan (σ : Type) where
  source : Source
  sink : Sink
  /-- How many bytes the channel to the child holds. -/
  inputRoom : Nat
  /-- How many bytes the channel from the child holds. -/
  outputRoom : Nat
  inputRoom_pos : 0 < inputRoom
  outputRoom_pos : 0 < outputRoom
  program : σ → Request σ
  start : σ

/-! ## States -/

/-- A channel between a parent and its child, first in first out. -/
structure Pipe where
  /-- The ends that the parent holds. -/
  parent : Channel
  /-- The ends that the child holds. -/
  child : Channel
  content : Bytes

namespace Pipe

/-- A channel right after the parent has been doubled: both hold both ends. -/
def new : Pipe := ⟨.new, .new, []⟩

/-- Whether anybody can still read. -/
def hasReader (p : Pipe) : Bool := p.parent.readOpen || p.child.readOpen

/-- Whether anybody can still write. -/
def hasWriter (p : Pipe) : Bool := p.parent.writeOpen || p.child.writeOpen

end Pipe

/-- Where the feeder stands. -/
inductive Feeder where
  /-- There is no feeder yet, and its channel has no direction. -/
  | undeclared
  /-- There is no feeder yet. -/
  | declared
  | reading
  /-- So many bytes have been read and are still to be written. -/
  | writing (held : Nat)
  | closing (result : Except Fault Unit)
  | finished (result : Except Fault Unit)

/-- Where the child stands. -/
inductive Phase (σ : Type) where
  | connectInput
  | connectOutput
  | running (m : σ)
  | exited (ending : Ending)

/-- Where the drainer stands. -/
inductive Drainer where
  /-- The channels are still to be declared. -/
  | declaring
  | reading
  | writing (held : Bytes)
  | closing (result : Except Fault Unit)
  | finished (result : Except Fault Unit)

/-- The parent, the child and what is between them. -/
structure State (σ : Type) where
  input : Pipe
  output : Pipe
  feeder : Feeder
  child : Phase σ
  drainer : Drainer
  sink : Sink
  /-- The bytes of the source that have not gone into the channel. -/
  unsent : Bytes
  /-- What the child has read. -/
  consumed : Bytes
  /-- Whether the child has met the end of its input. -/
  sawEnd : Bool
  /-- What the child has written. -/
  produced : Bytes
  /-- What the drainer has read. -/
  delivered : Bytes

/-- The state right after the parent has been doubled. -/
def Plan.initial {σ : Type} (plan : Plan σ) : State σ where
  input := .new
  output := .new
  feeder := .undeclared
  child := .connectInput
  drainer := .declaring
  sink := plan.sink
  unsent := plan.source.bytes
  consumed := []
  sawEnd := false
  produced := []
  delivered := []

/-- The feeder with so many bytes still to be written. -/
def Feeder.holding (n : Nat) : Feeder := if n = 0 then .reading else .writing n

/-! ## Steps -/

section Steps

variable {σ : Type} (plan : Plan σ) (s : State σ)

/-- What the feeder can do. -/
inductive FeederStep : State σ → Prop where
  | read (n : Nat) (at_ : s.feeder = .reading) (pos : 0 < n) (le : n ≤ s.unsent.length) :
    FeederStep { s with feeder := .writing n }
  | readEnd (at_ : s.feeder = .reading) (all : s.unsent = []) :
    FeederStep { s with feeder := .closing (Child.ignoreBroken plan.source.atEnd) }
  | write (held n : Nat) (at_ : s.feeder = .writing held) (use : s.input.parent.use .write = .ok ())
      (reader : s.input.hasReader) (pos : 0 < n) (le : n ≤ held)
      (room : s.input.content.length + n ≤ plan.inputRoom) :
    FeederStep { s with
      feeder := .holding (held - n)
      input := { s.input with content := s.input.content ++ s.unsent.take n }
      unsent := s.unsent.drop n }
  | breaks (held : Nat) (at_ : s.feeder = .writing held) (use : s.input.parent.use .write = .ok ())
      (reader : ¬ s.input.hasReader) :
    FeederStep { s with
      feeder := .closing (Child.ignoreBroken (.error (.system .brokenPipe))) }
  | close (c : Channel) (at_ : s.feeder = .closing (.ok ()))
      (closed : s.input.parent.closeWrite = .ok c) :
    FeederStep { s with
      feeder := .finished (.ok ())
      input := { s.input with parent := c.dropped } }
  | giveUp (f : Fault) (at_ : s.feeder = .closing (.error f)) :
    FeederStep { s with
      feeder := .finished (.error f)
      input := { s.input with parent := s.input.parent.dropped } }

/-- What the child can do. -/
inductive ChildStep : State σ → Prop where
  | connectInput (c : Channel) (at_ : s.child = .connectInput)
      (registered : s.input.child.register .read = .ok c)
      (bound : (Input.buffered plan.source).bind c = .ok ()) :
    ChildStep { s with
      child := .connectOutput
      input := { s.input with child := c } }
  | connectOutput (c : Channel) (at_ : s.child = .connectOutput)
      (registered : s.output.child.register .write = .ok c) (use : c.use .write = .ok ()) :
    ChildStep { s with
      child := .running plan.start
      output := { s.output with child := c } }
  | read (m : σ) (most : Nat) (positive : 0 < most) (next : Bytes → σ) (n : Nat)
      (at_ : s.child = .running m) (request : plan.program m = .read most positive next)
      (use : s.input.child.use .read = .ok ()) (pos : 0 < n) (le_most : n ≤ most)
      (le : n ≤ s.input.content.length) :
    ChildStep { s with
      child := .running (next (s.input.content.take n))
      input := { s.input with content := s.input.content.drop n }
      consumed := s.consumed ++ s.input.content.take n }
  | readEnd (m : σ) (most : Nat) (positive : 0 < most) (next : Bytes → σ)
      (at_ : s.child = .running m) (request : plan.program m = .read most positive next)
      (use : s.input.child.use .read = .ok ()) (empty : s.input.content = [])
      (writer : ¬ s.input.hasWriter) :
    ChildStep { s with child := .running (next []), sawEnd := true }
  | write (m : σ) (bytes : Bytes) (next : Except SystemFault Nat → σ) (n : Nat)
      (at_ : s.child = .running m) (request : plan.program m = .write bytes next)
      (use : s.output.child.use .write = .ok ()) (reader : s.output.hasReader) (pos : 0 < n)
      (le : n ≤ bytes.length) (room : s.output.content.length + n ≤ plan.outputRoom) :
    ChildStep { s with
      child := .running (next (.ok n))
      output := { s.output with content := s.output.content ++ bytes.take n }
      produced := s.produced ++ bytes.take n }
  | writeNothing (m : σ) (next : Except SystemFault Nat → σ) (at_ : s.child = .running m)
      (request : plan.program m = .write [] next) (use : s.output.child.use .write = .ok ()) :
    ChildStep { s with child := .running (next (.ok 0)) }
  | writeBroken (m : σ) (bytes : Bytes) (next : Except SystemFault Nat → σ)
      (at_ : s.child = .running m) (request : plan.program m = .write bytes next)
      (use : s.output.child.use .write = .ok ()) (some : bytes ≠ [])
      (reader : ¬ s.output.hasReader) :
    ChildStep { s with child := .running (next (.error .brokenPipe)) }
  | work (m next : σ) (at_ : s.child = .running m) (request : plan.program m = .work next) :
    ChildStep { s with child := .running next }
  | exit (m : σ) (ending : Ending) (at_ : s.child = .running m)
      (request : plan.program m = .exit ending) :
    ChildStep { s with
      child := .exited ending
      input := { s.input with child := s.input.child.dropped }
      output := { s.output with child := s.output.child.dropped } }

/-- What the drainer can do. -/
inductive DrainerStep : State σ → Prop where
  | declareInput (c : Channel) (at_ : s.drainer = .declaring) (feeder : s.feeder = .undeclared)
      (registered : s.input.parent.register .write = .ok c) :
    DrainerStep { s with
      feeder := .declared
      input := { s.input with parent := c } }
  | declareOutput (c : Channel) (at_ : s.drainer = .declaring) (feeder : s.feeder = .declared)
      (registered : s.output.parent.register .read = .ok c) :
    DrainerStep { s with
      feeder := .reading
      drainer := .reading
      output := { s.output with parent := c } }
  | read (n : Nat) (at_ : s.drainer = .reading) (use : s.output.parent.use .read = .ok ())
      (pos : 0 < n) (le : n ≤ s.output.content.length) :
    DrainerStep { s with
      drainer := .writing (s.output.content.take n)
      output := { s.output with content := s.output.content.drop n }
      delivered := s.delivered ++ s.output.content.take n }
  | readEnd (at_ : s.drainer = .reading) (use : s.output.parent.use .read = .ok ())
      (empty : s.output.content = []) (writer : ¬ s.output.hasWriter) :
    DrainerStep { s with drainer := .closing (.ok ()) }
  | write (held : Bytes) (at_ : s.drainer = .writing held)
      (written : (s.sink.write held).1 = .ok ()) :
    DrainerStep { s with drainer := .reading, sink := (s.sink.write held).2 }
  | writeFails (held : Bytes) (f : Fault) (at_ : s.drainer = .writing held)
      (failed : (s.sink.write held).1 = .error f) :
    DrainerStep { s with drainer := .closing (.error f), sink := (s.sink.write held).2 }
  | close (result : Except Fault Unit) (at_ : s.drainer = .closing result) :
    DrainerStep { s with
      drainer := .finished result
      output := { s.output with parent := s.output.parent.dropped } }

/-- What can happen next. -/
def Step (t : State σ) : Prop := FeederStep plan s t ∨ ChildStep plan s t ∨ DrainerStep s t

end Steps

/-- The states that steps in some order lead to. -/
inductive Reachable {σ : Type} (plan : Plan σ) : State σ → Prop where
  | initial : Reachable plan plan.initial
  | step {s t : State σ} (reached : Reachable plan s) (taken : Step plan s t) : Reachable plan t

/-- Feeder, child and drainer have finished. -/
structure State.Finished {σ : Type} (s : State σ) (fed drained : Except Fault Unit)
    (ending : Ending) : Prop where
  feeder : s.feeder = .finished fed
  child : s.child = .exited ending
  drainer : s.drainer = .finished drained

end Detached

end LineShell
