/-!
# Who holds which end of a channel

A channel carries bytes one way, between a process and its child.  Both hold
both ends at first.  A process then declares, once, whether it reads or
writes, and that closes the other end for good.  A writer may close its own
end too, which is how a reader learns of the end of the stream.  A reader
keeps its end.

What `register` and `use` come to is said once for each case, in
`register_undeclared` and `register_declared` and in `use_open`, `use_closed`
and `use_wrong`.
-/

namespace LineShell

/-- What a process uses a channel for, and the end it does it with. -/
inductive Direction where
  | read
  | write
  deriving DecidableEq, Repr

/-- The name of an end. -/
def Direction.name : Direction → String
  | .read => "read"
  | .write => "write"

/-- The other direction. -/
def Direction.other : Direction → Direction
  | .read => .write
  | .write => .read

namespace Channel

/-- The ways in which a channel can be misused. -/
inductive Misuse where
  /-- A direction was declared twice. -/
  | declared
  /-- An end was used that does not belong to the declared direction. -/
  | wrongDirection (d : Direction)
  /-- An end was used after it had been closed. -/
  | closed (d : Direction)
  deriving DecidableEq, Repr

/-- The report of a misuse. -/
def Misuse.message : Misuse → String
  | .declared => "channel: direction already registered"
  | .wrongDirection d =>
    "channel: " ++ d.name ++ " end used from the wrong direction"
  | .closed d => "channel: " ++ d.name ++ " end already closed"

end Channel

/-- The ends of a channel that a process holds. -/
structure Channel where
  readOpen : Bool
  writeOpen : Bool
  direction : Option Direction
  deriving DecidableEq, Repr

namespace Channel

/-- A new channel. -/
def new : Channel := ⟨true, true, none⟩

/-- Whether an end is open. -/
def isOpen (c : Channel) : Direction → Bool
  | .read => c.readOpen
  | .write => c.writeOpen

/-- Declares a direction and closes the other end. -/
def register (c : Channel) (d : Direction) : Except Misuse Channel :=
  match c.direction with
  | some _ => .error .declared
  | none =>
    match d with
    | .read => .ok { c with direction := some .read, writeOpen := false }
    | .write => .ok { c with direction := some .write, readOpen := false }

/-- Uses an end. -/
def use (c : Channel) (d : Direction) : Except Misuse Unit :=
  if c.direction = some d then
    if c.isOpen d then .ok () else .error (.closed d)
  else .error (.wrongDirection d)

/-- Closes the writing end. -/
def closeWrite (c : Channel) : Except Misuse Channel :=
  match c.use .write with
  | .ok () => .ok { c with writeOpen := false }
  | .error e => .error e

/-! ## What the operations do -/

/-- The channel with an end closed, whoever may close it. -/
def without (c : Channel) : Direction → Channel
  | .read => { c with readOpen := false }
  | .write => { c with writeOpen := false }

section Operations

variable {c : Channel} {d e : Direction}

theorem isOpen_without_self : (c.without d).isOpen d = false := by
  cases d <;> rfl

theorem isOpen_without (h : c.isOpen e = false) (d : Direction) :
    (c.without d).isOpen e = false := by
  cases d with
  | read =>
    cases e with
    | read => rfl
    | write => exact h
  | write =>
    cases e with
    | read => exact h
    | write => rfl

theorem register_undeclared (h : c.direction = none) :
    c.register d = .ok { c.without d.other with direction := some d } := by
  unfold register
  rw [h]
  cases d <;> rfl

theorem register_declared (h : c.direction = some e) : c.register d = .error .declared := by
  unfold register
  rw [h]

theorem use_open (hd : c.direction = some d) (hopen : c.isOpen d = true) : c.use d = .ok () := by
  unfold use
  rw [if_pos hd, if_pos hopen]

theorem use_closed (hd : c.direction = some d) (hopen : c.isOpen d = false) :
    c.use d = .error (.closed d) := by
  unfold use
  rw [if_pos hd, hopen]
  rfl

theorem use_wrong (hd : c.direction ≠ some d) : c.use d = .error (.wrongDirection d) := by
  unfold use
  rw [if_neg hd]

theorem isOpen_of_use (h : c.use d = .ok ()) : c.isOpen d := by
  unfold use at h
  split at h
  · split at h
    · assumption
    · cases h
  · cases h

end Operations

end Channel

end LineShell
