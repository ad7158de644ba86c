import LineShell.Stream.Basic

/-!
# Who may use which end of a channel

A process can use a channel in any order, and go on after it has misused it.
`Channel.after` is what a run of calls leaves, whatever came of each of them.  A call that
goes on to the system, to duplicate a descriptor or to copy a stream, brings along what
the system makes of it, so that nothing depends on that.  A channel is changed where it
stands, and `registerInPlace_eq` and `closeWriteInPlace_eq` say that this is what
`Channel.register` and `Channel.closeWrite` come to.

A call is refused and leaves no trace, or it is accepted and has its effect
(`perform_cases`); everything else is read off that.  `Owned` is what every call keeps, and
no channel has it that calls do not lead to (`owned_iff`): it is new, or it is read, or it is
written, or its writer is done.  Main statement: `ends_follow_declaration`.
-/

namespace LineShell

namespace Channel

/-! ## Operations in place

What is changed where it stands is left in some state by a failure too. -/

/-- Sets the direction and then gives up the other end. -/
def registerInPlace (c : Channel) (d : Direction) : Except Misuse Unit × Channel :=
  match c.direction with
  | some _ => (.error .declared, c)
  | none => (.ok (), { c with direction := some d }.without d.other)

/-- Takes what there is of the writing end, and only then sees whether it was open. -/
def closeWriteInPlace (c : Channel) : Except Misuse Unit × Channel :=
  if c.direction = some .write then
    (if c.writeOpen then .ok () else .error (.closed .write), c.without .write)
  else (.error (.wrongDirection .write), c)

/-- What an operation comes to in place that gives a channel, or fails and gives none. -/
def inPlace (c : Channel) : Except Misuse Channel → Except Misuse Unit × Channel
  | .ok c' => (.ok (), c')
  | .error m => (.error m, c)

theorem registerInPlace_eq (c : Channel) (d : Direction) :
    c.registerInPlace d = c.inPlace (c.register d) := by
  unfold registerInPlace
  cases hd : c.direction with
  | some e =>
    rw [register_declared hd]
    rfl
  | none =>
    rw [register_undeclared hd]
    cases d <;> rfl

theorem closeWriteInPlace_eq (c : Channel) : c.closeWriteInPlace = c.inPlace c.closeWrite := by
  unfold closeWriteInPlace closeWrite
  by_cases hd : c.direction = some .write
  · rw [if_pos hd]
    cases hopen : c.writeOpen with
    | true =>
      rw [use_open hd hopen]
      rfl
    | false =>
      -- What is taken was closed, so nothing has changed.
      have hsame : c.without .write = c := by
        rw [without, ← hopen]
      rw [use_closed hd hopen, hsame]
      rfl
  · rw [if_neg hd, use_wrong hd]
    rfl

/-! ## Calls -/

/-- What a process can do with a channel. -/
inductive Call where
  | register (d : Direction)
  | takeEnd (d : Direction)
  | takeDescriptor (d : Direction)
  | closeWrite
  /-- Makes the channel the input of the process, as far as the system lets it. -/
  | bind (i : Input) (duplicate : Except SystemFault Unit)
  /-- Copies an input into the channel.  With `Channel.copy` this is `Input.flush`. -/
  | flush (i : Input) (copy : Source → Except Fault Nat)

/-- What a call gives. -/
inductive Answer where
  | done
  /-- An end, or its descriptor. -/
  | held (d : Direction)
  /-- So many bytes. -/
  | count (n : Nat)

/-- What is reported of an operation in place. -/
def reported (r : Except Misuse Unit × Channel) : Except Failure Answer × Channel :=
  ((r.1.mapError .channel).map fun _ => .done, r.2)

/-- What a call gives, and the channel that it leaves. -/
def perform (c : Channel) : Call → Except Failure Answer × Channel
  | .register d => reported (c.registerInPlace d)
  | .takeEnd d | .takeDescriptor d => (((c.use d).mapError .channel).map fun _ => .held d, c)
  | .closeWrite => reported c.closeWriteInPlace
  | .bind i duplicate => ((i.bindBy duplicate c).map fun _ => .done, c)
  | .flush i copy => ((i.flushBy copy c).map .count, c)

/-- The channel after a run of calls. -/
def after (c : Channel) (calls : List Call) : Channel :=
  calls.foldl (fun c call => (c.perform call).2) c

/-- Whether a call closes the writing end. -/
def closes (c : Channel) : Call → Bool
  | .closeWrite => (c.perform .closeWrite).1.isOk
  | _ => false

/-- How many calls of a run close the writing end. -/
def closings (c : Channel) : List Call → Nat
  | [] => 0
  | call :: rest => (c.closes call).toNat + (c.perform call).2.closings rest

namespace Call

/-- The direction that a call declares. -/
def declares : Call → Option Direction
  | .register d => some d
  | _ => none

/-- The end that a call uses. -/
def uses : Call → Option Direction
  | .takeEnd d | .takeDescriptor d => some d
  | .closeWrite => some .write
  | .bind (.buffered _) _ => some .read
  | .flush (.buffered _) _ => some .write
  | _ => none

/-- Why a call is refused by a channel. -/
inductive Refused (c : Channel) : Call → Misuse → Prop where
  | declared {d e : Direction} : c.direction = some e → Refused c (.register d) .declared
  | wrongDirection {call : Call} {d : Direction} : call.uses = some d → c.direction ≠ some d →
    Refused c call (.wrongDirection d)
  | closed {call : Call} {d : Direction} : call.uses = some d → c.direction = some d →
    c.isOpen d = false → Refused c call (.closed d)

/-- What a call needs in order not to be refused. -/
structure Accepted (c : Channel) (call : Call) : Prop where
  undeclared : ∀ d, call.declares = some d → c.direction = none
  granted : ∀ d, call.uses = some d → c.direction = some d ∧ c.isOpen d = true

/-- What comes of a call that is not refused. -/
def answer : Call → Except Failure Answer
  | .register _ | .closeWrite | .bind .inherited _ => .ok .done
  | .takeEnd d | .takeDescriptor d => .ok (.held d)
  | .bind (.buffered _) duplicate =>
    (duplicate.mapError (.system "dup2 stdin")).map fun _ => .done
  | .flush .inherited _ => .ok (.count 0)
  | .flush (.buffered s) copy => ((copy s).mapError .stream).map .count

/-- What a call that is not refused makes of a channel. -/
def effect (c : Channel) : Call → Channel
  | .register d => { c.without d.other with direction := some d }
  | .closeWrite => c.without .write
  | _ => c

theorem declares_of_uses {call : Call} {d : Direction} (h : call.uses = some d) :
    call.declares = none := by
  cases call with
  | register e => cases h
  | _ => rfl

theorem answer_ne_misuse (call : Call) (m : Misuse) : call.answer ≠ .error (.channel m) := by
  cases call with
  | register d | takeEnd d | takeDescriptor d | closeWrite => exact nofun
  | bind i duplicate =>
    cases i with
    | inherited => exact nofun
    | buffered s => cases duplicate <;> exact nofun
  | flush i copy =>
    cases i with
    | inherited => exact nofun
    | buffered s =>
      rw [answer]
      cases copy s <;> exact nofun

end Call

/-! ## One call -/

section Perform

variable {c : Channel} {call : Call} {d : Direction} {m : Misuse}

theorem perform_of_uses (huses : call.uses = some d) :
    c.perform call = match c.use d with
      | .ok () => (call.answer, call.effect c)
      | .error m => (.error (.channel m), c) := by
  cases call with
  | register e => cases huses
  | takeEnd e | takeDescriptor e =>
    obtain rfl : e = d := Option.some.inj huses
    rw [perform]
    cases c.use e <;> rfl
  | closeWrite =>
    obtain rfl : .write = d := Option.some.inj huses
    rw [perform, closeWriteInPlace_eq, closeWrite]
    cases c.use .write <;> rfl
  | bind i duplicate =>
    cases i with
    | inherited => cases huses
    | buffered s =>
      obtain rfl : .read = d := Option.some.inj huses
      rw [perform, Input.bindBy, Input.bind]
      cases c.use .read <;> rfl
  | flush i copy =>
    cases i with
    | inherited => cases huses
    | buffered s =>
      obtain rfl : .write = d := Option.some.inj huses
      rw [perform, Input.flushBy]
      cases c.use .write <;> rfl

theorem perform_cases_register (c : Channel) (d : Direction) :
    (∃ m, Call.Refused c (.register d) m ∧ c.perform (.register d) = (.error (.channel m), c)) ∨
      (Call.Accepted c (.register d) ∧
        c.perform (.register d) = ((Call.register d).answer, (Call.register d).effect c)) := by
  rw [perform, registerInPlace_eq]
  cases hd : c.direction with
  | some e =>
    rw [register_declared hd]
    exact .inl ⟨_, .declared hd, rfl⟩
  | none =>
    rw [register_undeclared hd]
    exact .inr ⟨⟨fun _ _ => hd, nofun⟩, rfl⟩

theorem perform_cases_uses (huses : call.uses = some d) :
    (∃ m, call.Refused c m ∧ c.perform call = (.error (.channel m), c)) ∨
      (call.Accepted c ∧ c.perform call = (call.answer, call.effect c)) := by
  rw [perform_of_uses huses]
  by_cases hd : c.direction = some d
  · cases hopen : c.isOpen d with
    | false =>
      rw [use_closed hd hopen]
      exact .inl ⟨_, .closed huses hd hopen, rfl⟩
    | true =>
      rw [use_open hd hopen]
      refine .inr ⟨⟨?_, ?_⟩, rfl⟩
      · intro e he
        rw [Call.declares_of_uses huses] at he
        cases he
      · intro e he
        obtain rfl : d = e := Option.some.inj (huses.symm.trans he)
        exact ⟨hd, hopen⟩
  · rw [use_wrong hd]
    exact .inl ⟨_, .wrongDirection huses hd, rfl⟩

/-- **A call is refused and changes nothing, or it is accepted and has its effect.** -/
theorem perform_cases (c : Channel) (call : Call) :
    (∃ m, call.Refused c m ∧ c.perform call = (.error (.channel m), c)) ∨
      (call.Accepted c ∧ c.perform call = (call.answer, call.effect c)) := by
  cases call with
  | register d => exact c.perform_cases_register d
  | takeEnd d | takeDescriptor d | closeWrite => exact perform_cases_uses rfl
  | bind i duplicate =>
    cases i with
    | inherited => exact .inr ⟨⟨nofun, nofun⟩, rfl⟩
    | buffered s => exact perform_cases_uses rfl
  | flush i copy =>
    cases i with
    | inherited => exact .inr ⟨⟨nofun, nofun⟩, rfl⟩
    | buffered s => exact perform_cases_uses rfl

theorem perform_refused (h : call.Refused c m) : c.perform call = (.error (.channel m), c) := by
  cases h with
  | declared hd =>
    rw [perform, registerInPlace_eq, register_declared hd]
    rfl
  | wrongDirection huses hd => rw [perform_of_uses huses, use_wrong hd]
  | closed huses hd hopen => rw [perform_of_uses huses, use_closed hd hopen]

theorem accepted_of_ok {a : Answer} (h : (c.perform call).1 = .ok a) : call.Accepted c := by
  rcases c.perform_cases call with ⟨m, -, hperform⟩ | ⟨haccepted, -⟩
  · rw [hperform] at h
    cases h
  · exact haccepted

/-- A call that fails changes nothing, be it refused or let down by the system. -/
theorem perform_failed {f : Failure} (h : (c.perform call).1 = .error f) :
    (c.perform call).2 = c := by
  rcases c.perform_cases call with ⟨m, -, hperform⟩ | ⟨-, hperform⟩
  · rw [hperform]
  · rw [hperform] at h ⊢
    cases call with
    | register d | closeWrite => cases h
    | _ => rfl

theorem direction_perform (c : Channel) (call : Call) :
    (c.perform call).2.direction = c.direction.or call.declares := by
  rcases c.perform_cases call with ⟨m, hrefused, hperform⟩ | ⟨haccepted, hperform⟩
  · rw [hperform]
    cases hrefused with
    | declared hd => rw [hd, Option.some_or]
    | wrongDirection huses | closed huses => rw [Call.declares_of_uses huses, Option.or_none]
  · rw [hperform]
    cases call with
    | register d =>
      rw [haccepted.undeclared d rfl]
      rfl
    | _ => exact Option.or_none.symm

theorem isOpen_perform (h : c.isOpen d = false) (call : Call) :
    (c.perform call).2.isOpen d = false := by
  rcases c.perform_cases call with ⟨m, -, hperform⟩ | ⟨-, hperform⟩
  · rw [hperform]
    exact h
  · rw [hperform]
    cases call with
    | register e => exact isOpen_without h e.other
    | closeWrite => exact isOpen_without h .write
    | _ => exact h

end Perform

/-! ## What every call keeps -/

/-- What is open goes with what has been declared. -/
structure Owned (c : Channel) : Prop where
  /-- Before a direction is declared, both ends are open. -/
  undeclared : c.direction = none → ∀ d, c.isOpen d = true
  /-- Then the end of the other direction is closed. -/
  other : ∀ d, c.direction = some d → c.isOpen d.other = false
  /-- A reader has its end. -/
  reader : c.direction = some .read → c.isOpen .read = true

theorem owned_new : new.Owned where
  undeclared _ d := by cases d <;> rfl
  other := nofun
  reader := nofun

/-- Whether the process writes and has closed its end. -/
def isDone (c : Channel) : Bool := c.direction = some .write && !c.writeOpen

namespace Owned

variable {c : Channel} {call : Call}

theorem register (hc : c.Owned) (hd : c.direction = none) (d : Direction) :
    Owned ((Call.register d).effect c) where
  undeclared := nofun
  other e he := by
    obtain rfl : d = e := Option.some.inj he
    exact isOpen_without_self
  reader he := by
    obtain rfl : d = .read := Option.some.inj he
    exact hc.undeclared hd .read

theorem closeWrite (hc : c.Owned) (hd : c.direction = some .write) :
    Owned (Call.closeWrite.effect c) where
  undeclared he := by
    rw [show (Call.closeWrite.effect c).direction = some .write from hd] at he
    cases he
  other e he := by
    obtain rfl : .write = e := Option.some.inj (hd.symm.trans he)
    exact hc.other .write hd
  reader he := by
    cases hd.symm.trans he

theorem perform (hc : c.Owned) (call : Call) : (c.perform call).2.Owned := by
  rcases c.perform_cases call with ⟨m, -, hperform⟩ | ⟨haccepted, hperform⟩
  · rw [hperform]
    exact hc
  · rw [hperform]
    cases call with
    | register d => exact hc.register (haccepted.undeclared d rfl) d
    | closeWrite => exact hc.closeWrite (haccepted.granted .write rfl).1
    | _ => exact hc

theorem ne_closed_read (hc : c.Owned) (call : Call) :
    (c.perform call).1 ≠ .error (.channel (.closed .read)) := by
  rcases c.perform_cases call with ⟨m, hrefused, hperform⟩ | ⟨-, hperform⟩
  · rw [hperform]
    cases hrefused with
    | declared | wrongDirection => exact nofun
    | @closed _ d _ hd hopen =>
      -- An end is found closed in its own direction only, and a reader's is open.
      intro h
      obtain rfl : d = .read := by
        cases h
        rfl
      rw [hc.reader hd] at hopen
      cases hopen
  · rw [hperform]
    exact call.answer_ne_misuse _

/-- The writing end of a writer is closed by nothing but the call that closes it. -/
theorem isDone_perform (hc : c.Owned) (call : Call) :
    (c.perform call).2.isDone.toNat = (c.closes call).toNat + c.isDone.toNat := by
  rcases c.perform_cases call with ⟨m, -, hperform⟩ | ⟨haccepted, hperform⟩
  · rw [hperform]
    cases call with
    | closeWrite =>
      rw [closes, hperform]
      exact (Nat.zero_add _).symm
    | _ => exact (Nat.zero_add _).symm
  · rw [hperform]
    cases call with
    | register d =>
      -- Both ends are open as yet, so the end that a writer keeps is open.
      have hd : c.direction = none := haccepted.undeclared d rfl
      have hopen : c.writeOpen = true := hc.undeclared hd .write
      cases d <;> simp [isDone, closes, Call.effect, without, Direction.other, hd, hopen]
    | closeWrite =>
      obtain ⟨hd, hopen⟩ := haccepted.granted .write rfl
      have hopen : c.writeOpen = true := hopen
      rw [closes, hperform]
      simp [isDone, Call.effect, Call.answer, without, Except.isOk, Except.toBool, hd, hopen]
    | _ => exact (Nat.zero_add _).symm

end Owned

/-! ## Runs of calls -/

section Runs

variable {c : Channel} {d : Direction}

theorem after_induction {P : Channel → Prop}
    (hstep : ∀ {c} call, P c → P (Channel.perform c call).2) (h : P c) (calls : List Call) :
    P (c.after calls) := by
  induction calls generalizing c with
  | nil => exact h
  | cons call rest ih => exact ih (hstep call h)

theorem Owned.after (hc : c.Owned) (calls : List Call) : (c.after calls).Owned :=
  after_induction (fun call h => h.perform call) hc calls

theorem isOpen_after (h : c.isOpen d = false) (calls : List Call) :
    (c.after calls).isOpen d = false :=
  after_induction (P := fun c => c.isOpen d = false) (fun call h => isOpen_perform h call) h calls

theorem direction_after (c : Channel) (calls : List Call) :
    (c.after calls).direction = c.direction.or (calls.findSome? Call.declares) := by
  induction calls generalizing c with
  | nil => exact Option.or_none.symm
  | cons call rest ih =>
    have hstep : c.after (call :: rest) = (c.perform call).2.after rest := rfl
    rw [hstep, ih, direction_perform, Option.or_assoc, List.findSome?_cons]
    cases call.declares <;> rfl

theorem Owned.isDone_after (hc : c.Owned) (calls : List Call) :
    (c.after calls).isDone.toNat = c.closings calls + c.isDone.toNat := by
  induction calls generalizing c with
  | nil => exact (Nat.zero_add _).symm
  | cons call rest ih =>
    have hstep : c.after (call :: rest) = (c.perform call).2.after rest := rfl
    rw [hstep, ih (hc.perform call), hc.isDone_perform, closings]
    omega

/-- No channel is owned but those that calls lead to. -/
theorem owned_iff : c.Owned ↔ ∃ calls, c = new.after calls := by
  constructor
  · intro hc
    obtain ⟨readOpen, writeOpen, direction⟩ := c
    cases direction with
    | none =>
      obtain rfl : readOpen = true := hc.undeclared rfl .read
      obtain rfl : writeOpen = true := hc.undeclared rfl .write
      exact ⟨[], rfl⟩
    | some d =>
      cases d with
      | read =>
        obtain rfl : readOpen = true := hc.reader rfl
        obtain rfl : writeOpen = false := hc.other .read rfl
        exact ⟨[.register .read], rfl⟩
      | write =>
        obtain rfl : readOpen = false := hc.other .write rfl
        cases writeOpen with
        | true => exact ⟨[.register .write], rfl⟩
        | false => exact ⟨[.register .write, .closeWrite], rfl⟩
  · rintro ⟨calls, rfl⟩
    exact owned_new.after calls

/-- **Who may use which end.**  Let `c` be what calls leave of a new channel, whatever they are,
however they misuse it, and whatever the system makes of them.

Its direction is the one that was declared first, and stays that.  As long as there is none,
both ends are open, and a call that uses one is refused.  In direction `d` the other end is
closed for good, and a call that succeeds declares nothing and uses no end but that of `d`.
`closeWrite` closes the writing end once at most, and nothing else closes that of a writer.  An
end that is closed is never open again.  That of a reader stays open, so no call ever fails
because the reading end has been closed.

A call is refused for its reason and changes nothing, or it is accepted and does what it is
for; where the system then fails it, nothing has changed either.  An inherited input leaves a
channel alone, in whatever state that is. -/
theorem ends_follow_declaration (calls : List Call) :
    let c := new.after calls
    c.direction = calls.findSome? Call.declares ∧
    (∀ d, c.direction = some d → ∀ later, (c.after later).direction = some d) ∧
    (c.direction = none → (∀ d, c.isOpen d = true) ∧
      ∀ call d, call.uses = some d →
        c.perform call = (.error (.channel (.wrongDirection d)), c)) ∧
    (∀ d, c.direction = some d →
      (∀ later, (c.after later).isOpen d.other = false) ∧
      ∀ call a, (c.perform call).1 = .ok a →
        call.declares = none ∧ ∀ e, call.uses = some e → e = d) ∧
    new.closings calls ≤ 1 ∧
    (new.closings calls = 1 ↔ c.direction = some .write ∧ c.isOpen .write = false) ∧
    (∀ d, c.isOpen d = false → ∀ later, (c.after later).isOpen d = false) ∧
    (c.direction = some .read → ∀ later, (c.after later).isOpen .read = true) ∧
    (∀ call, (c.perform call).1 ≠ .error (.channel (.closed .read))) ∧
    (∀ call, (∃ m, call.Refused c m ∧ c.perform call = (.error (.channel m), c)) ∨
      (call.Accepted c ∧ c.perform call = (call.answer, call.effect c))) ∧
    (∀ call f, (c.perform call).1 = .error f → (c.perform call).2 = c) ∧
    ∀ (k : Channel) duplicate copy,
      k.perform (.bind .inherited duplicate) = (.ok .done, k) ∧
      k.perform (.flush .inherited copy) = (.ok (.count 0), k) := by
  intro c
  have hc : c.Owned := owned_new.after calls
  have hstays : ∀ d, c.direction = some d → ∀ later, (c.after later).direction = some d := by
    intro d hd later
    rw [direction_after, hd, Option.some_or]
  have hclosings : c.isDone.toNat = new.closings calls := owned_new.isDone_after calls
  refine ⟨direction_after new calls, hstays, ?_, ?_, ?_, ?_, fun _ => isOpen_after, ?_,
    hc.ne_closed_read, c.perform_cases, fun _ _ => perform_failed, fun _ _ _ => ⟨rfl, rfl⟩⟩
  · intro hd
    refine ⟨hc.undeclared hd, fun call d huses => perform_refused (.wrongDirection huses ?_)⟩
    rw [hd]
    exact nofun
  · intro d hd
    refine ⟨isOpen_after (hc.other d hd), fun call a ha => ?_⟩
    have haccepted := accepted_of_ok ha
    constructor
    · cases hdeclares : call.declares with
      | none => rfl
      | some e => cases hd.symm.trans (haccepted.undeclared e hdeclares)
    · intro e huses
      exact Option.some.inj ((haccepted.granted e huses).1.symm.trans hd)
  · rw [← hclosings]
    exact Bool.toNat_le _
  · rw [← hclosings]
    simp [isDone, isOpen]
  · intro hd later
    exact (hc.after later).reader (hstays .read hd later)

/-- A writer that is misused in every way: what is refused changes nothing, and its end is closed
once. -/
theorem ends_follow_declaration_misused :
    let calls : List Call := [.closeWrite, .takeEnd .read, .register .write, .register .read,
      .bind (.ofBytes []) (.ok ()), .flush (.ofBytes [104, 105]) fun _ => .error (.stream "full"),
      .closeWrite, .closeWrite, .flush .inherited fun _ => .ok 2]
    let c := new.after calls
    c = ⟨false, false, some .write⟩ ∧ new.closings calls = 1 ∧
    (∀ later, (c.after later).direction = some .write) ∧
    (∀ later, (c.after later).isOpen .write = false) ∧
    (c.perform .closeWrite).1 = .error (.channel (.closed .write)) ∧
    (c.perform .closeWrite).2 = c := by
  intro calls c
  have hc : c = ⟨false, false, some .write⟩ := by rfl
  have hclosed : (c.perform .closeWrite).1 = .error (.channel (.closed .write)) := by rfl
  obtain ⟨-, hstays, -, -, -, hone, hnever, -, -, -, hfailed, -⟩ := ends_follow_declaration calls
  exact ⟨hc, hone.2 ⟨by rfl, by rfl⟩, hstays .write (by rfl), hnever .write (by rfl), hclosed,
    hfailed _ _ hclosed⟩

end Runs

end Channel

end LineShell
