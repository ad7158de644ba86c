import LineShell.Proofs.Detached.Progress

/-!
# A whole run of the parent, with any child

The steps of the feeder and the drainer end when both have finished.  Here the thread that
has started them goes on: it joins the two, waits for the child, however often that is
interrupted, and returns.  The child may do what it likes at any time: close an end,
be killed, or not follow its program at all (`ChildMove`).

Every move keeps `Kept`, and what the caller knows of its threads and of the child
(`Caller.Knows`).  Main statement: `Run.Reached.kept`.
-/

namespace LineShell

namespace Detached

/-! ## Runs -/

/-- Where the caller stands. -/
inductive Caller where
  /-- It drains the output of the child and then waits for the feeder. -/
  | collecting
  /-- It waits for the end of the child. -/
  | reaping (collected : Except Fault Unit)
  | returned (result : Except Failure Status)

/-- The parent's two threads with their child, and their caller. -/
structure Run (σ : Type) where
  state : State σ
  caller : Caller
  /-- How often the waiting for the child has been interrupted. -/
  interruptions : Nat
  /-- How often the child has been reaped. -/
  reaped : Nat

/-- The run right after the parent has been doubled. -/
def Plan.begin {σ : Type} (plan : Plan σ) : Run σ := ⟨plan.initial, .collecting, 0, 0⟩

/-- What the caller makes of its two threads. -/
def collected (fed drained : Except Fault Unit) (sink : Sink) : Except Fault Unit := do
  fed
  drained
  sink.flush

/-- What the caller returns for a child that has been reaped. -/
def answer (ending : Ending) (collected : Except Fault Unit) : Except Failure Status := do
  let status ← ending.status.mapError (Failure.system "waitpid")
  collected.mapError Failure.stream
  return status

theorem answer_collected (fed drained : Except Fault Unit) (ending : Ending) (sink : Sink) :
    answer ending (collected fed drained sink) = outcome fed drained ending sink := by
  unfold answer outcome collected
  cases ending.status with
  | error f => rfl
  | ok status =>
    cases fed with
    | error f => rfl
    | ok =>
      cases drained with
      | error f => rfl
      | ok => rfl

section Moves

variable {σ : Type} (plan : Plan σ)

/-- What any child can do, be it with its program or against it. -/
inductive ChildMove (s : State σ) : State σ → Prop where
  | step {t : State σ} (taken : ChildStep plan s t) : ChildMove s t
  | closeInput (m : σ) (at_ : s.child = .running m) :
    ChildMove s { s with input := { s.input with child := s.input.child.dropped } }
  | closeOutput (m : σ) (at_ : s.child = .running m) :
    ChildMove s { s with output := { s.output with child := s.output.child.dropped } }
  | stray (m next : σ) (at_ : s.child = .running m) :
    ChildMove s { s with child := .running next }
  | die (ending : Ending) (alive : s.child.isExited = false) :
    ChildMove s { s with
      child := .exited ending
      input := { s.input with child := s.input.child.dropped }
      output := { s.output with child := s.output.child.dropped } }

/-- What the parent can do. -/
inductive ParentMove (r : Run σ) : Run σ → Prop where
  | feeder {t : State σ} (taken : FeederStep plan r.state t) : ParentMove r { r with state := t }
  | drainer {t : State σ} (taken : DrainerStep r.state t) : ParentMove r { r with state := t }
  | join (fed drained : Except Fault Unit) (at_ : r.caller = .collecting)
      (feeder : r.state.feeder = .finished fed) (drainer : r.state.drainer = .finished drained) :
    ParentMove r { r with caller := .reaping (collected fed drained r.state.sink) }
  | reap (collected : Except Fault Unit) (ending : Ending) (at_ : r.caller = .reaping collected)
      (child : r.state.child = .exited ending) :
    ParentMove r { r with
      caller := .returned (answer ending collected)
      reaped := r.reaped + 1 }

/-- What can happen next in a run. -/
inductive Move (r : Run σ) : Run σ → Prop where
  | parent {t : Run σ} (moved : ParentMove plan r t) : Move r t
  | child {t : State σ} (moved : ChildMove plan r.state t) : Move r { r with state := t }
  | interrupt (collected : Except Fault Unit) (at_ : r.caller = .reaping collected) :
    Move r { r with interruptions := r.interruptions + 1 }

/-- The runs that moves in some order lead to. -/
inductive Run.Reached : Run σ → Prop where
  | begin : Reached plan.begin
  | move {r t : Run σ} (reached : Reached r) (moved : Move plan r t) : Reached t

end Moves

/-- Whether the drainer has finished. -/
def Drainer.isFinished : Drainer → Bool
  | .finished _ => true
  | _ => false

section Runs

variable {σ : Type} {plan : Plan σ} {s t : State σ} {r u : Run σ}

/-! ## One move -/

theorem FeederStep.unfinished (h : FeederStep plan s t) : s.feeder.isFinished = false := by
  cases h with
  | read n at_ pos le => rw [at_]; rfl
  | readEnd at_ all => rw [at_]; rfl
  | write held n at_ use reader pos le room => rw [at_]; rfl
  | breaks held at_ use reader => rw [at_]; rfl
  | close c at_ closed => rw [at_]; rfl
  | giveUp f at_ => rw [at_]; rfl

theorem DrainerStep.unfinished (h : DrainerStep s t) : s.drainer.isFinished = false := by
  cases h with
  | declareInput c at_ feeder registered => rw [at_]; rfl
  | declareOutput c at_ feeder registered => rw [at_]; rfl
  | read n at_ use pos le => rw [at_]; rfl
  | readEnd at_ use empty writer => rw [at_]; rfl
  | write held at_ written => rw [at_]; rfl
  | writeFails held f at_ failed => rw [at_]; rfl
  | close result at_ => rw [at_]; rfl

/-- A child that has ended does nothing more. -/
theorem ChildMove.alive (h : ChildMove plan s t) : s.child.isExited = false := by
  cases h with
  | step taken =>
    cases taken with
    | connectInput c at_ registered bound => rw [at_]; rfl
    | connectOutput c at_ registered use => rw [at_]; rfl
    | read m most positive next n at_ request use pos le_most le => rw [at_]; rfl
    | readEnd m most positive next at_ request use empty writer => rw [at_]; rfl
    | write m bytes next n at_ request use reader pos le room => rw [at_]; rfl
    | writeNothing m next at_ request use => rw [at_]; rfl
    | writeBroken m bytes next at_ request use some reader => rw [at_]; rfl
    | work m next at_ request => rw [at_]; rfl
    | exit m ending at_ request => rw [at_]; rfl
  | closeInput m at_ => rw [at_]; rfl
  | closeOutput m at_ => rw [at_]; rfl
  | stray m next at_ => rw [at_]; rfl
  | die ending alive => exact alive

/-- What the parent's threads and its sink are is not up to the child. -/
theorem ChildMove.frame (h : ChildMove plan s t) :
    t.feeder = s.feeder ∧ t.drainer = s.drainer ∧ t.sink = s.sink := by
  cases h with
  | step taken => cases taken <;> exact ⟨rfl, rfl, rfl⟩
  | closeInput => exact ⟨rfl, rfl, rfl⟩
  | closeOutput => exact ⟨rfl, rfl, rfl⟩
  | stray => exact ⟨rfl, rfl, rfl⟩
  | die => exact ⟨rfl, rfl, rfl⟩

theorem Phase.holdsInput_dropped {m : σ} {c : Channel} (h : (Phase.running m).HoldsInput c) :
    (Phase.running m).HoldsInput c.dropped := by
  rcases h with rfl | rfl
  · exact .inr rfl
  · exact .inr rfl

theorem Phase.holdsOutput_dropped {m : σ} {c : Channel} (h : (Phase.running m).HoldsOutput c) :
    (Phase.running m).HoldsOutput c.dropped := by
  rcases h with rfl | rfl
  · exact .inr rfl
  · exact .inr rfl

theorem Kept.childMove (hi : Kept plan s) (h : ChildMove plan s t) : Kept plan t := by
  have hinput := hi.inputHeld
  have houtput := hi.outputHeld
  cases h with
  | step taken => exact hi.childStep taken
  | closeInput m at_ =>
    rw [at_] at hinput
    exact { hi with
      inputHeld := at_ ▸ Phase.holdsInput_dropped hinput
      fed := hi.fed.mono fun _ => rfl }
  | closeOutput m at_ =>
    rw [at_] at houtput
    exact { hi with
      outputHeld := at_ ▸ Phase.holdsOutput_dropped houtput
      drained := fun h => ⟨(hi.drained h).1, rfl⟩ }
  | stray m next at_ => exact hi.goOn at_ next
  | die ending alive =>
    exact { hi with
      inputHeld := rfl
      outputHeld := rfl
      fed := hi.fed.mono fun _ => rfl
      drained := fun h => ⟨(hi.drained h).1, rfl⟩ }

/-! ## What the caller knows -/

/-- What the caller has found out, and how often it has reaped. -/
def Caller.Knows (s : State σ) (reaped : Nat) : Caller → Prop
  | .collecting => reaped = 0
  | .reaping c => reaped = 0 ∧ ∃ fed drained, s.feeder = .finished fed ∧
      s.drainer = .finished drained ∧ c = collected fed drained s.sink
  | .returned result => reaped = 1 ∧ ∃ fed drained ending, s.Finished fed drained ending ∧
      result = outcome fed drained ending s.sink

/-- **What holds in every run.** -/
structure Run.Kept (plan : Plan σ) (r : Run σ) : Prop where
  state : Detached.Kept plan r.state
  caller : r.caller.Knows r.state r.reaped

namespace Run.Kept

/-- A thread that can still take a step has not been joined. -/
theorem collecting (hr : r.Kept plan)
    (h : r.state.feeder.isFinished = false ∨ r.state.drainer.isFinished = false) :
    r.caller = .collecting ∧ r.reaped = 0 := by
  have hcaller := hr.caller
  cases hc : r.caller with
  | collecting =>
    rw [hc] at hcaller
    exact ⟨rfl, hcaller⟩
  | reaping c =>
    rw [hc] at hcaller
    obtain ⟨-, fed, drained, hfeeder, hdrainer, -⟩ := hcaller
    rw [hfeeder, hdrainer] at h
    rcases h with h | h <;> cases h
  | returned result =>
    rw [hc] at hcaller
    obtain ⟨-, fed, drained, ending, hfinished, -⟩ := hcaller
    rw [hfinished.feeder, hfinished.drainer] at h
    rcases h with h | h <;> cases h

/-- The threads may go on as long as they have not been joined. -/
theorem ofState (hr : r.Kept plan) (hi : Detached.Kept plan t)
    (h : r.state.feeder.isFinished = false ∨ r.state.drainer.isFinished = false) :
    Run.Kept plan { r with state := t } := by
  obtain ⟨hcaller, hreaped⟩ := hr.collecting h
  refine ⟨hi, ?_⟩
  dsimp only
  rw [hcaller]
  exact hreaped

theorem parentMove (hr : r.Kept plan) (h : ParentMove plan r u) : u.Kept plan := by
  have hcaller := hr.caller
  cases h with
  | feeder taken => exact hr.ofState (hr.state.feederStep taken) (.inl taken.unfinished)
  | drainer taken => exact hr.ofState (hr.state.drainerStep taken) (.inr taken.unfinished)
  | join fed drained at_ feeder drainer =>
    rw [at_] at hcaller
    exact ⟨hr.state, hcaller, fed, drained, feeder, drainer, rfl⟩
  | reap c ending at_ child =>
    rw [at_] at hcaller
    obtain ⟨hreaped, fed, drained, hfeeder, hdrainer, rfl⟩ := hcaller
    exact ⟨hr.state, congrArg (· + 1) hreaped, fed, drained, ending, ⟨hfeeder, child, hdrainer⟩,
      answer_collected ..⟩

theorem childMove (hr : r.Kept plan) (h : ChildMove plan r.state t) :
    Run.Kept plan { r with state := t } := by
  obtain ⟨hfeeder, hdrainer, hsink⟩ := h.frame
  have hcaller := hr.caller
  refine ⟨hr.state.childMove h, ?_⟩
  dsimp only
  cases hc : r.caller with
  | collecting =>
    rw [hc] at hcaller
    exact hcaller
  | reaping c =>
    rw [hc] at hcaller
    unfold Caller.Knows at hcaller ⊢
    rwa [hfeeder, hdrainer, hsink]
  | returned result =>
    rw [hc] at hcaller
    obtain ⟨-, fed, drained, ending, hfinished, -⟩ := hcaller
    have halive := h.alive
    rw [hfinished.child] at halive
    cases halive

theorem move (hr : r.Kept plan) (h : Move plan r u) : u.Kept plan := by
  cases h with
  | parent moved => exact hr.parentMove moved
  | child moved => exact hr.childMove moved
  | interrupt c at_ => exact ⟨hr.state, hr.caller⟩

end Run.Kept

/-- Whatever the order of the moves, the invariant holds. -/
theorem Run.Reached.kept (h : Run.Reached plan r) : r.Kept plan := by
  induction h with
  | begin => exact ⟨kept_initial plan, rfl⟩
  | move _ moved ih => exact ih.move moved

end Runs

end Detached

end LineShell
