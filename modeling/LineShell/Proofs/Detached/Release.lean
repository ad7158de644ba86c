import LineShell.Proofs.Detached.Moves

/-!
# What the parent of a child leaves and returns

Every move of the parent leaves it less work (`ParentMove.work_lt`), and it has to wait only
for a child that neither reads what there is nor writes nor ends (`Run.Kept.parent_moves`).
So once the child has ended the parent returns (`Run.Kept.exists_returned`).

What it returns is the first of these faults: that of the source, that of the sink, that of
the flush.  But the child is reaped before, and where its ending has no status that is
reported instead of anything else (`Run.unnamed_signal_hides_fault`).  Main statement:
`Run.Reached.releases`.
-/

namespace LineShell

/-- Whether both ends of a channel are closed. -/
def Channel.Closed (c : Channel) : Prop := c.readOpen = false ∧ c.writeOpen = false

theorem Child.ignoreBroken_eq_error {r : Except Fault Unit} {f : Fault} :
    ignoreBroken r = .error f ↔ r = .error f ∧ f ≠ .system .brokenPipe := by
  unfold ignoreBroken
  split
  · constructor
    · intro h
      cases h
    · rintro ⟨h, hne⟩
      exact absurd (Except.error.inj h).symm hne
  · next hother =>
    constructor
    · intro h
      refine ⟨h, ?_⟩
      rintro rfl
      exact hother h
    · exact And.left

namespace Detached

section Runs

variable {σ : Type} {plan : Plan σ} {s : State σ} {r u : Run σ}

/-! ## Ends that are given up -/

/-- Whether the child has declared both its channels, or has ended. -/
def Phase.isConnected : Phase σ → Bool
  | .connectInput | .connectOutput => false
  | _ => true

/-- A child that has declared its channels does not write to itself. -/
theorem Phase.writeOpen_of_holdsInput {p : Phase σ} {c : Channel} (h : p.HoldsInput c)
    (hp : p.isConnected) : c.writeOpen = false := by
  cases p with
  | connectInput | connectOutput => cases hp
  | running m => rcases h with rfl | rfl <;> rfl
  | exited ending => exact congrArg Channel.writeOpen h

/-- A child that has declared its channels does not read from itself. -/
theorem Phase.readOpen_of_holdsOutput {p : Phase σ} {c : Channel} (h : p.HoldsOutput c)
    (hp : p.isConnected) : c.readOpen = false := by
  cases p with
  | connectInput | connectOutput => cases hp
  | running m => rcases h with rfl | rfl <;> rfl
  | exited ending => exact congrArg Channel.readOpen h

theorem Feeder.ends_of_isFinished {f : Feeder} (h : f.isFinished) :
    f.ends = Channel.writer.dropped := by
  cases f with
  | finished result => rfl
  | _ => cases h

theorem Drainer.ends_of_isFinished {d : Drainer} (h : d.isFinished) :
    d.ends = Channel.reader.dropped := by
  cases d with
  | finished result => rfl
  | _ => cases h

/-- Behind a feeder that has finished nobody writes to the child. -/
theorem Kept.input_released (hi : Kept plan s) (h : s.feeder.isFinished) :
    s.input.parent.Closed ∧ (s.child.isConnected → ¬ s.input.hasWriter) := by
  have hparent := hi.inputParent.trans (Feeder.ends_of_isFinished h)
  constructor
  · rw [hparent]
    exact ⟨rfl, rfl⟩
  · intro hconnected
    rw [Pipe.hasWriter, hparent, Phase.writeOpen_of_holdsInput hi.inputHeld hconnected]
    exact Bool.false_ne_true

/-- Behind a drainer that has finished nobody reads from the child. -/
theorem Kept.output_released (hi : Kept plan s) (h : s.drainer.isFinished) :
    s.output.parent.Closed ∧ (s.child.isConnected → ¬ s.output.hasReader) := by
  have hparent := hi.outputParent.trans (Drainer.ends_of_isFinished h)
  constructor
  · rw [hparent]
    exact ⟨rfl, rfl⟩
  · intro hconnected
    rw [Pipe.hasReader, hparent, Phase.readOpen_of_holdsOutput hi.outputHeld hconnected]
    exact Bool.false_ne_true

/-! ## The parent does not wait for itself -/

/-- A child that has ended holds no end. -/
theorem Kept.exited_ends (hi : Kept plan s) (h : s.child.isExited) :
    s.input.child.Closed ∧ s.output.child.Closed := by
  have hinput := hi.inputHeld
  have houtput := hi.outputHeld
  cases hc : s.child with
  | exited ending =>
    rw [hc] at hinput houtput
    exact ⟨⟨congrArg Channel.readOpen hinput, congrArg Channel.writeOpen hinput⟩,
      ⟨congrArg Channel.readOpen houtput, congrArg Channel.writeOpen houtput⟩⟩
  | _ =>
    rw [hc] at h
    cases h

/-- What lets the parent go on: the child has ended, or it has read all there is, or it has
written something. -/
def State.Moving (s : State σ) : Prop :=
  s.child.isExited ∨ (s.input.content = [] ∧ s.feeder.isFinished = false) ∨
    (s.output.content ≠ [] ∧ s.drainer.isFinished = false)

theorem Run.Kept.parent_moves (hr : r.Kept plan)
    (hunreturned : ∀ result, r.caller ≠ .returned result) (hmoving : r.state.Moving) :
    ∃ t, ParentMove plan r t := by
  have hi := hr.state
  have hstarted := hi.started
  have hcaller := hr.caller
  cases hd : r.state.drainer with
  | declaring =>
    obtain ⟨t, ht⟩ := hi.drainer_declares hd
    exact ⟨_, .drainer ht⟩
  | writing held =>
    cases hw : (r.state.sink.write held).1 with
    | ok => exact ⟨_, .drainer (.write held hd hw)⟩
    | error f => exact ⟨_, .drainer (.writeFails held f hd hw)⟩
  | closing result => exact ⟨_, .drainer (.close result hd)⟩
  | reading =>
    rw [hd] at hstarted
    have huse : r.state.output.parent.use .read = .ok () := by
      rw [hi.outputParent, hd]
      exact Channel.reader_use
    by_cases hcontent : r.state.output.content = []
    · rcases hmoving with hexited | ⟨hempty, hfeeder⟩ | ⟨hsome, -⟩
      · have hwriter : ¬ r.state.output.hasWriter := by
          rw [Pipe.hasWriter, hi.outputParent, hd, (hi.exited_ends hexited).2.2]
          exact Bool.false_ne_true
        exact ⟨_, .drainer (.readEnd hd huse hcontent hwriter)⟩
      · rcases hi.feeder_cases hstarted.symm with ⟨t, ht⟩ | ⟨held, hwriting⟩ | hfinished
        · exact ⟨_, .feeder ht⟩
        · obtain ⟨t, ht⟩ := hi.feeder_writes hwriting (.inl hempty)
          exact ⟨_, .feeder ht⟩
        · rw [hfeeder] at hfinished
          cases hfinished
      · exact absurd hcontent hsome
    · have hpos := List.length_pos_iff.2 hcontent
      exact ⟨_, .drainer (.read 1 hd huse Nat.one_pos hpos)⟩
  | finished drained =>
    rw [hd] at hstarted
    rcases hi.feeder_cases hstarted.symm with ⟨t, ht⟩ | ⟨held, hwriting⟩ | hfinished
    · exact ⟨_, .feeder ht⟩
    · have hready : r.state.input.content = [] ∨ ¬ r.state.input.hasReader := by
        rcases hmoving with hexited | ⟨hempty, -⟩ | ⟨-, hdrainer⟩
        · right
          rw [Pipe.hasReader, hi.inputParent, hwriting, (hi.exited_ends hexited).1.1]
          exact Bool.false_ne_true
        · exact .inl hempty
        · rw [hd] at hdrainer
          cases hdrainer
      obtain ⟨t, ht⟩ := hi.feeder_writes hwriting hready
      exact ⟨_, .feeder ht⟩
    · cases hf : r.state.feeder with
      | finished fed =>
        cases hc : r.caller with
        | collecting => exact ⟨_, .join fed drained hc hf hd⟩
        | reaping c =>
          have hexited : r.state.child.isExited := by
            rcases hmoving with hexited | ⟨-, hfeeder⟩ | ⟨-, hdrainer⟩
            · exact hexited
            · rw [hf] at hfeeder
              cases hfeeder
            · rw [hd] at hdrainer
              cases hdrainer
          cases hchild : r.state.child with
          | exited ending => exact ⟨_, .reap c ending hc hchild⟩
          | _ =>
            rw [hchild] at hexited
            cases hexited
        | returned result => exact absurd hc (hunreturned result)
      | _ =>
        rw [hf] at hfinished
        cases hfinished

/-! ## The parent comes to an end -/

/-- How much the feeder has still to do with so many bytes unsent. -/
def Feeder.work (unsent : Nat) : Feeder → Nat
  | .undeclared => 3 * unsent + 5
  | .declared => 3 * unsent + 4
  | .reading => 3 * unsent + 3
  | .writing _ => 3 * unsent + 2
  | .closing _ => 1
  | .finished _ => 0

/-- How much the drainer has still to do with so many bytes in the channel. -/
def Drainer.work (content : Nat) : Drainer → Nat
  | .declaring => 3 * content + 4
  | .writing _ => 3 * content + 3
  | .reading => 3 * content + 2
  | .closing _ => 1
  | .finished _ => 0

/-- How much the caller has still to do. -/
def Caller.work : Caller → Nat
  | .collecting => 2
  | .reaping _ => 1
  | .returned _ => 0

/-- How much the parent has still to do if nothing more is written to it. -/
def Run.work (r : Run σ) : Nat :=
  r.state.feeder.work r.state.unsent.length + r.state.drainer.work r.state.output.content.length +
    r.caller.work

theorem Feeder.work_holding_le (n unsent : Nat) :
    (Feeder.holding n).work unsent ≤ 3 * unsent + 3 := by
  unfold Feeder.holding
  split
  · exact Nat.le_refl _
  · exact Nat.le_succ _

/-- Every move of the parent leaves it less to do. -/
theorem ParentMove.work_lt (hi : Kept plan r.state) (h : ParentMove plan r u) :
    u.work < r.work := by
  have hfed := hi.fed
  cases h with
  | feeder taken =>
    unfold Run.work
    cases taken with
    | read n at_ pos le => simp [at_, Feeder.work]
    | readEnd at_ all => simp [at_, Feeder.work, all]
    | write held n at_ use reader pos le room =>
      rw [at_] at hfed
      have hunsent : n ≤ r.state.unsent.length := Nat.le_trans le hfed.2
      have hbefore : (Feeder.writing held).work r.state.unsent.length =
          3 * r.state.unsent.length + 2 := rfl
      have hafter := Feeder.work_holding_le (held - n) (r.state.unsent.length - n)
      simp only [at_, List.length_drop]
      omega
    | breaks held at_ use reader => simp [at_, Feeder.work]
    | close c at_ closed => simp [at_, Feeder.work]
    | giveUp f at_ => simp [at_, Feeder.work]
  | drainer taken =>
    unfold Run.work
    cases taken with
    | declareInput c at_ feeder registered => simp [feeder, Feeder.work]
    | declareOutput c at_ feeder registered =>
      simp [at_, feeder, Feeder.work, Drainer.work]
      omega
    | read n at_ use pos le =>
      simp only [at_, List.length_drop, Drainer.work]
      omega
    | readEnd at_ use empty writer => simp [at_, Drainer.work]
    | write held at_ written => simp [at_, Drainer.work]
    | writeFails held f at_ failed => simp [at_, Drainer.work]
    | close result at_ => simp [at_, Drainer.work]
  | join fed drained at_ feeder drainer =>
    unfold Run.work
    simp [at_, Caller.work]
  | reap c ending at_ child =>
    unfold Run.work
    simp [at_, Caller.work]

/-- Moves of the parent alone. -/
inductive ParentMoves (plan : Plan σ) : Run σ → Run σ → Prop where
  | none (r : Run σ) : ParentMoves plan r r
  | more {r t u : Run σ} (moved : ParentMove plan r t) (rest : ParentMoves plan t u) :
    ParentMoves plan r u

theorem ParentMove.child_eq (h : ParentMove plan r u) : u.state.child = r.state.child := by
  cases h with
  | feeder taken => cases taken <;> rfl
  | drainer taken => cases taken <;> rfl
  | join => rfl
  | reap => rfl

/-- Behind a child that has ended the parent returns. -/
theorem Run.Kept.exists_returned (hr : r.Kept plan) (hexited : r.state.child.isExited) :
    ∃ u result, ParentMoves plan r u ∧ u.caller = .returned result := by
  -- By induction on the work that the parent has still to do.
  induction hwork : r.work using Nat.strongRecOn generalizing r with
  | ind n ih =>
    by_cases hreturned : ∃ result, r.caller = .returned result
    · obtain ⟨result, hcaller⟩ := hreturned
      exact ⟨r, result, .none r, hcaller⟩
    · have hunreturned : ∀ result, r.caller ≠ .returned result := by
        intro result hcaller
        exact hreturned ⟨result, hcaller⟩
      obtain ⟨t, ht⟩ := hr.parent_moves hunreturned (.inl hexited)
      have hless : t.work < n := hwork ▸ ht.work_lt hr.state
      obtain ⟨u, result, hmoves, hcaller⟩ :=
        ih t.work hless (hr.parentMove ht) (ht.child_eq ▸ hexited) rfl
      exact ⟨u, result, .more ht hmoves, hcaller⟩

/-! ## What the parent returns -/

/-- The feeder has put all bytes of the source into the channel and met its fault.  A
broken pipe is always taken for that of the child. -/
def State.MetFault (plan : Plan σ) (s : State σ) (f : Fault) : Prop :=
  s.unsent = [] ∧ plan.source.fault = some f ∧ f ≠ .system .brokenPipe

/-- What the parent leaves and returns behind a child that has ended so. -/
structure Released (plan : Plan σ) (s : State σ) (ending : Ending)
    (result : Except Failure Status) : Prop where
  child : s.child = .exited ending
  input : s.input.parent.Closed
  output : s.output.parent.Closed
  unnamed : ∀ f, ending.status = .error f → result = .error (.system "waitpid" f)
  source : ∀ status, ending.status = .ok status → ∀ f, s.MetFault plan f →
    result = .error (.stream f)
  sink : ∀ status, ending.status = .ok status → (∀ f, ¬ s.MetFault plan f) →
    ∀ f, (plan.sink.write s.produced).1 = .error f → result = .error (.stream f)
  flush : ∀ status, ending.status = .ok status → (∀ f, ¬ s.MetFault plan f) →
    (plan.sink.write s.produced).1 = .ok () →
    ∀ f, (plan.sink.write s.produced).2.flush = .error f → result = .error (.stream f)
  status : ∀ status, ending.status = .ok status → (∀ f, ¬ s.MetFault plan f) →
    (plan.sink.write s.produced).1 = .ok () → (plan.sink.write s.produced).2.flush = .ok () →
    result = .ok status

/-- What the feeder reports is the fault that it has met. -/
theorem Kept.fed_eq (hi : Kept plan s) {fed : Except Fault Unit} (hf : s.feeder = .finished fed) :
    (∀ f, s.MetFault plan f → fed = .error f) ∧ ((∀ f, ¬ s.MetFault plan f) → fed = .ok ()) := by
  have hfed := hi.fed
  rw [hf] at hfed
  constructor
  · rintro f ⟨hall, hfault, hne⟩
    rcases hfed with ⟨-, hfed⟩ | ⟨hsome, -⟩
    · rw [hfed, Child.ignoreBroken_eq_error, Source.atEnd, hfault]
      exact ⟨rfl, hne⟩
    · exact absurd hall hsome
  · intro hunmet
    rcases hfed with ⟨hall, hfed⟩ | ⟨-, -, hok⟩
    · cases fed with
      | ok => rfl
      | error f =>
        obtain ⟨hend, hne⟩ := Child.ignoreBroken_eq_error.1 hfed.symm
        have hfault : plan.source.fault = some f := by
          unfold Source.atEnd at hend
          split at hend
          · cases hend
          · next f' hf' => rw [hf', Except.error.inj hend]
        exact absurd ⟨hall, hfault, hne⟩ (hunmet f)
    · exact hok

theorem Run.Kept.released (hr : r.Kept plan) {result : Except Failure Status}
    (h : r.caller = .returned result) : ∃ ending, Released plan r.state ending result := by
  have hi := hr.state
  have hcaller := hr.caller
  rw [h] at hcaller
  obtain ⟨-, fed, drained, ending, hfinished, hresult⟩ := hcaller
  obtain ⟨hmet, hunmet⟩ := hi.fed_eq hfinished.feeder
  obtain ⟨hdrained, halike⟩ := hi.finished_output hfinished.drainer
  have hinput := hi.input_released (by rw [hfinished.feeder]; rfl)
  have houtput := hi.output_released (by rw [hfinished.drainer]; rfl)
  rw [outcome, hdrained, halike.flush] at hresult
  refine ⟨ending, hfinished.child, hinput.1, houtput.1, ?_, ?_, ?_, ?_, ?_⟩
  · intro f hstatus
    rw [hresult, hstatus]
    rfl
  · intro status hstatus f hf
    rw [hresult, hstatus, hmet f hf]
    rfl
  · intro status hstatus hno f hf
    rw [hresult, hstatus, hunmet hno, hf]
    rfl
  · intro status hstatus hno hok f hf
    rw [hresult, hstatus, hunmet hno, hok, hf]
    rfl
  · intro status hstatus hno hok hflush
    rw [hresult, hstatus, hunmet hno, hok, hflush]
    rfl

/-- A broken pipe that is reported is one of the sink. -/
theorem Released.of_broken {ending : Ending} {result : Except Failure Status}
    (h : Released plan s ending result)
    (hbroken : result = .error (.stream (.system .brokenPipe))) :
    (plan.sink.write s.produced).1 = .error (.system .brokenPipe) ∨
      (plan.sink.write s.produced).2.flush = .error (.system .brokenPipe) := by
  cases hstatus : ending.status with
  | error f => cases (h.unnamed f hstatus).symm.trans hbroken
  | ok status =>
    by_cases hmet : ∃ f, s.MetFault plan f
    · obtain ⟨f, hf⟩ := hmet
      cases (h.source status hstatus f hf).symm.trans hbroken
      exact absurd rfl hf.2.2
    · have hno : ∀ f, ¬ s.MetFault plan f := fun f hf => hmet ⟨f, hf⟩
      cases hwrite : (plan.sink.write s.produced).1 with
      | error f =>
        cases (h.sink status hstatus hno f hwrite).symm.trans hbroken
        exact .inl rfl
      | ok =>
        cases hflush : (plan.sink.write s.produced).2.flush with
        | error f =>
          cases (h.flush status hstatus hno hwrite f hflush).symm.trans hbroken
          exact .inr rfl
        | ok => cases (h.status status hstatus hno hwrite hflush).symm.trans hbroken

/-- **The parent gives up everything and returns the first fault**, whatever its child
does and in whatever order the moves come.  Once a thread has finished, the parent holds
no end of its channel, so that a child that has declared its own ends meets the end of its
input, or a broken output.  The parent can go on wherever the child has ended, has read
all there is or has written something; it does so only so often before the child writes
again, and behind a child that has ended it returns.  It has reaped the child once if it
has returned, and not at all before.  Then both channels are closed on its side, and it
returns the fault of the source if the feeder has met one, or else that of the sink, or
else that of the flush, or else the status; but ahead of all these, that the ending of the
child has no status, if it has none.  A broken pipe between the feeder and the child is
never returned. -/
theorem Run.Reached.releases (h : Run.Reached plan r) :
    (r.state.feeder.isFinished →
      r.state.input.parent.Closed ∧ (r.state.child.isConnected → ¬ r.state.input.hasWriter)) ∧
    (r.state.drainer.isFinished →
      r.state.output.parent.Closed ∧ (r.state.child.isConnected → ¬ r.state.output.hasReader)) ∧
    ((∀ result, r.caller ≠ .returned result) → r.state.Moving → ∃ u, ParentMove plan r u) ∧
    (∀ u, ParentMove plan r u → u.work < r.work) ∧
    (r.state.child.isExited → ∃ u result, ParentMoves plan r u ∧ u.caller = .returned result) ∧
    (r.reaped = 1 ∧ (∃ result, r.caller = .returned result) ∨
      r.reaped = 0 ∧ ∀ result, r.caller ≠ .returned result) ∧
    (∀ result, r.caller = .returned result → ∃ ending, Released plan r.state ending result ∧
      (result = .error (.stream (.system .brokenPipe)) →
        (plan.sink.write r.state.produced).1 = .error (.system .brokenPipe) ∨
          (plan.sink.write r.state.produced).2.flush = .error (.system .brokenPipe))) := by
  have hr := h.kept
  refine ⟨hr.state.input_released, hr.state.output_released, hr.parent_moves,
    fun u hmove => hmove.work_lt hr.state, hr.exists_returned, ?_, ?_⟩
  · have hcaller := hr.caller
    cases hc : r.caller with
    | collecting =>
      rw [hc] at hcaller
      exact .inr ⟨hcaller, fun _ => Caller.noConfusion⟩
    | reaping c =>
      rw [hc] at hcaller
      exact .inr ⟨hcaller.1, fun _ => Caller.noConfusion⟩
    | returned result =>
      rw [hc] at hcaller
      exact .inl ⟨hcaller.1, result, rfl⟩
  · intro result hreturned
    obtain ⟨ending, hreleased⟩ := hr.released hreturned
    exact ⟨ending, hreleased, hreleased.of_broken⟩

/-- A child that ends so without having read anything of a source that fails. -/
def Plan.failing (ending : Ending) : Plan Unit where
  source := ⟨[1], some (.stream "source failed")⟩
  sink := .memory
  inputRoom := 1
  outputRoom := 1
  inputRoom_pos := Nat.one_pos
  outputRoom_pos := Nat.one_pos
  program := fun () => .exit ending
  start := ()

/-- The feeder meets the fault, and the waiting is interrupted once. -/
theorem reached_failing (ending : Ending) :
    ∃ r : Run Unit, Run.Reached (Plan.failing ending) r ∧
      r.state.feeder = .finished (.error (.stream "source failed")) ∧ r.interruptions = 1 ∧
      r.caller = .returned (answer ending (.error (.stream "source failed"))) := by
  have h := (Run.Reached.begin : Run.Reached (Plan.failing ending) _)
    |>.move (.parent (.drainer (.declareInput .writer rfl rfl rfl)))
    |>.move (.parent (.drainer (.declareOutput .reader rfl rfl rfl)))
    |>.move (.child (.step (.connectInput .reader rfl rfl rfl)))
    |>.move (.child (.step (.connectOutput .writer rfl rfl rfl)))
    |>.move (.parent (.feeder (.read 1 rfl Nat.one_pos (Nat.le_refl 1))))
    |>.move (.parent (.feeder (.write 1 1 rfl rfl rfl Nat.one_pos (Nat.le_refl 1) (Nat.le_refl 1))))
    |>.move (.parent (.feeder (.readEnd rfl rfl)))
    |>.move (.parent (.feeder (.giveUp _ rfl)))
    |>.move (.child (.step (.exit () _ rfl rfl)))
    |>.move (.parent (.drainer (.readEnd rfl rfl rfl Bool.false_ne_true)))
    |>.move (.parent (.drainer (.close _ rfl)))
    |>.move (.parent (.join _ _ rfl rfl rfl))
    |>.move (.interrupt _ rfl)
    |>.move (.parent (.reap _ _ rfl rfl))
  exact ⟨_, h, rfl, rfl, rfl⟩

/-- A source that fails, behind a child that ends with a status of its own. -/
theorem Run.releases_failing :
    ∃ r : Run Unit, Run.Reached (Plan.failing (.exited 3)) r ∧ r.reaped = 1 ∧
      r.state.input.parent.Closed ∧ r.state.output.parent.Closed ∧
      r.caller = .returned (.error (.stream (.stream "source failed"))) := by
  obtain ⟨r, h, hfeeder, -, hcaller⟩ := reached_failing (.exited 3)
  obtain ⟨hinput, -, -, -, -, hreaped, hreturned⟩ := h.releases
  obtain ⟨ending, hreleased, -⟩ := hreturned _ hcaller
  have hclosed := (hinput (by rw [hfeeder]; rfl)).1
  have honce : r.reaped = 1 := by
    rcases hreaped with ⟨hone, -⟩ | ⟨-, hno⟩
    · exact hone
    · exact absurd hcaller (hno _)
  exact ⟨r, h, honce, hclosed, hreleased.output, hcaller⟩

/-- A child that is killed by a signal above those that the shell can name: the feeder meets
the fault of the source, and it is not reported.  So it is in every order of moves that
ends so, and with `Child.run`. -/
theorem Run.unnamed_signal_hides_fault :
    (∃ r : Run Unit, Run.Reached (Plan.failing (.killed 34)) r ∧
      r.state.feeder = .finished (.error (.stream "source failed")) ∧
      r.caller = .returned (.error (.system "waitpid" .invalidArgument))) ∧
    (let host : Host := fun _ _ _ _ => .ok ⟨0, [], [], .killed 34, ⟨.directory []⟩⟩
     let words := ["sh", "-c", "kill -34 $$"]
     let s : Surroundings := ⟨⟨.empty, [], ⟨.directory []⟩, [], .empty⟩,
       .buffered ⟨[], some (.stream "source failed")⟩, .memory⟩
     Child.feed s.source 0 = .error (.stream "source failed") ∧
     (Child.run host (.program ⟨"/bin/sh", words, []⟩) (.ofWords words) s).1 =
       .error (.system "waitpid" .invalidArgument)) := by
  obtain ⟨r, h, hfeeder, -, hcaller⟩ := reached_failing (.killed 34)
  exact ⟨⟨r, h, hfeeder, hcaller⟩, rfl, rfl⟩

end Runs

end Detached

end LineShell
